import EdgeAgent.Proofs.Json.Field
import EdgeAgent.Resource.Catalog
import EdgeAgent.Resource.EdgeIngress
import Mathlib.Data.List.Forall2
import Mathlib.Data.List.Nodup

/-! The fingerprint in a status. It is one text field of the encoded status; so after a patch was
merged into the status it is the one of the patch, or the one from before when the patch gives
none. -/

namespace EdgeAgent

namespace Kind

variable {Spec Status : Type} {kind : Kind Spec Status}

/-- The name of the field that holds the fingerprint. -/
def hashField : String := "specHash"

/-- The fingerprint in an encoded status, or the empty text. -/
def hashIn (j : Json) : String :=
  ((j.get? hashField).bind Json.str?).getD ""

/-- The fingerprint that a status records, if there is a status and it records one. -/
def hash? (kind : Kind Spec Status) (status : Option Status) : Option String :=
  status.bind fun s => if kind.specHash s = "" then none else some (kind.specHash s)

/-- A stored JSON value stands for a status: it is an object that reads as the status, or null for
none. -/
def Stands (kind : Kind Spec Status) (j : Json) : Option Status → Prop
  | none => j = .null
  | some status => ∃ decode fields, kind.decodeStatus? = some decode ∧ j = .obj fields ∧
      Decode.value decode j = .ok status

/-- The statuses of a kind have their fingerprint in its field, whether they are read or written. -/
structure Recording (kind : Kind Spec Status) : Prop where
  decoded : ∀ decode fields status, kind.decodeStatus? = some decode →
    Decode.value decode (.obj fields) = .ok status → kind.specHash status = hashIn (.obj fields)
  encoded : ∀ status, kind.specHash status ≠ "" →
    ∃ fields, (kind.encodeStatus status).sorted = .obj fields ∧ (fields.map (·.1)).Nodup ∧
      (hashField, .str (kind.specHash status)) ∈ fields

/-! ### After a patch -/

theorem Stands.merge {j : Json} {after : Option Status} {patch : List (String × Json)}
    (hrecording : kind.Recording) (h : kind.Stands (j.merge (.obj patch)) after) :
    ∃ status, after = some status ∧
      kind.specHash status = hashIn (.obj (Json.mergeFields j.fieldsOf patch)) := by
  rw [Json.merge] at h
  cases after with
  | none => cases h
  | some status =>
      obtain ⟨decode, fields, hkind, hfields, hdecode⟩ := h
      exact ⟨status, rfl, hrecording.decoded decode _ status hkind hdecode⟩

/-- A written status leaves its fingerprint. -/
theorem hash_of_stands_merge_status {j : Json} {after : Option Status} {status : Status}
    (hrecording : kind.Recording) (hhash : kind.specHash status ≠ "")
    (h : kind.Stands (j.merge (kind.encodeStatus status).sorted) after) :
    kind.hash? after = some (kind.specHash status) := by
  obtain ⟨patch, hpatch, hnodup, hmem⟩ := hrecording.encoded status hhash
  rw [hpatch] at h
  obtain ⟨merged, rfl, hmerged⟩ := Stands.merge hrecording h
  rw [hashIn, Json.get?_mergeFields_str _ hnodup hmem] at hmerged
  simp only [Option.bind_some, Json.str?, Option.getD_some] at hmerged
  rw [hash?, Option.bind_some, hmerged, if_neg hhash]

/-- A patch without a fingerprint leaves the recorded one. -/
theorem hash_of_stands_merge {j : Json} {before after : Option Status}
    {patch : List (String × Json)} (hrecording : kind.Recording)
    (hpatch : hashField ∉ patch.map (·.1)) (hbefore : kind.Stands j before)
    (hafter : kind.Stands (j.merge (.obj patch)) after) : kind.hash? after = kind.hash? before := by
  obtain ⟨merged, rfl, hmerged⟩ := Stands.merge hrecording hafter
  rw [hashIn, Json.get?_mergeFields_of_not_mem _ hpatch] at hmerged
  cases before with
  | none =>
      cases hbefore
      have hempty : kind.specHash merged = "" := hmerged
      rw [hash?, Option.bind_some, if_pos hempty]
      rfl
  | some status =>
      obtain ⟨decode, fields, hkind, rfl, hdecode⟩ := hbefore
      rw [hash?, Option.bind_some, hmerged, hash?, Option.bind_some,
        hrecording.decoded decode fields status hkind hdecode]
      rfl

end Kind

/-! ### The two kinds -/

namespace Encode

variable {name : String} {names : List String} {fields : List FieldOf}

/-- A field that is there has a certain name. -/
def Named (name : String) (f : FieldOf) : Prop :=
  ∀ e, f = some e → e.1 = name

theorem named_present {α : Type} {encode : α → Json} {x : Option α} :
    Named name (present name encode x) := by
  intro e he
  obtain ⟨_, -, rfl⟩ := Option.map_eq_some_iff.1 he
  rfl

theorem named_text {s : String} : Named name (text name s) := by
  intro e he
  rw [text] at he
  split at he
  · cases he
  · cases he
    rfl

theorem named_list {α : Type} {encode : α → Json} {xs : List α} :
    Named name (list name encode xs) := by
  intro e he
  rw [list] at he
  split at he
  · cases he
  · cases he
    rfl

/-- The fields of an encoded object, sorted. -/
def sortedObject (fields : List FieldOf) : List (String × Json) :=
  (Dict.ofList (Json.sortedFields (fields.filterMap id))).entries

theorem nodup_sortedObject (fields : List FieldOf) : ((sortedObject fields).map (·.1)).Nodup :=
  Dict.nodup_names _

theorem names_sublist (hnamed : List.Forall₂ Named names fields) :
    ((fields.filterMap id).map (·.1)).Sublist names := by
  induction hnamed with
  | nil => exact .slnil
  | @cons name f names fields hname _ ih =>
      cases f with
      | none => exact ih.cons name
      | some e =>
          obtain rfl := hname e rfl
          exact ih.cons_cons e.1

/-- Of fields with names of their own, each that is there stands in the object. -/
theorem mem_sortedObject (hnamed : List.Forall₂ Named names fields) (hnodup : names.Nodup)
    {value : Json} (hmem : some (name, value) ∈ fields) :
    (name, value.sorted) ∈ sortedObject fields := by
  have hthere : (name, value) ∈ fields.filterMap id := List.mem_filterMap.2 ⟨_, hmem, rfl⟩
  apply Json.mem_entries_sortedFields hthere
  intro e he hname
  exact List.inj_on_of_nodup_map ((names_sublist hnamed).nodup hnodup) he hthere hname

theorem not_mem_sortedObject (hother : ∀ f ∈ fields, ∀ e, f = some e → e.1 ≠ name) :
    name ∉ (sortedObject fields).map (·.1) := by
  apply Json.not_mem_entries_sortedFields
  intro e he
  obtain ⟨f, hf, hid⟩ := List.mem_filterMap.1 he
  exact hother f hf e hid

end Encode

namespace CatalogStatus

/-- The names of the fields of an encoded status. -/
def fieldNames : List String :=
  ["version", "syncedAt", "domains", "urls", "specHash"]

def fields (s : CatalogStatus) : List FieldOf :=
  [Encode.text "version" s.version,
    Encode.present "syncedAt" (fun t => .str t.text) s.syncedAt,
    Encode.list "domains" .str s.domains,
    Encode.list "urls" .str s.urls,
    Encode.text "specHash" s.specHash]

theorem named_fields (s : CatalogStatus) : List.Forall₂ Encode.Named fieldNames s.fields :=
  .cons Encode.named_text <| .cons Encode.named_present <| .cons Encode.named_list <|
    .cons Encode.named_list <| .cons Encode.named_text .nil

theorem sorted_toJson (s : CatalogStatus) : s.toJson.sorted = .obj (Encode.sortedObject s.fields) := rfl

theorem mem_sorted {s : CatalogStatus} {name : String} {value : Json}
    (hmem : some (name, value) ∈ s.fields) :
    (name, value.sorted) ∈ Encode.sortedObject s.fields :=
  Encode.mem_sortedObject s.named_fields (by decide) hmem

end CatalogStatus

namespace EdgeIngressStatus

def fieldNames : List String :=
  ["version", "syncedAt", "domain", "customDomains", "url", "specHash", "connection"]

def fields (s : EdgeIngressStatus) : List FieldOf :=
  [Encode.text "version" s.version,
    Encode.present "syncedAt" (fun t => .str t.text) s.syncedAt,
    Encode.text "domain" s.domain,
    Encode.list "customDomains" .str s.customDomains,
    Encode.text "url" s.url,
    Encode.text "specHash" s.specHash,
    Encode.present "connection" (fun c => .str c.word) s.connection]

theorem named_fields (s : EdgeIngressStatus) : List.Forall₂ Encode.Named fieldNames s.fields :=
  .cons Encode.named_text <| .cons Encode.named_present <| .cons Encode.named_text <|
    .cons Encode.named_list <| .cons Encode.named_text <| .cons Encode.named_text <|
    .cons Encode.named_present .nil

theorem sorted_toJson (s : EdgeIngressStatus) : s.toJson.sorted = .obj (Encode.sortedObject s.fields) := rfl

theorem mem_sorted {s : EdgeIngressStatus} {name : String} {value : Json}
    (hmem : some (name, value) ∈ s.fields) :
    (name, value.sorted) ∈ Encode.sortedObject s.fields :=
  Encode.mem_sortedObject s.named_fields (by decide) hmem

end EdgeIngressStatus

theorem Catalog.recording : Catalog.kind.Recording where
  decoded := by
    intro decode fields status hdecode hvalue
    cases hdecode
    refine Decode.text_of_record rfl (fun _ _ => rfl) ?_ rfl hvalue
    simp only [List.forall_mem_cons]
    refine ⟨?_, ?_, ?_, ?_, fun h => absurd rfl h, by simp⟩
    all_goals exact fun _ => Decode.Field.keeps_field fun _ _ => rfl
  encoded := by
    intro status hstatus
    have hhash : Encode.text Kind.hashField status.specHash =
        some (Kind.hashField, .str status.specHash) := if_neg hstatus
    have hmem : some (Kind.hashField, Json.str status.specHash) ∈ status.fields := by
      rw [← hhash]
      simp [CatalogStatus.fields, Kind.hashField]
    exact ⟨_, status.sorted_toJson, Encode.nodup_sortedObject _, CatalogStatus.mem_sorted hmem⟩

theorem EdgeIngress.recording : EdgeIngress.kind.Recording where
  decoded := by
    intro decode fields status hdecode hvalue
    cases hdecode
    refine Decode.text_of_record rfl (fun _ _ => rfl) ?_ rfl hvalue
    simp only [List.forall_mem_cons]
    refine ⟨?_, ?_, ?_, ?_, ?_, fun h => absurd rfl h, ?_, by simp⟩
    all_goals exact fun _ => Decode.Field.keeps_field fun _ _ => rfl
  encoded := by
    intro status hstatus
    have hhash : Encode.text Kind.hashField status.specHash =
        some (Kind.hashField, .str status.specHash) := if_neg hstatus
    have hmem : some (Kind.hashField, Json.str status.specHash) ∈ status.fields := by
      rw [← hhash]
      simp [EdgeIngressStatus.fields, Kind.hashField]
    exact ⟨_, status.sorted_toJson, Encode.nodup_sortedObject _, EdgeIngressStatus.mem_sorted hmem⟩

end EdgeAgent
