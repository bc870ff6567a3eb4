import EdgeAgent.Cluster.Child
import EdgeAgent.Proofs.Resource.Fingerprint
import EdgeAgent.Proofs.Resource.Status
import EdgeAgent.Proofs.Time.Timestamp

/-! What becomes of a stored status when another one is merged into it. Each part of a status has a
field of its own in the encoded one. What the other one leaves empty is not in its encoded form, and
so stays as it was stored; everything else is as the other one has it. A patch that gives the
connection leaves everything else. -/

namespace EdgeAgent

/-! ### Encoded parts -/

namespace Encode

variable {name : String} {names : List String} {fields : List FieldOf}

/-- A field that is not there is not in the object, since no other field has its name. -/
theorem not_mem_of_zip (hnamed : List.Forall₂ Named names fields) (hnodup : names.Nodup)
    (hmem : (name, none) ∈ names.zip fields) : name ∉ (sortedObject fields).map (·.1) := by
  apply not_mem_sortedObject
  induction hnamed with
  | nil => cases hmem
  | @cons other g names fields hg hnamed ih =>
      rw [List.nodup_cons] at hnodup
      rw [List.zip_cons_cons, List.mem_cons] at hmem
      rw [List.forall_mem_cons]
      rcases hmem with heq | hmem
      · cases heq
        refine ⟨fun _ he => (nomatch he), fun h hh e he => ?_⟩
        -- The other fields have names of their own, none of which is this one.
        obtain ⟨i, hi, rfl⟩ := List.getElem_of_mem hh
        have hname := (List.forall₂_iff_get.1 hnamed).2 i (by rw [hnamed.length_eq]; exact hi) hi e he
        rw [hname]
        rintro rfl
        exact hnodup.1 (List.getElem_mem _)
      · refine ⟨fun e he => ?_, ih hnodup.2 hmem⟩
        rw [hg e he]
        rintro rfl
        exact hnodup.1 (List.of_mem_zip hmem).1

theorem sorted_strs (xs : List String) :
    (Json.arr (xs.map .str)).sorted = .arr (xs.map .str) := by
  have hitems : ∀ xs : List String, Json.sortedItems (xs.map .str) = xs.map .str := by
    intro xs
    induction xs with
    | nil => rfl
    | cons x xs ih =>
        have hstr : (Json.str x).sorted = .str x := rfl
        rw [List.map_cons, Json.sortedItems, ih, hstr]
  rw [Json.sorted, hitems]

/-- A value that replaces whatever was stored, and is then read as a part of a status. -/
structure Whole {β : Type} (read : Decoder β) (part : β) (value : Json) : Prop where
  ne_null : value.sorted ≠ .null
  merge_eq : ∀ stored, Json.merge stored value.sorted = value.sorted
  read_eq : read (Doc.ofJson value.sorted) = .ok part

theorem whole_str {β : Type} {read : Decoder β} {part : β} {s : String}
    (h : read (.str (some s)) = .ok part) : Whole read part (.str s) where
  ne_null := fun h => nomatch h
  merge_eq := fun _ => by rw [Json.sorted, Json.merge] <;> simp
  read_eq := h

theorem whole_strs (xs : List String) :
    Whole (Decode.list Decode.string) xs (.arr (xs.map .str)) where
  ne_null := fun h => nomatch h
  merge_eq := fun _ => by rw [sorted_strs, Json.merge]; simp
  read_eq := by
    rw [sorted_strs]
    exact Decode.list_map (fun _ => rfl) xs

end Encode

namespace Kind

variable {Spec Status β : Type} {kind : Kind Spec Status} {blank : Status} {name : String}
  {read : Decoder β} {part : Status → β} {j : Json} {status before after : Option Status}
  {patch : List (String × Json)} {names : List String} {fields : List FieldOf}

/-- A part of the statuses of a kind has a field of its own: it is what is read under the name of the
field, and that of the blank status when there is nothing. -/
def Reads (kind : Kind Spec Status) (blank : Status) (name : String) (read : Decoder β)
    (part : Status → β) : Prop :=
  ∀ decode fields status, kind.decodeStatus? = some decode →
    Decode.value decode (.obj fields) = .ok status →
    match (Json.obj fields).get? name with
    | none => part status = part blank
    | some v => read (Doc.ofJson v) = .ok (part status)

theorem Reads.of_stands (h : kind.Reads blank name read part) (hj : kind.Stands j status) :
    match j.get? name with
    | none => part (status.getD blank) = part blank
    | some v => read (Doc.ofJson v) = .ok (part (status.getD blank)) := by
  cases status with
  | none =>
      cases hj
      rfl
  | some status =>
      obtain ⟨decode, fields, hkind, rfl, hdecode⟩ := hj
      exact h decode fields status hkind hdecode

theorem get?_fieldsOf (j : Json) (name : String) :
    (Json.obj j.fieldsOf).get? name = j.get? name := by
  cases j <;> rfl

/-- A patch that does not name the field leaves the part. -/
theorem Reads.kept (h : kind.Reads blank name read part) (hpatch : name ∉ patch.map (·.1))
    (hbefore : kind.Stands j before) (hafter : kind.Stands (j.merge (.obj patch)) after) :
    part (after.getD blank) = part (before.getD blank) := by
  have hread := h.of_stands hbefore
  have hmerged := h.of_stands hafter
  rw [Json.merge, Json.get?_mergeFields_of_not_mem _ hpatch, get?_fieldsOf] at hmerged
  cases hget : j.get? name with
  | none =>
      rw [hget] at hread hmerged
      exact hmerged.trans hread.symm
  | some v =>
      rw [hget] at hread hmerged
      exact Except.ok.inj (hmerged.symm.trans hread)

/-- A patch that names the field gives the part. -/
theorem Reads.given (h : kind.Reads blank name read part) {value : Json} {x : β}
    (hmem : (name, value.sorted) ∈ patch) (hnodup : (patch.map (·.1)).Nodup)
    (hwhole : Encode.Whole read x value) (hafter : kind.Stands (j.merge (.obj patch)) after) :
    part (after.getD blank) = x := by
  have hmerged := h.of_stands hafter
  rw [Json.merge, Json.get?_mergeFields_of_mem _ hwhole.ne_null hwhole.merge_eq hnodup hmem]
    at hmerged
  exact Except.ok.inj (hmerged.symm.trans hwhole.read_eq)

/-- A part of the statuses of a kind has a field of its own if no other field of the record that they
are read as is put into it. -/
theorem reads_of_record {record : List (Decode.Field Status)} {need : Decode.Need}
    {put : β → Status → Status} (hkind : kind.decodeStatus? = some (Decode.record blank record))
    (hfind : record.find? (fun f => f.name = name) = some (Decode.field name need read put))
    (hput : ∀ x status, part (put x status) = x)
    (hother : ∀ f ∈ record, f.name ≠ name → f.Keeps part) : kind.Reads blank name read part := by
  intro decode fields status hdecode hvalue
  rw [hkind] at hdecode
  cases hdecode
  exact Decode.part_of_record hfind hput hother hvalue

/-- A part of a status after a patch of encoded fields was merged into it, by whether its field is
among them. -/
theorem Reads.merged (h : kind.Reads blank name read part)
    (hnamed : List.Forall₂ Encode.Named names fields) (hnodup : names.Nodup)
    (hbefore : kind.Stands j before)
    (hafter : kind.Stands (j.merge (.obj (Encode.sortedObject fields))) after) :
    ((name, none) ∈ names.zip fields → part (after.getD blank) = part (before.getD blank)) ∧
    ∀ value x, (name, some (name, value)) ∈ names.zip fields → Encode.Whole read x value →
      part (after.getD blank) = x := by
  refine ⟨fun hnone => h.kept (Encode.not_mem_of_zip hnamed hnodup hnone) hbefore hafter, ?_⟩
  intro value x hmem hwhole
  exact h.given (Encode.mem_sortedObject hnamed hnodup (List.of_mem_zip hmem).2)
    (Encode.nodup_sortedObject fields) hwhole hafter

theorem Reads.merged_text {part : Status → String} (h : kind.Reads blank name Decode.string part)
    (hnamed : List.Forall₂ Encode.Named names fields) (hnodup : names.Nodup)
    (hbefore : kind.Stands j before)
    (hafter : kind.Stands (j.merge (.obj (Encode.sortedObject fields))) after) {s : String}
    (hmem : (name, Encode.text name s) ∈ names.zip fields) :
    part (after.getD blank) = if s = "" then part (before.getD blank) else s := by
  obtain ⟨hkept, hgiven⟩ := h.merged hnamed hnodup hbefore hafter
  by_cases hs : s = ""
  · rw [Encode.text, if_pos hs] at hmem
    rw [if_pos hs, hkept hmem]
  · rw [Encode.text, if_neg hs] at hmem
    rw [if_neg hs, hgiven _ _ hmem (Encode.whole_str rfl)]

theorem Reads.merged_list {part : Status → List String}
    (h : kind.Reads blank name (Decode.list Decode.string) part)
    (hnamed : List.Forall₂ Encode.Named names fields) (hnodup : names.Nodup)
    (hbefore : kind.Stands j before)
    (hafter : kind.Stands (j.merge (.obj (Encode.sortedObject fields))) after) {xs : List String}
    (hmem : (name, Encode.list name .str xs) ∈ names.zip fields) :
    part (after.getD blank) = if xs = [] then part (before.getD blank) else xs := by
  obtain ⟨hkept, hgiven⟩ := h.merged hnamed hnodup hbefore hafter
  by_cases hxs : xs = []
  · rw [Encode.list, if_pos (List.isEmpty_iff.2 hxs)] at hmem
    rw [if_pos hxs, hkept hmem]
  · rw [Encode.list, if_neg (mt List.isEmpty_iff.1 hxs)] at hmem
    rw [if_neg hxs, hgiven _ _ hmem (Encode.whole_strs xs)]

theorem Reads.merged_present {γ : Type} {part : Status → Option γ} {read : Decoder (Option γ)}
    (h : kind.Reads blank name read part) {encode : γ → Json}
    (hencode : ∀ x, Encode.Whole read (some x) (encode x))
    (hnamed : List.Forall₂ Encode.Named names fields) (hnodup : names.Nodup)
    (hbefore : kind.Stands j before)
    (hafter : kind.Stands (j.merge (.obj (Encode.sortedObject fields))) after) {x : Option γ}
    (hmem : (name, Encode.present name encode x) ∈ names.zip fields) :
    part (after.getD blank) = x.or (part (before.getD blank)) := by
  obtain ⟨hkept, hgiven⟩ := h.merged hnamed hnodup hbefore hafter
  cases x with
  | none => exact hkept hmem
  | some x => exact hgiven _ _ hmem (hencode x)

end Kind

/-! ### The two kinds -/

theorem Timestamp.whole_text (t : Timestamp) :
    Encode.Whole (Decode.optional (Decode.readable ofText?)) (some t) (.str t.text) := by
  refine Encode.whole_str ?_
  change ((Decode.readable ofText? (.str (some t.text))).map some) = _
  rw [Decode.readable]
  simp only [Decode.string, bind, Except.bind, ofText?_text]
  rfl

theorem Connection.whole_word (c : Connection) :
    Encode.Whole (Decode.optional Connection.decode) (some c) (.str c.word) := by
  refine Encode.whole_str ?_
  cases c <;> rfl

namespace EdgeIngressStatus

/-- A status with what it leaves empty as in another one. -/
def laidOver (new old : EdgeIngressStatus) : EdgeIngressStatus where
  version := if new.version = "" then old.version else new.version
  syncedAt := new.syncedAt.or old.syncedAt
  domain := if new.domain = "" then old.domain else new.domain
  customDomains := if new.customDomains = [] then old.customDomains else new.customDomains
  url := if new.url = "" then old.url else new.url
  specHash := if new.specHash = "" then old.specHash else new.specHash
  connection := new.connection.or old.connection

/-- A status without a connection does not name it. -/
theorem connection_not_mem (s : EdgeIngressStatus) (h : s.connection = none) :
    "connection" ∉ (Encode.sortedObject s.fields).map (·.1) := by
  refine Encode.not_mem_of_zip s.named_fields (by decide) ?_
  rw [fields, h]
  exact .tail _ (.tail _ (.tail _ (.tail _ (.tail _ (.tail _ (.head _))))))

end EdgeIngressStatus

namespace EdgeIngress

variable {j : Json} {before after : Option EdgeIngressStatus}

theorem reads_version : kind.Reads {} "version" Decode.string EdgeIngressStatus.version := by
  refine Kind.reads_of_record rfl rfl (fun _ _ => rfl) ?_
  simp only [List.forall_mem_cons]
  refine ⟨fun h => absurd rfl h, ?_, ?_, ?_, ?_, ?_, ?_, by simp⟩
  all_goals exact fun _ => Decode.Field.keeps_field fun _ _ => rfl

theorem reads_syncedAt : kind.Reads {} "syncedAt"
    (Decode.optional (Decode.readable Timestamp.ofText?)) EdgeIngressStatus.syncedAt := by
  refine Kind.reads_of_record rfl rfl (fun _ _ => rfl) ?_
  simp only [List.forall_mem_cons]
  refine ⟨?_, fun h => absurd rfl h, ?_, ?_, ?_, ?_, ?_, by simp⟩
  all_goals exact fun _ => Decode.Field.keeps_field fun _ _ => rfl

theorem reads_domain : kind.Reads {} "domain" Decode.string EdgeIngressStatus.domain := by
  refine Kind.reads_of_record rfl rfl (fun _ _ => rfl) ?_
  simp only [List.forall_mem_cons]
  refine ⟨?_, ?_, fun h => absurd rfl h, ?_, ?_, ?_, ?_, by simp⟩
  all_goals exact fun _ => Decode.Field.keeps_field fun _ _ => rfl

theorem reads_customDomains : kind.Reads {} "customDomains" (Decode.list Decode.string)
    EdgeIngressStatus.customDomains := by
  refine Kind.reads_of_record rfl rfl (fun _ _ => rfl) ?_
  simp only [List.forall_mem_cons]
  refine ⟨?_, ?_, ?_, fun h => absurd rfl h, ?_, ?_, ?_, by simp⟩
  all_goals exact fun _ => Decode.Field.keeps_field fun _ _ => rfl

theorem reads_url : kind.Reads {} "url" Decode.string EdgeIngressStatus.url := by
  refine Kind.reads_of_record rfl rfl (fun _ _ => rfl) ?_
  simp only [List.forall_mem_cons]
  refine ⟨?_, ?_, ?_, ?_, fun h => absurd rfl h, ?_, ?_, by simp⟩
  all_goals exact fun _ => Decode.Field.keeps_field fun _ _ => rfl

theorem reads_specHash : kind.Reads {} "specHash" Decode.string EdgeIngressStatus.specHash := by
  refine Kind.reads_of_record rfl rfl (fun _ _ => rfl) ?_
  simp only [List.forall_mem_cons]
  refine ⟨?_, ?_, ?_, ?_, ?_, fun h => absurd rfl h, ?_, by simp⟩
  all_goals exact fun _ => Decode.Field.keeps_field fun _ _ => rfl

theorem reads_connection : kind.Reads {} "connection" (Decode.optional Connection.decode)
    EdgeIngressStatus.connection := by
  refine Kind.reads_of_record rfl rfl (fun _ _ => rfl) ?_
  simp only [List.forall_mem_cons]
  refine ⟨?_, ?_, ?_, ?_, ?_, ?_, fun h => absurd rfl h, by simp⟩
  all_goals exact fun _ => Decode.Field.keeps_field fun _ _ => rfl

/-- A status that is written lies over the stored one. -/
theorem eq_laidOver_of_stands {status : EdgeIngressStatus} (hbefore : kind.Stands j before)
    (hafter : kind.Stands (j.merge status.toJson.sorted) after) :
    after = some (status.laidOver (before.getD {})) := by
  rw [status.sorted_toJson] at hafter
  obtain ⟨merged, rfl, -⟩ := Kind.Stands.merge recording hafter
  have hnamed := status.named_fields
  have hnodup : EdgeIngressStatus.fieldNames.Nodup := by decide
  have hversion := reads_version.merged_text hnamed hnodup hbefore hafter (.head _)
  have hsyncedAt := reads_syncedAt.merged_present Timestamp.whole_text hnamed hnodup hbefore hafter
    (.tail _ (.head _))
  have hdomain := reads_domain.merged_text hnamed hnodup hbefore hafter
    (.tail _ (.tail _ (.head _)))
  have hcustomDomains := reads_customDomains.merged_list hnamed hnodup hbefore hafter
    (.tail _ (.tail _ (.tail _ (.head _))))
  have hurl := reads_url.merged_text hnamed hnodup hbefore hafter
    (.tail _ (.tail _ (.tail _ (.tail _ (.head _)))))
  have hspecHash := reads_specHash.merged_text hnamed hnodup hbefore hafter
    (.tail _ (.tail _ (.tail _ (.tail _ (.tail _ (.head _))))))
  have hconnection := reads_connection.merged_present Connection.whole_word hnamed hnodup hbefore
    hafter (.tail _ (.tail _ (.tail _ (.tail _ (.tail _ (.tail _ (.head _)))))))
  rw [EdgeIngressStatus.laidOver, ← hversion, ← hsyncedAt, ← hdomain, ← hcustomDomains, ← hurl,
    ← hspecHash, ← hconnection]
  rfl

/-- A patch that gives the connection leaves all else of the stored status. -/
theorem eq_of_stands_connectionPatch {connection : Connection} (hbefore : kind.Stands j before)
    (hafter : kind.Stands (j.merge (Child.connectionPatch connection)) after) :
    after = some { before.getD {} with connection := some connection } := by
  obtain ⟨merged, rfl, -⟩ := Kind.Stands.merge recording hafter
  have hversion := reads_version.kept (by simp) hbefore hafter
  have hsyncedAt := reads_syncedAt.kept (by simp) hbefore hafter
  have hdomain := reads_domain.kept (by simp) hbefore hafter
  have hcustomDomains := reads_customDomains.kept (by simp) hbefore hafter
  have hurl := reads_url.kept (by simp) hbefore hafter
  have hspecHash := reads_specHash.kept (by simp) hbefore hafter
  have hconnection := reads_connection.given (List.mem_singleton_self _) (by simp)
    (Connection.whole_word connection) hafter
  dsimp only
  rw [← hversion, ← hsyncedAt, ← hdomain, ← hcustomDomains, ← hurl, ← hspecHash, ← hconnection]
  rfl

end EdgeIngress

namespace CatalogStatus

/-- A status with what it leaves empty as in another one. -/
def laidOver (new old : CatalogStatus) : CatalogStatus where
  version := if new.version = "" then old.version else new.version
  syncedAt := new.syncedAt.or old.syncedAt
  domains := if new.domains = [] then old.domains else new.domains
  urls := if new.urls = [] then old.urls else new.urls
  specHash := if new.specHash = "" then old.specHash else new.specHash

end CatalogStatus

namespace Catalog

variable {j : Json} {before after : Option CatalogStatus}

theorem reads_version : kind.Reads {} "version" Decode.string CatalogStatus.version := by
  refine Kind.reads_of_record rfl rfl (fun _ _ => rfl) ?_
  simp only [List.forall_mem_cons]
  refine ⟨fun h => absurd rfl h, ?_, ?_, ?_, ?_, by simp⟩
  all_goals exact fun _ => Decode.Field.keeps_field fun _ _ => rfl

theorem reads_syncedAt : kind.Reads {} "syncedAt"
    (Decode.optional (Decode.readable Timestamp.ofText?)) CatalogStatus.syncedAt := by
  refine Kind.reads_of_record rfl rfl (fun _ _ => rfl) ?_
  simp only [List.forall_mem_cons]
  refine ⟨?_, fun h => absurd rfl h, ?_, ?_, ?_, by simp⟩
  all_goals exact fun _ => Decode.Field.keeps_field fun _ _ => rfl

theorem reads_domains : kind.Reads {} "domains" (Decode.list Decode.string)
    CatalogStatus.domains := by
  refine Kind.reads_of_record rfl rfl (fun _ _ => rfl) ?_
  simp only [List.forall_mem_cons]
  refine ⟨?_, ?_, fun h => absurd rfl h, ?_, ?_, by simp⟩
  all_goals exact fun _ => Decode.Field.keeps_field fun _ _ => rfl

theorem reads_urls : kind.Reads {} "urls" (Decode.list Decode.string) CatalogStatus.urls := by
  refine Kind.reads_of_record rfl rfl (fun _ _ => rfl) ?_
  simp only [List.forall_mem_cons]
  refine ⟨?_, ?_, ?_, fun h => absurd rfl h, ?_, by simp⟩
  all_goals exact fun _ => Decode.Field.keeps_field fun _ _ => rfl

theorem reads_specHash : kind.Reads {} "specHash" Decode.string CatalogStatus.specHash := by
  refine Kind.reads_of_record rfl rfl (fun _ _ => rfl) ?_
  simp only [List.forall_mem_cons]
  refine ⟨?_, ?_, ?_, ?_, fun h => absurd rfl h, by simp⟩
  all_goals exact fun _ => Decode.Field.keeps_field fun _ _ => rfl

theorem eq_laidOver_of_stands {status : CatalogStatus} (hbefore : kind.Stands j before)
    (hafter : kind.Stands (j.merge status.toJson.sorted) after) :
    after = some (status.laidOver (before.getD {})) := by
  rw [status.sorted_toJson] at hafter
  obtain ⟨merged, rfl, -⟩ := Kind.Stands.merge recording hafter
  have hnamed := status.named_fields
  have hnodup : CatalogStatus.fieldNames.Nodup := by decide
  have hversion := reads_version.merged_text hnamed hnodup hbefore hafter (.head _)
  have hsyncedAt := reads_syncedAt.merged_present Timestamp.whole_text hnamed hnodup hbefore hafter
    (.tail _ (.head _))
  have hdomains := reads_domains.merged_list hnamed hnodup hbefore hafter
    (.tail _ (.tail _ (.head _)))
  have hurls := reads_urls.merged_list hnamed hnodup hbefore hafter
    (.tail _ (.tail _ (.tail _ (.head _))))
  have hspecHash := reads_specHash.merged_text hnamed hnodup hbefore hafter
    (.tail _ (.tail _ (.tail _ (.tail _ (.head _)))))
  rw [CatalogStatus.laidOver, ← hversion, ← hsyncedAt, ← hdomains, ← hurls, ← hspecHash]
  rfl

end Catalog

end EdgeAgent
