import EdgeAgent.Json.Decode
import EdgeAgent.Json.Edit
import EdgeAgent.Proofs.Dict
import EdgeAgent.Proofs.Result

/-! One field of a JSON object: what is found under its name when fields are set, removed, merged
or sorted, and what a record that is read from the object has in its place. -/

namespace EdgeAgent

namespace Json

variable {name other : String} {value : Json} {fields target patch : List (String × Json)}

/-! ### Looking up a field -/

theorem get?_obj (fields : List (String × Json)) (name : String) :
    (obj fields).get? name = (fields.find? fun f => f.1 = name).map (·.2) := rfl

theorem get?_cons (other : String) (value : Json) (fields : List (String × Json)) (name : String) :
    (obj ((other, value) :: fields)).get? name =
      if other = name then some value else (obj fields).get? name := by
  rw [get?_obj, List.find?_cons]
  by_cases h : other = name
  · simp [h]
  · simp [h, get?_obj]

theorem get?_setField (name other : String) (value : Json) (fields : List (String × Json)) :
    (obj (setField name value fields)).get? other =
      if name = other then some value else (obj fields).get? other := by
  induction fields with
  | nil => exact get?_cons name value [] other
  | cons f r ih =>
      obtain ⟨found, stored⟩ := f
      rw [setField]
      by_cases hfound : found = name
      · rw [if_pos hfound, get?_cons, get?_cons, hfound]
        by_cases h : name = other <;> simp [h]
      · rw [if_neg hfound, get?_cons, get?_cons, ih]
        by_cases h : found = other
        · rw [if_pos h, if_pos h, if_neg fun heq => hfound (h.trans heq.symm)]
        · rw [if_neg h, if_neg h]

theorem get?_filter_ne (name other : String) (fields : List (String × Json)) :
    (obj (fields.filter fun f => f.1 ≠ name)).get? other =
      if other = name then none else (obj fields).get? other :=
  Dict.find?_filter_ne name other fields

/-! ### Merging a patch -/

/-- A patch leaves a field alone that it does not name. -/
theorem get?_mergeFields_of_not_mem (target : List (String × Json))
    (h : name ∉ patch.map (·.1)) :
    (obj (mergeFields target patch)).get? name = (obj target).get? name := by
  induction patch generalizing target with
  | nil => rfl
  | cons f r ih =>
      obtain ⟨found, stored⟩ := f
      rw [List.map_cons, List.mem_cons, not_or] at h
      cases stored with
      | null => rw [mergeFields, ih _ h.2, get?_filter_ne, if_neg h.1]
      | _ =>
          rw [mergeFields, ih _ h.2, get?_setField, if_neg (Ne.symm h.1)]
          all_goals simp

/-- A value replaces what was stored in its field, unless it is null or merged into it. -/
theorem get?_mergeFields_of_mem (target : List (String × Json)) (hvalue : value ≠ null)
    (hwhole : ∀ stored, merge stored value = value) (hnodup : (patch.map (·.1)).Nodup)
    (hmem : (name, value) ∈ patch) :
    (obj (mergeFields target patch)).get? name = some value := by
  induction patch generalizing target with
  | nil => cases hmem
  | cons f r ih =>
      rw [List.map_cons, List.nodup_cons] at hnodup
      rcases List.mem_cons.1 hmem with rfl | hlast
      · rw [mergeFields, get?_mergeFields_of_not_mem _ hnodup.1, get?_setField, if_pos rfl, hwhole]
        exact hvalue
      · obtain ⟨found, stored⟩ := f
        have hlater := fun target => ih target hnodup.2 hlast
        cases stored with
        | null => rw [mergeFields, hlater]
        | _ =>
            rw [mergeFields, hlater]
            all_goals simp

theorem get?_mergeFields_str {text : String} (target : List (String × Json))
    (hnodup : (patch.map (·.1)).Nodup) (hmem : (name, str text) ∈ patch) :
    (obj (mergeFields target patch)).get? name = some (str text) :=
  get?_mergeFields_of_mem target (fun h => nomatch h) (fun _ => by rw [merge]; simp) hnodup hmem

/-! ### Sorting the fields -/

theorem sortedFields_eq_map (fields : List (String × Json)) :
    sortedFields fields = fields.map fun f => (f.1, f.2.sorted) := by
  induction fields with
  | nil => rfl
  | cons f r ih => rw [sortedFields, ih, List.map_cons]

theorem mem_sortedFields_iff {field : String × Json} :
    field ∈ sortedFields fields ↔ ∃ f ∈ fields, (f.1, f.2.sorted) = field := by
  rw [sortedFields_eq_map, List.mem_map]

/-- A value that is the only one under its name is kept, sorted, when fields are sorted. -/
theorem mem_entries_sortedFields (hmem : (name, value) ∈ fields)
    (honly : ∀ f ∈ fields, f.1 = name → f = (name, value)) :
    (name, value.sorted) ∈ (Dict.ofList (sortedFields fields)).entries := by
  rw [Dict.mem_entries_iff, Dict.find?_ofList, List.findRev?_eq_find?_reverse]
  cases hfind : (sortedFields fields).reverse.find? fun f => f.1 = name with
  | none =>
      rw [List.find?_eq_none] at hfind
      have hsorted : (name, value.sorted) ∈ sortedFields fields :=
        mem_sortedFields_iff.2 ⟨_, hmem, rfl⟩
      exact absurd (decide_eq_true rfl) (hfind _ (List.mem_reverse.2 hsorted))
  | some found =>
      obtain ⟨f, hf, rfl⟩ :=
        mem_sortedFields_iff.1 (List.mem_reverse.1 (List.mem_of_find?_eq_some hfind))
      rw [honly f hf (by simpa using List.find?_some hfind)]
      rfl

theorem not_mem_entries_sortedFields (h : ∀ f ∈ fields, f.1 ≠ name) :
    name ∉ ((Dict.ofList (sortedFields fields)).entries).map (·.1) := by
  intro hmem
  obtain ⟨⟨_, stored⟩, hentry, rfl⟩ := List.mem_map.1 hmem
  rw [Dict.mem_entries_iff, Dict.find?_ofList, List.findRev?_eq_find?_reverse,
    Option.map_eq_some_iff] at hentry
  obtain ⟨found, hfind, -⟩ := hentry
  obtain ⟨f, hf, rfl⟩ :=
    mem_sortedFields_iff.1 (List.mem_reverse.1 (List.mem_of_find?_eq_some hfind))
  exact h f hf (by simpa using List.find?_some hfind)

end Json

namespace Decode

variable {α β : Type} {name : String} {project : α → β} {read : Decoder β} {f : Field α}
  {fields : List (Field α)} {record record' : α}

/-! ### Reading a field -/

/-- Reading a field leaves a part of the record as it is. -/
def Field.Keeps (project : α → β) (f : Field α) : Prop :=
  ∀ d r r', f.set d r = .ok r' → project r' = project r

theorem Field.keeps_field {γ : Type} {need : Need} {decode : Decoder γ} {put : γ → α → α}
    (h : ∀ x r, project (put x r) = project r) : (field name need decode put).Keeps project := by
  intro d r r' hset
  obtain ⟨x, -, rfl⟩ := map_eq_ok.1 hset
  exact h x r

/-- What a record that is read from an object has in the place of a field: what is read under its
name, or what it had before. -/
theorem project_objectFields {passable : Doc → Bool} {fs : List (String × Json)}
    (hfind : fields.find? (fun f => f.name = name) = some f)
    (hread : ∀ d r r', f.set d r = .ok r' → read d = .ok (project r'))
    (hother : ∀ g ∈ fields, g.name ≠ name → g.Keeps project)
    {seen : List String}
    (h : objectFields passable fields (Doc.ofFields fs) seen record = .ok record') :
    if name ∈ seen then project record' = project record
    else match (Json.obj fs).get? name with
      | none => project record' = project record
      | some j => read (Doc.ofJson j) = .ok (project record') := by
  induction fs generalizing seen record with
  | nil =>
      rw [Doc.ofFields, objectFields] at h
      split at h
      · cases h
        exact ite_self (c := name ∈ seen) _ ▸ rfl
      · cases h
  | cons e fs ih =>
      obtain ⟨found, j⟩ := e
      rw [Doc.ofFields, objectFields] at h
      rw [Json.get?_cons]
      cases hfound : fields.find? (fun f => f.name = found) with
      | none =>
          have hne : found ≠ name := by
            rintro rfl
            rw [hfind] at hfound
            cases hfound
          simp only [hfound] at h
          split at h
          · rw [if_neg hne]
            exact ih h
          · cases h
      | some g =>
          simp only [hfound] at h
          have hg : g.name = found := by simpa using List.find?_some hfound
          split at h
          · cases h
          · next hseen =>
            obtain ⟨mid, hset, hrest⟩ := bind_eq_ok.1 h
            have hlater := ih hrest
            by_cases hne : found = name
            · subst hne
              rw [hfind] at hfound
              cases hfound
              rw [if_pos List.mem_cons_self] at hlater
              rw [if_neg hseen, if_pos rfl, hlater]
              exact hread _ _ _ hset
            · have hkeep := hother g (List.mem_of_find?_eq_some hfound) (hg ▸ hne) _ _ _ hset
              rw [if_neg hne, ← hkeep]
              simpa [Ne.symm hne] using hlater

/-- What a record that is read from an object has in a field of its own is what is read under the
name of the field, or the blank. -/
theorem part_of_record {need : Need} {put : β → α → α} {fs : List (String × Json)}
    (hfind : fields.find? (fun f => f.name = name) = some (field name need read put))
    (hput : ∀ x r, project (put x r) = x)
    (hother : ∀ g ∈ fields, g.name ≠ name → g.Keeps project)
    (h : value (Decode.record record fields) (.obj fs) = .ok record') :
    match (Json.obj fs).get? name with
    | none => project record' = project record
    | some j => read (Doc.ofJson j) = .ok (project record') := by
  have hfields : objectFields Doc.sound fields (Doc.ofFields fs) [] record = .ok record' := by
    rw [value, Doc.ofJson, Decode.record] at h
    cases hdecode : objectFields Doc.sound fields (Doc.ofFields fs) [] record with
    | error e =>
        rw [hdecode] at h
        cases h
    | ok r =>
        rw [hdecode] at h
        exact h
  have hread : ∀ d r r', (field name need read put).set d r = .ok r' →
      read d = .ok (project r') := by
    intro d r r' hset
    obtain ⟨x, hx, rfl⟩ := map_eq_ok.1 hset
    rw [hx, hput]
  have hproject := project_objectFields hfind hread hother hfields
  rwa [if_neg List.not_mem_nil] at hproject

/-- A text in a record that is read from an object is the one under its name, or the empty one. -/
theorem text_of_record {need : Need} {put : String → α → α} {project : α → String}
    {fs : List (String × Json)}
    (hfind : fields.find? (fun f => f.name = name) = some (field name need string put))
    (hput : ∀ x r, project (put x r) = x)
    (hother : ∀ g ∈ fields, g.name ≠ name → g.Keeps project) (hblank : project record = "")
    (h : value (Decode.record record fields) (.obj fs) = .ok record') :
    project record' = (((Json.obj fs).get? name).bind Json.str?).getD "" := by
  have hproject := part_of_record hfind hput hother h
  cases hget : (Json.obj fs).get? name with
  | none =>
      rw [hget] at hproject
      exact hproject.trans hblank
  | some j =>
      rw [hget] at hproject
      cases j with
      | str s =>
          cases hproject
          rfl
      | _ => cases hproject

end Decode

end EdgeAgent
