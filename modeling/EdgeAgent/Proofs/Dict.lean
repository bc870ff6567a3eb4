import EdgeAgent.Dict

/-! Looking up names in dictionaries. Each operation is described by what is found under a name
afterwards, and two dictionaries in which the same is found are equal. -/

namespace EdgeAgent.Dict

variable {α : Type} {d e : Dict α} {name other : String} {value : α}

@[simp] theorem find?_empty (name : String) : (empty : Dict α).find? name = none := rfl

theorem mem_entries_iff : (name, value) ∈ d.entries ↔ d.find? name = some value := by
  rw [find?, Option.map_eq_some_iff]
  constructor
  · intro hmem
    obtain ⟨before, after, hsplit⟩ := List.append_of_mem hmem
    have hbefore : ∀ x ∈ before, x.1 ≠ name := by
      intro x hx heq
      have hlt := (List.pairwise_append.1 (hsplit ▸ d.increasing)).2.2 x hx (name, value) (by simp)
      exact String.lt_irrefl name (heq ▸ hlt)
    refine ⟨(name, value), ?_, rfl⟩
    rw [hsplit, List.find?_append, List.find?_eq_none.2 (by simpa using hbefore)]
    simp
  · rintro ⟨⟨found, stored⟩, hfind, rfl⟩
    have hname : found = name := by simpa using List.find?_some hfind
    exact hname ▸ List.mem_of_find?_eq_some hfind

theorem find?_put (name other : String) (value : α) (es : List (String × α)) :
    ((put name value es).find? fun e => e.1 = other).map (·.2) =
      if other = name then some value else (es.find? fun e => e.1 = other).map (·.2) := by
  induction es with
  | nil =>
      by_cases h : other = name
      · simp [put, h]
      · simp [put, h, Ne.symm h]
  | cons x r ih =>
      rw [put]
      split
      · by_cases h : other = name
        · simp [h]
        · simp [h, Ne.symm h]
      · split
        · next heq =>
          by_cases h : other = name
          · simp [h]
          · simp [h, Ne.symm h, ← heq]
        · next hne =>
          by_cases hx : x.1 = other
          · have hother : other ≠ name := fun h => hne (h ▸ hx).symm
            simp [hx, hother]
          · rw [List.find?_cons_of_neg (by simpa using hx), ih,
              List.find?_cons_of_neg (by simpa using hx)]

theorem find?_insert (d : Dict α) (name other : String) (value : α) :
    (d.insert name value).find? other = if other = name then some value else d.find? other :=
  find?_put name other value d.entries

theorem find?_filter_ne (name other : String) (es : List (String × α)) :
    ((es.filter fun e => e.1 ≠ name).find? fun e => e.1 = other).map (·.2) =
      if other = name then none else (es.find? fun e => e.1 = other).map (·.2) := by
  rw [List.find?_filter]
  by_cases h : other = name
  · rw [if_pos h, List.find?_eq_none.2 (by simp [h])]
    rfl
  · rw [if_neg h]
    congr 2
    funext e
    by_cases he : e.1 = other <;> simp [he, h]

theorem find?_erase (d : Dict α) (name other : String) :
    (d.erase name).find? other = if other = name then none else d.find? other :=
  find?_filter_ne name other d.entries

/-- Of several values under one name, the last that is put in is found. -/
theorem find?_foldl_insert (es : List (String × α)) (d : Dict α) (name : String) :
    (es.foldl (fun d e => d.insert e.1 e.2) d).find? name =
      ((es.findRev? fun e => e.1 = name).map (·.2)).or (d.find? name) := by
  induction es generalizing d with
  | nil => simp
  | cons e r ih =>
      rw [List.foldl_cons, ih, find?_insert, List.findRev?_eq_find?_reverse,
        List.findRev?_eq_find?_reverse, List.reverse_cons, List.find?_append]
      cases r.reverse.find? fun e => e.1 = name with
      | some x => rfl
      | none =>
          by_cases h : e.1 = name
          · simp [h]
          · simp [h, Ne.symm h]

theorem find?_ofList (es : List (String × α)) (name : String) :
    (ofList es).find? name = (es.findRev? fun e => e.1 = name).map (·.2) := by
  rw [ofList, find?_foldl_insert, find?_empty, Option.or_none]

/-- What lies above is found first. -/
theorem find?_overlay (d above : Dict α) (name : String) :
    (d.overlay above).find? name = (above.find? name).or (d.find? name) := by
  rw [overlay, find?_foldl_insert, ← find?_ofList, ofList_entries]

theorem nodup_names (d : Dict α) : d.names.Nodup := by
  refine List.pairwise_map.2 (d.increasing.imp ?_)
  intro a b hlt heq
  exact String.lt_irrefl b.1 (heq ▸ hlt)

theorem nodup_entries (d : Dict α) : d.entries.Nodup := by
  refine d.increasing.imp ?_
  intro a b hlt heq
  exact String.lt_irrefl b.1 (heq ▸ hlt)

/-- Of the entries with a property one has the last name. -/
theorem exists_last {P : String × α → Prop} (h : ∃ entry ∈ d.entries, P entry) :
    ∃ entry ∈ d.entries, P entry ∧ ∀ other ∈ d.entries, P other → other.1 ≤ entry.1 := by
  have go : ∀ {es : List (String × α)}, es.Pairwise (fun a b => a.1 < b.1) →
      (∃ entry ∈ es, P entry) →
      ∃ entry ∈ es, P entry ∧ ∀ other ∈ es, P other → other.1 ≤ entry.1 := by
    intro es hincreasing hsome
    induction es with
    | nil => simp at hsome
    | cons x r ih =>
        rw [List.pairwise_cons] at hincreasing
        by_cases hlater : ∃ entry ∈ r, P entry
        · obtain ⟨entry, hentry, hP, hlast⟩ := ih hincreasing.2 hlater
          refine ⟨entry, List.mem_cons_of_mem _ hentry, hP, fun other hother hPother => ?_⟩
          rcases List.mem_cons.1 hother with rfl | hother
          · exact Std.le_of_lt (hincreasing.1 entry hentry)
          · exact hlast other hother hPother
        · obtain ⟨entry, hentry, hP⟩ := hsome
          rcases List.mem_cons.1 hentry with rfl | hentry
          · refine ⟨entry, List.mem_cons_self, hP, fun other hother hPother => ?_⟩
            rcases List.mem_cons.1 hother with rfl | hother
            · exact Std.le_refl other.1
            · exact absurd ⟨other, hother, hPother⟩ hlater
          · exact absurd ⟨entry, hentry, hP⟩ hlater
  exact go d.increasing h

/-- A dictionary is given by what is found in it. -/
theorem ext_find? (h : ∀ name, d.find? name = e.find? name) : d = e := by
  apply ext_entries
  have hperm : d.entries.Perm e.entries := by
    refine (List.perm_ext_iff_of_nodup d.nodup_entries e.nodup_entries).2 fun ⟨name, value⟩ => ?_
    rw [mem_entries_iff, mem_entries_iff, h]
  refine hperm.eq_of_pairwise ?_ d.increasing e.increasing
  intro a b _ _ hab hba
  exact absurd (String.lt_trans hab hba) (String.lt_irrefl a.1)

end EdgeAgent.Dict
