/-! Cutting a list at a separator. `cutFirst` splits at the first occurrence and `cutLast` at the
last one; both drop the separator and answer `none` when there is none. `fields` is the list of
all stretches between separators. -/

namespace EdgeAgent

variable {α : Type} [DecidableEq α]

/-- The parts before and after the first separator. -/
def cutFirst (sep : α) : List α → Option (List α × List α)
  | [] => none
  | c :: r =>
    if c = sep then some ([], r)
    else (cutFirst sep r).map fun (before, after) => (c :: before, after)

/-- The parts before and after the last separator. -/
def cutLast (sep : α) (s : List α) : Option (List α × List α) :=
  (cutFirst sep s.reverse).map fun (after, before) => (before.reverse, after.reverse)

/-- The stretches between separators, at least one. -/
def fields (sep : α) : List α → List (List α)
  | [] => [[]]
  | c :: r =>
    if c = sep then [] :: fields sep r
    else match fields sep r with
      | [] => [[c]]
      | first :: others => (c :: first) :: others

/-- What follows a given beginning, if the list begins so. -/
def dropBeginning : List α → List α → Option (List α)
  | [], s => some s
  | _ :: _, [] => none
  | b :: begins, c :: s => if b = c then dropBeginning begins s else none

/-- A list without a given element at its end. -/
def dropTrailing (c : α) (s : List α) : List α :=
  (s.reverse.dropWhile (· = c)).reverse

theorem cutFirst_eq_none_iff {sep : α} {s : List α} : cutFirst sep s = none ↔ sep ∉ s := by
  induction s with
  | nil => simp [cutFirst]
  | cons c r ih =>
    by_cases h : c = sep
    · simp [cutFirst, h]
    · simp [cutFirst, h, ih, Ne.symm h]

theorem cutFirst_append {sep : α} {before : List α} (after : List α) (h : sep ∉ before) :
    cutFirst sep (before ++ sep :: after) = some (before, after) := by
  induction before with
  | nil => simp [cutFirst]
  | cons c r ih =>
    rw [List.mem_cons, not_or] at h
    simp [cutFirst, Ne.symm h.1, ih h.2]

theorem cutFirst_eq_some {sep : α} {s before after : List α}
    (h : cutFirst sep s = some (before, after)) :
    s = before ++ sep :: after ∧ sep ∉ before := by
  induction s generalizing before with
  | nil => simp [cutFirst] at h
  | cons c r ih =>
    by_cases hc : c = sep
    · rw [cutFirst, if_pos hc] at h
      cases h
      simp [hc]
    · rw [cutFirst, if_neg hc] at h
      obtain ⟨⟨b, a⟩, hcut, heq⟩ := Option.map_eq_some_iff.1 h
      cases heq
      obtain ⟨hr, hb⟩ := ih hcut
      exact ⟨by simp [hr], by simp [hb, Ne.symm hc]⟩

theorem cutLast_append {sep : α} (before : List α) {after : List α} (h : sep ∉ after) :
    cutLast sep (before ++ sep :: after) = some (before, after) := by
  have hr : (before ++ sep :: after).reverse = after.reverse ++ sep :: before.reverse := by simp
  rw [cutLast, hr, cutFirst_append _ (by simpa using h)]
  simp

theorem cutLast_eq_none_iff {sep : α} {s : List α} : cutLast sep s = none ↔ sep ∉ s := by
  simp [cutLast, cutFirst_eq_none_iff]

theorem cutLast_eq_some {sep : α} {s before after : List α}
    (h : cutLast sep s = some (before, after)) :
    s = before ++ sep :: after ∧ sep ∉ after := by
  obtain ⟨⟨a, b⟩, hcut, heq⟩ := Option.map_eq_some_iff.1 h
  cases heq
  obtain ⟨hr, ha⟩ := cutFirst_eq_some hcut
  refine ⟨?_, by simpa using ha⟩
  have := congrArg List.reverse hr
  simpa using this

theorem fields_of_not_mem {sep : α} {s : List α} (h : sep ∉ s) : fields sep s = [s] := by
  induction s with
  | nil => rfl
  | cons c r ih =>
    rw [List.mem_cons, not_or] at h
    simp [fields, Ne.symm h.1, ih h.2]

theorem fields_append {sep : α} {before : List α} (after : List α) (h : sep ∉ before) :
    fields sep (before ++ sep :: after) = before :: fields sep after := by
  induction before with
  | nil => simp [fields]
  | cons c r ih =>
    rw [List.mem_cons, not_or] at h
    simp [fields, Ne.symm h.1, ih h.2]

theorem dropBeginning_append (begins s : List α) : dropBeginning begins (begins ++ s) = some s := by
  induction begins with
  | nil => rfl
  | cons b r ih => simp [dropBeginning, ih]

theorem dropBeginning_eq_some {begins s rest : List α} (h : dropBeginning begins s = some rest) :
    s = begins ++ rest := by
  induction begins generalizing s with
  | nil => simpa [dropBeginning] using h
  | cons b r ih =>
    cases s with
    | nil => simp [dropBeginning] at h
    | cons c s =>
      by_cases hc : b = c
      · rw [dropBeginning, if_pos hc] at h
        rw [ih h, hc, List.cons_append]
      · simp [dropBeginning, hc] at h

end EdgeAgent
