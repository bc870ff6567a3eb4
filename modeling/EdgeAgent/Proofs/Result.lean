/-! Results that may be errors. What is made of a result is an error when the result is one, or when
an error is made of it; of a list that is read one after the other, the first that cannot be read is
reported. -/

namespace EdgeAgent

variable {α β ε : Type}

theorem bind_eq_ok {x : Except ε α} {next : α → Except ε β} {y : β} :
    x >>= next = .ok y ↔ ∃ a, x = .ok a ∧ next a = .ok y := by
  cases x with
  | error e =>
      constructor
      · intro h
        cases h
      · rintro ⟨_, h, _⟩
        cases h
  | ok a =>
      constructor
      · intro h
        exact ⟨a, rfl, h⟩
      · rintro ⟨_, h, hnext⟩
        cases h
        exact hnext

theorem bind_eq_error {x : Except ε α} {next : α → Except ε β} {e : ε} :
    x >>= next = .error e ↔ x = .error e ∨ ∃ a, x = .ok a ∧ next a = .error e := by
  cases x with
  | error e' =>
      constructor
      · intro h
        cases h
        exact .inl rfl
      · rintro (h | ⟨_, h, _⟩)
        · cases h
          rfl
        · cases h
  | ok a =>
      constructor
      · intro h
        exact .inr ⟨a, rfl, h⟩
      · rintro (h | ⟨_, h, hnext⟩)
        · cases h
        · cases h
          exact hnext

theorem map_eq_ok {x : Except ε α} {g : α → β} {y : β} :
    x.map g = .ok y ↔ ∃ a, x = .ok a ∧ g a = y := by
  cases x <;> simp [Except.map]

theorem exists_map_eq_ok_iff {x : Except ε α} {g : α → β} :
    (∃ y, x.map g = .ok y) ↔ ∃ a, x = .ok a := by
  cases x <;> simp [Except.map]

theorem map_eq_error {x : Except ε α} {g : α → β} {e : ε} :
    x.map g = .error e ↔ x = .error e := by
  cases x <;> simp [Except.map]

/-! ### Reading one after the other -/

/-- What is read from a list, or else the flaw of the first that cannot be read. They are counted
from a given index. -/
def readAll (read? : α → Option β) (flaw : Nat → α → ε) : Nat → List α → Except ε (List β)
  | _, [] => .ok []
  | i, x :: xs =>
    match read? x with
    | some y => (readAll read? flaw (i + 1) xs).map (y :: ·)
    | none => .error (flaw i x)

variable {read? : α → Option β} {flaw : Nat → α → ε} {i : Nat} {xs : List α} {ys : List β} {e : ε}

theorem readAll_eq_ok_iff : readAll read? flaw i xs = .ok ys ↔ xs.map read? = ys.map some := by
  induction xs generalizing i ys with
  | nil => cases ys <;> simp [readAll]
  | cons x xs ih =>
      rw [readAll, List.map_cons]
      cases hx : read? x with
      | none => cases ys <;> simp
      | some y =>
          simp only [map_eq_ok, ih]
          cases ys with
          | nil => simp
          | cons y' ys =>
              simp only [List.map_cons, List.cons.injEq, Option.some.injEq]
              constructor
              · rintro ⟨_, hrest, rfl, rfl⟩
                exact ⟨rfl, hrest⟩
              · rintro ⟨rfl, hrest⟩
                exact ⟨ys, hrest, rfl, rfl⟩

theorem exists_readAll_eq_ok_iff :
    (∃ ys, readAll read? flaw i xs = .ok ys) ↔ ∀ x ∈ xs, read? x ≠ none := by
  induction xs generalizing i with
  | nil => simp [readAll]
  | cons x xs ih =>
      rw [List.forall_mem_cons, ← ih (i := i + 1), readAll]
      cases hx : read? x with
      | none => simp
      | some y =>
          have hsome : some y ≠ none := Option.some_ne_none y
          simp only [map_eq_ok, hsome, ne_eq, not_false_eq_true, true_and]
          exact ⟨fun ⟨_, ys, hys, _⟩ => ⟨ys, hys⟩, fun ⟨ys, hys⟩ => ⟨_, ys, hys, rfl⟩⟩

theorem readAll_eq_error_iff :
    readAll read? flaw i xs = .error e ↔ ∃ before x after, xs = before ++ x :: after ∧
      (∀ y ∈ before, read? y ≠ none) ∧ read? x = none ∧ e = flaw (i + before.length) x := by
  induction xs generalizing i with
  | nil => simp [readAll]
  | cons x xs ih =>
      rw [readAll]
      cases hx : read? x with
      | none =>
          simp only [Except.error.injEq]
          constructor
          · rintro rfl
            exact ⟨[], x, xs, rfl, by simp, hx, rfl⟩
          · rintro ⟨before, x', after, hsplit, hbefore, -, rfl⟩
            cases before with
            | nil =>
                cases hsplit
                rfl
            | cons y before =>
                cases hsplit
                exact absurd hx (hbefore x List.mem_cons_self)
      | some y =>
          simp only [map_eq_error, ih]
          constructor
          · rintro ⟨before, x', after, rfl, hbefore, hx', rfl⟩
            refine ⟨x :: before, x', after, rfl, ?_, hx', ?_⟩
            · rw [List.forall_mem_cons]
              exact ⟨by simp [hx], hbefore⟩
            · rw [List.length_cons, Nat.add_right_comm, Nat.add_assoc]
          · rintro ⟨before, x', after, hsplit, hbefore, hx', rfl⟩
            cases before with
            | nil =>
                cases hsplit
                rw [hx] at hx'
                cases hx'
            | cons y' before =>
                cases hsplit
                refine ⟨before, x', after, rfl, fun z hz => hbefore z (by simp [hz]), hx', ?_⟩
                rw [List.length_cons, Nat.add_right_comm, Nat.add_assoc]

end EdgeAgent
