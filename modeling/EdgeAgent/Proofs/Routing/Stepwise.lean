/-! Runs of a system that takes one step after the other, with what comes of each step. -/

namespace EdgeAgent

variable {σ α β : Type}

/-- What a sequence of steps changes, and what comes of them. -/
def stepwise (step : σ → α → σ × β) (s : σ) : List α → σ × List β
  | [] => (s, [])
  | x :: xs =>
    let rest := stepwise step (step s x).1 xs
    (rest.1, (step s x).2 :: rest.2)

variable {step : σ → α → σ × β} {s : σ} {xs : List α} {x : α}

theorem stepwise_append (s : σ) (xs ys : List α) :
    stepwise step s (xs ++ ys) =
      ((stepwise step (stepwise step s xs).1 ys).1,
        (stepwise step s xs).2 ++ (stepwise step (stepwise step s xs).1 ys).2) := by
  induction xs generalizing s with
  | nil => rfl
  | cons x xs ih => simp only [List.cons_append, stepwise, ih]

/-- What comes of the step at a position is decided by the steps before it. -/
theorem getElem?_stepwise {i : Nat} (hx : xs[i]? = some x) :
    (stepwise step s xs).2[i]? = some (step (stepwise step s (xs.take i)).1 x).2 := by
  induction xs generalizing s i with
  | nil => cases hx
  | cons y xs ih =>
      cases i with
      | zero =>
          cases hx
          rfl
      | succ i => exact ih hx

theorem stepwise_take_succ {i : Nat} (hx : xs[i]? = some x) :
    stepwise step s (xs.take (i + 1)) =
      ((step (stepwise step s (xs.take i)).1 x).1,
        (stepwise step s (xs.take i)).2 ++ [(step (stepwise step s (xs.take i)).1 x).2]) := by
  rw [List.take_add_one, hx, Option.toList_some, stepwise_append]
  rfl

/-- Of a run up to a position, the part up to an earlier one comes first. -/
theorem stepwise_take {i j : Nat} (hij : i ≤ j) :
    stepwise step s (xs.take j) =
      ((stepwise step (stepwise step s (xs.take i)).1 ((xs.take j).drop i)).1,
        (stepwise step s (xs.take i)).2 ++
          (stepwise step (stepwise step s (xs.take i)).1 ((xs.take j).drop i)).2) := by
  have hfirst : (xs.take j).take i = xs.take i := by
    rw [List.take_take, Nat.min_eq_left hij]
  have hsplit : xs.take j = xs.take i ++ (xs.take j).drop i := by
    rw [← hfirst, List.take_append_drop]
  rw [← stepwise_append, ← hsplit]

/-- What every step keeps is kept by every sequence of steps. -/
theorem stepwise_keeps (P : σ → Prop) (hkeeps : ∀ s x, P s → P (step s x).1) (hs : P s)
    (xs : List α) : P (stepwise step s xs).1 := by
  induction xs generalizing s with
  | nil => exact hs
  | cons x xs ih => exact ih (hkeeps s x hs)

/-- What a step brings about and every step keeps holds after all sequences with that step. -/
theorem stepwise_of_mem (P : σ → Prop) (hkeeps : ∀ s x, P s → P (step s x).1)
    (hx : ∀ s, P (step s x).1) (hmem : x ∈ xs) : P (stepwise step s xs).1 := by
  induction xs generalizing s with
  | nil => cases hmem
  | cons y xs ih =>
      rcases List.mem_cons.1 hmem with rfl | hmem
      · exact stepwise_keeps P hkeeps (hx s) xs
      · exact ih hmem

end EdgeAgent
