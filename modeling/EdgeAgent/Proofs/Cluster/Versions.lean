import EdgeAgent.Proofs.Cluster.Dealings
import Mathlib.Data.Set.Basic

/-! Versions of stored objects, and other clients that write them. Each write gives the object a
version that none has had before, and a replacement that names another version than that of the
stored object is refused. What was listed before another client has written it is therefore out of
date, whatever else is written. -/

namespace EdgeAgent

variable {σ Spec Status : Type}

/-- What a server does about versions; `given` are those that it has given so far. -/
structure Api.Versioned (api : Api σ Spec Status) (stored : σ → Store Spec Status)
    (given : σ → Set String) : Prop where
  /-- Objects are listed with their versions. -/
  list : ∀ w objects, (api.list w).1 = .ok objects → ∀ o ∈ objects,
    ∃ version ∈ given (api.list w).2.state, o.metadata.resourceVersion = some version
  /-- A replacement is refused when the stored object has another version, or is gone. -/
  replace : ∀ place (body : Object Spec Status) version w,
    body.metadata.resourceVersion = some version →
    (∀ o, stored w.state place = some o → o.metadata.resourceVersion ≠ some version) →
    stored (api.replace place body w).2.state = stored w.state ∧
      ∀ x, (api.replace place body w).1 ≠ .ok x

/-- A write of another client: an object is stored at a place, or the one there is removed. -/
structure Intrusion (Spec Status : Type) where
  place : Target
  object : Option (Object Spec Status)

namespace Intrusion

/-- What a write of another client does. -/
structure Takes (stored : σ → Store Spec Status) (given : σ → Set String)
    (x : Intrusion Spec Status) (s s' : σ) : Prop where
  stored_eq : stored s' = Function.update (stored s) x.place x.object
  given_subset : given s ⊆ given s'
  fresh : ∀ o, x.object = some o →
    ∃ version ∈ given s', o.metadata.resourceVersion = some version ∧ version ∉ given s

/-- Other clients write, one write after the other. -/
inductive Sequence (stored : σ → Store Spec Status) (given : σ → Set String) :
    List (Intrusion Spec Status) → σ → σ → Prop where
  | nil (s : σ) : Sequence stored given [] s s
  | cons {x : Intrusion Spec Status} {xs : List (Intrusion Spec Status)} {s mid s' : σ} :
      x.Takes stored given s mid → Sequence stored given xs mid s' →
      Sequence stored given (x :: xs) s s'

/-- No object of a certain version lies at a place. -/
def Outdated (stored : σ → Store Spec Status) (place : Target) (version : String) (s : σ) : Prop :=
  ∀ o, stored s place = some o → o.metadata.resourceVersion ≠ some version

variable {stored : σ → Store Spec Status} {given : σ → Set String} {x : Intrusion Spec Status}
  {xs : List (Intrusion Spec Status)} {s s' : σ} {place : Target} {version : String}

/-- A version that was given is outdated once the object is written, and stays so. -/
theorem Takes.outdated (h : x.Takes stored given s s') (hgiven : version ∈ given s)
    (hold : x.place = place ∨ Outdated stored place version s) :
    Outdated stored place version s' := by
  intro o ho hversion
  by_cases hplace : x.place = place
  · rw [h.stored_eq, hplace, Function.update_self] at ho
    obtain ⟨fresh, -, hfresh, hnew⟩ := h.fresh o ho
    rw [hversion] at hfresh
    cases hfresh
    exact hnew hgiven
  · rw [h.stored_eq, Function.update_of_ne (Ne.symm hplace)] at ho
    exact hold.resolve_left hplace o ho hversion

theorem Sequence.outdated (h : Sequence stored given xs s s') (hgiven : version ∈ given s)
    (hold : (∃ x ∈ xs, x.place = place) ∨ Outdated stored place version s) :
    Outdated stored place version s' := by
  induction h with
  | nil s => exact hold.resolve_left (by simp)
  | cons htakes _ ih =>
      refine ih (htakes.given_subset hgiven) ?_
      rcases hold with ⟨y, hy, hplace⟩ | hold
      · rcases List.mem_cons.1 hy with rfl | hy
        · exact .inr (htakes.outdated hgiven (.inl hplace))
        · exact .inl ⟨y, hy, hplace⟩
      · exact .inr (htakes.outdated hgiven (.inr hold))

/-- What lies at a place is what the last write there has left. -/
theorem Sequence.stored_eq (h : Sequence stored given xs s s') :
    stored s' place =
      ((xs.findRev? fun x => x.place = place).map object).getD (stored s place) := by
  induction h with
  | nil s => rfl
  | @cons x xs s mid s' htakes _ ih =>
      rw [ih, htakes.stored_eq, List.findRev?_eq_find?_reverse, List.findRev?_eq_find?_reverse,
        List.reverse_cons, List.find?_append]
      cases xs.reverse.find? fun x => x.place = place with
      | some y => rfl
      | none =>
          by_cases hplace : x.place = place
          · simp [hplace]
          · simp [hplace, Function.update_of_ne (Ne.symm hplace)]

end Intrusion

end EdgeAgent
