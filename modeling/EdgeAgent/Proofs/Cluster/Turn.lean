import EdgeAgent.Proofs.Cluster.Laws

/-! The turns that the outline at a place can take in a pass, by what is wanted there and by what is
there. A turn says which requests were not answered when it leaves something undone. The main
statements are what a turn comes to when every request is answered, and what it keeps otherwise. -/

namespace EdgeAgent

open Exchange (Missed Torn)

variable {Spec : Type}

/-- How the outline at a place changes, when a spec is wanted there or none. -/
inductive Turn (hash : Spec → String) (es : List Exchange) :
    Option Spec → Option (Outline Spec) → Option (Outline Spec) → Prop where
  /-- A request was not answered, and nothing is changed. -/
  | missed (wanted : Option Spec) (o : Option (Outline Spec)) : Missed es → Turn hash es wanted o o
  /-- Nothing is wanted where no object of the agent is. -/
  | foreign (o : Option (Outline Spec)) : (∀ x, o = some x → x.managed = false) →
      Turn hash es none o o
  /-- The fingerprint of the wanted spec is recorded. -/
  | suppressed (spec : Spec) (o : Outline Spec) : o.managed = true → o.hash = some (hash spec) →
      Turn hash es (some spec) (some o) (some o)
  /-- The object is stored, but its status is not. -/
  | begun (spec : Spec) : Missed es → Turn hash es (some spec) none (some ⟨spec, none, true⟩)
  | created (spec : Spec) : Turn hash es (some spec) none (some ⟨spec, some (hash spec), true⟩)
  /-- The spec is stored, but the status still records another fingerprint. -/
  | torn (spec : Spec) (o : Outline Spec) : Torn es → o.managed = true →
      o.hash ≠ some (hash spec) → Turn hash es (some spec) (some o) (some ⟨spec, o.hash, true⟩)
  | renewed (spec : Spec) (o : Outline Spec) : o.managed = true → o.hash ≠ some (hash spec) →
      Turn hash es (some spec) (some o) (some ⟨spec, some (hash spec), true⟩)
  | removed (o : Outline Spec) : o.managed = true → Turn hash es none (some o) none

/-- A recorded fingerprint of an object of the agent is that of its spec. -/
def Outline.Settled (hash : Spec → String) (o : Option (Outline Spec)) : Prop :=
  ∀ x text, o = some x → x.managed = true → x.hash = some text → text = hash x.spec

theorem Outline.Settled.of_none {hash : Spec → String} {o : Option (Outline Spec)} (h : o = none) :
    Settled hash o := fun _ _ hx => nomatch h.symm.trans hx

namespace Turn

variable {hash : Spec → String} {es : List Exchange} {wanted : Option Spec}
  {spec : Spec} {before after : Option (Outline Spec)} {x : Outline Spec}

theorem mono {es' : List Exchange} (h : Turn hash es wanted before after) (hpart : es <:+: es') :
    Turn hash es' wanted before after := by
  cases h with
  | missed _ _ hmissed => exact .missed _ _ (hmissed.mono hpart)
  | foreign _ hforeign => exact .foreign _ hforeign
  | suppressed _ _ hmanaged hhash => exact .suppressed _ _ hmanaged hhash
  | begun _ hmissed => exact .begun _ (hmissed.mono hpart)
  | created _ => exact .created _
  | torn _ _ htorn hmanaged hhash => exact .torn _ _ (htorn.mono hpart) hmanaged hhash
  | renewed _ _ hmanaged hhash => exact .renewed _ _ hmanaged hhash
  | removed _ hmanaged => exact .removed _ hmanaged

/-- Nothing of the agent is left where nothing is wanted. -/
theorem managed_of_answered (h : Turn hash es none before after) (hes : ¬Missed es)
    (hx : after = some x) : x.managed = false := by
  cases h with
  | missed _ _ hmissed => exact absurd hmissed hes
  | foreign _ hforeign => exact hforeign x hx
  | removed _ _ => cases hx

/-- Where a spec is wanted its fingerprint is recorded. -/
theorem recorded_of_answered (h : Turn hash es (some spec) before after) (hes : ¬Missed es) :
    ∃ x, after = some x ∧ x.managed = true ∧ x.hash = some (hash spec) ∧
      (x.spec = spec ∨ before = some x) := by
  cases h with
  | missed _ _ hmissed => exact absurd hmissed hes
  | suppressed _ o hmanaged hhash => exact ⟨o, rfl, hmanaged, hhash, .inr rfl⟩
  | begun _ hmissed => exact absurd hmissed hes
  | created _ => exact ⟨_, rfl, rfl, rfl, .inl rfl⟩
  | torn _ _ htorn _ _ => exact absurd htorn.missed hes
  | renewed _ _ _ _ => exact ⟨_, rfl, rfl, rfl, .inl rfl⟩

/-- An object with the wanted fingerprint is left alone. -/
theorem eq_of_recorded (h : Turn hash es (some spec) (some x) after)
    (hhash : x.hash = some (hash spec)) : after = some x := by
  cases h with
  | missed _ _ _ => rfl
  | suppressed _ _ _ _ => rfl
  | torn _ _ _ _ hother => exact absurd hhash hother
  | renewed _ _ _ hother => exact absurd hhash hother

/-- Unless a spec is stored without its status, a recorded fingerprint stays that of the spec. -/
theorem settled (h : Turn hash es wanted before after) (hes : ¬Torn es)
    (hbefore : Outline.Settled hash before) : Outline.Settled hash after := by
  intro x text hx hmanaged hhash
  cases h with
  | missed _ _ _ => exact hbefore x text hx hmanaged hhash
  | foreign _ _ => exact hbefore x text hx hmanaged hhash
  | suppressed _ _ _ _ => exact hbefore x text hx hmanaged hhash
  | begun _ _ =>
      cases hx
      cases hhash
  | created _ =>
      cases hx
      cases hhash
      rfl
  | torn _ _ htorn _ _ => exact absurd htorn hes
  | renewed _ _ _ _ =>
      cases hx
      cases hhash
      rfl
  | removed _ _ => cases hx

/-- A spec was stored before, or is the wanted one. -/
theorem spec_eq (h : Turn hash es wanted before after) (hx : after = some x) :
    (∃ y, before = some y ∧ (x.managed = true → y.managed = true ∧ y.spec = x.spec)) ∨
      wanted = some x.spec := by
  cases h with
  | missed _ _ _ => exact .inl ⟨x, hx, fun hmanaged => ⟨hmanaged, rfl⟩⟩
  | foreign _ _ => exact .inl ⟨x, hx, fun hmanaged => ⟨hmanaged, rfl⟩⟩
  | suppressed _ _ _ _ => exact .inl ⟨x, hx, fun hmanaged => ⟨hmanaged, rfl⟩⟩
  | removed _ _ => cases hx
  | _ =>
      cases hx
      exact .inr rfl

end Turn

end EdgeAgent
