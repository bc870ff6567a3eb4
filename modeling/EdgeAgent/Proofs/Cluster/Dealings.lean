import EdgeAgent.Proofs.Cluster.Planned
import EdgeAgent.Proofs.Sync.Ends

/-! Requests with all that they send, and what came of each. From them it can be read in which order
an update asks for what: first the object is replaced, and only when that was granted is its status
written. What is known of the two requests then says what an update can come to. -/

namespace EdgeAgent

variable {σ α Spec Status : Type}

/-- A request, with what it sends. -/
inductive Demand (Spec Status : Type) where
  | list
  | create (scope : Option String) (new : Object Spec Status)
  | replace (place : Target) (body : Object Spec Status)
  | patchStatus (place : Target) (patch : Json)
  | delete (place : Target)
  | apply (place : Target) (ingress : Ingress)

/-- A request, and what it came to. -/
structure Dealing (Spec Status : Type) where
  demand : Demand Spec Status
  upshot : Upshot Unit

namespace Dealing

/-- The note of a request. -/
def note (demand : Demand Spec Status) (answer : Except Stop α) : List (Dealing Spec Status) :=
  [⟨demand, (Upshot.of answer).forget⟩]

end Dealing

/-- The requests about the objects of one kind, each noted with what it sends. -/
def Api.dealing (api : Api σ Spec Status) :
    Api (σ × List (Dealing Spec Status)) Spec Status where
  list := api.list.noting (Dealing.note .list)
  create := fun scope new => (api.create scope new).noting (Dealing.note (.create scope new))
  replace := fun place body => (api.replace place body).noting (Dealing.note (.replace place body))
  patchStatus := fun place patch =>
    (api.patchStatus place patch).noting (Dealing.note (.patchStatus place patch))
  delete := fun place => (api.delete place).noting (Dealing.note (.delete place))

/-- The requests about edge ingresses and their child ingresses, each noted with what it sends. -/
def Child.Apis.dealing (apis : Child.Apis σ) :
    Child.Apis (σ × List (Dealing EdgeIngressSpec EdgeIngressStatus)) where
  edges := apis.edges.dealing
  ingresses := fun place ingress =>
    (apis.ingresses place ingress).noting (Dealing.note (.apply place ingress))

namespace Upkeep

variable {kind : Kind Spec Status} {api : Api σ Spec Status} {old new : Object Spec Status}
  {replaces : σ → Upshot (Object Spec Status) → σ → Prop}
  {patches : Target → Json → σ → Upshot (Object Spec Status) → σ → Prop}

/-- All that an update can come to, when certain things hold of its two requests. -/
inductive Updated (kind : Kind Spec Status) (old new : Object Spec Status)
    (replaces : σ → Upshot (Object Spec Status) → σ → Prop)
    (patches : Target → Json → σ → Upshot (Object Spec Status) → σ → Prop) (s : σ) :
    Upshot (Object Spec Status) → List (Dealing Spec Status) → σ → Prop where
  | suppressed : unchanged kind old new = true →
      Updated kind old new replaces patches s (.granted old) [] s
  | halted {u : Upshot (Object Spec Status)} {s' : σ} : unchanged kind old new = false →
      replaces s u s' → (∀ x, u ≠ .granted x) →
      Updated kind old new replaces patches s u
        [⟨.replace (target kind old) (renewed old new), u.forget⟩] s'
  | bare {x : Object Spec Status} {s' : σ} : unchanged kind old new = false → new.status = none →
      replaces s (.granted x) s' →
      Updated kind old new replaces patches s (.granted x)
        [⟨.replace (target kind old) (renewed old new), .granted ()⟩] s'
  | patched {x : Object Spec Status} {mid s' : σ} {status : Status}
      {u : Upshot (Object Spec Status)} : unchanged kind old new = false →
      new.status = some status → replaces s (.granted x) mid →
      patches ⟨(target kind old).scope, x.metadata.anyName⟩ (kind.encodeStatus status).sorted mid
        u s' →
      Updated kind old new replaces patches s u
        [⟨.replace (target kind old) (renewed old new), .granted ()⟩,
          ⟨.patchStatus ⟨(target kind old).scope, x.metadata.anyName⟩
            (kind.encodeStatus status).sorted, u.forget⟩] s'

/-- What the writing of a status after a replacement can come to: nothing is asked for if there is no
status. -/
def StatusWritten (kind : Kind Spec Status)
    (patches : Target → Json → σ → Upshot (Object Spec Status) → σ → Prop)
    (scope : Option String) (x : Object Spec Status) : Option Status → σ →
      Upshot (Object Spec Status) → List (Dealing Spec Status) → σ → Prop
  | none, s, u, ds, s' => u = .granted x ∧ ds = [] ∧ s' = s
  | some status, s, u, ds, s' =>
    ds = [⟨.patchStatus ⟨scope, x.metadata.anyName⟩ (kind.encodeStatus status).sorted, u.forget⟩] ∧
      patches ⟨scope, x.metadata.anyName⟩ (kind.encodeStatus status).sorted s u s'

theorem ends_writeStatus (kind : Kind Spec Status) (scope : Option String) (x : Object Spec Status)
    (hpatch : ∀ place patch w, patches place patch w.state (.of (api.patchStatus place patch w).1)
      (api.patchStatus place patch w).2.state) (status : Option Status) :
    Call.Ends (writeStatus kind api.dealing scope x status) (writeStatus kind api scope x status)
      (StatusWritten kind patches scope x status) := by
  cases status with
  | none => exact .pure x
  | some status => exact Call.Ends.context (Call.Ends.of_noting _ fun w => ⟨rfl, hpatch _ _ w⟩) _

/-- What holds of the two requests tells what an update comes to. -/
theorem ends_update (kind : Kind Spec Status) (old new : Object Spec Status)
    (hreplace : ∀ w, replaces w.state (.of (api.replace (target kind old) (renewed old new) w).1)
      (api.replace (target kind old) (renewed old new) w).2.state)
    (hpatch : ∀ place patch w, patches place patch w.state (.of (api.patchStatus place patch w).1)
      (api.patchStatus place patch w).2.state) :
    Call.Ends (update kind api.dealing old new) (update kind api old new)
      (Updated kind old new replaces patches) := by
  rw [update, update]
  by_cases hunchanged : unchanged kind old new = true
  · rw [if_pos hunchanged, if_pos hunchanged]
    refine Call.Ends.imp (.pure old) ?_
    rintro s _ _ s' ⟨rfl, rfl, rfl⟩
    exact .suppressed hunchanged
  · rw [if_neg hunchanged, if_neg hunchanged]
    rw [Bool.not_eq_true] at hunchanged
    have hstore : Call.Ends (api.dealing.replace (target kind old) (renewed old new))
        (api.replace (target kind old) (renewed old new)) fun s u ds s' =>
          ds = [⟨.replace (target kind old) (renewed old new), u.forget⟩] ∧ replaces s u s' :=
      Call.Ends.of_noting _ fun w => ⟨rfl, hreplace w⟩
    refine Call.Ends.imp ((hstore.context _).bind fun x =>
      ends_writeStatus kind (target kind old).scope x hpatch new.status) ?_
    rintro s u ds s' (⟨rfl, rfl, hdone⟩ | ⟨rfl, rfl, hdone⟩ |
      ⟨x, mid, _, rest, rfl, ⟨rfl, hdone⟩, hwritten⟩)
    · exact .halted hunchanged hdone (by rintro _ ⟨⟩)
    · exact .halted hunchanged hdone (by rintro _ ⟨⟩)
    · cases hnew : new.status with
      | none =>
          rw [hnew] at hwritten
          obtain ⟨rfl, rfl, rfl⟩ := hwritten
          exact .bare hunchanged hnew hdone
      | some status =>
          rw [hnew] at hwritten
          obtain ⟨rfl, hpatched⟩ := hwritten
          exact .patched hunchanged hnew hdone hpatched

end Upkeep

/-! ### With a faithful server -/

/-- What has come of a request, by its upshot. -/
def Upshot.Done (same : Prop) (acted : α → Prop) : Upshot α → Prop
  | granted x => acted x
  | refused => same
  | unanswered => same ∨ ∃ x, acted x

theorem Upshot.Done.elim {same goal : Prop} {acted : α → Prop} {u : Upshot α}
    (h : u.Done same acted) (hsame : same → goal) (hacted : ∀ x, acted x → goal) : goal := by
  cases u with
  | granted x => exact hacted x h
  | refused => exact hsame h
  | unanswered => exact Or.elim h hsame fun ⟨x, hx⟩ => hacted x hx

theorem Outcome.done {same : Prop} {acted : α → Prop} {answer : Except Stop α}
    (h : Outcome same acted answer) : (Upshot.of answer).Done same acted := by
  rcases answer with (_ | _) | _ <;> exact h

namespace Store

variable {before after : Store Spec Status}

/-- A stored object was replaced but for its status. -/
def Replaced (before after : Store Spec Status) (place : Target)
    (body replaced : Object Spec Status) : Prop :=
  ∃ old, before place = some old ∧ after = Function.update before place (some replaced) ∧
    replaced.spec = body.spec ∧ replaced.status = old.status ∧
    replaced.metadata.labels = body.metadata.labels

/-- A patch was merged into the status of a stored object. -/
def Patched (kind : Kind Spec Status) (before after : Store Spec Status) (place : Target)
    (patch : Json) (patched : Object Spec Status) : Prop :=
  ∃ old, before place = some old ∧ after = Function.update before place (some patched) ∧
    patched.spec = old.spec ∧ patched.metadata.labels = old.metadata.labels ∧
    ∃ j, kind.Stands j old.status ∧ kind.Stands (j.merge patch) patched.status

theorem Replaced.at_place {place : Target} {body x : Object Spec Status}
    (h : before.Replaced after place body x) : after place = some x := by
  obtain ⟨_, -, rfl, -⟩ := h
  exact Function.update_self ..

theorem Patched.at_place {kind : Kind Spec Status} {place : Target} {patch : Json}
    {x : Object Spec Status} (h : Patched kind before after place patch x) :
    after place = some x := by
  obtain ⟨_, -, rfl, -⟩ := h
  exact Function.update_self ..

end Store

namespace Upkeep

variable {kind : Kind Spec Status} {api : Api σ Spec Status} {stored : σ → Store Spec Status}

/-- What an update comes to with a faithful server. -/
abbrev UpdatedIn (stored : σ → Store Spec Status) (kind : Kind Spec Status)
    (old new : Object Spec Status) : σ → Upshot (Object Spec Status) →
      List (Dealing Spec Status) → σ → Prop :=
  Updated kind old new
    (fun s u s' => u.Done (stored s' = stored s)
      ((stored s).Replaced (stored s') (target kind old) (renewed old new)))
    fun place patch s u s' => u.Done (stored s' = stored s)
      ((stored s).Patched kind (stored s') place patch)

theorem ends_update_faithful (hfaithful : api.Faithful kind stored)
    (old new : Object Spec Status) :
    Call.Ends (update kind api.dealing old new) (update kind api old new)
      (UpdatedIn stored kind old new) :=
  ends_update kind old new (fun w => (hfaithful.replace _ _ w).done)
    fun place patch w => (hfaithful.patchStatus place patch w).done

/-- The status of a replaced object is written where the object lies. -/
theorem place_of_replaced (hfaithful : api.Faithful kind stored) {s : σ} {place : Target}
    {x : Object Spec Status} (h : stored s place = some x) :
    (⟨place.scope, x.metadata.anyName⟩ : Target) = place := by
  rw [hfaithful.anyName_eq h]

/-- An object that has changed is stored with its new spec, and with its new status merged into the
stored one. -/
theorem stored_update (hfaithful : api.Faithful kind stored) {old new o : Object Spec Status}
    {status : Status} {w : World σ} (hchanged : unchanged kind old new = false)
    (hstatus : new.status = some status) (hdone : (update kind api old new w).1 = .ok o) :
    ∃ before, stored w.state (target kind old) = some before ∧
      stored (update kind api old new w).2.state =
        Function.update (stored w.state) (target kind old) (some o) ∧
      o.spec = new.spec ∧ ∃ j, kind.Stands j before.status ∧
        kind.Stands (j.merge (kind.encodeStatus status).sorted) o.status := by
  obtain ⟨_, -, hupdated⟩ := ends_update_faithful hfaithful old new w []
  rw [hdone] at hupdated
  generalize hu : Upshot.of (.ok o : Except Stop (Object Spec Status)) = u at hupdated
  generalize (update kind api old new w).2.state = s' at hupdated ⊢
  cases hupdated with
  | suppressed hunchanged =>
      rw [hchanged] at hunchanged
      cases hunchanged
  | halted _ _ hhalted => exact absurd hu.symm (hhalted o)
  | bare _ hnone =>
      rw [hstatus] at hnone
      cases hnone
  | patched _ hnew hreplaced hpatched =>
      cases hu
      rw [hstatus] at hnew
      cases hnew
      rw [place_of_replaced hfaithful (Store.Replaced.at_place hreplaced)] at hpatched
      obtain ⟨before, hbefore, hmid, hspec, hkept, -⟩ := hreplaced
      obtain ⟨mid, hat, hafter, hspec', -, j, hj, hmerged⟩ := hpatched
      rw [hmid, Function.update_self] at hat
      cases hat
      rw [hmid, Function.update_idem] at hafter
      rw [hkept] at hj
      exact ⟨before, hbefore, hafter, hspec'.trans hspec, j, hj, hmerged⟩

end Upkeep

end EdgeAgent
