import EdgeAgent.Proofs.Cluster.Attended
import EdgeAgent.Proofs.Cluster.Dealings
import EdgeAgent.Proofs.Resource.Overlaid

/-! The connection of an edge ingress. After a write its child ingress is stored, and how that went
decides both what the write comes to and what the connection is. The connection is recorded by a patch
of its own, which is sent only when another one is recorded, and whose failure is only reported. -/

namespace EdgeAgent

variable {σ α Spec Status : Type}

/-! ### What is relied on -/

/-- Metadata is that of another object, but for what a server notes about writes. -/
def Metadata.Resembles (m other : Metadata) : Prop :=
  { m with
    resourceVersion := other.resourceVersion
    managedFields := other.managedFields } = other

theorem Metadata.Resembles.refl (m : Metadata) : m.Resembles m := rfl

/-- What lies at a place has the metadata that it had. -/
def Store.Frames (before after : Store Spec Status) (place : Target) : Prop :=
  ∀ old o, before place = some old → after place = some o → o.metadata.Resembles old.metadata

/-- A patch of the status leaves the metadata. -/
def Api.Framing (api : Api σ Spec Status) (stored : σ → Store Spec Status) : Prop :=
  ∀ place patch w,
    (stored w.state).Frames (stored (api.patchStatus place patch w).2.state) place

namespace Upshot

/-- What a call comes to that waits for another one, whether or not that one is refused. -/
def hold (u : Upshot Unit) : Upshot α → Upshot Unit
  | granted _ => u
  | refused => u
  | unanswered => unanswered

/-- The connection of an edge ingress, by what the storing of its child ingress came to. -/
def connection : Upshot Unit → Connection
  | granted _ => .up
  | refused => .down
  | unanswered => .down

end Upshot

namespace Dealing

/-- The child ingress that a request stores, with its place. -/
def application? (d : Dealing Spec Status) : Option (Target × Ingress) :=
  match d.demand with
  | .apply place ingress => some (place, ingress)
  | _ => none

/-- The connection that a request records. -/
def recording? (d : Dealing Spec Status) : Option Connection :=
  match d.demand with
  | .patchStatus _ patch =>
    (patch.get? "connection").bind fun j => (Decode.value Connection.decode j).toOption
  | _ => none

end Dealing

namespace Child

/-- What is asked for after a write, in its order. -/
def dealings (settings : ChildSettings) (apis : Apis σ) (edge : EdgeIngress) (w : World σ) :
    List (Dealing EdgeIngressSpec EdgeIngressStatus) :=
  (renew settings apis.dealing edge (w.noted [])).2.state.2

/-- What storing the child ingress of an edge ingress asks for, when it comes to `v`. -/
def Attempts (settings : ChildSettings) (edge : EdgeIngress) (v : Upshot Unit)
    (ds : List (Dealing EdgeIngressSpec EdgeIngressStatus)) : Prop :=
  match ofEdge settings edge with
  | .ok ingress => ds = [⟨.apply (placeOf edge) ingress, v⟩]
  | .error _ => v = .refused ∧ ds = []

/-- The request that records a connection. -/
def recording (edge : EdgeIngress) (connection : Connection) (p : Upshot EdgeIngress) :
    Dealing EdgeIngressSpec EdgeIngressStatus :=
  ⟨.patchStatus (placeOf edge) (connectionPatch connection), p.forget⟩

/-- All that can follow once the storing of the child ingress has come to `v`. -/
inductive Concluded (edge : EdgeIngress) (v : Upshot Unit)
    (before after : Store EdgeIngressSpec EdgeIngressStatus) :
    Upshot Unit → List (Dealing EdgeIngressSpec EdgeIngressStatus) → Prop where
  | recorded : edge.status.bind EdgeIngressStatus.connection = some v.connection →
      after = before → Concluded edge v before after v []
  | patched (p : Upshot EdgeIngress) :
      edge.status.bind EdgeIngressStatus.connection ≠ some v.connection →
      p.Done (after = before)
        (before.Patched EdgeIngress.kind after (placeOf edge) (connectionPatch v.connection)) →
      before.Frames after (placeOf edge) →
      Concluded edge v before after (v.hold p) [recording edge v.connection p]

/-- All that can happen after a write, when the storing of the child ingress comes to `v`. -/
inductive Renewal (settings : ChildSettings) (edge : EdgeIngress) (v : Upshot Unit)
    (before after : Store EdgeIngressSpec EdgeIngressStatus) :
    Upshot Unit → List (Dealing EdgeIngressSpec EdgeIngressStatus) → Prop where
  | pending {ds : List (Dealing EdgeIngressSpec EdgeIngressStatus)} : v = .unanswered →
      Attempts settings edge v ds → after = before →
      Renewal settings edge v before after .unanswered ds
  | concluded {u : Upshot Unit}
      {first rest : List (Dealing EdgeIngressSpec EdgeIngressStatus)} : v ≠ .unanswered →
      Attempts settings edge v first → Concluded edge v before after u rest →
      Renewal settings edge v before after u (first ++ rest)

variable {stored : σ → Store EdgeIngressSpec EdgeIngressStatus} {apis : Apis σ}
  {settings : ChildSettings} {edge : EdgeIngress}

theorem ends_storeIngress (hfaithful : apis.Faithful stored) (settings : ChildSettings)
    (edge : EdgeIngress) :
    Call.Ends (storeIngress settings apis.dealing edge) (storeIngress settings apis edge)
      fun s v ds s' => Attempts settings edge v ds ∧ stored s' = stored s := by
  rw [storeIngress, storeIngress]
  cases hingress : ofEdge settings edge with
  | error e =>
      refine Call.Ends.imp (.fail e.message) ?_
      rintro s v ds s' ⟨rfl, rfl, rfl⟩
      rw [Attempts, hingress]
      exact ⟨⟨rfl, rfl⟩, rfl⟩
  | ok ingress =>
      refine Call.Ends.context (Call.Ends.of_noting _ fun w => ⟨?_, hfaithful.ingresses _ _ w⟩) _
      rw [Attempts, hingress, ← place_of_ofEdge hingress]
      rcases (apis.ingresses _ ingress w).1 with (_ | _) | _ <;> rfl

theorem ends_reported (edge : EdgeIngress) (result : Except String EdgeIngress) :
    Call.Ends
      (match result with
        | .ok _ => Call.pure ()
        | .error _ => Call.report (connectionEntry edge.metadata.anyName) :
        Call (σ × List (Dealing EdgeIngressSpec EdgeIngressStatus)) Unit)
      (match result with
        | .ok _ => Call.pure ()
        | .error _ => Call.report (connectionEntry edge.metadata.anyName))
      fun s u ds s' => u = .granted () ∧ ds = [] ∧ s' = s := by
  cases result with
  | ok o => exact .pure ()
  | error message => exact .report _

theorem ends_recordConnection (hfaithful : apis.edges.Faithful EdgeIngress.kind stored)
    (hframing : apis.edges.Framing stored) (edge : EdgeIngress) (connection : Connection) :
    Call.Ends (recordConnection apis.dealing edge connection)
      (recordConnection apis edge connection) fun s u ds s' =>
        (edge.status.bind EdgeIngressStatus.connection = some connection ∧
          u = .granted () ∧ ds = [] ∧ stored s' = stored s) ∨
        (edge.status.bind EdgeIngressStatus.connection ≠ some connection ∧
          ∃ p : Upshot EdgeIngress, u = Upshot.hold (.granted ()) p ∧
            ds = [recording edge connection p] ∧
            p.Done (stored s' = stored s) ((stored s).Patched EdgeIngress.kind (stored s')
              (placeOf edge) (connectionPatch connection)) ∧
            (stored s).Frames (stored s') (placeOf edge)) := by
  rw [recordConnection, recordConnection]
  by_cases hrecorded : edge.status.bind EdgeIngressStatus.connection = some connection
  · rw [if_pos hrecorded, if_pos hrecorded]
    refine Call.Ends.imp (.pure ()) ?_
    rintro s u ds s' ⟨rfl, rfl, rfl⟩
    exact .inl ⟨hrecorded, rfl, rfl, rfl⟩
  · rw [if_neg hrecorded, if_neg hrecorded]
    have hpatch : Call.Ends
        (apis.dealing.edges.patchStatus (placeOf edge) (connectionPatch connection))
        (apis.edges.patchStatus (placeOf edge) (connectionPatch connection)) fun s p ds s' =>
          ds = [recording edge connection p] ∧ p.Done (stored s' = stored s)
            ((stored s).Patched EdgeIngress.kind (stored s') (placeOf edge)
              (connectionPatch connection)) ∧ (stored s).Frames (stored s') (placeOf edge) :=
      Call.Ends.of_noting _ fun w => ⟨rfl, (hfaithful.patchStatus _ _ w).done, hframing _ _ w⟩
    refine Call.Ends.imp (hpatch.attempt.bind (ends_reported edge)) ?_
    rintro s u ds s' (⟨-, hnever⟩ | ⟨rfl, rfl, hdone⟩ |
      ⟨result, mid, first, rest, rfl, hfirst, rfl, rfl, rfl⟩)
    · exact hnever.elim
    · exact .inr ⟨hrecorded, .unanswered, rfl, rfl, hdone⟩
    · rw [List.append_nil]
      cases result with
      | ok o =>
          obtain ⟨rfl, hdone⟩ := hfirst
          exact .inr ⟨hrecorded, .granted o, rfl, rfl, hdone⟩
      | error message =>
          obtain ⟨rfl, hdone⟩ := hfirst
          exact .inr ⟨hrecorded, .refused, rfl, rfl, hdone⟩

/-- The upshot of a call whose failure was caught. -/
def upshotOf : Except String Unit → Upshot Unit
  | .ok _ => .granted ()
  | .error _ => .refused

theorem upshotOf_ne_unanswered (result : Except String Unit) : upshotOf result ≠ .unanswered := by
  cases result <;> rintro ⟨⟩

/-- What follows the storing of the child ingress: its outcome is recorded, and then told. -/
def conclude (apis : Apis σ) (edge : EdgeIngress) (result : Except String Unit) : Call σ Unit :=
  (recordConnection apis edge (upshotOf result).connection).bind fun _ => Call.ofExcept result

theorem renew_eq (settings : ChildSettings) (apis : Apis σ) (edge : EdgeIngress) :
    renew settings apis edge =
      (storeIngress settings apis edge).attempt.bind (conclude apis edge) := by
  rw [renew]
  refine congrArg (Call.bind _) (funext fun result => ?_)
  cases result <;> rfl

theorem ends_conclude (hfaithful : apis.edges.Faithful EdgeIngress.kind stored)
    (hframing : apis.edges.Framing stored) (edge : EdgeIngress) (result : Except String Unit) :
    Call.Ends (conclude apis.dealing edge result) (conclude apis edge result)
      fun s u ds s' => Concluded edge (upshotOf result) (stored s) (stored s') u ds := by
  have hresult : Call.Ends (Call.ofExcept result :
        Call (σ × List (Dealing EdgeIngressSpec EdgeIngressStatus)) Unit)
      (Call.ofExcept result) fun s u ds s' => u = upshotOf result ∧ ds = [] ∧ s' = s := by
    cases result with
    | ok x => exact .pure x
    | error message => exact .fail message
  refine Call.Ends.imp ((ends_recordConnection hfaithful hframing edge
    (upshotOf result).connection).bind fun _ => hresult) ?_
  rintro s u ds s' (⟨rfl, hrefused⟩ | ⟨rfl, hpending⟩ |
    ⟨_, mid, first, rest, rfl, hrecord, rfl, rfl, rfl⟩)
  · -- Recording a connection is never refused.
    rcases hrefused with ⟨-, hu, -⟩ | ⟨-, p, hu, -⟩
    · cases hu
    · cases p <;> cases hu
  · rcases hpending with ⟨-, hu, -⟩ | ⟨hother, p, hu, rfl, hdone, hframe⟩
    · cases hu
    · cases p with
      | unanswered => exact .patched .unanswered hother hdone hframe
      | granted o => cases hu
      | refused => cases hu
  · rw [List.append_nil]
    rcases hrecord with ⟨hrecorded, -, rfl, hsame⟩ | ⟨hother, p, hu, rfl, hdone, hframe⟩
    · exact .recorded hrecorded hsame
    · cases p with
      | unanswered => cases hu
      | granted o => exact .patched (.granted o) hother hdone hframe
      | refused => exact .patched .refused hother hdone hframe

/-- What happens after a write, by what the storing of the child ingress comes to. -/
theorem renewal (hfaithful : apis.Faithful stored) (hframing : apis.edges.Framing stored)
    (settings : ChildSettings) (edge : EdgeIngress)
    (w : World σ) (notes : List (Dealing EdgeIngressSpec EdgeIngressStatus)) :
    ∃ ds, renew settings apis.dealing edge (w.noted notes) =
        ((renew settings apis edge w).1, (renew settings apis edge w).2.noted (notes ++ ds)) ∧
      Renewal settings edge (.of (storeIngress settings apis edge w).1) (stored w.state)
        (stored (renew settings apis edge w).2.state) (.of (renew settings apis edge w).1) ds := by
  obtain ⟨first, hends, hattempts, hmid⟩ := ends_storeIngress hfaithful settings edge w notes
  have hconclude : ∀ (result : Except String Unit) (mid : World σ),
      stored mid.state = stored w.state → Attempts settings edge (upshotOf result) first →
      ∃ ds, conclude apis.dealing edge result (mid.noted (notes ++ first)) =
          ((conclude apis edge result mid).1,
            (conclude apis edge result mid).2.noted (notes ++ ds)) ∧
        Renewal settings edge (upshotOf result) (stored w.state)
          (stored (conclude apis edge result mid).2.state)
          (.of (conclude apis edge result mid).1) ds := by
    intro result mid hsame hattempts
    obtain ⟨rest, hrest, hconcluded⟩ :=
      ends_conclude hfaithful.edges hframing edge result mid (notes ++ first)
    rw [hsame] at hconcluded
    rw [hrest, List.append_assoc]
    exact ⟨_, rfl, .concluded (upshotOf_ne_unanswered result) hattempts hconcluded⟩
  simp only [renew_eq, Call.bind, Call.attempt, hends]
  rcases hcall : storeIngress settings apis edge w with ⟨(message | _) | x, mid⟩
  · rw [hcall] at hattempts hmid
    exact hconclude (.error message) mid hmid hattempts
  · rw [hcall] at hattempts hmid
    exact ⟨first, rfl, .pending rfl hattempts hmid⟩
  · rw [hcall] at hattempts hmid
    exact hconclude (.ok x) mid hmid hattempts

end Child

end EdgeAgent
