import EdgeAgent.Proofs.Cluster.Writes

/-! Writes of edge ingresses with their child ingresses. Storing the child ingress and recording how
that went change no outline, so that a write comes to the same turn as without. -/

namespace EdgeAgent.Child

variable {σ ι D : Type} {stored : σ → Store EdgeIngressSpec EdgeIngressStatus} {apis : Apis σ}

/-- What a server does with edge ingresses; their child ingresses are other objects. -/
structure Apis.Faithful (apis : Apis σ) (stored : σ → Store EdgeIngressSpec EdgeIngressStatus) :
    Prop where
  edges : apis.edges.Faithful EdgeIngress.kind stored
  ingresses : ∀ place ingress w, stored (apis.ingresses place ingress w).2.state = stored w.state

theorem keeps_storeIngress (hfaithful : apis.Faithful stored) (settings : ChildSettings)
    (edge : EdgeIngress) :
    Call.Keeps EdgeIngress.kind stored (storeIngress settings apis.noted edge)
      (storeIngress settings apis edge) := by
  rw [storeIngress, storeIngress]
  cases ofEdge settings edge with
  | error e => exact Call.keeps_fail e.message
  | ok ingress =>
      refine Call.Traces.context (Call.Traces.of_noting _ ?_ ?_) _
      · intro w x _
        exact congrArg (Store.outlines EdgeIngress.kind) (hfaithful.ingresses _ _ w)
      · intro w stop _
        exact congrArg (Store.outlines EdgeIngress.kind) (hfaithful.ingresses _ _ w)

/-- The connection is another field of the status than the fingerprint. -/
theorem keeps_patchConnection (hfaithful : apis.Faithful stored) (place : Target)
    (connection : Connection) :
    Call.Keeps EdgeIngress.kind stored
      (apis.noted.edges.patchStatus place (connectionPatch connection))
      (apis.edges.patchStatus place (connectionPatch connection)) := by
  have hpatch := hfaithful.edges.requests_patchStatus place (connectionPatch connection) id
    fun j before after hj hmerged =>
      Kind.hash_of_stands_merge EdgeIngress.recording (by simp [Kind.hashField]) hj hmerged
  have hsame : ∀ before after : Target → Option (Outline EdgeIngressSpec),
      (∃ o, before place = some o ∧
        after = Function.update before place (some ⟨o.spec, id o.hash, o.managed⟩)) →
      after = before := by
    rintro before after ⟨o, ho, rfl⟩
    exact Function.update_eq_self_iff.2 ho.symm
  refine Call.Traces.imp hpatch ?_ ?_
  · rintro s _ es s' ⟨-, hacted⟩
    exact hsame _ _ hacted
  · rintro s es s' ⟨-, hunchanged | ⟨_, hacted⟩⟩
    · exact hunchanged
    · exact hsame _ _ hacted

theorem keeps_recordConnection (hfaithful : apis.Faithful stored) (edge : EdgeIngress)
    (connection : Connection) :
    Call.Keeps EdgeIngress.kind stored (recordConnection apis.noted edge connection)
      (recordConnection apis edge connection) := by
  rw [recordConnection, recordConnection]
  by_cases hrecorded : edge.status.bind EdgeIngressStatus.connection = some connection
  · rw [if_pos hrecorded, if_pos hrecorded]
    exact Call.keeps_pure ()
  · rw [if_neg hrecorded, if_neg hrecorded]
    refine (keeps_patchConnection hfaithful _ connection).attempt.bind ?_
    rintro (_ | _)
    · exact Call.keeps_report _
    · exact Call.keeps_pure ()

/-- Storing the child ingress leaves the edge ingress as it is but for its connection. -/
theorem keeps_renew (hfaithful : apis.Faithful stored) (settings : ChildSettings)
    (edge : EdgeIngress) :
    Call.Keeps EdgeIngress.kind stored (renew settings apis.noted edge)
      (renew settings apis edge) := by
  refine (keeps_storeIngress hfaithful settings edge).attempt.bind fun result => ?_
  refine (keeps_recordConnection hfaithful edge _).bind fun _ => ?_
  cases result with
  | ok x => exact Call.keeps_pure x
  | error message => exact Call.keeps_fail message

theorem does_write {census : Census σ ι D} {slot : Target → ι} (hfaithful : apis.Faithful stored)
    (hcollects : apis.edges.Collects census slot stored) (settings : ChildSettings)
    {x : Write EdgeIngress} (hx : x.Wanted EdgeIngress.kind) :
    Call.Traces (write settings apis.noted x) (write settings apis x)
      (fun s _ es s' => x.Does EdgeIngress.kind stored (census.Owns slot) es s s')
      fun s es s' => x.Does EdgeIngress.kind stored (census.Owns slot) es s s' := by
  cases x with
  | create new =>
      exact (Upkeep.changes_create hfaithful.edges EdgeIngress.recording hx).bind fun edge =>
        keeps_renew hfaithful settings edge
  | update old new =>
      exact (Upkeep.changes_update hfaithful.edges EdgeIngress.recording hx).bind fun edge =>
        keeps_renew hfaithful settings edge
  | delete old => exact Upkeep.does_delete hcollects old

end EdgeAgent.Child
