import EdgeAgent.Cluster.Child
import EdgeAgent.Proofs.Sync.Moments

/-! What holds of the state of the server through the writes of the agent: all that the requests
preserve of which they consist. -/

namespace EdgeAgent

variable {σ Spec Status : Type}

/-- The first request of a write preserves what holds of a state. -/
def Write.Preserves (holds : σ → Prop) (api : Api σ Spec Status) :
    Write (Object Spec Status) → Prop
  | .create new => ∀ scope, (api.create scope new).Preserves holds
  | .update old new => ∀ place, (api.replace place (Upkeep.renewed old new)).Preserves holds
  | .delete _ => ∀ place, (api.delete place).Preserves holds

namespace Upkeep

variable {holds : σ → Prop} {kind : Kind Spec Status} {api : Api σ Spec Status}
  {old new : Object Spec Status}

theorem preserves_writeStatus (hpatch : ∀ place patch, (api.patchStatus place patch).Preserves holds)
    (scope : Option String) (o : Object Spec Status) (status : Option Status) :
    (writeStatus kind api scope o status).Preserves holds := by
  cases status with
  | none => exact .pure o
  | some status => exact (hpatch _ _).context _

theorem preserves_create (hpatch : ∀ place patch, (api.patchStatus place patch).Preserves holds)
    (hcreate : (Write.create new).Preserves holds api) : (create kind api new).Preserves holds :=
  ((hcreate _).context _).bind fun created => preserves_writeStatus hpatch _ created new.status

theorem preserves_update (hpatch : ∀ place patch, (api.patchStatus place patch).Preserves holds)
    (hreplace : (Write.update old new).Preserves holds api) :
    (update kind api old new).Preserves holds := by
  rw [update]
  split
  · exact .pure old
  · exact ((hreplace _).context _).bind fun replaced =>
      preserves_writeStatus hpatch _ replaced new.status

theorem preserves_write (hpatch : ∀ place patch, (api.patchStatus place patch).Preserves holds)
    {x : Write (Object Spec Status)} (hx : x.Preserves holds api) :
    (write kind api x).Preserves holds := by
  cases x with
  | create new => exact (preserves_create hpatch hx).bind fun _ => .pure ()
  | update old new => exact (preserves_update hpatch hx).bind fun _ => .pure ()
  | delete old => exact (hx _).context _

end Upkeep

namespace Child

variable {holds : σ → Prop} {apis : Apis σ}

theorem preserves_recordConnection
    (hpatch : ∀ place patch, (apis.edges.patchStatus place patch).Preserves holds)
    (edge : EdgeIngress) (connection : Connection) :
    (recordConnection apis edge connection).Preserves holds := by
  rw [recordConnection]
  split
  · exact .pure ()
  · refine (hpatch _ _).attempt.bind ?_
    rintro (_ | _)
    · exact .report _
    · exact .pure ()

theorem preserves_renew
    (hpatch : ∀ place patch, (apis.edges.patchStatus place patch).Preserves holds)
    (hingress : ∀ place ingress, (apis.ingresses place ingress).Preserves holds)
    (settings : ChildSettings) (edge : EdgeIngress) :
    (renew settings apis edge).Preserves holds := by
  have hstore : (storeIngress settings apis edge).Preserves holds := by
    rw [storeIngress]
    split
    · exact .fail _
    · exact (hingress _ _).context _
  refine hstore.attempt.bind fun result => ?_
  refine (preserves_recordConnection hpatch edge _).bind fun _ => ?_
  cases result with
  | ok x => exact .pure x
  | error message => exact .fail message

theorem preserves_write
    (hpatch : ∀ place patch, (apis.edges.patchStatus place patch).Preserves holds)
    (hingress : ∀ place ingress, (apis.ingresses place ingress).Preserves holds)
    (settings : ChildSettings) {x : Write EdgeIngress} (hx : x.Preserves holds apis.edges) :
    (write settings apis x).Preserves holds := by
  cases x with
  | create new =>
      exact (Upkeep.preserves_create hpatch hx).bind fun edge =>
        preserves_renew hpatch hingress settings edge
  | update old new =>
      exact (Upkeep.preserves_update hpatch hx).bind fun edge =>
        preserves_renew hpatch hingress settings edge
  | delete old => exact (hx _).context _

end Child

end EdgeAgent
