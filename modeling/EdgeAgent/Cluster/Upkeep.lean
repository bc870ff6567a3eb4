import EdgeAgent.Cluster.Api
import EdgeAgent.Sync.Plan

/-! How a write of a pass becomes requests. Spec and status of an object are written by separate
requests. An object is replaced only when the fingerprint of the wanted spec differs from the
recorded one; its metadata is then kept, but for the labels that are wanted. -/

namespace EdgeAgent

namespace Upkeep

variable {σ Spec Status : Type}

/-- An object with the spec and the labels of a wanted one. Its own other labels are kept. -/
def renewed (old wanted : Object Spec Status) : Object Spec Status :=
  let labels := match wanted.metadata.labels with
    | some labels => some ((old.metadata.labels.getD Dict.empty).overlay labels)
    | none => old.metadata.labels
  { old with
    spec := wanted.spec
    metadata := { old.metadata with labels := labels } }

/-- Whether the wanted spec is the recorded one. -/
def unchanged (kind : Kind Spec Status) (old wanted : Object Spec Status) : Bool :=
  (old.recordedHash kind).isSome && old.recordedHash kind = wanted.recordedHash kind

/-- Where an object is looked for. -/
def target (kind : Kind Spec Status) (o : Object Spec Status) : Target :=
  ⟨kind.scope o.metadata.ns, o.metadata.anyName⟩

/-- Writes a wanted status to a stored object. -/
def writeStatus (kind : Kind Spec Status) (api : Api σ Spec Status) (scope : Option String)
    (stored : Object Spec Status) (status : Option Status) : Call σ (Object Spec Status) :=
  match status with
  | none => Call.pure stored
  | some status =>
    let name := stored.metadata.anyName
    (api.patchStatus ⟨scope, name⟩ (kind.encodeStatus status).sorted).context
      ("failed to patch status of " ++ name)

def list (kind : Kind Spec Status) (api : Api σ Spec Status) : Call σ (List (Object Spec Status)) :=
  api.list.context ("failed to list " ++ kind.name)

/-- Stores a new object with its status, and gives it as it is stored. -/
def create (kind : Kind Spec Status) (api : Api σ Spec Status) (new : Object Spec Status) :
    Call σ (Object Spec Status) := do
  let scope := kind.scope new.metadata.ns
  let created ← (api.create scope new).context ("failed to create " ++ new.metadata.anyName)
  writeStatus kind api scope created new.status

/-- Replaces an object that has changed, with its status, and gives it as it is stored. -/
def update (kind : Kind Spec Status) (api : Api σ Spec Status) (old new : Object Spec Status) :
    Call σ (Object Spec Status) :=
  if unchanged kind old new then Call.pure old
  else do
    let place := target kind old
    let replaced ← (api.replace place (renewed old new)).context
      ("failed to replace " ++ place.name)
    writeStatus kind api place.scope replaced new.status

/-- Removes an object. -/
def delete (kind : Kind Spec Status) (api : Api σ Spec Status) (old : Object Spec Status) :
    Call σ Unit :=
  let place := target kind old
  (api.delete place).context ("failed to delete " ++ place.name)

/-- A write of a pass. -/
def write (kind : Kind Spec Status) (api : Api σ Spec Status) :
    Write (Object Spec Status) → Call σ Unit
  | .create new => do
    let _ ← create kind api new
    return ()
  | .update old new => do
    let _ ← update kind api old new
    return ()
  | .delete old => delete kind api old

end Upkeep

end EdgeAgent
