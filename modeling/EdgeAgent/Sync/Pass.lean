import EdgeAgent.Sync.Call
import EdgeAgent.Sync.Plan
import EdgeAgent.Text.Span

/-! A pass brings the cluster into line with the platform: it lists both sides, and makes the
writes of the plan one after the other. A write that fails is reported and does not keep the others
from being made; when a side cannot be listed, nothing is written. -/

namespace EdgeAgent

/-- The two sides of a pass, and the kind of objects that it is about. -/
structure Sides (σ R : Type) where
  /-- The name of the kind. -/
  kind : String
  /-- How many milliseconds a call may take. -/
  timeout : Nat
  keyOf : R → Key
  /-- Lists the records of the platform, each with the object that it becomes. -/
  desired : Call σ (List (Except String R))
  /-- Lists the objects of the cluster. -/
  existing : Call σ (List R)
  write : Write R → Call σ Unit

/-- A side. -/
inductive Side where
  | platform
  | cluster
  deriving DecidableEq

/-- What came of a step. -/
inductive Report (R : Type) where
  | unbuildable (error : String)
  | wrote (key : Key) (w : Write R) (result : Except String Unit)

/-- What came of a pass. -/
inductive PassOutcome (R : Type) where
  /-- A side could not be listed. -/
  | aborted (side : Side) (error : String)
  | completed (reports : List (Report R))

/-- The message about a call that did not answer. -/
def Stop.message (timeout : Nat) : Stop → String
  | .failed message => message
  | .silent => "timed out after " ++ Span.text timeout

namespace Report

variable {R : Type}

/-- The events that are reported of a step. A successful update is none. -/
def entries (kind : String) : Report R → Log
  | .unbuildable e => [⟨.error, "Failed to build cluster resource", [("kind", kind), ("error", e)]⟩]
  | .wrote key (.create _) (.ok _) => [⟨.info, "Created", [("kind", kind), ("key", key.text)]⟩]
  | .wrote key (.create _) (.error e) =>
    [⟨.error, "Failed to create resource", [("kind", kind), ("key", key.text), ("error", e)]⟩]
  | .wrote _ (.update _ _) (.ok _) => []
  | .wrote key (.update _ _) (.error e) =>
    [⟨.error, "Failed to update resource", [("kind", kind), ("key", key.text), ("error", e)]⟩]
  | .wrote key (.delete _) (.ok _) => [⟨.info, "Deleted", [("kind", kind), ("key", key.text)]⟩]
  | .wrote key (.delete _) (.error e) =>
    [⟨.error, "Failed to delete resource", [("kind", kind), ("key", key.text), ("error", e)]⟩]

end Report

/-- The event that is reported of a side that could not be listed. -/
def Side.entry (kind : String) (side : Side) (error : String) : LogEntry :=
  let message := match side with
    | .platform => "Failed to list platform resources"
    | .cluster => "Failed to list cluster resources"
  ⟨.error, message, [("kind", kind), ("error", error)]⟩

namespace Sides

variable {σ R : Type}

/-- A world with more events reported. -/
def reported (w : World σ) (entries : Log) : World σ :=
  { w with log := w.log ++ entries }

/-- What comes of a step. -/
def perform (s : Sides σ R) (w : World σ) : Step R → Report R × World σ
  | .unbuildable e => (.unbuildable e, w)
  | .write key x =>
    match s.write x w with
    | (.ok _, w) => (.wrote key x (.ok ()), w)
    | (.error stop, w) => (.wrote key x (.error (stop.message s.timeout)), w)

/-- What comes of steps, with each reported after it was made. -/
def performAll (s : Sides σ R) : World σ → List (Step R) → List (Report R) × World σ
  | w, [] => ([], w)
  | w, step :: steps =>
    let (report, w) := s.perform w step
    let (reports, w) := performAll s (reported w (report.entries s.kind)) steps
    (report :: reports, w)

/-- What comes of a pass. -/
def pass (s : Sides σ R) (w : World σ) : PassOutcome R × World σ :=
  let abort := fun (side : Side) (stop : Stop) (w : World σ) =>
    let error := stop.message s.timeout
    (PassOutcome.aborted side error, reported w [side.entry s.kind error])
  match s.desired w with
  | (.error stop, w) => abort .platform stop w
  | (.ok desired, w) =>
    match s.existing w with
    | (.error stop, w) => abort .cluster stop w
    | (.ok existing, w) =>
      let (reports, w) := s.performAll w (Step.plan s.keyOf desired existing)
      (.completed reports, w)

end Sides

end EdgeAgent
