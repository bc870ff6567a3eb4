import EdgeAgent.Sync.Pass

/-! The counters of passes: how often each operation has succeeded and failed, and how many passes
were completed and aborted. -/

namespace EdgeAgent

/-- What a pass counts. -/
inductive Operation where
  | create
  | delete
  | materialize
  | update
  deriving DecidableEq

namespace Operation

def name : Operation → String
  | .create => "create"
  | .delete => "delete"
  | .materialize => "materialize"
  | .update => "update"

/-- All operations, in the order of their names. -/
def all : List Operation := [.create, .delete, .materialize, .update]

end Operation

def Write.operation {R : Type} : Write R → Operation
  | .create _ => .create
  | .update _ _ => .update
  | .delete _ => .delete

/-- Whether a result is a success. -/
def succeeded {ε α : Type} : Except ε α → Bool
  | .ok _ => true
  | .error _ => false

/-- The operations that a step counts, each with whether it succeeded. A record for which a write
was made has become an object. -/
def Report.operations {R : Type} : Report R → List (Operation × Bool)
  | .unbuildable _ => [(.materialize, false)]
  | .wrote _ (.delete _) result => [(.delete, succeeded result)]
  | .wrote _ w result => [(.materialize, true), (w.operation, succeeded result)]

def PassOutcome.operations {R : Type} : PassOutcome R → List (Operation × Bool)
  | .aborted _ _ => []
  | .completed reports => reports.flatMap Report.operations

def PassOutcome.isCompleted {R : Type} : PassOutcome R → Bool
  | .aborted _ _ => false
  | .completed _ => true

/-- The counters of passes. -/
structure Counters where
  /-- How often an operation has succeeded, or failed. -/
  operations : Operation → Bool → Nat := fun _ _ => 0
  completed : Nat := 0
  aborted : Nat := 0

namespace Counters

/-- The counters after one pass more. -/
def add {R : Type} (c : Counters) (outcome : PassOutcome R) : Counters where
  operations := fun op ok => c.operations op ok + outcome.operations.count (op, ok)
  completed := if outcome.isCompleted then c.completed + 1 else c.completed
  aborted := if outcome.isCompleted then c.aborted else c.aborted + 1

def sample (name : String) (labels : List (String × String)) (count : Nat) : Option String :=
  if count = 0 then none
  else
    let pairs := labels.map fun (label, value) => label ++ "=\"" ++ value ++ "\""
    some (name ++ "\x7b" ++ ",".intercalate pairs ++ "\x7d " ++ Decimal.text count)

/-- The samples of the counters that have counted, in their order as texts. -/
def lines (kind : String) (c : Counters) : List String :=
  let result := fun (ok : Bool) => if ok then "success" else "failure"
  let operations := Operation.all.flatMap fun op => [false, true].filterMap fun ok =>
    sample "sync_operations_total" [("kind", kind), ("op", op.name), ("result", result ok)]
      (c.operations op ok)
  let passes := [("aborted", c.aborted), ("completed", c.completed)].filterMap
    fun (outcome, count) => sample "sync_passes_total" [("kind", kind), ("outcome", outcome)] count
  operations ++ passes

end Counters

/-- A world with the counters of its passes. -/
structure Counted (σ : Type) where
  world : World σ
  counters : Counters := {}

/-- A counted world after a pass. -/
def Sides.count {σ R : Type} (s : Sides σ R) (c : Counted σ) : Counted σ :=
  let (outcome, world) := s.pass c.world
  ⟨world, c.counters.add outcome⟩

end EdgeAgent
