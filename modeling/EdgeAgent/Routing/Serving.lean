import EdgeAgent.Routing.Answer

/-! Replacing the active table. Only a table of a greater generation replaces it. Replacements and
requests of any number of parties are a sequence of `Step`s; a request takes its table when it
starts, and is answered from it whatever happens in between. -/

namespace EdgeAgent

namespace RoutingTable

/-- Whether a table replaces another. -/
def Replaces (offered active : RoutingTable) : Prop :=
  active.generation < offered.generation

instance (offered active : RoutingTable) : Decidable (offered.Replaces active) := by
  unfold Replaces
  infer_instance

/-- The active table after another was offered, and whether that was accepted. -/
def replace (active offered : RoutingTable) : RoutingTable × Bool :=
  if offered.Replaces active then (offered, true) else (active, false)

end RoutingTable

/-- A table that is replaced while requests are served. -/
structure Serving where
  active : RoutingTable := {}
  /-- The requests that have started, with the tables that they have taken. -/
  started : List (Nat × Request × RoutingTable) := []

namespace Serving

/-- What happens while requests are served. -/
inductive Step where
  /-- A table is offered. -/
  | offer (table : RoutingTable)
  /-- A request starts, under a number. -/
  | start (id : Nat) (request : Request)
  /-- The request under a number is answered. -/
  | finish (id : Nat)

/-- What comes of a step. -/
inductive Outcome where
  | accepted (b : Bool)
  | taken (generation : UInt64)
  | answered (response : Option Response)

/-- What a step changes, and what comes of it. -/
def step (s : Serving) : Step → Serving × Outcome
  | .offer table =>
    let (active, accepted) := s.active.replace table
    ({ s with active := active }, .accepted accepted)
  | .start id request =>
    ({ s with started := (id, request, s.active) :: s.started }, .taken s.active.generation)
  | .finish id =>
    let call := s.started.find? fun c => c.1 = id
    (s, .answered (call.map fun (_, request, table) => table.serve request))

/-- What a sequence of steps changes, and what comes of them. -/
def run (s : Serving) : List Step → Serving × List Outcome
  | [] => (s, [])
  | x :: r =>
    let (s, outcome) := s.step x
    let (s, outcomes) := run s r
    (s, outcome :: outcomes)

end Serving

end EdgeAgent
