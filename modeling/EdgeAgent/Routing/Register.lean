import EdgeAgent.Access.Enforce
import EdgeAgent.Access.Policy
import EdgeAgent.Routing.Serving

/-! The register keeps the known policies and offers a new table whenever they change. A
table is built from all known policies; those that cannot be put into force are left out of it,
reported and counted. Once the generations are used up, the next table cannot be offered, and the
register comes to a halt. -/

namespace EdgeAgent

/-- A change of the policies. -/
inductive PolicyChange where
  | upsert (policy : Policy)
  | delete (key : Key)
  deriving DecidableEq

/-- The key of the policy that a change is about. -/
def PolicyChange.key : PolicyChange → Key
  | .upsert policy => policy.key
  | .delete key => key

/-- What the register knows. -/
structure Register where
  /-- The specs of the known policies, by the text of their keys. -/
  policies : Dict PolicySpec := {}
  /-- The generation of the table offered last. -/
  generation : UInt64
  /-- How often a policy could not be put into force. -/
  failures : Nat := 0
  /-- Whether a table could not be offered because there was no generation left for it. -/
  halted : Bool := false

/-- A table with its register, and what was reported. -/
structure Routed where
  register : Register
  active : RoutingTable
  log : Log := []

namespace Register

/-- The register of an active table. -/
def ofTable (table : RoutingTable) : Register where
  generation := table.generation

/-- The report that a policy cannot be put into force. -/
def failure (key : String) (error : PolicyFlaw) : LogEntry :=
  ⟨.error, "Failed to compile policy", [("key", key), ("error", error.message)]⟩

/-- The routes of the policies that can be put into force. -/
def routes (validate : Validator) (policies : Dict PolicySpec) : List (Key × Route) :=
  policies.entries.filterMap fun (key, spec) =>
    match spec.enforce validate with
    | .ok handler => some (⟨key⟩, ⟨handler, spec.hash⟩)
    | .error _ => none

/-- The reports of the policies that cannot be put into force. -/
def failuresOf (validate : Validator) (policies : Dict PolicySpec) : Log :=
  policies.entries.filterMap fun (key, spec) =>
    match spec.enforce validate with
    | .ok _ => none
    | .error e => some (failure key e)

/-- The policies after a change, if it makes a difference. -/
def changed? (policies : Dict PolicySpec) : PolicyChange → Option (Dict PolicySpec)
  | .upsert policy =>
    if policies.find? policy.key.text = some policy.spec then none
    else some (policies.insert policy.key.text policy.spec)
  | .delete key =>
    if (policies.find? key.text).isSome then some (policies.erase key.text) else none

/-- The generation after another one, if there is one. -/
def nextGeneration? (generation : UInt64) : Option UInt64 :=
  if generation.toNat + 1 < UInt64.size then some (generation + 1) else none

/-- A table built from all policies and offered. -/
def offer (validate : Validator) (policies : Dict PolicySpec) (s : Routed) : Routed :=
  let failed := failuresOf validate policies
  let failures := s.register.failures + failed.length
  let log := s.log ++ failed
  match nextGeneration? s.register.generation with
  | some generation =>
    { register := ⟨policies, generation, failures, false⟩
      active := (s.active.replace (.ofRoutes generation (routes validate policies))).1
      log := log }
  | none => { s with register := ⟨policies, s.register.generation, failures, true⟩, log := log }

/-- What comes of a change. A register at a halt takes none. -/
def enter (validate : Validator) (s : Routed) (change : PolicyChange) : Routed :=
  if s.register.halted then s
  else
    match changed? s.register.policies change with
    | some policies => offer validate policies s
    | none => s

/-- What comes of changes, one after the other. -/
def enterAll (validate : Validator) (s : Routed) (changes : List PolicyChange) : Routed :=
  changes.foldl (enter validate) s

/-- The counters of the register and of the active table, one line each. A generation is given as
a signed number of 64 bits. -/
def metrics (r : Register) (active : RoutingTable) : List String := [
  "policy_compile_failures_total " ++ Decimal.text r.failures,
  "routing_table_entries " ++ Decimal.text active.size,
  "routing_table_generation " ++ String.ofList (Decimal.ofInt active.generation.toInt64.toInt)]

end Register

end EdgeAgent
