import EdgeAgent.Routing.Register

/-! The gateway: an active table, the register behind it, and the queue through which changes of
policies reach the register. A full queue refuses changes and reports them; once no more changes are
entered in the register, be it that it has come to a halt, a change is refused without a report. -/

namespace EdgeAgent

/-- Whether changes are entered in the register: not yet, now, or no more. -/
inductive Phase where
  | waiting
  | running
  | stopped
  deriving DecidableEq

/-- A gateway. -/
structure Gateway where
  active : RoutingTable := {}
  register : Register
  /-- The number of changes that the queue holds at most. -/
  capacity : Nat
  queue : List PolicyChange := []
  /-- Whether changes may still be sent. -/
  accepting : Bool := true
  phase : Phase := .waiting

namespace Gateway

/-- The gateway with an active table, before any change is entered. -/
def ofTable (table : RoutingTable) (capacity : Nat) : Gateway where
  active := table
  register := .ofTable table
  capacity := capacity

/-- The report that a change was refused. -/
def overflow (key : Key) : LogEntry :=
  ⟨.error, "Policy event queue is full; dropping event", [("key", key.text)]⟩

/-- The report that no more changes are entered in the register. -/
def stoppedEntry : LogEntry :=
  ⟨.info, "Policy watcher stopped", []⟩

/-- A gateway after a change was sent. -/
def send (g : Gateway) (change : PolicyChange) : Gateway × Log :=
  if g.phase = .stopped then (g, [])
  else if g.queue.length < g.capacity then ({ g with queue := g.queue ++ [change] }, [])
  else (g, [overflow change.key])

/-- A gateway after a policy was added or changed. -/
def upsert (g : Gateway) (o : AccessControlPolicy) : Gateway × Log :=
  match Policy.ofObject o with
  | .ok policy => g.send (.upsert policy)
  | .error e => (g, [⟨.warn, "Dropping malformed policy", [("error", e)]⟩])

/-- A gateway after a policy was deleted. -/
def delete (g : Gateway) (o : AccessControlPolicy) : Gateway × Log :=
  match Policy.ofObject o with
  | .ok policy => g.send (.delete policy.key)
  | .error e => (g, [⟨.warn, "Dropping malformed policy deletion", [("error", e)]⟩])

/-- A gateway after the policy of a name in a namespace was deleted. -/
def deleteNamed (g : Gateway) (ns name : String) : Gateway × Log :=
  g.send (.delete (.of name (some ns)))

/-- A gateway after operations in their order. -/
def sequence (g : Gateway) (operations : List (Gateway → Gateway × Log)) : Gateway × Log :=
  operations.foldl (fun (g, log) operation =>
    let (g, more) := operation g
    (g, log ++ more)) (g, [])

/-- A gateway after all policies were listed anew: those that are there are sent, and then those
that are gone. -/
def relist (g : Gateway) (listed : List AccessControlPolicy) (removed : List (String × String)) :
    Gateway × Log :=
  g.sequence (listed.map (fun o g => g.upsert o) ++
    removed.map fun (ns, name) g => g.deleteNamed ns name)

/-- A gateway after some of the changes that it holds were entered, the oldest ones. When the
register comes to a halt, the changes that are left are discarded. -/
def drain (validate : Validator) (count : Nat) (g : Gateway) : Gateway × Log :=
  let s := Register.enterAll validate ⟨g.register, g.active, []⟩ (g.queue.take count)
  let queue := if s.register.halted then [] else g.queue.drop count
  ({ g with active := s.active, register := s.register, queue := queue }, s.log)

/-- A gateway that begins to enter changes. -/
def start (g : Gateway) : Gateway :=
  { g with phase := .running }

/-- A gateway that is left alone until nothing more happens. When no more changes can be sent, none
is entered after the last one. -/
def settle (validate : Validator) (g : Gateway) : Gateway × Log :=
  match g.phase with
  | .running =>
    let (g, log) := g.drain validate g.queue.length
    (if g.accepting && !g.register.halted then g else { g with phase := .stopped }, log)
  | _ => (g, [])

/-- The number of changes that are entered at most in one turn. -/
def turn : Nat := 128

/-- A gateway that is told to stop. One that enters changes finishes the turn that is due, in which
it may end by itself or come to a halt; then the changes that are left are discarded. -/
def shutdown (validate : Validator) (g : Gateway) : Gateway × Log :=
  let stop := fun (g : Gateway) => { g with queue := [], phase := .stopped }
  match g.phase with
  | .waiting => (stop g, [stoppedEntry])
  | .running =>
    let ended := !g.accepting && g.queue.length < turn
    let (g, log) := g.drain validate turn
    (stop g, if ended || g.register.halted then log else log ++ [stoppedEntry])
  | .stopped => (g, [])

/-- A gateway to which no more changes are sent. -/
def close (validate : Validator) (g : Gateway) : Gateway × Log :=
  { g with accepting := false }.settle validate

/-- A gateway with a table offered by another party, and whether it was accepted. -/
def replace (g : Gateway) (table : RoutingTable) : Gateway × Bool :=
  let (active, accepted) := g.active.replace table
  ({ g with active := active }, accepted)

/-- The answer to a request. -/
def serve (g : Gateway) (request : Request) : Response :=
  g.active.serve request

/-- The counters. -/
def metrics (g : Gateway) : List String :=
  g.register.metrics g.active

end Gateway

end EdgeAgent
