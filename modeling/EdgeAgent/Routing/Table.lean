import EdgeAgent.Access.Decision
import EdgeAgent.Text.Quoted

/-! Routing tables: the handlers of all policies in force, by key, with a generation that grows
from table to table. -/

namespace EdgeAgent

/-- A policy in force: its handler and the fingerprint of its spec. -/
structure Route where
  handler : Handler
  fingerprint : String

/-- A routing table. -/
structure RoutingTable where
  generation : UInt64 := 0
  /-- The routes by the text of their keys. -/
  routes : Dict Route := {}

namespace RoutingTable

/-- The table of a generation with given routes. Of several with one key the last counts. -/
def ofRoutes (generation : UInt64) (routes : List (Key × Route)) : RoutingTable where
  generation := generation
  routes := Dict.ofList (routes.map fun r => (r.1.text, r.2))

/-- The route under a key. -/
def find? (t : RoutingTable) (key : String) : Option Route :=
  t.routes.find? key

/-- The number of routes. -/
def size (t : RoutingTable) : Nat :=
  t.routes.size

/-- Texts with commas between them. -/
def commas : List String → String
  | [] => ""
  | [s] => s
  | s :: r => s ++ ", " ++ commas r

/-- What a table shows of itself in a message. -/
def describe (t : RoutingTable) : String :=
  "RoutingTable \x7b generation: " ++ Decimal.text t.generation.toNat ++ ", keys: [" ++
    commas (t.routes.names.map Quoted.text) ++ "] \x7d"

end RoutingTable

/-- What a route shows of itself in a message. -/
def Route.describe (r : Route) : String :=
  "RoutingEntry \x7b fingerprint: " ++ Quoted.text r.fingerprint ++ ", .. \x7d"

end EdgeAgent
