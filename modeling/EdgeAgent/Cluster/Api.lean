import EdgeAgent.Resource.Ingress
import EdgeAgent.Resource.Object
import EdgeAgent.Sync.Call

/-! What the agent asks of the server that stores the objects of the cluster. -/

namespace EdgeAgent

/-- Where an object is looked for: its namespace, if its kind has any, and its name. -/
structure Target where
  scope : Option String
  name : String
  deriving DecidableEq

/-- The namespace of objects that name none. -/
def defaultNamespace : String := "default"

/-- The namespace in which objects of a kind are looked for. -/
def Kind.scope {Spec Status : Type} (kind : Kind Spec Status) (ns : Option String) :
    Option String :=
  if kind.namespaced then some (ns.getD defaultNamespace) else none

/-- The requests about the objects of one kind. -/
structure Api (σ Spec Status : Type) where
  /-- The objects in all namespaces that carry the label of the agent. -/
  list : Call σ (List (Object Spec Status))
  /-- Stores a new object in a namespace. -/
  create : Option String → Object Spec Status → Call σ (Object Spec Status)
  /-- Replaces an object but for its status. -/
  replace : Target → Object Spec Status → Call σ (Object Spec Status)
  /-- Merges a patch into the status of an object. -/
  patchStatus : Target → Json → Call σ (Object Spec Status)
  /-- Removes an object, and before it the objects that it owns. -/
  delete : Target → Call σ Unit

/-- The request about ingresses: stores one, whether or not there was one. -/
abbrev IngressApi (σ : Type) := Target → Ingress → Call σ Unit

end EdgeAgent
