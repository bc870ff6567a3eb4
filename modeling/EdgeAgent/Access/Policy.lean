import EdgeAgent.Resource.AccessControlPolicy

/-! Policies as the router knows them: a spec under the key of its object. -/

namespace EdgeAgent

/-- A policy with its key. -/
structure Policy where
  key : Key
  spec : PolicySpec
  deriving DecidableEq

namespace Policy

/-- The message about an object without a name or a namespace. -/
def incomplete : String := "access control policy must have a name and a namespace"

/-- The policy of an object, which needs a name and a namespace. -/
def ofObject (o : AccessControlPolicy) : Except String Policy :=
  let name := o.metadata.name.getD ""
  let ns := o.metadata.ns.getD ""
  if name = "" ∨ ns = "" then .error incomplete
  else .ok ⟨Key.of name (some ns), o.spec⟩

/-- The fingerprint of the spec of a policy. -/
def fingerprint (p : Policy) : String :=
  p.spec.hash

end Policy

end EdgeAgent
