import EdgeAgent.Routing.Gateway

/-! Following the policies of a cluster: which of them have been announced so far, and what a new
listing of all of them means for the gateway. A policy that was announced and is not listed any more
is gone. -/

namespace EdgeAgent

/-- A namespace and a name. -/
abbrev Place := String × String

/-- A follower: a gateway, and the places of the policies that were announced and not withdrawn. -/
structure Follower where
  gateway : Gateway
  announced : List Place := []

/-- What a follower is told. -/
inductive Notice where
  /-- A policy is there, or has changed. -/
  | present (place : Place) (o : AccessControlPolicy)
  /-- A policy is gone. -/
  | gone (place : Place)
  /-- These policies are there, and no others. -/
  | listing (all : List (Place × AccessControlPolicy))

namespace Follower

def placesOf (all : List (Place × AccessControlPolicy)) : List Place :=
  (all.map (·.1)).eraseDups

/-- The places that were announced and are not listed. -/
def missing (f : Follower) (all : List (Place × AccessControlPolicy)) : List Place :=
  f.announced.filter fun place => place ∉ placesOf all

/-- A follower after it was told something. -/
def hear (f : Follower) : Notice → Follower × Log
  | .present place o =>
    let (g, log) := f.gateway.upsert o
    (⟨g, if place ∈ f.announced then f.announced else place :: f.announced⟩, log)
  | .gone place =>
    let (g, log) := f.gateway.deleteNamed place.1 place.2
    (⟨g, f.announced.erase place⟩, log)
  | .listing all =>
    let (g, log) := f.gateway.relist (all.map (·.2)) (f.missing all)
    (⟨g, placesOf all⟩, log)

end Follower

end EdgeAgent
