import EdgeAgent.Http.Percent
import EdgeAgent.Routing.Table

/-! Serving requests. A request names a policy by the first segment of its path and is answered by
the handler of that policy in the table that was active when the request came. -/

namespace EdgeAgent

/-- The answer to a request, with the tokens that were asked about and what was reported. -/
structure Response where
  status : Nat
  headers : Headers := []
  asked : List String := []
  log : Log := []

namespace RoutingTable

/-- The byte of `/`. -/
def slash : UInt8 := 47

/-- The first segment of a path, after any slashes. -/
def firstSegment (path : List UInt8) : List UInt8 :=
  (path.dropWhile (· = slash)).takeWhile (· ≠ slash)

/-- The key that a path names. -/
def keyOfPath (path : List UInt8) : String :=
  Utf8.lossy (Percent.decode (firstSegment path))

def answer (route : Route) (request : Request) : Response :=
  let verdict := route.handler request
  match verdict.decision with
  | .allow headers => ⟨200, headers, verdict.asked, verdict.log⟩
  | .deny headers => ⟨401, headers, verdict.asked, verdict.log⟩

def serve (t : RoutingTable) (request : Request) : Response :=
  match t.find? (keyOfPath request.uri.path) with
  | some route => answer route request
  | none => { status := 404 }

end RoutingTable

end EdgeAgent
