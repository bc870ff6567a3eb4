import EdgeAgent.Cluster.Server
import EdgeAgent.Text.Cut

/-! The server as it is seen over HTTP: objects are JSON values at paths, and what is to be done is
said by the method, the path and the body of a request. A server may be told to give other answers
to some requests, or none. -/

namespace EdgeAgent

namespace Wire

/-- The method of a request. -/
inductive Method where
  | get
  | post
  | put
  | patch
  | delete
  deriving DecidableEq

def Method.name : Method → String
  | .get => "GET"
  | .post => "POST"
  | .put => "PUT"
  | .patch => "PATCH"
  | .delete => "DELETE"

/-- A request. -/
structure Request where
  method : Method
  path : String
  query : List (String × String) := []
  contentType : Option String := none
  body : Option Json := none

/-- The body of an answer. -/
inductive Body where
  | json (j : Json)
  | text (s : String)

/-- An answer. -/
structure Answer where
  status : Nat
  body : Body

/-- What a server does about a request that it has been told to answer otherwise. -/
inductive Instead where
  | silence
  | answer (a : Answer)

/-- An order to answer some requests otherwise. -/
structure Fault where
  method : Option String := none
  path : Option String := none
  /-- How many more times it holds, if not for ever. -/
  times : Option Nat := none
  what : Instead

/-- The server with the orders that it has, and the requests that it has seen. -/
structure State where
  server : Server String Json := {}
  faults : List Fault := []
  requests : List Request := []

/-- How the server looks into JSON objects. -/
def form : Form Json where
  label? name d := d.strAt? ["metadata", "labels", name]
  version? d := d.strAt? ["metadata", "resourceVersion"]
  uid? d := d.strAt? ["metadata", "uid"]
  owners d :=
    let references := (d.at? ["metadata", "ownerReferences"]).bind Json.arr?
    (references.getD []).filterMap (Json.strAt? ["uid"])
  stamp version uid d :=
    match d.get? "metadata" with
    | some (.obj fields) =>
      d.set "metadata"
        (((Json.obj fields).set "resourceVersion" (.str version)).setOption "uid" (uid.map .str))
    | some _ => d
    | none => d.set "metadata" .null
  withoutStatus d := d.remove "status"
  withStatusOf stored d := d.setOption "status" (stored.get? "status")
  mergeStatus patch d := d.set "status" (Json.merge ((d.get? "status").getD .null) patch)

def segments (path : String) : List String :=
  (fields '/' path.toList).map String.ofList

/-- Whether an object lies in a collection: in the same group and version, in any namespace. -/
def inCollection (collection path : String) : Bool :=
  let wanted := segments collection
  let given := segments path
  wanted.dropLast.isPrefixOf given && wanted.length ≤ given.length &&
    given.dropLast.getLast? = wanted.getLast?

/-- The parts of a label selector. -/
def selector (request : Request) : String × String :=
  match request.query.find? fun q => q.1 = "labelSelector" with
  | some (_, value) =>
    match cutFirst '=' value.toList with
    | some (label, value) => (String.ofList label, String.ofList value)
    | none => (value, "")
  | none => ("", "")

/-- The list of objects, in the order of their paths. -/
def listOf (objects : List (String × Json)) : Json :=
  .obj [("apiVersion", .str "v1"), ("kind", .str "List"), ("metadata", .obj []),
    ("items", .arr ((Dict.ofList objects).entries.map (·.2)))]

/-- The report of a server about what it has done. -/
def statusOf (word : String) (code : Nat) : Json :=
  .obj [("apiVersion", .str "v1"), ("kind", .str "Status"), ("status", .str word),
    ("code", .int code)]

/-- The answer of an object, or of a refusal. -/
def answerOf (success : Nat) : Except Refusal Json → Answer
  | .ok d => ⟨success, .json d⟩
  | .error .absent => ⟨404, .json (statusOf "Failure" 404)⟩
  | .error .conflict => ⟨409, .json (statusOf "Failure" 409)⟩

/-- The path of an object whose status a path means. -/
def statusPath? (path : String) : Option String :=
  (dropBeginning "/status".toList.reverse path.toList.reverse).map
    fun rest => String.ofList rest.reverse

/-- The answer to a request without regard to orders. -/
def respond (request : Request) (s : Server String Json) : Answer × Server String Json :=
  let body := request.body.getD .null
  match request.method with
  | .get =>
    let (label, value) := selector request
    (⟨200, .json (listOf (s.list form (inCollection request.path) label value))⟩, s)
  | .post =>
    let name := (body.strAt? ["metadata", "name"]).getD ""
    let (d, s) := s.create form (request.path ++ "/" ++ name) body
    (answerOf 201 d, s)
  | .put =>
    let (d, s) := s.replace form request.path body
    (answerOf 200 d, s)
  | .patch =>
    match statusPath? request.path with
    | some path =>
      let (d, s) := s.patchStatus form path ((body.get? "status").getD (.obj []))
      (answerOf 200 d, s)
    | none =>
      let (d, s) := s.apply form request.path body
      (⟨200, .json d⟩, s)
  | .delete =>
    let foreground := body.strAt? ["propagationPolicy"] = some "Foreground"
    let (d, s) := s.delete form request.path foreground
    (answerOf 200 (d.map fun _ => statusOf "Success" 200), s)

/-- Whether an order is about a request, and still holds. -/
def Fault.concerns (f : Fault) (request : Request) : Bool :=
  (f.method.all (· = request.method.name)) && (f.path.all (· = request.path)) &&
    f.times.all (0 < ·)

/-- The first order about a request, and the orders after it was followed. -/
def order? (request : Request) : List Fault → Option (Instead × List Fault)
  | [] => none
  | f :: r =>
    if f.concerns request then some (f.what, { f with times := f.times.map (· - 1) } :: r)
    else (order? request r).map fun (what, r) => (what, f :: r)

def handle (request : Request) (s : State) : Option Answer × State :=
  let s := { s with requests := s.requests ++ [request] }
  match order? request s.faults with
  | some (.silence, faults) => (none, { s with faults := faults })
  | some (.answer a, faults) => (some a, { s with faults := faults })
  | none =>
    let (a, server) := respond request s.server
    (some a, { s with server := server })

end Wire

end EdgeAgent
