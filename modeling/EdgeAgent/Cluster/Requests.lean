import EdgeAgent.Cluster.Api
import EdgeAgent.Cluster.Wire
import EdgeAgent.Http.Query
import EdgeAgent.Http.Uri
import EdgeAgent.Json.Transmitted

/-! The requests of the agent over HTTP. A request is sent only if its address can be written and
names an object where it must; an answer counts as a failure when its status is 400 or more or its
body is not what was asked for. -/

namespace EdgeAgent

namespace Requests

/-- Any failure of a request. What it was is not reported. -/
def failure : String := "request failed"

/-- The server as the agent sees it. -/
abbrev Asking (α : Type) := Call Wire.State α

/-- The path of the collection of a group and version. -/
def collection (group version plural : String) (scope : Option String) : String :=
  let within := match scope with
    | some ns => "namespaces/" ++ ns ++ "/"
    | none => ""
  "/apis/" ++ group ++ "/" ++ version ++ "/" ++ within ++ plural

/-- The request to an address, if that can be written. What follows a `?` in the address is part
of its query. -/
def requestTo? (method : Wire.Method) (address : String) (contentType : Option String)
    (body : Option Json) : Option Wire.Request := do
  let uri ← Uri.ofText? address
  let path ← Utf8.text? uri.path
  return {
    method := method
    path := path
    query := (uri.query.map Query.decode).getD []
    contentType := contentType
    body := body.map Json.transmitted }

/-- The answer to a request, unless it says that the request failed. -/
def send (request : Option Wire.Request) : Asking Wire.Body :=
  match request with
  | none => Call.fail failure
  | some request => fun w =>
    match Wire.handle request w.state with
    | (none, state) => (.error .silent, { w with state := state })
    | (some answer, state) =>
      let w := { w with state := state }
      if 400 ≤ answer.status then (.error (.failed failure), w) else (.ok answer.body, w)

def decodeBody {α : Type} (decode : Decoder α) : Wire.Body → Except Fault α
  | .json j => Decode.value decode j.transmitted
  | .text s => Decode.text decode s

/-- The decoded body of an answer. -/
def decoded {α : Type} (decode : Decoder α) (body : Wire.Body) : Asking α :=
  match decodeBody decode body with
  | .ok x => Call.pure x
  | .error _ => Call.fail failure

/-- A request to the object of a name, which must not be empty. -/
def sendNamed (name : String) (request : Option Wire.Request) : Asking Wire.Body :=
  if name = "" then Call.fail failure else send request

def decodeListMetadata : Decoder Unit :=
  Decode.looseRecord () [
    Decode.loose "continue" Decode.string fun _ x => x,
    Decode.loose "remainingItemCount" Decode.int64 fun _ x => x,
    Decode.loose "resourceVersion" Decode.string fun _ x => x,
    Decode.loose "selfLink" Decode.string fun _ x => x]

/-- A list of objects. A null stands for no objects. -/
def decodeList {α : Type} (decode : Decoder α) : Decoder (List α) :=
  Decode.openRecord (Json.maxDepth - 1) [] [
    Decode.field "metadata" .defaulted decodeListMetadata fun _ xs => xs,
    Decode.field "items" .required (Decode.optional (Decode.list decode))
      fun xs _ => xs.getD []]

/-- One of the causes of a failure. -/
def decodeCause : Decoder Unit :=
  Decode.record () [
    Decode.field "reason" .defaulted Decode.string fun _ x => x,
    Decode.field "message" .defaulted Decode.string fun _ x => x,
    Decode.field "field" .defaulted Decode.string fun _ x => x]

/-- The details of a report. -/
def decodeDetails : Decoder Unit :=
  Decode.record () [
    Decode.field "name" .defaulted Decode.string fun _ x => x,
    Decode.field "group" .defaulted Decode.string fun _ x => x,
    Decode.field "kind" .defaulted Decode.string fun _ x => x,
    Decode.field "uid" .defaulted Decode.string fun _ x => x,
    Decode.field "causes" .defaulted (Decode.list decodeCause) fun _ x => x,
    Decode.field "retryAfterSeconds" .defaulted (Decode.intWithin 0 4294967295) fun _ x => x]

/-- A report of the server about what it has done. -/
def decodeStatus : Decoder Unit :=
  Decode.record () [
    Decode.field "status" .nullable
      (Decode.optional (Decode.choice [("Success", ()), ("Failure", ())])) fun _ x => x,
    Decode.field "code" .defaulted (Decode.intWithin 0 65535) fun _ x => x,
    Decode.field "message" .defaulted Decode.string fun _ x => x,
    Decode.field "reason" .defaulted Decode.string fun _ x => x,
    Decode.field "details" .defaulted (Decode.optional decodeDetails) fun _ x => x]

/-- The answer to a removal: a report, or the removed object. -/
def decodeRemoved {α : Type} (decode : Decoder α) (body : Wire.Body) : Asking Unit :=
  let value? := match body with
    | .json j => some j
    | .text s => Json.ofText? s
  match value? with
  | none => Call.fail failure
  | some j =>
    if j.strAt? ["kind"] = some "Status" then decoded decodeStatus body
    else decoded (fun d => (decode d).map fun _ => ()) body

/-- The label selector of the objects of the agent. -/
def managedSelector : List (String × String) :=
  [("labelSelector", managerLabel ++ "=" ++ managerName)]

/-- The type of a body that is a whole object. -/
def jsonType : String := "application/json"

/-- The type of a body that is merged into a stored object. -/
def mergeType : String := "application/merge-patch+json"

/-- The type of a body that is applied in place of a stored object. -/
def applyType : String := "application/apply-patch+yaml"

/-- The name under which the agent applies objects. -/
def fieldManager : String := "hub-agent"

/-- An address with a query, which is added to one that the address may already have. -/
def withQuery (address : String) (pairs : List (String × String)) : String :=
  address ++ "?&" ++ (Utf8.lossy (Query.encode pairs))

variable {Spec Status : Type}

/-- The requests about the objects of a kind. -/
def api (kind : Kind Spec Status) : Api Wire.State Spec Status :=
  let base := collection hubGroup hubVersion kind.plural
  let decode := Object.decode kind
  let object := fun (t : Target) => base t.scope ++ "/" ++ t.name
  { list := do
      let address := withQuery (base none) managedSelector
      let body ← send (requestTo? .get address none none)
      decoded (decodeList (Object.decodeTo (Json.maxDepth - 3) kind)) body
    create := fun scope o => do
      let body ← send (requestTo? .post (base scope ++ "?") (some jsonType) (some (o.toJson kind)))
      decoded decode body
    replace := fun t o => do
      let body ← sendNamed t.name
        (requestTo? .put (object t ++ "?") (some jsonType) (some (o.toJson kind)))
      decoded decode body
    patchStatus := fun t patch => do
      let body ← sendNamed t.name
        (requestTo? .patch (object t ++ "/status?") (some mergeType)
          (some (.obj [("status", patch)])))
      decoded decode body
    delete := fun t => do
      let body ← sendNamed t.name
        (requestTo? .delete (object t ++ "?") (some jsonType)
          (some (.obj [("propagationPolicy", .str "Foreground")])))
      decodeRemoved decode body }

/-- The request that stores a child ingress. -/
def storeIngress : IngressApi Wire.State := fun t ingress => do
  let address := collection "networking.k8s.io" "v1" "ingresses" t.scope ++ "/" ++ t.name
  let query := [("force", "true"), ("fieldManager", fieldManager)]
  let body ← sendNamed t.name
    (requestTo? .patch (withQuery address query) (some applyType) (some ingress.toJson))
  let _ ← decoded Ingress.decode body
  return ()

end Requests

end EdgeAgent
