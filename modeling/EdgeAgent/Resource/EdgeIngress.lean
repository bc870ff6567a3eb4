import EdgeAgent.Resource.Fingerprint
import EdgeAgent.Resource.Object

/-! Edge ingresses: services that are reached through a domain of the platform. -/

namespace EdgeAgent

/-- A service by its name, with one of its ports. -/
structure ServicePort where
  name : String := ""
  port : Int32 := 0
  deriving DecidableEq

/-- A reference to an access control policy. -/
structure PolicyRef where
  name : String := ""
  deriving DecidableEq

/-- The spec of an edge ingress. -/
structure EdgeIngressSpec where
  service : ServicePort := {}
  acp : Option PolicyRef := none
  customDomains : List String := []
  deriving DecidableEq

/-- Whether the traffic of an edge ingress reaches its service. -/
inductive Connection where
  | up
  | down
  deriving DecidableEq

/-- The status of an edge ingress. -/
structure EdgeIngressStatus where
  version : String := ""
  syncedAt : Option Timestamp := none
  domain : String := ""
  customDomains : List String := []
  url : String := ""
  specHash : String := ""
  connection : Option Connection := none
  deriving DecidableEq

namespace ServicePort

def toJson (s : ServicePort) : Json :=
  Encode.object [
    Encode.always "name" (.str s.name),
    Encode.always "port" (.int s.port.toInt)]

def decode : Decoder ServicePort :=
  Decode.record {} [
    Decode.field "name" .required Decode.string fun x s => { s with name := x },
    Decode.field "port" .required Decode.int32 fun x s => { s with port := x }]

end ServicePort

namespace PolicyRef

def toJson (r : PolicyRef) : Json :=
  Encode.object [Encode.always "name" (.str r.name)]

def decode : Decoder PolicyRef :=
  Decode.record {} [
    Decode.field "name" .required Decode.string fun x r => { r with name := x }]

end PolicyRef

namespace EdgeIngressSpec

def toJson (s : EdgeIngressSpec) : Json :=
  Encode.object [
    Encode.always "service" s.service.toJson,
    Encode.present "acp" PolicyRef.toJson s.acp,
    Encode.list "customDomains" .str s.customDomains]

def decode : Decoder EdgeIngressSpec :=
  Decode.record {} [
    Decode.field "service" .required ServicePort.decode fun x s => { s with service := x },
    Decode.field "acp" .defaulted (Decode.optional PolicyRef.decode) fun x s => { s with acp := x },
    Decode.field "customDomains" .defaulted (Decode.list Decode.string)
      fun x s => { s with customDomains := x }]

/-- The fingerprint of a spec. -/
def hash (s : EdgeIngressSpec) : String :=
  fingerprint s.toJson

end EdgeIngressSpec

namespace Connection

def word : Connection → String
  | .up => "UP"
  | .down => "DOWN"

def decode : Decoder Connection :=
  Decode.choice [(word .up, .up), (word .down, .down)]

end Connection

namespace EdgeIngressStatus

def toJson (s : EdgeIngressStatus) : Json :=
  Encode.object [
    Encode.text "version" s.version,
    Encode.present "syncedAt" (fun t => .str t.text) s.syncedAt,
    Encode.text "domain" s.domain,
    Encode.list "customDomains" .str s.customDomains,
    Encode.text "url" s.url,
    Encode.text "specHash" s.specHash,
    Encode.present "connection" (fun c => .str c.word) s.connection]

def decode : Decoder EdgeIngressStatus :=
  Decode.record {} [
    Decode.field "version" .defaulted Decode.string fun x s => { s with version := x },
    Decode.field "syncedAt" .defaulted (Decode.optional (Decode.readable Timestamp.ofText?))
      fun x s => { s with syncedAt := x },
    Decode.field "domain" .defaulted Decode.string fun x s => { s with domain := x },
    Decode.field "customDomains" .defaulted (Decode.list Decode.string)
      fun x s => { s with customDomains := x },
    Decode.field "url" .defaulted Decode.string fun x s => { s with url := x },
    Decode.field "specHash" .defaulted Decode.string fun x s => { s with specHash := x },
    Decode.field "connection" .defaulted (Decode.optional Connection.decode)
      fun x s => { s with connection := x }]

end EdgeIngressStatus

/-- An edge ingress as it is stored in the cluster. -/
abbrev EdgeIngress := Object EdgeIngressSpec EdgeIngressStatus

def EdgeIngress.kind : Kind EdgeIngressSpec EdgeIngressStatus where
  name := "EdgeIngress"
  plural := "edgeingresses"
  namespaced := true
  blank := {}
  encodeSpec := EdgeIngressSpec.toJson
  decodeSpec := EdgeIngressSpec.decode
  encodeStatus := EdgeIngressStatus.toJson
  decodeStatus? := some EdgeIngressStatus.decode
  specHash := EdgeIngressStatus.specHash

end EdgeAgent
