import EdgeAgent.Resource.Metadata

/-! Ingresses: the routes by which the cluster's proxy sends the traffic of a host to a service.
When one is read, any part may be missing or null, and the last of repeated parts counts; only a
version and a kind that are given must be those of ingresses. -/

namespace EdgeAgent

/-- A port of a service, by name or by number. -/
structure IngressPort where
  name : Option String := none
  number : Option Int32 := none
  deriving DecidableEq

/-- The service behind a path. -/
structure IngressService where
  name : String := ""
  port : Option IngressPort := none
  deriving DecidableEq

/-- An object of any kind behind a path. -/
structure IngressResource where
  apiGroup : Option String := none
  kind : String := ""
  name : String := ""
  deriving DecidableEq

/-- What is behind a path. -/
structure IngressBackend where
  resource : Option IngressResource := none
  service : Option IngressService := none
  deriving DecidableEq

/-- A path of a host. -/
structure IngressPath where
  backend : IngressBackend := {}
  path : Option String := none
  pathType : String := ""
  deriving DecidableEq

/-- A host with its paths, if any are given. -/
structure IngressRule where
  host : Option String := none
  http : Option (List IngressPath) := none
  deriving DecidableEq

/-- The hosts that a certificate serves. -/
structure IngressTls where
  hosts : Option (List String) := none
  secretName : Option String := none
  deriving DecidableEq

/-- The spec of an ingress. -/
structure IngressSpec where
  defaultBackend : Option IngressBackend := none
  ingressClassName : Option String := none
  rules : Option (List IngressRule) := none
  tls : Option (List IngressTls) := none
  deriving DecidableEq

/-- The state of a port of a load balancer. -/
structure IngressPortStatus where
  error : Option String := none
  port : Int32 := 0
  protocol : String := ""
  deriving DecidableEq

/-- A point at which a load balancer takes traffic. -/
structure IngressPoint where
  hostname : Option String := none
  ip : Option String := none
  ports : Option (List IngressPortStatus) := none
  deriving DecidableEq

/-- The load balancer of an ingress. -/
structure LoadBalancer where
  ingress : Option (List IngressPoint) := none
  deriving DecidableEq

/-- The status of an ingress. -/
structure IngressStatus where
  loadBalancer : Option LoadBalancer := none
  deriving DecidableEq

/-- An ingress. -/
structure Ingress where
  metadata : Metadata := {}
  spec : Option IngressSpec := none
  status : Option IngressStatus := none

/-- The JSON form of a list of values. -/
private def listJson {α : Type} (encode : α → Json) (xs : List α) : Json :=
  .arr (xs.map encode)

namespace IngressPort

def toJson (p : IngressPort) : Json :=
  Encode.object [
    Encode.present "name" .str p.name,
    Encode.present "number" (fun n => .int n.toInt) p.number]

def decode : Decoder IngressPort :=
  Decode.looseRecord {} [
    Decode.loose "name" Decode.string fun x p => { p with name := x },
    Decode.loose "number" Decode.int32 fun x p => { p with number := x }]

end IngressPort

namespace IngressService

def toJson (s : IngressService) : Json :=
  Encode.object [
    Encode.always "name" (.str s.name),
    Encode.present "port" IngressPort.toJson s.port]

def decode : Decoder IngressService :=
  Decode.looseRecord {} [
    Decode.loose "name" Decode.string fun x s => { s with name := x.getD "" },
    Decode.loose "port" IngressPort.decode fun x s => { s with port := x }]

end IngressService

namespace IngressResource

def toJson (r : IngressResource) : Json :=
  Encode.object [
    Encode.present "apiGroup" .str r.apiGroup,
    Encode.always "kind" (.str r.kind),
    Encode.always "name" (.str r.name)]

def decode : Decoder IngressResource :=
  Decode.looseRecord {} [
    Decode.loose "apiGroup" Decode.string fun x r => { r with apiGroup := x },
    Decode.loose "kind" Decode.string fun x r => { r with kind := x.getD "" },
    Decode.loose "name" Decode.string fun x r => { r with name := x.getD "" }]

end IngressResource

namespace IngressBackend

def toJson (b : IngressBackend) : Json :=
  Encode.object [
    Encode.present "resource" IngressResource.toJson b.resource,
    Encode.present "service" IngressService.toJson b.service]

def decode : Decoder IngressBackend :=
  Decode.looseRecord {} [
    Decode.loose "resource" IngressResource.decode fun x b => { b with resource := x },
    Decode.loose "service" IngressService.decode fun x b => { b with service := x }]

end IngressBackend

namespace IngressPath

def toJson (p : IngressPath) : Json :=
  Encode.object [
    Encode.always "backend" p.backend.toJson,
    Encode.present "path" .str p.path,
    Encode.always "pathType" (.str p.pathType)]

def decode : Decoder IngressPath :=
  Decode.looseRecord {} [
    Decode.loose "backend" IngressBackend.decode fun x p => { p with backend := x.getD {} },
    Decode.loose "path" Decode.string fun x p => { p with path := x },
    Decode.loose "pathType" Decode.string fun x p => { p with pathType := x.getD "" }]

/-- Reads the JSON form of the paths of a host. -/
def decodeAll : Decoder (List IngressPath) :=
  Decode.looseRecord [] [
    Decode.loose "paths" (Decode.list decode) fun x _ => x.getD []]

end IngressPath

namespace IngressRule

def toJson (r : IngressRule) : Json :=
  Encode.object [
    Encode.present "host" .str r.host,
    Encode.present "http"
      (fun ps => Encode.object [Encode.always "paths" (listJson IngressPath.toJson ps)]) r.http]

def decode : Decoder IngressRule :=
  Decode.looseRecord {} [
    Decode.loose "host" Decode.string fun x r => { r with host := x },
    Decode.loose "http" IngressPath.decodeAll fun x r => { r with http := x }]

end IngressRule

namespace IngressTls

def toJson (t : IngressTls) : Json :=
  Encode.object [
    Encode.present "hosts" .strs t.hosts,
    Encode.present "secretName" .str t.secretName]

def decode : Decoder IngressTls :=
  Decode.looseRecord {} [
    Decode.loose "hosts" (Decode.list Decode.string) fun x t => { t with hosts := x },
    Decode.loose "secretName" Decode.string fun x t => { t with secretName := x }]

end IngressTls

namespace IngressSpec

def toJson (s : IngressSpec) : Json :=
  Encode.object [
    Encode.present "defaultBackend" IngressBackend.toJson s.defaultBackend,
    Encode.present "ingressClassName" .str s.ingressClassName,
    Encode.present "rules" (listJson IngressRule.toJson) s.rules,
    Encode.present "tls" (listJson IngressTls.toJson) s.tls]

def decode : Decoder IngressSpec :=
  Decode.looseRecord {} [
    Decode.loose "defaultBackend" IngressBackend.decode
      fun x s => { s with defaultBackend := x },
    Decode.loose "ingressClassName" Decode.string fun x s => { s with ingressClassName := x },
    Decode.loose "rules" (Decode.list IngressRule.decode) fun x s => { s with rules := x },
    Decode.loose "tls" (Decode.list IngressTls.decode) fun x s => { s with tls := x }]

end IngressSpec

namespace IngressPortStatus

def toJson (p : IngressPortStatus) : Json :=
  Encode.object [
    Encode.present "error" .str p.error,
    Encode.always "port" (.int p.port.toInt),
    Encode.always "protocol" (.str p.protocol)]

def decode : Decoder IngressPortStatus :=
  Decode.looseRecord {} [
    Decode.loose "error" Decode.string fun x p => { p with error := x },
    Decode.loose "port" Decode.int32 fun x p => { p with port := x.getD 0 },
    Decode.loose "protocol" Decode.string fun x p => { p with protocol := x.getD "" }]

end IngressPortStatus

namespace IngressPoint

def toJson (p : IngressPoint) : Json :=
  Encode.object [
    Encode.present "hostname" .str p.hostname,
    Encode.present "ip" .str p.ip,
    Encode.present "ports" (listJson IngressPortStatus.toJson) p.ports]

def decode : Decoder IngressPoint :=
  Decode.looseRecord {} [
    Decode.loose "hostname" Decode.string fun x p => { p with hostname := x },
    Decode.loose "ip" Decode.string fun x p => { p with ip := x },
    Decode.loose "ports" (Decode.list IngressPortStatus.decode) fun x p => { p with ports := x }]

end IngressPoint

namespace LoadBalancer

def toJson (l : LoadBalancer) : Json :=
  Encode.object [Encode.present "ingress" (listJson IngressPoint.toJson) l.ingress]

def decode : Decoder LoadBalancer :=
  Decode.looseRecord {} [
    Decode.loose "ingress" (Decode.list IngressPoint.decode) fun x l => { l with ingress := x }]

end LoadBalancer

namespace IngressStatus

def toJson (s : IngressStatus) : Json :=
  Encode.object [Encode.present "loadBalancer" LoadBalancer.toJson s.loadBalancer]

def decode : Decoder IngressStatus :=
  Decode.looseRecord {} [
    Decode.loose "loadBalancer" LoadBalancer.decode fun x s => { s with loadBalancer := x }]

end IngressStatus

namespace Ingress

def apiVersion : String := "networking.k8s.io/v1"

def kindName : String := "Ingress"

def key (i : Ingress) : Key :=
  i.metadata.key

def toJson (i : Ingress) : Json :=
  Encode.object [
    Encode.always "apiVersion" (.str apiVersion),
    Encode.always "kind" (.str kindName),
    Encode.always "metadata" i.metadata.toJson,
    Encode.present "spec" IngressSpec.toJson i.spec,
    Encode.present "status" IngressStatus.toJson i.status]

/-- A field that must be a given string. -/
def fixed {α : Type} (name word : String) : Decode.Field α :=
  Decode.field name .defaulted (Decode.readable fun s => if s = word then some () else none)
    fun _ x => x

def decode : Decoder Ingress :=
  Decode.looseRecord {} [
    fixed "apiVersion" apiVersion,
    fixed "kind" kindName,
    Decode.loose "metadata" (Metadata.decode (Json.maxDepth - 2))
      fun x i => { i with metadata := x.getD {} },
    Decode.loose "spec" IngressSpec.decode fun x i => { i with spec := x },
    Decode.loose "status" IngressStatus.decode fun x i => { i with status := x }]

end Ingress

end EdgeAgent
