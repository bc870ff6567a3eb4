import EdgeAgent.Resource.EdgeIngress

/-! Edge ingresses as the platform declares them, and the objects that they become in the
cluster. -/

namespace EdgeAgent

/-- An edge ingress of the platform. -/
structure EdgeIngressRecord where
  workspaceId : String := ""
  clusterId : String := ""
  name : String := ""
  ns : String := ""
  domain : String := ""
  customDomains : List String := []
  version : String := ""
  service : ServicePort := {}
  acp : Option PolicyRef := none
  createdAt : Option Timestamp := none
  updatedAt : Option Timestamp := none
  deriving DecidableEq

/-- Why a record does not become an object. -/
inductive RecordError where
  | edgeIngressWithoutKey
  | edgeIngressWithoutDomain (name ns : String)
  | catalogWithoutName
  deriving DecidableEq

/-- The message about a record. -/
def RecordError.message : RecordError → String
  | .edgeIngressWithoutKey => "edge ingress must have a name and a namespace"
  | .edgeIngressWithoutDomain name ns => "edge ingress " ++ name ++ "@" ++ ns ++ " has no domain"
  | .catalogWithoutName => "catalog must have a name"

/-- The address of a domain. -/
def urlOf (domain : String) : String :=
  "https://" ++ domain

namespace EdgeIngressRecord

/-- The collection of the platform that holds the records. -/
def collection : String := "edge-ingresses"

def decode : Decoder EdgeIngressRecord :=
  let time := Decode.optional (Decode.readable Timestamp.ofText?)
  Decode.record {} [
    Decode.field "workspaceId" .defaulted Decode.string fun x r => { r with workspaceId := x },
    Decode.field "clusterId" .defaulted Decode.string fun x r => { r with clusterId := x },
    Decode.field "name" .required Decode.string fun x r => { r with name := x },
    Decode.field "namespace" .required Decode.string fun x r => { r with ns := x },
    Decode.field "domain" .defaulted Decode.string fun x r => { r with domain := x },
    Decode.field "customDomains" .defaulted (Decode.list Decode.string)
      fun x r => { r with customDomains := x },
    Decode.field "version" .defaulted Decode.string fun x r => { r with version := x },
    Decode.field "service" .required ServicePort.decode fun x r => { r with service := x },
    Decode.field "acp" .defaulted (Decode.optional PolicyRef.decode) fun x r => { r with acp := x },
    Decode.field "createdAt" .defaulted time fun x r => { r with createdAt := x },
    Decode.field "updatedAt" .defaulted time fun x r => { r with updatedAt := x }]

/-- The spec that a record declares. -/
def spec (r : EdgeIngressRecord) : EdgeIngressSpec where
  service := r.service
  acp := r.acp
  customDomains := r.customDomains

/-- The status that a record declares at a moment. -/
def status (r : EdgeIngressRecord) (now : Timestamp) : EdgeIngressStatus where
  version := r.version
  syncedAt := some now
  domain := r.domain
  customDomains := r.customDomains
  url := urlOf r.domain
  specHash := r.spec.hash

/-- The object that a record becomes at a moment. -/
def materialize (now : Timestamp) (r : EdgeIngressRecord) : Except RecordError EdgeIngress :=
  if r.name = "" ∨ r.ns = "" then .error .edgeIngressWithoutKey
  else if r.domain = "" then .error (.edgeIngressWithoutDomain r.name r.ns)
  else .ok {
    metadata := {
      name := some r.name
      ns := some r.ns
      labels := some managerLabels }
    spec := r.spec
    status := some (r.status now) }

end EdgeIngressRecord

end EdgeAgent
