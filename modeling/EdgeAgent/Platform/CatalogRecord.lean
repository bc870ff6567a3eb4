import EdgeAgent.Platform.EdgeIngressRecord
import EdgeAgent.Resource.Catalog

/-! Catalogs as the platform declares them, and the objects that they become in the cluster. -/

namespace EdgeAgent

/-- A catalog of the platform. -/
structure CatalogRecord where
  workspaceId : String := ""
  clusterId : String := ""
  name : String := ""
  version : String := ""
  domain : String := ""
  customDomains : List String := []
  services : List CatalogService := []
  createdAt : Option Timestamp := none
  updatedAt : Option Timestamp := none
  deriving DecidableEq

namespace CatalogRecord

/-- The collection of the platform that holds the records. -/
def collection : String := "catalogs"

def decode : Decoder CatalogRecord :=
  let time := Decode.optional (Decode.readable Timestamp.ofText?)
  Decode.record {} [
    Decode.field "workspaceId" .defaulted Decode.string fun x r => { r with workspaceId := x },
    Decode.field "clusterId" .defaulted Decode.string fun x r => { r with clusterId := x },
    Decode.field "name" .required Decode.string fun x r => { r with name := x },
    Decode.field "version" .defaulted Decode.string fun x r => { r with version := x },
    Decode.field "domain" .defaulted Decode.string fun x r => { r with domain := x },
    Decode.field "customDomains" .defaulted (Decode.list Decode.string)
      fun x r => { r with customDomains := x },
    Decode.field "services" .defaulted (Decode.list CatalogService.decode)
      fun x r => { r with services := x },
    Decode.field "createdAt" .defaulted time fun x r => { r with createdAt := x },
    Decode.field "updatedAt" .defaulted time fun x r => { r with updatedAt := x }]

/-- The spec that a record declares. -/
def spec (r : CatalogRecord) : CatalogSpec where
  customDomains := r.customDomains
  services := r.services

/-- The domains that a record is reached by: its own ones, or else that of the platform. -/
def domains (r : CatalogRecord) : List String :=
  if r.customDomains = [] then [r.domain] else r.customDomains

/-- The status that a record declares at a moment. -/
def status (r : CatalogRecord) (now : Timestamp) : CatalogStatus where
  version := r.version
  syncedAt := some now
  domains := r.domains
  urls := r.domains.map urlOf
  specHash := r.spec.hash

/-- The object that a record becomes at a moment. -/
def materialize (now : Timestamp) (r : CatalogRecord) : Except RecordError Catalog :=
  if r.name = "" then .error .catalogWithoutName
  else .ok {
    metadata := { name := some r.name, labels := some managerLabels }
    spec := r.spec
    status := some (r.status now) }

end CatalogRecord

end EdgeAgent
