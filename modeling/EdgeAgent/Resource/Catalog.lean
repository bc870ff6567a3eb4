import EdgeAgent.Resource.Fingerprint
import EdgeAgent.Resource.Object

/-! Catalogs: groups of services that are shown together in one portal. -/

namespace EdgeAgent

/-- A service of a catalog. -/
structure CatalogService where
  name : String := ""
  ns : String := ""
  port : Int32 := 0
  pathPrefix : String := ""
  openApiSpecUrl : String := ""
  deriving DecidableEq

/-- The spec of a catalog. -/
structure CatalogSpec where
  customDomains : List String := []
  services : List CatalogService := []
  deriving DecidableEq

/-- The status of a catalog. -/
structure CatalogStatus where
  version : String := ""
  syncedAt : Option Timestamp := none
  domains : List String := []
  urls : List String := []
  specHash : String := ""
  deriving DecidableEq

namespace CatalogService

def toJson (s : CatalogService) : Json :=
  Encode.object [
    Encode.always "name" (.str s.name),
    Encode.always "namespace" (.str s.ns),
    Encode.always "port" (.int s.port.toInt),
    Encode.text "pathPrefix" s.pathPrefix,
    Encode.text "openApiSpecUrl" s.openApiSpecUrl]

def decode : Decoder CatalogService :=
  Decode.record {} [
    Decode.field "name" .required Decode.string fun x s => { s with name := x },
    Decode.field "namespace" .required Decode.string fun x s => { s with ns := x },
    Decode.field "port" .required Decode.int32 fun x s => { s with port := x },
    Decode.field "pathPrefix" .defaulted Decode.string fun x s => { s with pathPrefix := x },
    Decode.field "openApiSpecUrl" .defaulted Decode.string
      fun x s => { s with openApiSpecUrl := x }]

end CatalogService

namespace CatalogSpec

def toJson (s : CatalogSpec) : Json :=
  Encode.object [
    Encode.list "customDomains" .str s.customDomains,
    Encode.list "services" CatalogService.toJson s.services]

def decode : Decoder CatalogSpec :=
  Decode.record {} [
    Decode.field "customDomains" .defaulted (Decode.list Decode.string)
      fun x s => { s with customDomains := x },
    Decode.field "services" .defaulted (Decode.list CatalogService.decode)
      fun x s => { s with services := x }]

/-- The fingerprint of a spec. -/
def hash (s : CatalogSpec) : String :=
  fingerprint s.toJson

end CatalogSpec

namespace CatalogStatus

def toJson (s : CatalogStatus) : Json :=
  Encode.object [
    Encode.text "version" s.version,
    Encode.present "syncedAt" (fun t => .str t.text) s.syncedAt,
    Encode.list "domains" .str s.domains,
    Encode.list "urls" .str s.urls,
    Encode.text "specHash" s.specHash]

def decode : Decoder CatalogStatus :=
  Decode.record {} [
    Decode.field "version" .defaulted Decode.string fun x s => { s with version := x },
    Decode.field "syncedAt" .defaulted (Decode.optional (Decode.readable Timestamp.ofText?))
      fun x s => { s with syncedAt := x },
    Decode.field "domains" .defaulted (Decode.list Decode.string)
      fun x s => { s with domains := x },
    Decode.field "urls" .defaulted (Decode.list Decode.string) fun x s => { s with urls := x },
    Decode.field "specHash" .defaulted Decode.string fun x s => { s with specHash := x }]

end CatalogStatus

/-- A catalog as it is stored in the cluster. -/
abbrev Catalog := Object CatalogSpec CatalogStatus

def Catalog.kind : Kind CatalogSpec CatalogStatus where
  name := "Catalog"
  plural := "catalogs"
  namespaced := false
  blank := {}
  encodeSpec := CatalogSpec.toJson
  decodeSpec := CatalogSpec.decode
  encodeStatus := CatalogStatus.toJson
  decodeStatus? := some CatalogStatus.decode
  specHash := CatalogStatus.specHash

end EdgeAgent
