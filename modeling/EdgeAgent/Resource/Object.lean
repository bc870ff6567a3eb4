import EdgeAgent.Resource.Metadata

/-! Custom objects of the cluster: metadata, a spec, and for most kinds a status. A `Kind` says how
the specs and statuses of one kind are named and encoded. -/

namespace EdgeAgent

/-- A custom object. -/
structure Object (Spec Status : Type) where
  metadata : Metadata := {}
  spec : Spec
  status : Option Status := none

/-- A kind of custom objects. -/
structure Kind (Spec Status : Type) where
  /-- The name of the kind. -/
  name : String
  /-- The name of its collection. -/
  plural : String
  /-- Whether its objects lie in namespaces. -/
  namespaced : Bool
  /-- The spec with nothing set. -/
  blank : Spec
  encodeSpec : Spec → Json
  decodeSpec : Decoder Spec
  encodeStatus : Status → Json
  /-- The reader of statuses, for a kind that has them. -/
  decodeStatus? : Option (Decoder Status)
  /-- The fingerprint of the spec that a status belongs to. -/
  specHash : Status → String

/-- The group of the kinds. -/
def hubGroup : String := "hub.traefik.io"

/-- The version of the kinds. -/
def hubVersion : String := "v1alpha1"

/-- The group and the version of the kinds, as objects give them. -/
def hubApiVersion : String := hubGroup ++ "/" ++ hubVersion

namespace Object

variable {Spec Status : Type}

def key (o : Object Spec Status) : Key :=
  o.metadata.key

/-- The JSON form of an object of a kind. -/
def toJson (kind : Kind Spec Status) (o : Object Spec Status) : Json :=
  Encode.object [
    Encode.always "apiVersion" (.str hubApiVersion),
    Encode.always "kind" (.str kind.name),
    Encode.always "metadata" o.metadata.toJson,
    Encode.always "spec" (kind.encodeSpec o.spec),
    Encode.present "status" kind.encodeStatus o.status]

/-- Reads the JSON form of an object of a kind, with the depth to which values in it may go. Its
version and kind are not looked at. -/
def decodeTo (depth : Nat) (kind : Kind Spec Status) : Decoder (Object Spec Status) :=
  let status : List (Decode.Field (Object Spec Status)) :=
    match kind.decodeStatus? with
    | some decodeStatus =>
      [Decode.field "status" .nullable (Decode.optional decodeStatus)
        fun x o => { o with status := x }]
    | none => []
  Decode.record { spec := kind.blank } ([
    Decode.field "metadata" .required (Metadata.decode (depth - 1))
      fun x o => { o with metadata := x },
    Decode.field "spec" .required kind.decodeSpec fun x o => { o with spec := x }] ++ status)

/-- Reads the JSON form of an object of a kind that is a whole text. -/
def decode (kind : Kind Spec Status) : Decoder (Object Spec Status) :=
  decodeTo (Json.maxDepth - 1) kind

/-- The fingerprint of the spec that the status of an object belongs to, if it is known. -/
def recordedHash (kind : Kind Spec Status) (o : Object Spec Status) : Option String :=
  o.status.bind fun s => if kind.specHash s = "" then none else some (kind.specHash s)

end Object

end EdgeAgent
