import EdgeAgent.Json.Decode
import EdgeAgent.Resource.Key
import EdgeAgent.Time.Timestamp

/-! The metadata that every object of the cluster carries, and its JSON form. When it is read, any
part may be missing or null, and the last of repeated parts counts. -/

namespace EdgeAgent

/-- A field of an object that is being encoded, present or not. -/
abbrev FieldOf := Option (String × Json)

namespace Encode

def always (name : String) (j : Json) : FieldOf := some (name, j)

/-- A field that is there when it has a value. -/
def present {α : Type} (name : String) (encode : α → Json) (x : Option α) : FieldOf :=
  x.map fun x => (name, encode x)

/-- A string that is there unless it is empty. -/
def text (name s : String) : FieldOf :=
  if s = "" then none else some (name, .str s)

/-- A list that is there unless it is empty. -/
def list {α : Type} (name : String) (encode : α → Json) (xs : List α) : FieldOf :=
  if xs.isEmpty then none else some (name, .arr (xs.map encode))

def object (fields : List FieldOf) : Json :=
  .obj (fields.filterMap id)

end Encode

/-- A reference to an object that owns another. -/
structure OwnerReference where
  apiVersion : String := ""
  blockOwnerDeletion : Option Bool := none
  controller : Option Bool := none
  kind : String := ""
  name : String := ""
  uid : String := ""
  deriving DecidableEq

namespace OwnerReference

def toJson (o : OwnerReference) : Json :=
  Encode.object [
    Encode.always "apiVersion" (.str o.apiVersion),
    Encode.present "blockOwnerDeletion" .bool o.blockOwnerDeletion,
    Encode.present "controller" .bool o.controller,
    Encode.always "kind" (.str o.kind),
    Encode.always "name" (.str o.name),
    Encode.always "uid" (.str o.uid)]

def decode : Decoder OwnerReference :=
  Decode.looseRecord {} [
    Decode.loose "apiVersion" Decode.string fun x o => { o with apiVersion := x.getD "" },
    Decode.loose "blockOwnerDeletion" Decode.bool fun x o => { o with blockOwnerDeletion := x },
    Decode.loose "controller" Decode.bool fun x o => { o with controller := x },
    Decode.loose "kind" Decode.string fun x o => { o with kind := x.getD "" },
    Decode.loose "name" Decode.string fun x o => { o with name := x.getD "" },
    Decode.loose "uid" Decode.string fun x o => { o with uid := x.getD "" }]

end OwnerReference

/-- A note of which fields of an object a writer has set. -/
structure ManagedFields where
  apiVersion : Option String := none
  fieldsType : Option String := none
  fieldsV1 : Option Json := none
  manager : Option String := none
  operation : Option String := none
  subresource : Option String := none
  time : Option Timestamp := none

namespace ManagedFields

def toJson (m : ManagedFields) : Json :=
  Encode.object [
    Encode.present "apiVersion" .str m.apiVersion,
    Encode.present "fieldsType" .str m.fieldsType,
    Encode.present "fieldsV1" id m.fieldsV1,
    Encode.present "manager" .str m.manager,
    Encode.present "operation" .str m.operation,
    Encode.present "subresource" .str m.subresource,
    Encode.present "time" (fun t => .str t.textToSecond) m.time]

/-- Reads the JSON form, with the depth to which the noted fields may go. -/
def decode (depth : Nat) : Decoder ManagedFields :=
  Decode.looseRecord {} [
    Decode.loose "apiVersion" Decode.string fun x m => { m with apiVersion := x },
    Decode.loose "fieldsType" Decode.string fun x m => { m with fieldsType := x },
    Decode.loose "fieldsV1" (Decode.json depth) fun x m => { m with fieldsV1 := x },
    Decode.loose "manager" Decode.string fun x m => { m with manager := x },
    Decode.loose "operation" Decode.string fun x m => { m with operation := x },
    Decode.loose "subresource" Decode.string fun x m => { m with subresource := x },
    Decode.loose "time" (Decode.readable Timestamp.ofText?) fun x m => { m with time := x }]

end ManagedFields

/-- The metadata of an object. -/
structure Metadata where
  annotations : Option (Dict String) := none
  creationTimestamp : Option Timestamp := none
  deletionGracePeriodSeconds : Option Int64 := none
  deletionTimestamp : Option Timestamp := none
  finalizers : Option (List String) := none
  generateName : Option String := none
  generation : Option Int64 := none
  labels : Option (Dict String) := none
  managedFields : Option (List ManagedFields) := none
  name : Option String := none
  ns : Option String := none
  ownerReferences : Option (List OwnerReference) := none
  resourceVersion : Option String := none
  selfLink : Option String := none
  uid : Option String := none

namespace Metadata

/-- The key of an object with this metadata. -/
def key (m : Metadata) : Key :=
  Key.of (m.name.getD "") m.ns

/-- The name, or what it is generated from. -/
def anyName (m : Metadata) : String :=
  (m.name.or m.generateName).getD ""

def toJson (m : Metadata) : Json :=
  Encode.object [
    Encode.present "annotations" .ofDict m.annotations,
    Encode.present "creationTimestamp" (fun t => .str t.textToSecond) m.creationTimestamp,
    Encode.present "deletionGracePeriodSeconds" (fun n => .int n.toInt)
      m.deletionGracePeriodSeconds,
    Encode.present "deletionTimestamp" (fun t => .str t.textToSecond) m.deletionTimestamp,
    Encode.present "finalizers" .strs m.finalizers,
    Encode.present "generateName" .str m.generateName,
    Encode.present "generation" (fun n => .int n.toInt) m.generation,
    Encode.present "labels" .ofDict m.labels,
    Encode.present "managedFields" (fun ms => .arr (ms.map ManagedFields.toJson)) m.managedFields,
    Encode.present "name" .str m.name,
    Encode.present "namespace" .str m.ns,
    Encode.present "ownerReferences" (fun os => .arr (os.map OwnerReference.toJson))
      m.ownerReferences,
    Encode.present "resourceVersion" .str m.resourceVersion,
    Encode.present "selfLink" .str m.selfLink,
    Encode.present "uid" .str m.uid]

/-- Reads the JSON form, with the depth to which values below the metadata may go. -/
def decode (depth : Nat) : Decoder Metadata :=
  Decode.looseRecord {} [
    Decode.loose "annotations" (Decode.dict Decode.string) fun x m => { m with annotations := x },
    Decode.loose "creationTimestamp" (Decode.readable Timestamp.ofText?)
      fun x m => { m with creationTimestamp := x },
    Decode.loose "deletionGracePeriodSeconds" Decode.int64
      fun x m => { m with deletionGracePeriodSeconds := x },
    Decode.loose "deletionTimestamp" (Decode.readable Timestamp.ofText?)
      fun x m => { m with deletionTimestamp := x },
    Decode.loose "finalizers" (Decode.list Decode.string) fun x m => { m with finalizers := x },
    Decode.loose "generateName" Decode.string fun x m => { m with generateName := x },
    Decode.loose "generation" Decode.int64 fun x m => { m with generation := x },
    Decode.loose "labels" (Decode.dict Decode.string) fun x m => { m with labels := x },
    Decode.loose "managedFields" (Decode.list (ManagedFields.decode (depth - 2)))
      fun x m => { m with managedFields := x },
    Decode.loose "name" Decode.string fun x m => { m with name := x },
    Decode.loose "namespace" Decode.string fun x m => { m with ns := x },
    Decode.loose "ownerReferences" (Decode.list OwnerReference.decode)
      fun x m => { m with ownerReferences := x },
    Decode.loose "resourceVersion" Decode.string fun x m => { m with resourceVersion := x },
    Decode.loose "selfLink" Decode.string fun x m => { m with selfLink := x },
    Decode.loose "uid" Decode.string fun x m => { m with uid := x }]

end Metadata

/-- The label of every object that the agent makes. -/
def managerLabel : String := "app.kubernetes.io/managed-by"

/-- The value of the label of every object that the agent makes. -/
def managerName : String := "traefik-hub"

/-- The labels of an object that the agent makes. -/
def managerLabels : Dict String :=
  Dict.empty.insert managerLabel managerName

end EdgeAgent
