import EdgeAgent.Cluster.Child
import EdgeAgent.Platform.CatalogRecord
import EdgeAgent.Platform.Reply
import EdgeAgent.Sync.Pass

/-! The passes of the agent: one over edge ingresses, which are written together with their child
ingresses, and one over catalogs. What the platform lists is turned into objects, each at a moment
of its own. -/

namespace EdgeAgent

variable {σ : Type}

/-- The records of a reply, as the answer of the platform. -/
def PlatformReply.answer {α : Type} (decode : Decoder α) (r : PlatformReply) : Call σ (List α) :=
  Call.ofExcept ((r.records decode).mapError PlatformError.message)

/-- The objects that records become, the one at a position at the moment of that position. -/
def materialized {α R : Type} (materialize : Timestamp → α → Except RecordError R)
    (now : Nat → Timestamp) (records : List α) : List (Except String R) :=
  records.mapIdx fun i r => (materialize (now i) r).mapError RecordError.message

/-- The sides of a pass over edge ingresses. -/
def EdgeIngress.sides (settings : ChildSettings) (timeout : Nat) (now : Nat → Timestamp)
    (platform : Call σ (List EdgeIngressRecord)) (apis : Child.Apis σ) : Sides σ EdgeIngress where
  kind := EdgeIngress.kind.name
  timeout := timeout
  keyOf := Object.key
  desired := do
    let records ← platform
    return materialized EdgeIngressRecord.materialize now records
  existing := Upkeep.list EdgeIngress.kind apis.edges
  write := Child.write settings apis

/-- The sides of a pass over catalogs. -/
def Catalog.sides (timeout : Nat) (now : Nat → Timestamp)
    (platform : Call σ (List CatalogRecord)) (api : Api σ CatalogSpec CatalogStatus) :
    Sides σ Catalog where
  kind := Catalog.kind.name
  timeout := timeout
  keyOf := Object.key
  desired := do
    let records ← platform
    return materialized CatalogRecord.materialize now records
  existing := Upkeep.list Catalog.kind api
  write := Upkeep.write Catalog.kind api

/-- The sides of a pass in which a request takes time: within no time at all, nothing is listed. -/
def Sides.takingTime {R : Type} (s : Sides σ R) : Sides σ R :=
  if s.timeout = 0 then { s with existing := Call.silence } else s

end EdgeAgent
