import EdgeAgent.Cluster.Passes
import EdgeAgent.Proofs.Cluster.Children
import EdgeAgent.Proofs.Sync.Plan

/-! What keeps the objects of one kind in line with the records of the platform: catalogs, and edge
ingresses with or without their child ingresses. Its passes make the writes that were looked at one
by one, and what it wants is what records become. -/

namespace EdgeAgent

variable {σ ι D Record Spec Status : Type}

/-- The call whose answer is given. -/
def Call.given {α : Type} (answer : Except Stop α) : Call σ α := fun w => (answer, w)

/-- What a pass starts from: how long its calls may take, the moments at which records become
objects, and what the platform answers. -/
structure Round (Record : Type) where
  timeout : Nat
  now : Nat → Timestamp
  answer : Except Stop (List Record)

/-- The beginning of a year. -/
def Timestamp.newYear : Timestamp :=
  ⟨⟨2024, 1, 1⟩, 0, 0, 0, by decide, by decide, by decide, by decide⟩

/-- What keeps the objects of one kind by requests to a server. -/
inductive Keeper (σ : Type) : Type → Type → Type → Type where
  | catalogs (api : Api σ CatalogSpec CatalogStatus) :
    Keeper σ CatalogRecord CatalogSpec CatalogStatus
  | edges (api : Api σ EdgeIngressSpec EdgeIngressStatus) :
    Keeper σ EdgeIngressRecord EdgeIngressSpec EdgeIngressStatus
  | edgesWithChildren (settings : ChildSettings) (apis : Child.Apis σ) :
    Keeper σ EdgeIngressRecord EdgeIngressSpec EdgeIngressStatus

namespace Keeper

/-- The kind of the objects. -/
def kind : Keeper σ Record Spec Status → Kind Spec Status
  | catalogs _ => Catalog.kind
  | edges _ => EdgeIngress.kind
  | edgesWithChildren _ _ => EdgeIngress.kind

/-- The spec that a record declares. -/
def specOf : Keeper σ Record Spec Status → Record → Spec
  | catalogs _ => CatalogRecord.spec
  | edges _ => EdgeIngressRecord.spec
  | edgesWithChildren _ _ => EdgeIngressRecord.spec

/-- The object that a record becomes at a moment. -/
def materialize : Keeper σ Record Spec Status →
    Timestamp → Record → Except RecordError (Object Spec Status)
  | catalogs _ => CatalogRecord.materialize
  | edges _ => EdgeIngressRecord.materialize
  | edgesWithChildren _ _ => EdgeIngressRecord.materialize

/-- The requests about the objects. -/
def api : Keeper σ Record Spec Status → Api σ Spec Status
  | catalogs api => api
  | edges api => api
  | edgesWithChildren _ apis => apis.edges

/-- The slots of the objects. -/
def slot (census : Census σ ι D) : Keeper σ Record Spec Status → Target → ι
  | catalogs _ => census.catalogs
  | edges _ => census.edges
  | edgesWithChildren _ _ => census.edges

/-- The sides of a pass. -/
def sides (timeout : Nat) (now : Nat → Timestamp) (platform : Call σ (List Record)) :
    Keeper σ Record Spec Status → Sides σ (Object Spec Status)
  | catalogs api => Catalog.sides timeout now platform api
  | edges api =>
    { kind := EdgeIngress.kind.name
      timeout := timeout
      keyOf := Object.key
      desired := do
        let records ← platform
        return materialized EdgeIngressRecord.materialize now records
      existing := Upkeep.list EdgeIngress.kind api
      write := Upkeep.write EdgeIngress.kind api }
  | edgesWithChildren settings apis => EdgeIngress.sides settings timeout now platform apis

/-- The server does with the objects what it is relied on to do. -/
def Faithful (stored : σ → Store Spec Status) : Keeper σ Record Spec Status → Prop
  | catalogs api => api.Faithful Catalog.kind stored
  | edges api => api.Faithful EdgeIngress.kind stored
  | edgesWithChildren _ apis => apis.Faithful stored

/-- The same with every request noted. -/
def noted : Keeper σ Record Spec Status → Keeper (σ × List Exchange) Record Spec Status
  | catalogs api => catalogs api.noted
  | edges api => edges api.noted
  | edgesWithChildren settings apis => edgesWithChildren settings apis.noted

/-- The world after a pass. -/
def pass (keeper : Keeper σ Record Spec Status) (round : Round Record) (w : World σ) : World σ :=
  ((keeper.sides round.timeout round.now (Call.given round.answer)).pass w).2

/-- The world after passes. -/
def passes (keeper : Keeper σ Record Spec Status) (rounds : List (Round Record)) (w : World σ) :
    World σ :=
  rounds.foldl (fun w round => keeper.pass round w) w

/-- The requests of passes, each with whether it was answered. -/
def exchanges (keeper : Keeper σ Record Spec Status) (rounds : List (Round Record))
    (w : World σ) : List Exchange :=
  (keeper.noted.passes rounds (w.noted [])).state.2

/-- The objects that records become, in their order. -/
def objects (keeper : Keeper σ Record Spec Status) (now : Nat → Timestamp)
    (records : List Record) : List (Object Spec Status) :=
  Step.built (materialized keeper.materialize now records)

variable {keeper : Keeper σ Record Spec Status} {stored : σ → Store Spec Status}

/-! ### What records become -/

theorem materialize_catalog_iff {moment : Timestamp} {record : CatalogRecord} {new : Catalog} :
    CatalogRecord.materialize moment record = .ok new ↔ record.name ≠ "" ∧
      new = ⟨{ name := some record.name, labels := some managerLabels }, record.spec,
        some (record.status moment)⟩ := by
  rw [CatalogRecord.materialize]
  split
  · next hname => simp [hname]
  · next hname => simp [hname, eq_comm]

theorem materialize_edge_iff {moment : Timestamp} {record : EdgeIngressRecord}
    {new : EdgeIngress} :
    EdgeIngressRecord.materialize moment record = .ok new ↔
      (record.name ≠ "" ∧ record.ns ≠ "" ∧ record.domain ≠ "") ∧
      new = ⟨{ name := some record.name, ns := some record.ns, labels := some managerLabels },
        record.spec, some (record.status moment)⟩ := by
  rw [EdgeIngressRecord.materialize]
  split
  · next hkey =>
    rcases hkey with hname | hns
    · simp [hname]
    · simp [hns]
  · next hkey =>
    rw [not_or] at hkey
    split
    · next hdomain => simp [hdomain]
    · next hdomain => simp [hkey, hdomain, eq_comm]

/-- An object that a record becomes can be asked for, and lies at a place of its kind. -/
theorem wanted_of_materialize {moment : Timestamp} {record : Record} {new : Object Spec Status}
    (h : keeper.materialize moment record = .ok new) :
    new.Wanted keeper.kind ∧ keeper.kind.Holds ⟨new.metadata.ns, new.metadata.anyName⟩ ∧
      new.spec = keeper.specOf record := by
  have hedge : ∀ (record : EdgeIngressRecord) (new : EdgeIngress),
      EdgeIngressRecord.materialize moment record = .ok new →
      new.Wanted EdgeIngress.kind ∧
        EdgeIngress.kind.Holds ⟨new.metadata.ns, new.metadata.anyName⟩ ∧
        new.spec = record.spec := by
    intro record new h
    obtain ⟨⟨-, hns, -⟩, rfl⟩ := materialize_edge_iff.1 h
    exact ⟨⟨⟨_, rfl⟩, rfl, _, rfl, rfl⟩, ⟨record.ns, hns, rfl⟩, rfl⟩
  cases keeper with
  | catalogs api =>
      obtain ⟨-, rfl⟩ := materialize_catalog_iff.1 h
      exact ⟨⟨⟨_, rfl⟩, rfl, _, rfl, rfl⟩, rfl, rfl⟩
  | edges api => exact hedge record new h
  | edgesWithChildren settings apis => exact hedge record new h

/-- Whether a record becomes an object, and with which metadata, does not depend on the moment. -/
theorem materialize_at {moment : Timestamp} {record : Record} {new : Object Spec Status}
    (h : keeper.materialize moment record = .ok new) (moment' : Timestamp) :
    ∃ new', keeper.materialize moment' record = .ok new' ∧ new'.metadata = new.metadata := by
  cases keeper with
  | catalogs api =>
      obtain ⟨hname, rfl⟩ := materialize_catalog_iff.1 h
      exact ⟨_, materialize_catalog_iff.2 ⟨hname, rfl⟩, rfl⟩
  | edges api =>
      obtain ⟨hkey, rfl⟩ := materialize_edge_iff.1 h
      exact ⟨_, materialize_edge_iff.2 ⟨hkey, rfl⟩, rfl⟩
  | edgesWithChildren settings apis =>
      obtain ⟨hkey, rfl⟩ := materialize_edge_iff.1 h
      exact ⟨_, materialize_edge_iff.2 ⟨hkey, rfl⟩, rfl⟩

theorem toOption_item {item : Except RecordError (Object Spec Status)} {new : Object Spec Status} :
    (item.mapError RecordError.message).toOption = some new ↔ item = .ok new := by
  cases item with
  | error e => exact ⟨fun h => (nomatch h), fun h => (nomatch h)⟩
  | ok o => exact ⟨fun h => congrArg _ (Option.some.inj h), fun h => congrArg _ (Except.ok.inj h)⟩

theorem mem_objects_iff {now : Nat → Timestamp} {records : List Record}
    {new : Object Spec Status} :
    new ∈ keeper.objects now records ↔
      ∃ i, ∃ hi : i < records.length, keeper.materialize (now i) records[i] = .ok new := by
  rw [objects, Step.built, List.mem_filterMap]
  constructor
  · rintro ⟨item, hmem, hnew⟩
    obtain ⟨i, hi, rfl⟩ := List.mem_mapIdx.1 hmem
    exact ⟨i, hi, toOption_item.1 hnew⟩
  · rintro ⟨i, hi, hnew⟩
    exact ⟨_, List.mem_mapIdx.2 ⟨i, hi, rfl⟩, toOption_item.2 hnew⟩

/-- Every record that becomes an object at some moment has one in a pass. -/
theorem exists_mem_objects {records : List Record} {record : Record} (hrecord : record ∈ records)
    {moment : Timestamp} {new : Object Spec Status}
    (h : keeper.materialize moment record = .ok new) (now : Nat → Timestamp) :
    ∃ new' ∈ keeper.objects now records, new'.metadata = new.metadata ∧
      new'.spec = keeper.specOf record := by
  obtain ⟨i, hi, rfl⟩ := List.getElem_of_mem hrecord
  obtain ⟨new', hnew', hmetadata⟩ := materialize_at h (now i)
  exact ⟨new', mem_objects_iff.2 ⟨i, hi, hnew'⟩, hmetadata, (wanted_of_materialize hnew').2.2⟩

theorem exists_record {now : Nat → Timestamp} {records : List Record} {new : Object Spec Status}
    (h : new ∈ keeper.objects now records) :
    ∃ record ∈ records, ∃ moment, keeper.materialize moment record = .ok new := by
  obtain ⟨i, hi, hnew⟩ := mem_objects_iff.1 h
  exact ⟨records[i], List.getElem_mem hi, now i, hnew⟩

theorem wanted_of_mem {now : Nat → Timestamp} {records : List Record} {new : Object Spec Status}
    (h : new ∈ keeper.objects now records) :
    new.Wanted keeper.kind ∧ keeper.kind.Holds ⟨new.metadata.ns, new.metadata.anyName⟩ := by
  obtain ⟨record, -, moment, hmaterialize⟩ := exists_record h
  obtain ⟨hwanted, hholds, -⟩ := wanted_of_materialize hmaterialize
  exact ⟨hwanted, hholds⟩

/-! ### Its requests and writes -/

theorem api_noted : keeper.noted.api = keeper.api.noted := by
  cases keeper <;> rfl

theorem kind_noted : keeper.noted.kind = keeper.kind := by
  cases keeper <;> rfl

theorem materialize_noted : keeper.noted.materialize = keeper.materialize := by
  cases keeper <;> rfl

theorem Faithful.api (hfaithful : keeper.Faithful stored) :
    keeper.api.Faithful keeper.kind stored := by
  cases keeper with
  | catalogs api => exact hfaithful
  | edges api => exact hfaithful
  | edgesWithChildren settings apis => exact hfaithful.edges

theorem kind_sides (timeout : Nat) (now : Nat → Timestamp) (platform : Call σ (List Record)) :
    (keeper.sides timeout now platform).kind = keeper.kind.name := by
  cases keeper <;> rfl

theorem timeout_sides (timeout : Nat) (now : Nat → Timestamp) (platform : Call σ (List Record)) :
    (keeper.sides timeout now platform).timeout = timeout := by
  cases keeper <;> rfl

theorem keyOf_sides (timeout : Nat) (now : Nat → Timestamp) (platform : Call σ (List Record)) :
    (keeper.sides timeout now platform).keyOf = Object.key := by
  cases keeper <;> rfl

theorem desired_sides (timeout : Nat) (now : Nat → Timestamp)
    (answer : Except Stop (List Record)) (w : World σ) :
    (keeper.sides timeout now (Call.given answer)).desired w =
      (answer.map (materialized keeper.materialize now), w) := by
  cases keeper <;> cases answer <;> rfl

theorem existing_sides (timeout : Nat) (now : Nat → Timestamp)
    (platform : Call σ (List Record)) :
    (keeper.sides timeout now platform).existing = Upkeep.list keeper.kind keeper.api := by
  cases keeper <;> rfl

/-- What a write of a pass does. -/
theorem does_write {census : Census σ ι D} (hfaithful : keeper.Faithful stored)
    (hcollects : keeper.api.Collects census (keeper.slot census) stored) (timeout : Nat)
    (now : Nat → Timestamp) (platform : Call σ (List Record))
    (platform' : Call (σ × List Exchange) (List Record))
    {x : Write (Object Spec Status)} (hx : x.Wanted keeper.kind) :
    Call.Traces ((keeper.noted.sides timeout now platform').write x)
      ((keeper.sides timeout now platform).write x)
      (fun s _ es s' => x.Does keeper.kind stored (census.Owns (keeper.slot census)) es s s')
      fun s es s' => x.Does keeper.kind stored (census.Owns (keeper.slot census)) es s s' := by
  cases keeper with
  | catalogs api => exact Upkeep.does_write hfaithful hcollects Catalog.recording hx
  | edges api => exact Upkeep.does_write hfaithful hcollects EdgeIngress.recording hx
  | edgesWithChildren settings apis => exact Child.does_write hfaithful hcollects settings hx

end Keeper

end EdgeAgent
