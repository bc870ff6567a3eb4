import EdgeAgent.Proofs.Cluster.Pass

/-! What the records of a round declare. A record declares its spec for the object of its key; since
records become objects of different keys, there is at most one such record, and its spec is what is
wanted at the place of the key. Where the fingerprints of specs do not collide, a recorded
fingerprint says which spec was declared. -/

namespace EdgeAgent

variable {σ Record Spec Status : Type}

/-! ### Fingerprints -/

/-- The texts of the specs at hand have fingerprints of their own. -/
def Kind.CollisionFree (kind : Kind Spec Status) (involved : Spec → Prop) : Prop :=
  ∀ a b, involved a → involved b → kind.hashOf a = kind.hashOf b →
    (kind.encodeSpec a).bytes = (kind.encodeSpec b).bytes

/-- The fingerprint that is recorded of an object of the agent, if any, is that of its spec. -/
def Store.Settled (kind : Kind Spec Status) (objects : Store Spec Status) : Prop :=
  ∀ place o hash, objects place = some o → o.managed = true → o.recordedHash kind = some hash →
    hash = kind.hashOf o.spec

theorem Store.settled_iff {kind : Kind Spec Status} {objects : Store Spec Status} :
    objects.Settled kind ↔ ∀ place, Outline.Settled kind.hashOf (objects.outlines kind place) := by
  constructor
  · intro h place x text hx hmanaged hhash
    obtain ⟨o, ho, rfl⟩ := Option.map_eq_some_iff.1 hx
    exact h place o text ho hmanaged hhash
  · intro h place o text ho hmanaged hhash
    exact h place (o.outline kind) text (Store.outlines_eq_some ho) hmanaged hhash

namespace Keeper

variable {keeper : Keeper σ Record Spec Status} {stored : σ → Store Spec Status}
  {round : Round Record} {records : List Record} {place : Target} {key : Key}

theorem legible : keeper.kind.Legible := by
  cases keeper with
  | catalogs api => exact Catalog.legible
  | edges api => exact EdgeIngress.legible
  | edgesWithChildren settings apis => exact EdgeIngress.legible

theorem eq_of_hashOf {involved : Spec → Prop} (hfree : keeper.kind.CollisionFree involved)
    {a b : Spec} (ha : involved a) (hb : involved b)
    (h : keeper.kind.hashOf a = keeper.kind.hashOf b) : a = b :=
  keeper.legible a b (hfree a b ha hb h)

/-! ### Records and keys -/

/-- A record becomes an object of a key. -/
def Keys (keeper : Keeper σ Record Spec Status) (record : Record) (key : Key) : Prop :=
  ∃ moment new, keeper.materialize moment record = .ok new ∧ new.key = key

theorem Keys.eq {record : Record} {key' : Key} (hkeys : keeper.Keys record key)
    (hkeys' : keeper.Keys record key') : key = key' := by
  obtain ⟨moment, new, hnew, rfl⟩ := hkeys
  obtain ⟨moment', new', hnew', rfl⟩ := hkeys'
  obtain ⟨x, hx, hmetadata⟩ := materialize_at hnew moment'
  rw [hnew'] at hx
  cases hx
  rw [Object.key, Object.key, hmetadata]

/-- A round declares a spec. -/
def Declares (keeper : Keeper σ Record Spec Status) (round : Round Record) (spec : Spec) : Prop :=
  ∃ records, round.answer = .ok records ∧ ∃ record ∈ records, keeper.specOf record = spec

/-- A key is that of one record at most. -/
theorem Keyed.index_eq (hkeyed : keeper.Keyed round) (hanswer : round.answer = .ok records)
    {i j : Nat} (hi : i < records.length) (hj : j < records.length)
    (hkeys : keeper.Keys records[i] key) (hkeys' : keeper.Keys records[j] key) : i = j := by
  have hdistinct := (hkeyed records hanswer).1
  rw [objects, Step.built, List.Nodup, List.pairwise_map, List.pairwise_filterMap,
    List.pairwise_iff_getElem] at hdistinct
  have hlater : ∀ {i j : Nat} (hi : i < records.length) (hj : j < records.length),
      keeper.Keys records[i] key → keeper.Keys records[j] key → ¬i < j := by
    rintro i j hi hj ⟨_, new, hnew, rfl⟩ ⟨_, new', hnew', hkey⟩ hlt
    obtain ⟨x, hx, hmetadata⟩ := materialize_at hnew (round.now i)
    obtain ⟨y, hy, hmetadata'⟩ := materialize_at hnew' (round.now j)
    refine hdistinct i j (by rwa [materialized, List.length_mapIdx])
      (by rwa [materialized, List.length_mapIdx]) hlt x ?_ y ?_ ?_
    · simp only [materialized, List.getElem_mapIdx]
      exact toOption_item.2 hx
    · simp only [materialized, List.getElem_mapIdx]
      exact toOption_item.2 hy
    · rw [Object.key, Object.key, hmetadata, hmetadata']
      exact hkey.symm
  rcases Nat.lt_trichotomy i j with hlt | heq | hlt
  · exact absurd hlt (hlater hi hj hkeys hkeys')
  · exact heq
  · exact absurd hlt (hlater hj hi hkeys' hkeys)

theorem Keyed.record_eq (hkeyed : keeper.Keyed round) (hanswer : round.answer = .ok records)
    {record record' : Record} (hrecord : record ∈ records) (hrecord' : record' ∈ records)
    (hkeys : keeper.Keys record key) (hkeys' : keeper.Keys record' key) : record = record' := by
  obtain ⟨i, hi, rfl⟩ := List.getElem_of_mem hrecord
  obtain ⟨j, hj, rfl⟩ := List.getElem_of_mem hrecord'
  obtain rfl := hkeyed.index_eq hanswer hi hj hkeys hkeys'
  rfl

/-- What is wanted at a place is what the record of its key declares. -/
theorem Keyed.wantedAt_iff (hkeyed : keeper.Keyed round) (hanswer : round.answer = .ok records)
    {spec : Spec} (hplace : place.Plain keeper.kind) :
    wantedAt keeper.kind (keeper.objects round.now records) place = some spec ↔
      ∃ record ∈ records, keeper.Keys record place.key ∧ keeper.specOf record = spec := by
  have hasked := hkeyed.asked hanswer
  constructor
  · intro hwanted
    obtain ⟨new, hmem, rfl, rfl⟩ := exists_of_wantedAt hwanted
    obtain ⟨record, hrecord, moment, hnew⟩ := exists_record hmem
    exact ⟨record, hrecord, ⟨moment, new, hnew, hasked.key new hmem⟩,
      (wanted_of_materialize hnew).2.2.symm⟩
  · rintro ⟨record, hrecord, ⟨_, new, hnew, hkey⟩, rfl⟩
    obtain ⟨x, hmem, hmetadata, hspec⟩ := exists_mem_objects hrecord hnew round.now
    have hx : (Upkeep.target keeper.kind x).key = place.key := by
      rw [← hasked.key x hmem, ← hkey, Object.key, Object.key, hmetadata]
    rw [← (hasked.plain x hmem).eq_of_key hplace hx, hasked.wantedAt_eq hmem, hspec]

/-- Something is wanted at plain places only. -/
theorem Keyed.plain_of_wantedAt (hkeyed : keeper.Keyed round) (hanswer : round.answer = .ok records)
    {spec : Spec}
    (h : wantedAt keeper.kind (keeper.objects round.now records) place = some spec) :
    place.Plain keeper.kind ∧ keeper.Declares round spec := by
  obtain ⟨new, hmem, rfl, rfl⟩ := exists_of_wantedAt h
  obtain ⟨record, hrecord, moment, hnew⟩ := exists_record hmem
  exact ⟨(hkeyed.asked hanswer).plain new hmem, records, hanswer, record, hrecord,
    (wanted_of_materialize hnew).2.2.symm⟩

/-- A record that becomes an object has a plain place. -/
theorem Keyed.exists_place (hkeyed : keeper.Keyed round) (hanswer : round.answer = .ok records)
    {record : Record} (hrecord : record ∈ records) (hkeys : keeper.Keys record key) :
    ∃ place : Target, place.Plain keeper.kind ∧ place.key = key := by
  have hasked := hkeyed.asked hanswer
  obtain ⟨_, new, hnew, rfl⟩ := hkeys
  obtain ⟨x, hmem, hmetadata, -⟩ := exists_mem_objects hrecord hnew round.now
  refine ⟨_, hasked.plain x hmem, ?_⟩
  rw [← hasked.key x hmem, Object.key, Object.key, hmetadata]

end Keeper

end EdgeAgent
