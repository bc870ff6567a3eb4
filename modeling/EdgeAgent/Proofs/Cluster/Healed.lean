import EdgeAgent.Proofs.Cluster.Converged

/-! What one pass in which every request is answered makes of the objects that passes with any
failures have left. An object that is left without a recorded fingerprint is written again. One that
was replaced without its status keeps the fingerprint of an earlier spec, and when the platform
declares that spec again nothing is written: the object is masked. The main statement is that the
last pass heals the store exactly when no object is masked, and always when no replacement was torn
from its status. -/

namespace EdgeAgent

open Exchange (Missed Torn)

namespace Keeper

variable {σ ι D Record Spec Status : Type} {keeper : Keeper σ Record Spec Status}
  {stored : σ → Store Spec Status} {census : Census σ ι D} {round last : Round Record}
  {rounds : List (Round Record)} {records : List Record} {w : World σ}

/-- Every object of the agent has the spec that the record of its key declares. -/
def Healed (keeper : Keeper σ Record Spec Status) (records : List Record)
    (objects : Store Spec Status) : Prop :=
  ∀ place o, objects place = some o → o.managed = true →
    ∃ record ∈ records, keeper.Keys record o.key ∧ o.spec = keeper.specOf record

/-- Some object of the agent records the fingerprint of the spec that the record of its key
declares, but has another spec. -/
def Masked (keeper : Keeper σ Record Spec Status) (records : List Record)
    (objects : Store Spec Status) : Prop :=
  ∃ place o, objects place = some o ∧ o.managed = true ∧
    ∃ record ∈ records, keeper.Keys record o.key ∧
      o.recordedHash keeper.kind = some (keeper.kind.hashOf (keeper.specOf record)) ∧
      o.spec ≠ keeper.specOf record

/-! ### One pass -/

/-- An object that records the declared fingerprint is left alone, where no object has owners. -/
theorem outline_of_recorded (hfaithful : keeper.Faithful stored)
    (hcollects : keeper.api.Collects census (keeper.slot census) stored)
    (hendows : keeper.api.Endows census (keeper.slot census) stored) (hkeyed : keeper.Keyed round)
    (hanswer : round.answer = .ok records) (hplain : (stored w.state).Plain keeper.kind)
    (hownerless : Ownerless stored w.state) {place : Target} {o : Object Spec Status}
    (ho : stored w.state place = some o) {record : Record} (hrecord : record ∈ records)
    (hkeys : keeper.Keys record o.key)
    (hhash : o.recordedHash keeper.kind = some (keeper.kind.hashOf (keeper.specOf record))) :
    ∃ o', stored (keeper.pass round w).state place = some o' ∧
      o'.outline keeper.kind = o.outline keeper.kind := by
  obtain ⟨es, -, hturns⟩ := pass_turns hfaithful hcollects hkeyed hanswer hplain []
  have hturn := (hturns place).resolve_right fun ⟨_, htaken⟩ =>
    not_taken_of_ownerless hfaithful hcollects hendows hownerless place htaken
  rw [hfaithful.api.key_eq ho] at hkeys
  rw [(hkeyed.wantedAt_iff hanswer (hplain place o ho)).2 ⟨record, hrecord, hkeys, rfl⟩,
    seenIn, Store.outlines_eq_some ho] at hturn
  exact seenIn_eq_some_iff.1 (hturn.eq_of_recorded hhash)

/-- A pass in which every request is answered heals the store unless an object is masked, where no
object has owners. -/
theorem healed_pass_iff (hfaithful : keeper.Faithful stored)
    (hcollects : keeper.api.Collects census (keeper.slot census) stored)
    (hendows : keeper.api.Endows census (keeper.slot census) stored) (hkeyed : keeper.Keyed round)
    (hanswer : round.answer = .ok records) (hplain : (stored w.state).Plain keeper.kind)
    (hownerless : Ownerless stored w.state)
    (hanswered : ∀ e ∈ keeper.exchanges [round] w, e.answered = true) :
    keeper.Healed records (stored (keeper.pass round w).state) ↔
      ¬keeper.Masked records (stored w.state) := by
  constructor
  · rintro hhealed ⟨place, o, ho, hmanaged, record, hrecord, hkeys, hhash, hspec⟩
    obtain ⟨o', ho', hsame⟩ :=
      outline_of_recorded hfaithful hcollects hendows hkeyed hanswer hplain hownerless ho hrecord
        hkeys hhash
    obtain ⟨found, hfound, hkeys', hspec'⟩ :=
      hhealed place o' ho' ((congrArg Outline.managed hsame).trans hmanaged)
    rw [hfaithful.api.key_eq ho', ← hfaithful.api.key_eq ho] at hkeys'
    obtain rfl := hkeyed.record_eq hanswer hfound hrecord hkeys' hkeys
    exact hspec ((congrArg Outline.spec hsame).symm.trans hspec')
  · intro hmasked place o ho hmanaged
    obtain ⟨record, hrecord, hkeys, hhash, hspec⟩ :=
      declared_of_answered hfaithful hcollects hkeyed hanswer hplain hanswered ho hmanaged
    refine ⟨record, hrecord, hkeys, ?_⟩
    rcases hspec with hspec | ⟨old, hold, hsame⟩
    · exact hspec
    · by_contra hother
      refine hmasked ⟨place, old, hold, (congrArg Outline.managed hsame).trans hmanaged, record,
        hrecord, ?_, (congrArg Outline.hash hsame).trans hhash, ?_⟩
      · rwa [hfaithful.api.key_eq hold, ← hfaithful.api.key_eq ho]
      · exact fun heq => hother ((congrArg Outline.spec hsame).symm.trans heq)

/-- What a pass keeps, however its requests turn out: places stay plain, unless a replacement is
torn recorded fingerprints stay those of the specs, and new specs are declared ones. -/
theorem pass_keeps (hfaithful : keeper.Faithful stored)
    (hcollects : keeper.api.Collects census (keeper.slot census) stored)
    (hkeyed : keeper.Keyed round) (hplain : (stored w.state).Plain keeper.kind) (notes : List Exchange) :
    ∃ es, keeper.noted.pass round (w.noted notes) = (keeper.pass round w).noted (notes ++ es) ∧
      (¬Torn es → (stored w.state).Settled keeper.kind →
        (stored (keeper.pass round w).state).Settled keeper.kind) ∧
      ∀ place o, stored (keeper.pass round w).state place = some o → o.managed = true →
        (∃ old, stored w.state place = some old ∧ old.managed = true ∧ old.spec = o.spec) ∨
          keeper.Declares round o.spec := by
  cases hanswer : round.answer with
  | error stop =>
      obtain ⟨hpass, hsame⟩ : keeper.noted.pass round (w.noted notes) =
          (keeper.pass round w).noted notes ∧ (keeper.pass round w).state = w.state :=
        pass_of_no_answer hanswer w notes
      refine ⟨[], ?_, ?_, ?_⟩
      · rw [hpass, List.append_nil]
      · rw [hsame]
        exact fun _ hsettled => hsettled
      · rw [hsame]
        exact fun place o ho hmanaged => .inl ⟨o, ho, hmanaged, rfl⟩
  | ok records =>
      obtain ⟨es, hpass, hturns⟩ := pass_turns hfaithful hcollects hkeyed hanswer hplain notes
      refine ⟨es, hpass, ?_, ?_⟩
      · intro htorn hsettled
        rw [Store.settled_iff] at hsettled ⊢
        intro place
        rcases hturns place with hturn | ⟨hgone, -⟩
        · exact hturn.settled htorn (hsettled place)
        · exact .of_none hgone
      · intro place o ho hmanaged
        have hturn := turn_of_stored ho (hturns place)
        rcases hturn.spec_eq (Store.outlines_eq_some ho) with ⟨y, hy, hsame⟩ | hwanted
        · obtain ⟨old, hold, rfl⟩ := seenIn_eq_some_iff.1 hy
          exact .inl ⟨old, hold, hsame hmanaged⟩
        · exact .inr (hkeyed.plain_of_wantedAt hanswer hwanted).2

/-! ### A run of passes -/

theorem passes_append (keeper : Keeper σ Record Spec Status) (rounds rounds' : List (Round Record))
    (w : World σ) :
    keeper.passes (rounds ++ rounds') w = keeper.passes rounds' (keeper.passes rounds w) :=
  List.foldl_append

theorem plain_passes (hfaithful : keeper.Faithful stored)
    (hcollects : keeper.api.Collects census (keeper.slot census) stored)
    (hkeyed : ∀ round ∈ rounds, keeper.Keyed round)
    (hplain : (stored w.state).Plain keeper.kind) :
    (stored (keeper.passes rounds w).state).Plain keeper.kind := by
  induction rounds generalizing w with
  | nil => exact hplain
  | cons round rounds ih =>
      rw [List.forall_mem_cons] at hkeyed
      exact ih hkeyed.2 (plain_pass hfaithful hcollects hkeyed.1 hplain)

/-- What a run of passes keeps, however their requests turn out. -/
theorem passes_keep (hfaithful : keeper.Faithful stored)
    (hcollects : keeper.api.Collects census (keeper.slot census) stored)
    (hkeyed : ∀ round ∈ rounds, keeper.Keyed round)
    (hplain : (stored w.state).Plain keeper.kind) (notes : List Exchange) :
    ∃ es, keeper.noted.passes rounds (w.noted notes) =
        (keeper.passes rounds w).noted (notes ++ es) ∧
      (¬Torn es → (stored w.state).Settled keeper.kind →
        (stored (keeper.passes rounds w).state).Settled keeper.kind) ∧
      ∀ place o, stored (keeper.passes rounds w).state place = some o → o.managed = true →
        (∃ old, stored w.state place = some old ∧ old.managed = true ∧ old.spec = o.spec) ∨
          ∃ round ∈ rounds, keeper.Declares round o.spec := by
  induction rounds generalizing w notes with
  | nil =>
      refine ⟨[], ?_, fun _ hsettled => hsettled, fun place o ho hmanaged => ?_⟩
      · rw [List.append_nil]
        rfl
      · exact .inl ⟨o, ho, hmanaged, rfl⟩
  | cons round rounds ih =>
      rw [List.forall_mem_cons] at hkeyed
      obtain ⟨first, hpass, hsettled, hspecs⟩ := pass_keeps hfaithful hcollects hkeyed.1 hplain notes
      obtain ⟨rest, hpasses, hsettled', hspecs'⟩ :=
        ih hkeyed.2 (plain_pass hfaithful hcollects hkeyed.1 hplain) (notes ++ first)
      refine ⟨first ++ rest, ?_, ?_, ?_⟩
      · rw [← List.append_assoc]
        exact (congrArg (keeper.noted.passes rounds) hpass).trans hpasses
      · intro htorn hbefore
        have hfirst := hsettled (fun h => htorn (h.mono (List.prefix_append first rest).isInfix))
          hbefore
        exact hsettled' (fun h => htorn (h.mono (List.suffix_append first rest).isInfix)) hfirst
      · intro place o ho hmanaged
        rcases hspecs' place o ho hmanaged with ⟨mid, hmid, hmanaged', hspec⟩ | ⟨r, hr, hdeclares⟩
        · rcases hspecs place mid hmid hmanaged' with hold | hdeclares
          · obtain ⟨old, hold, hmanaged_old, hspec_old⟩ := hold
            exact .inl ⟨old, hold, hmanaged_old, hspec_old.trans hspec⟩
          · exact .inr ⟨round, .head _, hspec ▸ hdeclares⟩
        · exact .inr ⟨r, .tail _ hr, hdeclares⟩

/-- No object is masked when recorded fingerprints are those of the stored specs, and those do not
collide with declared ones. -/
theorem not_masked_of_settled {objects : Store Spec Status} {involved : Spec → Prop}
    (hfree : keeper.kind.CollisionFree involved)
    (hobjects : ∀ place o, objects place = some o → o.managed = true → involved o.spec)
    (hrecords : ∀ record ∈ records, involved (keeper.specOf record))
    (hsettled : objects.Settled keeper.kind) : ¬keeper.Masked records objects := by
  rintro ⟨place, o, ho, hmanaged, record, hrecord, -, hhash, hspec⟩
  refine hspec (eq_of_hashOf hfree (hobjects place o ho hmanaged) (hrecords record hrecord) ?_)
  exact (hsettled place o _ ho hmanaged hhash).symm

/-- Passes over an empty store, with any failures, and then one in which every request is answered:
every object of the agent has its declared spec, unless one was masked before the last pass; and
none was when no replacement was torn from its status. -/
theorem healed_iff (hfaithful : keeper.Faithful stored)
    (hcollects : keeper.api.Collects census (keeper.slot census) stored)
    (hendows : keeper.api.Endows census (keeper.slot census) stored)
    (hkeyed : ∀ round ∈ rounds ++ [last], keeper.Keyed round)
    (hanswer : last.answer = .ok records) (hempty : ∀ place, stored w.state place = none)
    (hanswered : ∀ e ∈ keeper.exchanges [last] (keeper.passes rounds w), e.answered = true) :
    (keeper.Healed records (stored (keeper.passes (rounds ++ [last]) w).state) ↔
      ¬keeper.Masked records (stored (keeper.passes rounds w).state)) ∧
    (keeper.kind.CollisionFree (fun spec => ∃ round ∈ rounds ++ [last], keeper.Declares round spec) →
      ¬Torn (keeper.exchanges rounds w) →
      keeper.Healed records (stored (keeper.passes (rounds ++ [last]) w).state)) := by
  have hplain : (stored w.state).Plain keeper.kind := by
    intro place o ho
    rw [hempty place] at ho
    cases ho
  have hrounds : ∀ round ∈ rounds, keeper.Keyed round := fun round hround =>
    hkeyed round (List.mem_append_left _ hround)
  have hlast : last ∈ rounds ++ [last] := List.mem_append_right _ (.head _)
  have hiff := healed_pass_iff hfaithful hcollects hendows (hkeyed last hlast) hanswer
    (plain_passes hfaithful hcollects hrounds hplain)
    (ownerless_passes hfaithful hcollects hendows rounds (ownerless_of_empty hempty)) hanswered
  rw [passes_append]
  refine ⟨hiff, fun hfree htorn => hiff.2 ?_⟩
  obtain ⟨es, hpasses, hsettled, hspecs⟩ := passes_keep hfaithful hcollects hrounds hplain []
  have hes : keeper.exchanges rounds w = es := congrArg (fun w => w.state.2) hpasses
  refine not_masked_of_settled hfree ?_ ?_ (hsettled (hes ▸ htorn) ?_)
  · intro place o ho hmanaged
    rcases hspecs place o ho hmanaged with ⟨old, hold, -⟩ | ⟨round, hround, hdeclares⟩
    · rw [hempty place] at hold
      cases hold
    · exact ⟨round, List.mem_append_left _ hround, hdeclares⟩
  · exact fun record hrecord => ⟨last, hlast, records, hanswer, record, hrecord, rfl⟩
  · intro place o hash ho
    rw [hempty place] at ho
    cases ho

end Keeper

namespace Shelf

/-- A catalog is stored, but not its status; the next pass heals it. -/
theorem healed_iff_unfinishedCreation :
    (∀ e ∈ keeper.exchanges [declaring "a"] (keeper.passes [declaring "a"] (refusing 2)),
      e.answered = true) ∧
    keeper.Healed [recordOf "a"]
      (stored (keeper.passes [declaring "a", declaring "a"] (refusing 2)).state) := by
  have hanswered : ∀ e ∈ keeper.exchanges [declaring "a"]
      (keeper.passes [declaring "a"] (refusing 2)), e.answered = true := by decide +kernel
  have hexchanges : keeper.exchanges [declaring "a"] (refusing 2) =
      [⟨.list, true⟩, ⟨.create, true⟩, ⟨.patchStatus, false⟩] := by decide +kernel
  have htorn : ¬Torn (keeper.exchanges [declaring "a"] (refusing 2)) := by
    rw [hexchanges, Torn]
    decide
  have hfree : keeper.kind.CollisionFree fun spec =>
      ∃ round ∈ ["a", "a"].map declaring, keeper.Declares round spec := by
    intro a b ha hb _
    obtain ⟨x, hx, rfl⟩ := declares_iff.1 ha
    obtain ⟨y, hy, rfl⟩ := declares_iff.1 hb
    obtain ⟨rfl, rfl⟩ : x = "a" ∧ y = "a" := by simpa using And.intro hx hy
    rfl
  exact ⟨hanswered, (Keeper.healed_iff faithful_keeper collects_keeper endows_keeper
    (@keyed_declaring ["a", "a"]) rfl (stored_refusing 2) hanswered).2 hfree htorn⟩

/-- A catalog is replaced, but not its status, and then declared as it was before: the last pass
writes nothing. -/
theorem not_healed_reverted :
    keeper.Faithful stored ∧ keeper.api.Collects census (keeper.slot census) stored ∧
    keeper.api.Endows census (keeper.slot census) stored ∧
    (∀ round ∈ ["a", "b", "a"].map declaring, keeper.Keyed round) ∧
    (∀ place, stored (refusing 5).state place = none) ∧
    keeper.kind.CollisionFree (fun spec =>
      ∃ round ∈ ["a", "b", "a"].map declaring, keeper.Declares round spec) ∧
    (∀ e ∈ keeper.exchanges [declaring "a"]
      (keeper.passes [declaring "a", declaring "b"] (refusing 5)), e.answered = true) ∧
    ¬keeper.Healed [recordOf "a"]
      (stored (keeper.passes (["a", "b", "a"].map declaring) (refusing 5)).state) := by
  refine ⟨faithful_keeper, collects_keeper, endows_keeper, keyed_declaring, stored_refusing 5, ?_,
    by decide +kernel, ?_⟩
  · have hdiffer : keeper.kind.hashOf (recordOf "a").spec ≠
        keeper.kind.hashOf (recordOf "b").spec := by decide +kernel
    intro a b ha hb heq
    obtain ⟨x, hx, rfl⟩ := declares_iff.1 ha
    obtain ⟨y, hy, rfl⟩ := declares_iff.1 hb
    simp only [List.mem_cons, List.not_mem_nil, or_false] at hx hy
    rcases hx with rfl | rfl | rfl <;> rcases hy with rfl | rfl | rfl <;>
      first
      | rfl
      | exact absurd heq hdiffer
      | exact absurd heq.symm hdiffer
  · intro hhealed
    have hlast : (stored (keeper.passes (["a", "b", "a"].map declaring) (refusing 5)).state
        ⟨none, "shop"⟩).map (fun o => (o.managed, o.spec)) =
        some (true, (recordOf "b").spec) := by decide +kernel
    obtain ⟨o, ho, heq⟩ := Option.map_eq_some_iff.1 hlast
    obtain ⟨hmanaged, hspec⟩ := Prod.mk.inj heq
    obtain ⟨record, hrecord, -, hdeclared⟩ := hhealed _ o ho hmanaged
    rw [hspec, List.mem_singleton.1 hrecord] at hdeclared
    exact absurd hdeclared (by decide)

end Shelf

end EdgeAgent
