import EdgeAgent.Proofs.Cluster.Ownerless
import EdgeAgent.Proofs.Cluster.Shelf

/-! A pass in which every request is answered. Afterwards the objects of the agent are those that
the records declare: each is recorded with the fingerprint of its declared spec, and has this spec,
unless it was recorded with that fingerprint already. When recorded fingerprints are those of the
stored specs and do not collide, it has this spec in either case, so that one pass is enough. What
one pass does not undo is that a wanted object is lost with a removed one that it belonged to. -/

namespace EdgeAgent

open Exchange (Missed)

namespace Keeper

variable {σ ι D Record Spec Status : Type} {keeper : Keeper σ Record Spec Status}
  {stored : σ → Store Spec Status} {census : Census σ ι D} {round : Round Record}
  {records : List Record} {w : World σ} {place : Target} {o : Object Spec Status}

/-- What is stored after a pass has come to its turn. -/
theorem turn_of_stored (ho : stored (keeper.pass round w).state place = some o) {turn : Prop}
    (h : turn ∨ seenIn keeper.kind stored (keeper.pass round w).state place = none ∧
      keeper.Taken census round w place) : turn := by
  refine h.resolve_right fun ⟨hgone, _⟩ => ?_
  rw [seenIn_eq_none_iff, ho] at hgone
  cases hgone

/-- A pass whose requests are all answered misses none at any place. -/
theorem pass_answered (hfaithful : keeper.Faithful stored)
    (hcollects : keeper.api.Collects census (keeper.slot census) stored)
    (hkeyed : keeper.Keyed round) (hanswer : round.answer = .ok records)
    (hplain : (stored w.state).Plain keeper.kind)
    (hanswered : ∀ e ∈ keeper.exchanges [round] w, e.answered = true) (place : Target) :
    (∃ es, ¬Missed es ∧ Turn keeper.kind.hashOf es
      (wantedAt keeper.kind (keeper.objects round.now records) place)
      (seenIn keeper.kind stored w.state place)
      (seenIn keeper.kind stored (keeper.pass round w).state place)) ∨
    seenIn keeper.kind stored (keeper.pass round w).state place = none ∧
      keeper.Taken census round w place := by
  obtain ⟨es, hpass, hturns⟩ := pass_turns hfaithful hcollects hkeyed hanswer hplain []
  have hes : keeper.exchanges [round] w = es := congrArg (fun w => w.state.2) hpass
  rw [hes] at hanswered
  refine (hturns place).imp_left fun hturn => ⟨es, ?_, hturn⟩
  rintro ⟨e, he, hmissed⟩
  rw [hanswered e he] at hmissed
  cases hmissed

/-- The places of stored objects stay plain. -/
theorem plain_pass (hfaithful : keeper.Faithful stored)
    (hcollects : keeper.api.Collects census (keeper.slot census) stored)
    (hkeyed : keeper.Keyed round) (hplain : (stored w.state).Plain keeper.kind) :
    (stored (keeper.pass round w).state).Plain keeper.kind := by
  intro place o ho
  cases hanswer : round.answer with
  | error stop =>
      rw [(pass_of_no_answer hanswer w []).2] at ho
      exact hplain place o ho
  | ok records =>
      obtain ⟨es, -, hturns⟩ := pass_turns hfaithful hcollects hkeyed hanswer hplain []
      have hturn := turn_of_stored ho (hturns place)
      rcases hturn.spec_eq (Store.outlines_eq_some ho) with ⟨y, hy, -⟩ | hwanted
      · obtain ⟨old, hold, -⟩ := seenIn_eq_some_iff.1 hy
        exact hplain place old hold
      · exact (hkeyed.plain_of_wantedAt hanswer hwanted).1

/-- An object of the agent after a pass is recorded as a record declares it, and has the declared
spec unless nothing was written. -/
theorem declared_of_answered (hfaithful : keeper.Faithful stored)
    (hcollects : keeper.api.Collects census (keeper.slot census) stored)
    (hkeyed : keeper.Keyed round) (hanswer : round.answer = .ok records)
    (hplain : (stored w.state).Plain keeper.kind)
    (hanswered : ∀ e ∈ keeper.exchanges [round] w, e.answered = true)
    (ho : stored (keeper.pass round w).state place = some o) (hmanaged : o.managed = true) :
    ∃ record ∈ records, keeper.Keys record o.key ∧
      o.recordedHash keeper.kind = some (keeper.kind.hashOf (keeper.specOf record)) ∧
      (o.spec = keeper.specOf record ∨ ∃ old, stored w.state place = some old ∧
        old.outline keeper.kind = o.outline keeper.kind) := by
  have hplace := plain_pass hfaithful hcollects hkeyed hplain place o ho
  have hseen : seenIn keeper.kind stored _ place = some (o.outline keeper.kind) :=
    Store.outlines_eq_some ho
  obtain ⟨es, hes, hturn⟩ := turn_of_stored ho
    (pass_answered hfaithful hcollects hkeyed hanswer hplain hanswered place)
  cases hwanted : wantedAt keeper.kind (keeper.objects round.now records) place with
  | none =>
      rw [hwanted] at hturn
      have hforeign := hturn.managed_of_answered hes hseen
      rw [Object.outline, hmanaged] at hforeign
      cases hforeign
  | some spec =>
      obtain ⟨record, hrecord, hkeys, rfl⟩ := (hkeyed.wantedAt_iff hanswer hplace).1 hwanted
      rw [hwanted] at hturn
      obtain ⟨x, hx, -, hhash, hspec⟩ := hturn.recorded_of_answered hes
      obtain rfl : o.outline keeper.kind = x := Option.some.inj (hseen.symm.trans hx)
      refine ⟨record, hrecord, ?_, hhash, ?_⟩
      · rwa [hfaithful.api.key_eq ho]
      · exact hspec.imp id fun hbefore => seenIn_eq_some_iff.1 hbefore

/-- Every record that becomes an object has one of the agent after a pass, unless that is lost. -/
theorem stored_of_answered (hfaithful : keeper.Faithful stored)
    (hcollects : keeper.api.Collects census (keeper.slot census) stored)
    (hkeyed : keeper.Keyed round) (hanswer : round.answer = .ok records)
    (hplain : (stored w.state).Plain keeper.kind)
    (hanswered : ∀ e ∈ keeper.exchanges [round] w, e.answered = true) {record : Record}
    (hrecord : record ∈ records) (hplace : place.Plain keeper.kind)
    (hkeys : keeper.Keys record place.key) :
    (∃ o, stored (keeper.pass round w).state place = some o ∧ o.managed = true) ∨
      keeper.Lost census stored round w place := by
  rcases pass_answered hfaithful hcollects hkeyed hanswer hplain hanswered place with
    ⟨es, hes, hturn⟩ | ⟨hgone, htaken⟩
  rotate_left
  · exact .inr ⟨seenIn_eq_none_iff.1 hgone, htaken⟩
  left
  rw [(hkeyed.wantedAt_iff hanswer hplace).2 ⟨record, hrecord, hkeys, rfl⟩] at hturn
  obtain ⟨x, hx, hmanaged, -⟩ := hturn.recorded_of_answered hes
  obtain ⟨o, ho, rfl⟩ := seenIn_eq_some_iff.1 hx
  exact ⟨o, ho, hmanaged⟩

/-! ### Convergence -/

/-- A stored object is what a record declares. -/
structure Realized (keeper : Keeper σ Record Spec Status) (record : Record)
    (o : Object Spec Status) : Prop where
  managed : o.managed = true
  keys : keeper.Keys record o.key
  spec : o.spec = keeper.specOf record
  hash : o.recordedHash keeper.kind = some (keeper.kind.hashOf o.spec)

/-- The specs of the stored objects of the agent and of records. -/
def Involved (keeper : Keeper σ Record Spec Status) (records : List Record)
    (objects : Store Spec Status) (spec : Spec) : Prop :=
  (∃ place o, objects place = some o ∧ o.managed = true ∧ o.spec = spec) ∨
    ∃ record ∈ records, keeper.specOf record = spec

theorem realized_of_answered (hfaithful : keeper.Faithful stored)
    (hcollects : keeper.api.Collects census (keeper.slot census) stored)
    (hkeyed : keeper.Keyed round) (hanswer : round.answer = .ok records)
    (hplain : (stored w.state).Plain keeper.kind)
    (hsettled : (stored w.state).Settled keeper.kind)
    (hfree : keeper.kind.CollisionFree (keeper.Involved records (stored w.state)))
    (hanswered : ∀ e ∈ keeper.exchanges [round] w, e.answered = true)
    (ho : stored (keeper.pass round w).state place = some o) (hmanaged : o.managed = true) :
    ∃ record ∈ records, keeper.Realized record o := by
  obtain ⟨record, hrecord, hkeys, hhash, hspec⟩ :=
    declared_of_answered hfaithful hcollects hkeyed hanswer hplain hanswered ho hmanaged
  have hdeclared : o.spec = keeper.specOf record := by
    rcases hspec with hspec | ⟨old, hold, hsame⟩
    · exact hspec
    · have hold_managed : old.managed = true := (congrArg Outline.managed hsame).trans hmanaged
      have hold_spec : old.spec = o.spec := congrArg Outline.spec hsame
      have hold_hash := (congrArg Outline.hash hsame).trans hhash
      rw [← hold_spec]
      refine eq_of_hashOf hfree (.inl ⟨place, old, hold, hold_managed, rfl⟩)
        (.inr ⟨record, hrecord, rfl⟩) ?_
      exact (hsettled place old _ hold hold_managed hold_hash).symm
  exact ⟨record, hrecord, hmanaged, hkeys, hdeclared, hdeclared ▸ hhash⟩

/-- One pass in which every request is answered brings the stored objects of the agent into
one-to-one correspondence with the records that become objects, but for those whose object is lost:
it belonged to one that the pass has removed, and is gone with it. -/
theorem realized_pass (hfaithful : keeper.Faithful stored)
    (hcollects : keeper.api.Collects census (keeper.slot census) stored)
    (hkeyed : keeper.Keyed round) (hanswer : round.answer = .ok records)
    (hplain : (stored w.state).Plain keeper.kind)
    (hsettled : (stored w.state).Settled keeper.kind)
    (hfree : keeper.kind.CollisionFree (keeper.Involved records (stored w.state)))
    (hanswered : ∀ e ∈ keeper.exchanges [round] w, e.answered = true) :
    (∀ record ∈ records, ∀ key, keeper.Keys record key →
      (∃! place, ∃ o, stored (keeper.pass round w).state place = some o ∧
        keeper.Realized record o) ∨
      ∃ place, place.key = key ∧ keeper.Lost census stored round w place) ∧
    (∀ place o, stored (keeper.pass round w).state place = some o → o.managed = true →
      ∃! i, ∃ hi : i < records.length, keeper.Realized records[i] o) ∧
    (stored (keeper.pass round w).state).Settled keeper.kind := by
  have hrealized := fun place o (ho : stored (keeper.pass round w).state place = some o) =>
    realized_of_answered hfaithful hcollects hkeyed hanswer hplain hsettled hfree hanswered ho
  have hplain' := plain_pass hfaithful hcollects hkeyed hplain
  refine ⟨?_, ?_, ?_⟩
  · intro record hrecord key hkeys
    obtain ⟨place, hplace, rfl⟩ := hkeyed.exists_place hanswer hrecord hkeys
    refine (stored_of_answered hfaithful hcollects hkeyed hanswer hplain hanswered hrecord hplace
      hkeys).imp ?_ fun hlost => ⟨place, rfl, hlost⟩
    rintro ⟨o, ho, hmanaged⟩
    obtain ⟨found, hfound, hreal⟩ := hrealized place o ho hmanaged
    have hkey := hfaithful.api.key_eq ho
    obtain rfl := hkeyed.record_eq hanswer hfound hrecord hreal.keys (hkey ▸ hkeys)
    refine ⟨place, ⟨o, ho, hreal⟩, ?_⟩
    rintro other ⟨o', ho', hreal'⟩
    refine (hplain' other o' ho').eq_of_key hplace ?_
    rw [← hfaithful.api.key_eq ho', ← hkey]
    exact hreal'.keys.eq hreal.keys
  · intro place o ho hmanaged
    obtain ⟨record, hrecord, hreal⟩ := hrealized place o ho hmanaged
    obtain ⟨i, hi, rfl⟩ := List.getElem_of_mem hrecord
    refine ⟨i, ⟨hi, hreal⟩, ?_⟩
    rintro j ⟨hj, hother⟩
    exact hkeyed.index_eq hanswer hj hi hother.keys hreal.keys
  · intro place o hash ho hmanaged hhash
    obtain ⟨record, -, hreal⟩ := hrealized place o ho hmanaged
    rw [hreal.hash] at hhash
    exact (Option.some.inj hhash).symm

end Keeper

namespace Shelf

/-- A shelf with a catalog of another name, whose status was never stored. -/
def renamed : World Shelf :=
  ⟨{ catalogs := Dict.empty.insert "store"
      { labels := some managerLabels, spec := (recordOf "a").spec } }, []⟩

theorem stored_renamed {place : Target} {o : Catalog}
    (ho : stored renamed.state place = some o) :
    place = ⟨none, "store"⟩ ∧ o.spec = (recordOf "a").spec ∧ o.status = none ∧
      o.metadata.owners = [] := by
  obtain ⟨x, hplace, hmem, rfl⟩ := stored_eq_some ho
  obtain ⟨hname, rfl⟩ := Prod.mk.inj (List.mem_singleton.1 hmem)
  rw [hname] at hplace
  exact ⟨hplace, rfl, rfl, rfl⟩

/-- A catalog is renamed: it is stored under its new name, and the old one is removed. -/
theorem realized_pass_renamed :
    (∀ e ∈ keeper.exchanges [declaring "a"] renamed, e.answered = true) ∧
    (∃! place, ∃ o, stored (keeper.pass (declaring "a") renamed).state place = some o ∧
      keeper.Realized (recordOf "a") o) ∧
    ∀ place o, stored (keeper.pass (declaring "a") renamed).state place = some o →
      o.managed = true →
      ∃! i, ∃ hi : i < [recordOf "a"].length, keeper.Realized [recordOf "a"][i] o := by
  have hanswered : ∀ e ∈ keeper.exchanges [declaring "a"] renamed, e.answered = true := by
    decide +kernel
  have hkeyed : keeper.Keyed (declaring "a") := @keyed_declaring ["a"] _ (.head _)
  have hplain : (stored renamed.state).Plain keeper.kind := by
    intro place o ho
    rw [(stored_renamed ho).1]
    exact ⟨rfl, fun _ h => nomatch h⟩
  have hsettled : (stored renamed.state).Settled keeper.kind := by
    intro place o hash ho _ hhash
    rw [Object.recordedHash, (stored_renamed ho).2.2.1] at hhash
    cases hhash
  have hfree : keeper.kind.CollisionFree
      (keeper.Involved [recordOf "a"] (stored renamed.state)) := by
    have hspec : ∀ spec, keeper.Involved [recordOf "a"] (stored renamed.state) spec →
        spec = (recordOf "a").spec := by
      rintro _ (⟨place, o, ho, -, rfl⟩ | ⟨record, hrecord, rfl⟩)
      · exact (stored_renamed ho).2.1
      · rw [List.mem_singleton.1 hrecord]
        rfl
    intro a b ha hb _
    rw [hspec a ha, hspec b hb]
  have hownerless : Ownerless stored renamed.state := fun place o ho => (stored_renamed ho).2.2.2
  obtain ⟨hstored, hrealized, -⟩ := Keeper.realized_pass faithful_keeper collects_keeper hkeyed rfl
    hplain hsettled hfree hanswered
  have hkeys : keeper.Keys (recordOf "a") ⟨"shop"⟩ := ⟨(declaring "a").now 0, _, rfl, rfl⟩
  refine ⟨hanswered, (hstored _ (.head _) _ hkeys).resolve_right ?_, hrealized⟩
  rintro ⟨place, -, -, htaken⟩
  exact Keeper.not_taken_of_ownerless faithful_keeper collects_keeper endows_keeper hownerless place
    htaken

theorem stored_owning {place : Target} {o : Catalog} (ho : stored owning.state place = some o) :
    place = ⟨none, place.name⟩ ∧ o.status = none ∧
      (o.spec = {} ∨ o.spec = (recordOf "a").spec) := by
  obtain ⟨x, hplace, hmem, rfl⟩ := stored_eq_some ho
  refine ⟨hplace, ?_⟩
  rcases List.mem_cons.1 hmem with hx | hx
  · obtain ⟨-, rfl⟩ := Prod.mk.inj hx
    exact ⟨rfl, .inl rfl⟩
  · obtain ⟨-, rfl⟩ := Prod.mk.inj (List.mem_singleton.1 hx)
    exact ⟨rfl, .inr rfl⟩

/-- The catalog that is declared is lost with the one that is not. -/
theorem not_realized_owned :
    keeper.Faithful stored ∧ keeper.api.Collects census (keeper.slot census) stored ∧
    keeper.Keyed (declaring "a") ∧ (stored owning.state).Plain keeper.kind ∧
    (stored owning.state).Settled keeper.kind ∧
    keeper.kind.CollisionFree (keeper.Involved [recordOf "a"] (stored owning.state)) ∧
    (∀ e ∈ keeper.exchanges [declaring "a"] owning, e.answered = true) ∧
    ¬∀ record ∈ [recordOf "a"], (∃ key, keeper.Keys record key) →
      ∃! place, ∃ o, stored (keeper.pass (declaring "a") owning).state place = some o ∧
        keeper.Realized record o := by
  refine ⟨faithful_keeper, collects_keeper, @keyed_declaring ["a"] _ (.head _), ?_, ?_, ?_,
    by decide +kernel, fun hrealized => ?_⟩
  · intro place o ho
    rw [(stored_owning ho).1]
    exact ⟨rfl, fun _ h => nomatch h⟩
  · intro place o hash ho _ hhash
    rw [Object.recordedHash, (stored_owning ho).2.1] at hhash
    cases hhash
  · have hdiffer : keeper.kind.hashOf {} ≠ keeper.kind.hashOf (recordOf "a").spec := by
      decide +kernel
    have hspec : ∀ spec, keeper.Involved [recordOf "a"] (stored owning.state) spec →
        spec = {} ∨ spec = (recordOf "a").spec := by
      rintro _ (⟨place, o, ho, -, rfl⟩ | ⟨record, hrecord, rfl⟩)
      · exact (stored_owning ho).2.2
      · rw [List.mem_singleton.1 hrecord]
        exact .inr rfl
    intro a b ha hb heq
    rcases hspec a ha with rfl | rfl <;> rcases hspec b hb with rfl | rfl <;>
      first
      | rfl
      | exact absurd heq hdiffer
      | exact absurd heq.symm hdiffer
  · have hnone : (keeper.pass (declaring "a") owning).state.catalogs.entries.isEmpty = true := by
      decide +kernel
    obtain ⟨place, ⟨o, ho, -⟩, -⟩ :=
      hrealized _ (.head _) ⟨⟨"shop"⟩, (declaring "a").now 0, _, rfl, rfl⟩
    obtain ⟨x, -, hmem, -⟩ := stored_eq_some ho
    rw [List.isEmpty_iff.1 hnone] at hmem
    cases hmem

end Shelf

end EdgeAgent
