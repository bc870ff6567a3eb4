import EdgeAgent.Proofs.Cluster.Pass
import EdgeAgent.Proofs.Cluster.Preserved

/-! Objects without owners. What records become names no owners, and a replacement sends those that
are stored; so where no stored object has owners, none ever comes to have any, and no removal takes
another object along. -/

namespace EdgeAgent

variable {σ ι D α Record Spec Status : Type}

/-- No stored object has owners. -/
def Ownerless (stored : σ → Store Spec Status) (s : σ) : Prop :=
  ∀ place o, stored s place = some o → o.metadata.owners = []

variable {stored : σ → Store Spec Status}

theorem ownerless_of_eq {s s' : σ} (h : stored s' = stored s) (hs : Ownerless stored s) :
    Ownerless stored s' := fun place o ho => hs place o (h ▸ ho)

theorem ownerless_of_empty {s : σ} (hempty : ∀ place, stored s place = none) :
    Ownerless stored s := by
  intro place o ho
  rw [hempty place] at ho
  cases ho

theorem Call.Endows.ownerless {c : Call σ α} {sent : List String} (h : c.Endows stored sent)
    (hsent : sent = []) : c.Preserves (Ownerless stored) := by
  intro w hw place o ho
  rw [List.eq_nil_iff_forall_not_mem]
  intro own hown
  rcases h w place o ho own hown with hmem | ⟨old, hold, hmem⟩
  · rw [hsent] at hmem
    cases hmem
  · rw [hw place old hold] at hmem
    cases hmem

theorem Api.Collects.ownerless {census : Census σ ι D} {slot : Target → ι}
    {api : Api σ Spec Status} (h : api.Collects census slot stored) (place : Target) :
    (api.delete place).Preserves (Ownerless stored) := by
  intro w hw other o ho
  rcases h.cases place w with ⟨-, hsame⟩ | hempties
  · exact hw other o (hsame ▸ ho)
  · have hleft : stored (api.delete place w).2.state other ≠ none := by
      rw [ho]
      exact Option.some_ne_none o
    exact hw other o ((hempties.eq_of_ne hleft).symm.trans ho)

/-- Where no object has owners, none owns another one. -/
theorem Api.Endows.not_owns {census : Census σ ι D} {slot : Target → ι} {api : Api σ Spec Status}
    (h : api.Endows census slot stored) {s : σ} (hs : Ownerless stored s) {place other : Target} :
    ¬census.Owns slot s place other := by
  rintro ⟨owner, uid, d, -, -, hd, hbelongs⟩
  obtain ⟨own, howned⟩ := hbelongs.exists_owner
  obtain ⟨o, ho, hnamed⟩ := h.known s other d hd own howned
  rw [hs other o ho] at hnamed
  cases hnamed

namespace Keeper

variable {keeper : Keeper σ Record Spec Status} {census : Census σ ι D} {round : Round Record}
  {w : World σ}

theorem owners_of_materialize {moment : Timestamp} {record : Record} {new : Object Spec Status}
    (h : keeper.materialize moment record = .ok new) : new.metadata.owners = [] := by
  cases keeper with
  | catalogs api =>
      obtain ⟨-, rfl⟩ := materialize_catalog_iff.1 h
      rfl
  | edges api =>
      obtain ⟨-, rfl⟩ := materialize_edge_iff.1 h
      rfl
  | edgesWithChildren settings apis =>
      obtain ⟨-, rfl⟩ := materialize_edge_iff.1 h
      rfl

/-- A write keeps objects without owners if what it asks for has none. -/
theorem ownerless_write (hfaithful : keeper.Faithful stored)
    (hcollects : keeper.api.Collects census (keeper.slot census) stored)
    (hendows : keeper.api.Endows census (keeper.slot census) stored) (timeout : Nat)
    (now : Nat → Timestamp) (platform : Call σ (List Record)) {x : Write (Object Spec Status)}
    (hcreate : ∀ new, x = .create new → new.metadata.owners = [])
    (hupdate : ∀ old new, x = .update old new → old.metadata.owners = []) :
    ((keeper.sides timeout now platform).write x).Preserves (Ownerless stored) := by
  have hpatch : ∀ place patch,
      (keeper.api.patchStatus place patch).Preserves (Ownerless stored) :=
    fun place patch => (hendows.patchStatus place patch).ownerless rfl
  have hx : x.Preserves (Ownerless stored) keeper.api := by
    cases x with
    | create new => exact fun scope => (hendows.create scope new).ownerless (hcreate new rfl)
    | update old new =>
        exact fun place => (hendows.replace place (Upkeep.renewed old new)).ownerless
          (hupdate old new rfl)
    | delete old => exact hcollects.ownerless
  cases keeper with
  | catalogs api => exact Upkeep.preserves_write hpatch hx
  | edges api => exact Upkeep.preserves_write hpatch hx
  | edgesWithChildren settings apis =>
      exact Child.preserves_write hpatch
        (fun place ingress w => ownerless_of_eq (hfaithful.ingresses place ingress w)) settings hx

/-- The writes of a plan keep objects without owners if those that are listed have none. -/
theorem ownerless_of_mem (hfaithful : keeper.Faithful stored)
    (hcollects : keeper.api.Collects census (keeper.slot census) stored)
    (hendows : keeper.api.Endows census (keeper.slot census) stored) (timeout : Nat)
    (now : Nat → Timestamp) (platform : Call σ (List Record)) {records : List Record}
    {listed : List (Object Spec Status)} (hlisted : ∀ old ∈ listed, old.metadata.owners = [])
    {x : Write (Object Spec Status)}
    (hx : x ∈ (keeper.steps now records listed).filterMap Step.write?) :
    ((keeper.sides timeout now platform).write x).Preserves (Ownerless stored) := by
  refine ownerless_write hfaithful hcollects hendows timeout now platform ?_ ?_
  · rintro new rfl
    rcases cases_of_mem hx with ⟨new, hnew, hx | ⟨old, -, hx⟩⟩ | ⟨old, -, hx⟩
    · cases hx
      obtain ⟨record, -, moment, hmaterialize⟩ := exists_record hnew
      exact owners_of_materialize hmaterialize
    · cases hx
    · cases hx
  · rintro old new rfl
    rcases cases_of_mem hx with ⟨new, -, hx | ⟨old, hold, hx⟩⟩ | ⟨old, -, hx⟩
    · cases hx
    · cases hx
      exact hlisted old hold
    · cases hx

/-- Where no stored object has owners, none has whenever a pass makes a write, and after it. -/
theorem ownerless_pass (hfaithful : keeper.Faithful stored)
    (hcollects : keeper.api.Collects census (keeper.slot census) stored)
    (hendows : keeper.api.Endows census (keeper.slot census) stored) (round : Round Record)
    (hw : Ownerless stored w.state) :
    Ownerless stored (keeper.pass round w).state ∧
      ∀ m ∈ (keeper.sidesOf round).moments w, Ownerless stored m.1 := by
  have hlist : (Upkeep.list keeper.kind keeper.api).Preserves (Ownerless stored) :=
    Call.Preserves.context (fun w => ownerless_of_eq (hfaithful.api.list w).1) _
  refine Sides.holds_of_pass ?_ ?_ ?_ hw
  · intro w hw
    rw [desired_sides]
    exact hw
  · rw [existing_sides]
    exact hlist
  · intro desired w₁ listed w₂ hdesired hexisting
    rw [desired_sides] at hdesired
    rw [existing_sides] at hexisting
    cases hanswer : round.answer with
    | error stop =>
        rw [hanswer] at hdesired
        cases hdesired
    | ok records =>
        rw [hanswer] at hdesired
        cases hdesired
        obtain ⟨_, -, hlisted⟩ := keeper.traces_list hfaithful w []
        rw [hexisting] at hlisted
        rw [keyOf_sides]
        refine fun x => ownerless_of_mem hfaithful hcollects hendows _ _ _ fun old hold => ?_
        obtain ⟨-, place, hstored⟩ := (hlisted.2 old).1 hold
        exact hw place old hstored

/-- Where no stored object has owners, none has after passes. -/
theorem ownerless_passes (hfaithful : keeper.Faithful stored)
    (hcollects : keeper.api.Collects census (keeper.slot census) stored)
    (hendows : keeper.api.Endows census (keeper.slot census) stored) (rounds : List (Round Record))
    (hw : Ownerless stored w.state) : Ownerless stored (keeper.passes rounds w).state := by
  induction rounds generalizing w with
  | nil => exact hw
  | cons round rounds ih => exact ih (ownerless_pass hfaithful hcollects hendows round hw).1

/-- Where no stored object has owners, a pass takes none along. -/
theorem not_taken_of_ownerless (hfaithful : keeper.Faithful stored)
    (hcollects : keeper.api.Collects census (keeper.slot census) stored)
    (hendows : keeper.api.Endows census (keeper.slot census) stored)
    (hw : Ownerless stored w.state) (place : Target) : ¬keeper.Taken census round w place := by
  rintro ⟨s, old, hmoment, howns⟩
  have hs := (ownerless_pass hfaithful hcollects hendows round hw).2 _ hmoment
  exact hendows.not_owns hs howns

end Keeper

end EdgeAgent
