import EdgeAgent.Proofs.Routing.LastChange
import EdgeAgent.Proofs.Routing.Snapshots
import Mathlib.Logic.Basic

/-! Which changes of policies lead to a new table. A change that makes a difference to the known
policies has one table built from all of them; it is of the next generation and becomes the active
one. Any other change leaves everything as it was. So the generation counts the changes that made a
difference, and the failures are those of the policies that were known after each of them. -/

namespace EdgeAgent

namespace PolicyChange

variable {policies : Dict PolicySpec} {change : PolicyChange}

/-- The policies after a change. -/
def applied (policies : Dict PolicySpec) : PolicyChange → Dict PolicySpec
  | .upsert policy => policies.insert policy.key.text policy.spec
  | .delete key => policies.erase key.text

/-- The policies after changes, one after the other. -/
def appliedAll (policies : Dict PolicySpec) (changes : List PolicyChange) : Dict PolicySpec :=
  changes.foldl applied policies

/-- A change makes a difference: it gives a key a spec that the key does not have yet, or it takes
away a key that is there. -/
def Matters (policies : Dict PolicySpec) : PolicyChange → Prop
  | .upsert policy => policies.find? policy.key.text ≠ some policy.spec
  | .delete key => policies.find? key.text ≠ none

instance (policies : Dict PolicySpec) (change : PolicyChange) :
    Decidable (change.Matters policies) := by
  cases change <;> exact inferInstanceAs (Decidable (_ ≠ _))

theorem applied_eq_iff : change.applied policies = policies ↔ ¬change.Matters policies := by
  cases change with
  | upsert policy =>
      rw [applied, Matters, not_not]
      constructor
      · intro hsame
        rw [← hsame, Dict.find?_insert, if_pos rfl]
      · intro hknown
        refine Dict.ext_find? fun name => ?_
        rw [Dict.find?_insert]
        split
        · next hname => rw [hname, hknown]
        · rfl
  | delete key =>
      rw [applied, Matters, not_not]
      constructor
      · intro hsame
        rw [← hsame, Dict.find?_erase, if_pos rfl]
      · intro hunknown
        refine Dict.ext_find? fun name => ?_
        rw [Dict.find?_erase]
        split
        · next hname => rw [hname, hunknown]
        · rfl

/-- The policies after each of the changes that makes a difference. -/
def stages (policies : Dict PolicySpec) : List PolicyChange → List (Dict PolicySpec)
  | [] => []
  | change :: changes =>
    let rest := stages (change.applied policies) changes
    if change.Matters policies then change.applied policies :: rest else rest

/-- A change says what is known already: that a policy has the spec which it has, whatever else its
object shows, or that a key is gone which is not there. -/
def Redelivers (policies : Dict PolicySpec) : PolicyChange → Prop
  | .upsert policy =>
    ∃ o, Policy.ofObject o = .ok policy ∧ policies.find? policy.key.text = some o.spec
  | .delete key => policies.find? key.text = none

theorem not_matters_of_redelivers (h : change.Redelivers policies) : ¬change.Matters policies := by
  cases change with
  | delete key => exact not_not.2 h
  | upsert policy =>
      obtain ⟨o, ho, hknown⟩ := h
      have hspec : o.spec = policy.spec := by
        rw [Policy.ofObject] at ho
        split at ho
        · cases ho
        · cases ho
          rfl
      exact not_not.2 (hspec ▸ hknown)

end PolicyChange

namespace Register

open PolicyChange (appliedAll stages)

variable {validate : Validator} {s : Routed} {change : PolicyChange}

/-! ### One change -/

/-- The number of policies that cannot be put into force. -/
def flawed (validate : Validator) (policies : Dict PolicySpec) : Nat :=
  policies.entries.countP fun e => (e.2.route? validate).isNone

theorem length_failuresOf (policies : Dict PolicySpec) :
    (failuresOf validate policies).length = flawed validate policies := by
  rw [failuresOf, List.length_filterMap_eq_countP, flawed]
  congr 1
  funext e
  simp only [PolicySpec.route?]
  cases e.2.enforce validate <;> rfl

theorem changed?_eq (policies : Dict PolicySpec) (change : PolicyChange) :
    changed? policies change =
      if change.Matters policies then some (change.applied policies) else none := by
  cases change with
  | upsert policy => exact (ite_not _ _ _).symm
  | delete key => exact if_congr Option.isSome_iff_ne_none rfl rfl

/-- The register is at work, and the active table is of the generation that it offered last. -/
structure InStep (s : Routed) : Prop where
  working : s.register.halted = false
  generation : s.active.generation = s.register.generation

/-- A table of the next generation was built from the known policies, offered and accepted. -/
def Publishes (validate : Validator) (s s' : Routed) : Prop :=
  s.active.replace
      (.ofRoutes (s.active.generation + 1) (routes validate s'.register.policies)) =
    (s'.active, true)

/-- What comes of a change that makes a difference. -/
structure Advances (validate : Validator) (s s' : Routed) (policies : Dict PolicySpec) : Prop where
  inStep : InStep s'
  known : s'.register.policies = policies
  publishes : Publishes validate s s'
  generation : s'.active.generation.toNat = s.active.generation.toNat + 1
  failures : s'.register.failures = s.register.failures + flawed validate policies

theorem enter_of_not_matters (hsame : ¬change.Matters s.register.policies) :
    enter validate s change = s := by
  rw [enter, changed?_eq, if_neg hsame, ite_self]

theorem enterAll_of_not_matters {changes : List PolicyChange}
    (hsame : ∀ change ∈ changes, ¬change.Matters s.register.policies) :
    enterAll validate s changes = s := by
  induction changes with
  | nil => rfl
  | cons change changes ih =>
      rw [enterAll, List.foldl_cons, enter_of_not_matters (hsame change List.mem_cons_self)]
      exact ih fun later hmem => hsame later (List.mem_cons_of_mem _ hmem)

theorem enter_of_matters (hstep : InStep s)
    (hroom : s.active.generation.toNat + 1 < UInt64.size)
    (hmatters : change.Matters s.register.policies) :
    Advances validate s (enter validate s change) (change.applied s.register.policies) := by
  have hgeneration := hstep.generation
  rw [hgeneration] at hroom
  obtain ⟨hnext, hgrown⟩ := nextGeneration?_of_lt hroom
  have hnewer := @replaces_next validate s hgeneration hroom (change.applied s.register.policies)
  simp only [enter, hstep.working, Bool.false_eq_true, if_false, changed?_eq, if_pos hmatters, offer,
    hnext, RoutingTable.replace, if_pos hnewer, length_failuresOf]
  refine ⟨⟨rfl, rfl⟩, rfl, ?_, ?_, rfl⟩
  · rw [Publishes, hgeneration, RoutingTable.replace, if_pos hnewer]
  · rw [hgeneration]
    exact hgrown

theorem not_publishes_self (s : Routed) : ¬Publishes validate s s := by
  intro hpublishes
  have haccepted := congrArg Prod.snd hpublishes
  have hactive := congrArg Prod.fst hpublishes
  rw [RoutingTable.replace_fst, if_pos haccepted] at hactive
  have hnewer := RoutingTable.replace_snd.1 haccepted
  rw [hactive] at hnewer
  exact UInt64.lt_irrefl _ hnewer

/-! ### Any changes -/

theorem enterAll_take_succ {changes : List PolicyChange} {i : Nat} (hi : changes[i]? = some change) :
    enterAll validate s (changes.take (i + 1)) =
      enter validate (enterAll validate s (changes.take i)) change := by
  rw [List.take_add_one, hi, enterAll, List.foldl_append]
  rfl

theorem appliedAll_take_succ {policies : Dict PolicySpec} {changes : List PolicyChange} {i : Nat}
    (hi : changes[i]? = some change) :
    appliedAll policies (changes.take (i + 1)) =
      change.applied (appliedAll policies (changes.take i)) := by
  rw [List.take_add_one, hi, appliedAll, List.foldl_append]
  rfl

/-- The generation has advanced once, and the failures have grown, for each change that made a
difference. -/
theorem inStep_enterAll (changes : List PolicyChange) (hstep : InStep s)
    (hroom : s.active.generation.toNat + changes.length < UInt64.size) :
    InStep (enterAll validate s changes) ∧
      (enterAll validate s changes).register.policies = appliedAll s.register.policies changes ∧
      (enterAll validate s changes).active.generation.toNat =
        s.active.generation.toNat + (stages s.register.policies changes).length ∧
      (enterAll validate s changes).register.failures =
        s.register.failures + ((stages s.register.policies changes).map (flawed validate)).sum := by
  induction changes generalizing s with
  | nil => exact ⟨hstep, rfl, rfl, rfl⟩
  | cons change changes ih =>
      rw [List.length_cons] at hroom
      rw [enterAll, List.foldl_cons, ← enterAll, appliedAll, List.foldl_cons, ← appliedAll, stages]
      by_cases hmatters : change.Matters s.register.policies
      · have hnew := @enter_of_matters validate s change hstep (by omega) hmatters
        obtain ⟨hlast, hknown, hgeneration, hfailures⟩ :=
          ih hnew.inStep (by rw [hnew.generation]; omega)
        rw [hnew.known] at hknown hgeneration hfailures
        refine ⟨hlast, hknown, ?_, ?_⟩
        · rw [hgeneration, hnew.generation, if_pos hmatters, List.length_cons]
          omega
        · rw [hfailures, hnew.failures, if_pos hmatters, List.map_cons, List.sum_cons]
          omega
      · rw [enter_of_not_matters hmatters, PolicyChange.applied_eq_iff.2 hmatters, if_neg hmatters]
        exact ih hstep (by omega)

theorem length_stages_le (policies : Dict PolicySpec) (changes : List PolicyChange) :
    (stages policies changes).length ≤ changes.length := by
  induction changes generalizing policies with
  | nil => exact Nat.le_refl _
  | cons change changes ih =>
      have hrest := ih (change.applied policies)
      rw [stages, List.length_cons]
      split
      · exact Nat.succ_le_succ hrest
      · omega

/-- At the position of a change, a generation is left for it. -/
theorem inStep_take {changes : List PolicyChange} {i : Nat} (hi : changes[i]? = some change)
    (hstep : InStep s) (hroom : s.active.generation.toNat + changes.length < UInt64.size) :
    InStep (enterAll validate s (changes.take i)) ∧
      (enterAll validate s (changes.take i)).register.policies =
        appliedAll s.register.policies (changes.take i) ∧
      (enterAll validate s (changes.take i)).active.generation.toNat + 1 < UInt64.size := by
  have hlt : i < changes.length := (List.getElem?_eq_some_iff.1 hi).1
  have htake : (changes.take i).length = i := List.length_take_of_le (Nat.le_of_lt hlt)
  obtain ⟨hbefore, hknown, hgeneration, -⟩ :=
    @inStep_enterAll validate s (changes.take i) hstep (by omega)
  refine ⟨hbefore, hknown, ?_⟩
  have hcount := length_stages_le s.register.policies (changes.take i)
  omega

/-- Take a register that starts on any table and sees any changes, fewer than there are generations
left. A table is published for a change if and only if the change makes a difference to the policies
that are known then, and for any other change nothing happens at all. The generation has advanced
once for every change that made a difference, and the failures have grown by the policies that could
not be put into force after it. Changes that say what is known already do nothing. -/
theorem publishes_iff_matters (validate : Validator) (table : RoutingTable) (failures : Nat)
    (log : Log) (changes : List PolicyChange)
    (hroom : table.generation.toNat + changes.length < UInt64.size) :
    let start : Routed := ⟨{ ofTable table with failures := failures }, table, log⟩
    let reached := fun i => enterAll validate start (changes.take i)
    let known := fun i => appliedAll {} (changes.take i)
    (∀ i change, changes[i]? = some change →
      (Publishes validate (reached i) (reached (i + 1)) ↔ change.Matters (known i)) ∧
      (change.Matters (known i) ↔ known (i + 1) ≠ known i) ∧
      (¬change.Matters (known i) → reached (i + 1) = reached i) ∧
      (reached i).register.policies = known i) ∧
    (enterAll validate start changes).active.generation.toNat =
      table.generation.toNat + (stages {} changes).length ∧
    (enterAll validate start changes).register.failures =
      failures + ((stages {} changes).map (flawed validate)).sum ∧
    ∀ again : List PolicyChange,
      (∀ change ∈ again, change.Redelivers (appliedAll {} changes)) →
      enterAll validate (enterAll validate start changes) again =
        enterAll validate start changes := by
  intro start reached known
  have hstart : InStep start := ⟨rfl, rfl⟩
  obtain ⟨hlast, hknown, hgeneration, hfailures⟩ := @inStep_enterAll validate start changes hstart hroom
  refine ⟨?_, hgeneration, hfailures, ?_⟩
  · intro i change hi
    obtain ⟨hstep, hpolicies, hleft⟩ := @inStep_take validate start change changes i hi hstart hroom
    change (reached i).register.policies = known i at hpolicies
    have hnext : reached (i + 1) = enter validate (reached i) change := enterAll_take_succ hi
    have happlied : known (i + 1) = change.applied (known i) := appliedAll_take_succ hi
    have hsame : ¬change.Matters (known i) → reached (i + 1) = reached i := by
      intro hsame
      rw [hnext, enter_of_not_matters (hpolicies ▸ hsame)]
    refine ⟨⟨?_, ?_⟩, ?_, hsame, hpolicies⟩
    · intro hpublishes
      by_contra hnot
      rw [hsame hnot] at hpublishes
      exact not_publishes_self _ hpublishes
    · intro hmatters
      rw [hnext]
      exact (enter_of_matters hstep hleft (hpolicies ▸ hmatters)).publishes
    · rw [happlied]
      exact (PolicyChange.applied_eq_iff.not.trans not_not).symm
  · intro again hagain
    refine enterAll_of_not_matters fun change hmem => ?_
    rw [hknown]
    exact PolicyChange.not_matters_of_redelivers (hagain change hmem)

/-- The object of a policy, with a label that the policy does not show. -/
def relabelled : AccessControlPolicy where
  metadata := { name := some "b", ns := some "n", labels := some (.ofList [("team", "edge")]) }
  spec := { jwt := some {} }
  status := ()

/-- The change that takes a policy out of force is published, the deletion of an unknown key is not,
and sending a known policy again changes nothing. -/
theorem publishes_iff_matters_flawedUpdate :
    let start : Routed := ⟨{ ofTable { generation := 7 } with failures := 3 }, { generation := 7 }, []⟩
    let reached := fun i => enterAll .rejecting start (flawedUpdate.take i)
    7 + flawedUpdate.length < UInt64.size ∧
      Publishes .rejecting (reached 2) (reached 3) ∧
      reached 4 = reached 3 ∧
      (enterAll .rejecting start flawedUpdate).active.generation.toNat = 10 ∧
      (enterAll .rejecting start flawedUpdate).register.failures = 4 ∧
      enterAll .rejecting (enterAll .rejecting start flawedUpdate)
          [.delete ⟨"c@n"⟩, .upsert ⟨⟨"b@n"⟩, { jwt := some {} }⟩] =
        enterAll .rejecting start flawedUpdate := by
  intro start reached
  have hroom : 7 + flawedUpdate.length < UInt64.size := by decide
  obtain ⟨hevery, hgeneration, hfailures, hagain⟩ :=
    publishes_iff_matters .rejecting { generation := 7 } 3 [] flawedUpdate hroom
  have hlast := (hevery 3 (.delete ⟨"c@n"⟩) rfl).2.2.1 (by decide)
  refine ⟨hroom, (hevery 2 (.upsert ⟨⟨"a@n"⟩, {}⟩) rfl).1.2 (by decide), hlast, ?_, ?_, ?_⟩
  · rw [hgeneration]
    decide
  · rw [hfailures]
    rfl
  · apply hagain
    intro change hmem
    rcases by simpa using hmem with rfl | rfl
    · show Dict.find? _ _ = none
      decide
    · exact ⟨relabelled, rfl, by decide⟩

end Register

end EdgeAgent
