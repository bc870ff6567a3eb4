import EdgeAgent.Proofs.Dict
import EdgeAgent.Routing.Register

/-! What changes of policies leave in force. The register and the table go together: the table is
of the generation that was offered last and holds the route of every known policy that can be put
into force. So after any changes a key has the route of the last change about it, or none. -/

namespace EdgeAgent

/-- The route that a spec is put into force by, if it can be. -/
def PolicySpec.route? (validate : Validator) (spec : PolicySpec) : Option Route :=
  match spec.enforce validate with
  | .ok handler => some ⟨handler, spec.hash⟩
  | .error _ => none

namespace PolicyChange

/-- The spec that a change leaves under its key. -/
def spec? : PolicyChange → Option PolicySpec
  | .upsert policy => some policy.spec
  | .delete _ => none

/-- The last change about a key. -/
def last? (changes : List PolicyChange) (key : Key) : Option PolicyChange :=
  changes.findRev? fun change => change.key = key

end PolicyChange

/-- An empty table and a register that has seen no change. -/
def Routed.initial : Routed where
  register := .ofTable {}
  active := {}

namespace Register

open PolicyChange (last?)

variable {validate : Validator} {s : Routed}

/-- The register is at work, the table is the last one it offered, and a key has the route of the
spec that is known under it. -/
structure UpToDate (validate : Validator) (s : Routed) : Prop where
  working : s.register.halted = false
  generation : s.active.generation = s.register.generation
  find? : ∀ key, s.active.find? key =
    (s.register.policies.find? key).bind (PolicySpec.route? validate)

theorem upToDate_initial : UpToDate validate .initial :=
  ⟨rfl, rfl, fun _ => rfl⟩

/-! ### One change -/

theorem find?_ofRoutes (generation : UInt64) (policies : Dict PolicySpec) (key : String) :
    (RoutingTable.ofRoutes generation (routes validate policies)).find? key =
      (policies.find? key).bind (PolicySpec.route? validate) := by
  have hroutes : (routes validate policies).map (fun r => (r.1.text, r.2)) =
      policies.entries.filterMap fun e => (e.2.route? validate).map fun route => (e.1, route) := by
    rw [routes, List.map_filterMap]
    congr 1
    funext e
    simp only [PolicySpec.route?]
    cases e.2.enforce validate <;> rfl
  have hincreasing : ((routes validate policies).map fun r => (r.1.text, r.2)).Pairwise
      fun a b => a.1 < b.1 := by
    rw [hroutes, List.pairwise_filterMap]
    refine policies.increasing.imp fun {a b} hlt x hx y hy => ?_
    obtain ⟨_, _, rfl⟩ := Option.map_eq_some_iff.1 hx
    obtain ⟨_, _, rfl⟩ := Option.map_eq_some_iff.1 hy
    exact hlt
  refine Option.ext fun route => ?_
  rw [RoutingTable.find?, RoutingTable.ofRoutes, ← Dict.mem_entries_iff,
    Dict.entries_ofList hincreasing, hroutes, List.mem_filterMap, Option.bind_eq_some_iff]
  constructor
  · rintro ⟨⟨name, spec⟩, hmem, hroute⟩
    obtain ⟨found, hfound, heq⟩ := Option.map_eq_some_iff.1 hroute
    cases heq
    exact ⟨spec, Dict.mem_entries_iff.1 hmem, hfound⟩
  · rintro ⟨spec, hfind, hroute⟩
    exact ⟨(key, spec), Dict.mem_entries_iff.2 hfind, by simp [hroute]⟩

/-- Whether or not a change makes a difference, its key has its spec afterwards and no other key
has another one. -/
theorem find?_changed? (policies : Dict PolicySpec) (change : PolicyChange) (key : String) :
    ((changed? policies change).getD policies).find? key =
      if key = change.key.text then change.spec? else policies.find? key := by
  cases change with
  | upsert policy =>
      rw [changed?, PolicyChange.key, PolicyChange.spec?]
      by_cases hsame : policies.find? policy.key.text = some policy.spec
      · rw [if_pos hsame, Option.getD_none]
        by_cases hkey : key = policy.key.text
        · rw [if_pos hkey, hkey, hsame]
        · rw [if_neg hkey]
      · rw [if_neg hsame, Option.getD_some, Dict.find?_insert]
  | delete gone =>
      rw [changed?, PolicyChange.key, PolicyChange.spec?]
      by_cases hknown : (policies.find? gone.text).isSome
      · rw [if_pos hknown, Option.getD_some, Dict.find?_erase]
      · rw [if_neg hknown, Option.getD_none]
        by_cases hkey : key = gone.text
        · rw [if_pos hkey, hkey]
          simpa using hknown
        · rw [if_neg hkey]

theorem nextGeneration?_of_lt {generation : UInt64}
    (hroom : generation.toNat + 1 < UInt64.size) :
    nextGeneration? generation = some (generation + 1) ∧
      (generation + 1).toNat = generation.toNat + 1 := by
  refine ⟨if_pos hroom, ?_⟩
  rw [UInt64.toNat_add, UInt64.toNat_one]
  exact Nat.mod_eq_of_lt hroom

/-- A table of the next generation replaces one of the generation that was offered last. -/
theorem replaces_next (hgeneration : s.active.generation = s.register.generation)
    (hroom : s.register.generation.toNat + 1 < UInt64.size) (policies : Dict PolicySpec) :
    (RoutingTable.ofRoutes (s.register.generation + 1) (routes validate policies)).Replaces
      s.active := by
  change s.active.generation < s.register.generation + 1
  rw [hgeneration, UInt64.lt_iff_toNat_lt, (nextGeneration?_of_lt hroom).2]
  exact Nat.lt_succ_self _

/-- An offer is accepted as long as there is a generation left for it. -/
theorem upToDate_offer (hdate : UpToDate validate s)
    (hroom : s.register.generation.toNat + 1 < UInt64.size) (policies : Dict PolicySpec) :
    UpToDate validate (offer validate policies s) ∧
      (offer validate policies s).register.policies = policies ∧
      (offer validate policies s).register.generation.toNat =
        s.register.generation.toNat + 1 := by
  obtain ⟨hnext, hgrown⟩ := nextGeneration?_of_lt hroom
  have hnewer := @replaces_next validate s hdate.generation hroom policies
  simp only [offer, hnext, RoutingTable.replace, if_pos hnewer]
  exact ⟨⟨rfl, rfl, fun key => find?_ofRoutes _ policies key⟩, trivial, hgrown⟩

theorem upToDate_enter (hdate : UpToDate validate s)
    (hroom : s.register.generation.toNat + 1 < UInt64.size) (change : PolicyChange) :
    UpToDate validate (enter validate s change) ∧
      (enter validate s change).register.policies =
        (changed? s.register.policies change).getD s.register.policies ∧
      (enter validate s change).register.generation.toNat ≤
        s.register.generation.toNat + 1 := by
  simp only [enter, hdate.working, Bool.false_eq_true, if_false]
  cases changed? s.register.policies change with
  | none => exact ⟨hdate, rfl, Nat.le_succ _⟩
  | some policies =>
      obtain ⟨hnew, hpolicies, hgeneration⟩ := upToDate_offer hdate hroom policies
      exact ⟨hnew, hpolicies, Nat.le_of_eq hgeneration⟩

/-! ### Any changes -/

theorem upToDate_enterAll (changes : List PolicyChange) (hdate : UpToDate validate s)
    (hroom : s.register.generation.toNat + changes.length < UInt64.size) :
    UpToDate validate (enterAll validate s changes) ∧
      ∀ key : Key, (enterAll validate s changes).register.policies.find? key.text =
        match last? changes key with
        | some change => change.spec?
        | none => s.register.policies.find? key.text := by
  induction changes generalizing s with
  | nil => exact ⟨hdate, fun _ => rfl⟩
  | cons change changes ih =>
      rw [List.length_cons] at hroom
      obtain ⟨hnew, hpolicies, hgeneration⟩ := upToDate_enter hdate (by omega) change
      obtain ⟨hlast, hfind⟩ := ih hnew (by omega)
      refine ⟨hlast, fun key => ?_⟩
      rw [enterAll, List.foldl_cons, ← enterAll, hfind key, hpolicies, find?_changed?]
      have hcons : last? (change :: changes) key =
          (last? changes key).or (if change.key = key then some change else none) := by
        simp only [last?, List.findRev?_eq_find?_reverse, List.reverse_cons, List.find?_append,
          List.find?_singleton, decide_eq_true_eq]
      rw [hcons]
      cases last? changes key with
      | some later => rfl
      | none =>
          by_cases hkey : change.key = key
          · simp [hkey]
          · have htext : key.text ≠ change.key.text := fun h => hkey (congrArg Key.mk h.symm)
            simp [hkey, htext]

/-- After any changes a key has the route of the last spec given to it. -/
theorem find?_enterAll (changes : List PolicyChange) (hcount : changes.length < UInt64.size)
    (key : Key) :
    (enterAll validate .initial changes).active.find? key.text =
      ((last? changes key).bind PolicyChange.spec?).bind (PolicySpec.route? validate) := by
  obtain ⟨hdate, hfind⟩ := upToDate_enterAll changes (@upToDate_initial validate)
    (by simpa [Routed.initial, ofTable] using hcount)
  rw [hdate.find?, hfind key]
  cases last? changes key <;> rfl

theorem find?_enterAll_eq_some_iff {changes : List PolicyChange}
    (hcount : changes.length < UInt64.size) {key : Key} {route : Route} :
    (enterAll validate .initial changes).active.find? key.text = some route ↔
      ∃ policy handler, last? changes key = some (.upsert policy) ∧
        policy.spec.enforce validate = .ok handler ∧ route = ⟨handler, policy.spec.hash⟩ := by
  rw [find?_enterAll changes hcount]
  constructor
  · intro h
    obtain ⟨spec, hspec, hroute⟩ := Option.bind_eq_some_iff.1 h
    obtain ⟨change, hlast, hchange⟩ := Option.bind_eq_some_iff.1 hspec
    cases change with
    | delete gone => cases hchange
    | upsert policy =>
        cases hchange
        cases henforce : policy.spec.enforce validate with
        | error flaw => simp [PolicySpec.route?, henforce] at hroute
        | ok handler =>
            refine ⟨policy, handler, hlast, henforce, ?_⟩
            simpa [PolicySpec.route?, henforce] using hroute.symm
  · rintro ⟨policy, handler, hlast, henforce, rfl⟩
    simp [hlast, PolicyChange.spec?, PolicySpec.route?, henforce]

theorem last?_insert_of_ne {before after : List PolicyChange} {change : PolicyChange} {key : Key}
    (hkey : key ≠ change.key) : last? (before ++ change :: after) key = last? (before ++ after) key := by
  simp [last?, List.findRev?_eq_find?_reverse, Ne.symm hkey]

/-- After any changes, fewer than there are generations, a key is in force if and only if the last
change about it gives a spec that can be put into force, and then by the handler of that spec. So
a spec that cannot be put into force takes its key out and leaves all other keys alone, and the
table depends on nothing but the last change about each key. -/
theorem active_enterAll (validate : Validator) (changes : List PolicyChange)
    (hcount : changes.length < UInt64.size) :
    (∀ key route, (enterAll validate .initial changes).active.find? key.text = some route ↔
      ∃ policy handler, last? changes key = some (.upsert policy) ∧
        policy.spec.enforce validate = .ok handler ∧ route = ⟨handler, policy.spec.hash⟩) ∧
    (∀ key policy flaw, last? changes key = some (.upsert policy) →
      policy.spec.enforce validate = .error flaw →
      (enterAll validate .initial changes).active.find? key.text = none) ∧
    (∀ before after policy flaw, changes = before ++ .upsert policy :: after →
      policy.spec.enforce validate = .error flaw → ∀ key ≠ policy.key,
      (enterAll validate .initial changes).active.find? key.text =
        (enterAll validate .initial (before ++ after)).active.find? key.text) ∧
    (∀ others, others.length < UInt64.size → (∀ key, last? others key = last? changes key) →
      (enterAll validate .initial others).active.routes =
        (enterAll validate .initial changes).active.routes) := by
  refine ⟨fun key route => find?_enterAll_eq_some_iff hcount, ?_, ?_, ?_⟩
  · intro key policy flaw hlast hflaw
    rw [find?_enterAll changes hcount, hlast]
    simp [PolicyChange.spec?, PolicySpec.route?, hflaw]
  · rintro before after policy flaw rfl - key hkey
    have hfewer : (before ++ after).length < UInt64.size := by
      rw [List.length_append, List.length_cons] at hcount
      rw [List.length_append]
      omega
    rw [find?_enterAll _ hcount, find?_enterAll _ hfewer,
      last?_insert_of_ne (show key ≠ (PolicyChange.upsert policy).key from hkey)]
  · intro others hothers hsame
    refine Dict.ext_find? fun name => ?_
    have hfind := @find?_enterAll validate others hothers ⟨name⟩
    rw [hsame, ← find?_enterAll changes hcount] at hfind
    exact hfind

/-- Two policies are given a spec that can be put into force, and then the first one is given one
that cannot. -/
def flawedUpdate : List PolicyChange := [
  .upsert ⟨⟨"a@n"⟩, { jwt := some {} }⟩,
  .upsert ⟨⟨"b@n"⟩, { jwt := some {} }⟩,
  .upsert ⟨⟨"a@n"⟩, {}⟩,
  .delete ⟨"c@n"⟩]

theorem active_enterAll_flawedUpdate :
    flawedUpdate.length < UInt64.size ∧
      (enterAll .rejecting .initial flawedUpdate).active.find? "a@n" = none ∧
      ∃ handler, (enterAll .rejecting .initial flawedUpdate).active.find? "b@n" =
        some ⟨handler, PolicySpec.hash { jwt := some {} }⟩ := by
  have hcount : flawedUpdate.length < UInt64.size := by decide
  obtain ⟨hroute, hflawed, -, -⟩ := active_enterAll .rejecting flawedUpdate hcount
  refine ⟨hcount, hflawed ⟨"a@n"⟩ ⟨⟨"a@n"⟩, {}⟩ .noMethod (by decide) rfl, ?_⟩
  exact ⟨_, (hroute ⟨"b@n"⟩ _).2 ⟨⟨⟨"b@n"⟩, { jwt := some {} }⟩, _, by decide, rfl, rfl⟩⟩

end Register

end EdgeAgent
