import EdgeAgent.Proofs.Routing.Stepwise
import EdgeAgent.Routing.Serving
import Mathlib.Data.List.Nodup
import Mathlib.Tactic.IntervalCases

/-! Requests that are served while tables are offered, in any order. A request is answered from the
table that was active when it started, whatever is offered before it is answered. The active table is
always the first one of the greatest generation so far, so that an offer is accepted exactly when it
exceeds all tables before it, and requests that start later never see an older table. -/

namespace EdgeAgent

/-! ### The table of the greatest generation -/

namespace RoutingTable

variable {active offered : RoutingTable} {tables : List RoutingTable}

/-- A table is the first one of the greatest generation. -/
def FirstGreatest (tables : List RoutingTable) (t : RoutingTable) : Prop :=
  ∃ before after, tables = before ++ t :: after ∧
    (∀ other ∈ before, other.generation < t.generation) ∧
    ∀ other ∈ after, other.generation ≤ t.generation

theorem firstGreatest_singleton (t : RoutingTable) : FirstGreatest [t] t :=
  ⟨[], [], rfl, by simp, by simp⟩

theorem FirstGreatest.mem (h : FirstGreatest tables active) : active ∈ tables := by
  obtain ⟨before, after, rfl, -, -⟩ := h
  simp

theorem FirstGreatest.le (h : FirstGreatest tables active) {t : RoutingTable} (ht : t ∈ tables) :
    t.generation ≤ active.generation := by
  obtain ⟨before, after, rfl, hbefore, hafter⟩ := h
  rcases List.mem_append.1 ht with ht | ht
  · exact UInt64.le_of_lt (hbefore t ht)
  · rcases List.mem_cons.1 ht with rfl | ht
    · exact UInt64.le_refl _
    · exact hafter t ht

theorem replace_snd : (active.replace offered).2 = true ↔ offered.Replaces active := by
  unfold RoutingTable.replace
  split <;> simpa

theorem replace_fst (active offered : RoutingTable) :
    (active.replace offered).1 = if (active.replace offered).2 then offered else active := by
  unfold RoutingTable.replace
  split <;> rfl

/-- A table replaces the first of the greatest generation when it exceeds all of them. -/
theorem FirstGreatest.replaces_iff (h : FirstGreatest tables active) :
    offered.Replaces active ↔ ∀ t ∈ tables, t.generation < offered.generation := by
  constructor
  · intro hnewer t ht
    exact UInt64.lt_of_le_of_lt (h.le ht) hnewer
  · intro hall
    exact hall active h.mem

theorem FirstGreatest.replace (h : FirstGreatest tables active) (offered : RoutingTable) :
    FirstGreatest (tables ++ [offered]) (active.replace offered).1 := by
  rw [replace_fst]
  by_cases hnewer : offered.Replaces active
  · rw [if_pos (replace_snd.2 hnewer)]
    exact ⟨tables, [], rfl, h.replaces_iff.1 hnewer, by simp⟩
  · rw [if_neg (mt replace_snd.1 hnewer)]
    obtain ⟨before, after, rfl, hbefore, hafter⟩ := h
    refine ⟨before, after ++ [offered], by simp, hbefore, ?_⟩
    intro other hother
    rcases List.mem_append.1 hother with hother | hother
    · exact hafter other hother
    · rw [List.mem_singleton.1 hother]
      exact UInt64.not_lt.1 hnewer

/-- When no two generations are equal, the order of the tables does not matter. -/
theorem FirstGreatest.eq_of_perm {others : List RoutingTable} {t : RoutingTable}
    (h : FirstGreatest tables active) (ht : FirstGreatest others t) (hperm : others.Perm tables)
    (hdistinct : (tables.map generation).Nodup) : t = active := by
  have hmem : t ∈ tables := hperm.mem_iff.1 ht.mem
  have hgeneration : t.generation = active.generation :=
    UInt64.le_antisymm (h.le hmem) (ht.le (hperm.mem_iff.2 h.mem))
  exact List.inj_on_of_nodup_map hdistinct hmem h.mem hgeneration

theorem le_replace (active offered : RoutingTable) :
    active.generation ≤ (active.replace offered).1.generation := by
  rw [replace_fst]
  split
  · next hnewer => exact UInt64.le_of_lt (replace_snd.1 hnewer)
  · exact UInt64.le_refl _

end RoutingTable

namespace Serving

open RoutingTable (FirstGreatest)

variable {s : Serving} {steps : List Step}

/-! ### Runs -/

/-- The tables that are offered in steps. -/
def offers (steps : List Step) : List RoutingTable :=
  steps.filterMap fun
    | .offer table => some table
    | _ => none

/-- The generations that requests see when they start, in the order in which they start. -/
def seen (outcomes : List Outcome) : List UInt64 :=
  outcomes.filterMap fun
    | .taken generation => some generation
    | _ => none

/-- The table that is active after some steps. -/
def activeAfter (s : Serving) (steps : List Step) : RoutingTable :=
  (s.run steps).1.active

theorem run_eq (s : Serving) (steps : List Step) : s.run steps = stepwise step s steps := by
  induction steps generalizing s with
  | nil => rfl
  | cons x steps ih => simp only [run, stepwise, ih]

theorem outcome_eq {i : Nat} {x : Step} (hx : steps[i]? = some x) :
    (s.run steps).2[i]? = some ((s.run (steps.take i)).1.step x).2 := by
  rw [run_eq, run_eq]
  exact getElem?_stepwise hx

theorem run_take_succ {i : Nat} {x : Step} (hx : steps[i]? = some x) :
    (s.run (steps.take (i + 1))).1 = ((s.run (steps.take i)).1.step x).1 := by
  rw [run_eq, run_eq, stepwise_take_succ hx]

/-! ### Offers -/

theorem firstGreatest_step (x : Step) {tables : List RoutingTable}
    (h : FirstGreatest tables s.active) :
    FirstGreatest (tables ++ offers [x]) (s.step x).1.active := by
  cases x with
  | offer table => exact h.replace table
  | start id request => simpa [offers, step] using h
  | finish id => simpa [offers, step] using h

theorem firstGreatest_run (steps : List Step) {tables : List RoutingTable}
    (h : FirstGreatest tables s.active) :
    FirstGreatest (tables ++ offers steps) (s.activeAfter steps) := by
  induction steps generalizing s tables with
  | nil => simpa [offers, activeAfter, run] using h
  | cons x steps ih =>
      have hrest := ih (firstGreatest_step x h)
      rw [List.append_assoc] at hrest
      have hoffers : offers [x] ++ offers steps = offers (x :: steps) := by
        rw [offers, offers, ← List.filterMap_append, List.singleton_append, offers]
      rw [hoffers] at hrest
      exact hrest

/-! ### Requests -/

theorem generation_step (s : Serving) (x : Step) :
    s.active.generation ≤ (s.step x).1.active.generation := by
  cases x with
  | offer table => exact s.active.le_replace table
  | start id request => exact UInt64.le_refl _
  | finish id => exact UInt64.le_refl _

theorem le_of_mem_seen (s : Serving) {generation : UInt64} (h : generation ∈ seen (s.run steps).2) :
    s.active.generation ≤ generation := by
  induction steps generalizing s with
  | nil => simp [run, seen] at h
  | cons x steps ih =>
      have hrest : generation ∈ seen ((s.step x).1.run steps).2 →
          s.active.generation ≤ generation := fun hmem =>
        UInt64.le_trans (s.generation_step x) (ih _ hmem)
      cases x with
      | offer table => exact hrest h
      | finish id => exact hrest h
      | start id request =>
          rcases List.mem_cons.1 h with rfl | hmem
          · exact UInt64.le_refl _
          · exact hrest hmem

/-- The generations that requests see never decrease. -/
theorem pairwise_seen (s : Serving) (steps : List Step) :
    (seen (s.run steps).2).Pairwise (· ≤ ·) := by
  induction steps generalizing s with
  | nil => simp [run, seen]
  | cons x steps ih =>
      cases x with
      | offer table => exact ih _
      | finish id => exact ih _
      | start id request =>
          refine List.pairwise_cons.2 ⟨fun generation hmem => ?_, ih _⟩
          exact (s.step (.start id request)).1.le_of_mem_seen hmem

/-- The call under a number stays the same until another one starts under it. -/
theorem find?_started {id : Nat} (hsteps : ∀ request, .start id request ∉ steps) :
    (s.run steps).1.started.find? (fun c => c.1 = id) =
      s.started.find? fun c => c.1 = id := by
  induction steps generalizing s with
  | nil => rfl
  | cons x steps ih =>
      have hrest : ∀ request, .start id request ∉ steps := fun request hmem =>
        hsteps request (List.mem_cons_of_mem _ hmem)
      rw [run, ih hrest]
      cases x with
      | offer table => rfl
      | finish other => rfl
      | start other request =>
          have hother : other ≠ id := by
            rintro rfl
            exact hsteps request List.mem_cons_self
          simp [step, hother]

/-- A request is the last one to start under a number before a position. -/
def StartedLast (steps : List Step) (id j i : Nat) (request : Request) : Prop :=
  i < j ∧ steps[i]? = some (.start id request) ∧
    ∀ k, i < k → k < j → ∀ other, steps[k]? ≠ some (.start id other)

/-- Unless no request starts under a number there is a last one. -/
theorem exists_startedLast {id : Nat} (j : Nat) (hquiet : ∃ request, .start id request ∈ steps.take j) :
    ∃ i request, StartedLast steps id j i request := by
  induction j with
  | zero => simp at hquiet
  | succ j ih =>
      by_cases hlast : ∃ request, steps[j]? = some (.start id request)
      · obtain ⟨request, hrequest⟩ := hlast
        exact ⟨j, request, Nat.lt_succ_self j, hrequest, fun k hjk hkj => by omega⟩
      · have hearlier : ∃ request, .start id request ∈ steps.take j := by
          obtain ⟨request, hmem⟩ := hquiet
          rw [List.take_add_one, List.mem_append, Option.mem_toList] at hmem
          exact ⟨request, hmem.resolve_right fun hat => hlast ⟨request, hat⟩⟩
        obtain ⟨i, request, hij, hstart, hbetween⟩ := ih hearlier
        refine ⟨i, request, Nat.lt_succ_of_lt hij, hstart, fun k hik hkj other hat => ?_⟩
        rcases Nat.lt_succ_iff_lt_or_eq.1 hkj with hkj | rfl
        · exact hbetween k hik hkj other hat
        · exact hlast ⟨other, hat⟩

/-- The call under a number is the last request that started under it, with the table that was active
then. -/
theorem find?_started_of_last {i j id : Nat} {request : Request}
    (h : StartedLast steps id j i request) :
    (s.run (steps.take j)).1.started.find? (fun c => c.1 = id) =
      some (id, request, s.activeAfter (steps.take i)) := by
  obtain ⟨hij, hstart, hbetween⟩ := h
  have hquiet : ∀ other, .start id other ∉ (steps.take j).drop (i + 1) := by
    intro other hmem
    obtain ⟨k, hk⟩ := List.mem_iff_getElem?.1 hmem
    rw [List.getElem?_drop, List.getElem?_take] at hk
    split at hk
    · exact hbetween (i + 1 + k) (by omega) (by omega) other hk
    · cases hk
  rw [run_eq, stepwise_take hij, ← run_eq, ← run_eq, find?_started hquiet, run_take_succ hstart]
  simp [step, activeAfter]

/-- A request is answered from the table that was active when it started. -/
theorem answered_iff (hnone : s.started = []) {j id : Nat} (hfinish : steps[j]? = some (.finish id))
    (response : Response) :
    (s.run steps).2[j]? = some (.answered (some response)) ↔
      ∃ i request, StartedLast steps id j i request ∧
        response = (s.activeAfter (steps.take i)).serve request := by
  rw [outcome_eq hfinish, step]
  constructor
  · intro hanswer
    by_cases hquiet : ∃ request, .start id request ∈ steps.take j
    · obtain ⟨i, request, hlast⟩ := exists_startedLast j hquiet
      refine ⟨i, request, hlast, ?_⟩
      rw [find?_started_of_last hlast] at hanswer
      simpa [eq_comm] using hanswer
    · rw [find?_started (fun request hmem => hquiet ⟨request, hmem⟩), hnone] at hanswer
      simp at hanswer
  · rintro ⟨i, request, hlast, rfl⟩
    rw [find?_started_of_last hlast]
    rfl

/-! ### The whole run -/

/-- In every run from a table that is active at first: an answer is the one that the table gives
which was active when the request started; an offer is accepted exactly when it exceeds all tables
before it, and changes nothing otherwise; the active table is the first of the greatest generation,
and the same for every order of the offers when no two generations are equal; and the generations
that requests see never decrease. -/
theorem snapshots_run (table : RoutingTable) (steps : List Step) :
    let s : Serving := { active := table }
    (∀ (j id : Nat) (response : Response), steps[j]? = some (.finish id) →
      ((s.run steps).2[j]? = some (.answered (some response)) ↔
        ∃ i request, StartedLast steps id j i request ∧
          response = (s.activeAfter (steps.take i)).serve request)) ∧
    (∀ (i : Nat) (offered : RoutingTable), steps[i]? = some (.offer offered) → ∃ accepted,
      (s.run steps).2[i]? = some (.accepted accepted) ∧
      (accepted = true ↔
        ∀ t ∈ table :: offers (steps.take i), t.generation < offered.generation) ∧
      s.activeAfter (steps.take (i + 1)) =
        if accepted then offered else s.activeAfter (steps.take i)) ∧
    FirstGreatest (table :: offers steps) (s.activeAfter steps) ∧
    (∀ others, (offers others).Perm (offers steps) →
      ((table :: offers steps).map RoutingTable.generation).Nodup →
      s.activeAfter others = s.activeAfter steps) ∧
    (∀ (i id : Nat) (request : Request), steps[i]? = some (.start id request) →
      (s.run steps).2[i]? = some (.taken (s.activeAfter (steps.take i)).generation)) ∧
    (seen (s.run steps).2).Pairwise (· ≤ ·) := by
  intro s
  have hgreatest : ∀ xs, FirstGreatest (table :: offers xs) (s.activeAfter xs) := fun xs =>
    @firstGreatest_run s xs [table] (RoutingTable.firstGreatest_singleton table)
  refine ⟨fun j id response hfinish => answered_iff rfl hfinish response, ?_, hgreatest steps, ?_, ?_,
    pairwise_seen s steps⟩
  · intro i offered hoffer
    refine ⟨((s.activeAfter (steps.take i)).replace offered).2, outcome_eq hoffer, ?_, ?_⟩
    · rw [RoutingTable.replace_snd, (hgreatest (steps.take i)).replaces_iff]
    · rw [← RoutingTable.replace_fst, activeAfter, run_take_succ hoffer]
      rfl
  · intro others hperm hdistinct
    exact (hgreatest steps).eq_of_perm (hgreatest others) (hperm.cons table) hdistinct
  · intro i id request hstart
    exact outcome_eq hstart

/-- A table in which every request under one key is allowed. -/
def allowing (generation : UInt64) (key : String) : RoutingTable :=
  .ofRoutes generation [(⟨key⟩, ⟨fun _ => { decision := .allow [] }, ""⟩)]

/-- A request starts, a table replaces the first one, and another request starts. The tables that are
offered before both are answered come too late: one is of the same generation, and one is older. -/
def overtaken : List Step := [
  .start 0 ⟨⟨[], none⟩, []⟩,
  .offer (allowing 2 "a@n"),
  .start 1 ⟨⟨[], none⟩, []⟩,
  .offer (allowing 2 "b@n"),
  .offer (allowing 1 "c@n"),
  .finish 0,
  .finish 1]

theorem snapshots_run_overtaken :
    let s : Serving := { active := allowing 1 "d@n" }
    (s.run overtaken).2[5]? =
        some (.answered (some ((allowing 1 "d@n").serve ⟨⟨[], none⟩, []⟩))) ∧
      (s.run overtaken).2[6]? =
        some (.answered (some ((allowing 2 "a@n").serve ⟨⟨[], none⟩, []⟩))) ∧
      (s.run overtaken).2[3]? = some (.accepted false) ∧
      FirstGreatest (allowing 1 "d@n" :: offers overtaken) (s.activeAfter overtaken) := by
  intro s
  obtain ⟨hanswer, hoffer, hgreatest, -⟩ := snapshots_run (allowing 1 "d@n") overtaken
  have hfirst : StartedLast overtaken 0 5 0 ⟨⟨[], none⟩, []⟩ := by
    refine ⟨by decide, rfl, fun k hk hk5 other hat => ?_⟩
    interval_cases k <;> simp [overtaken] at hat
  have hsecond : StartedLast overtaken 1 6 2 ⟨⟨[], none⟩, []⟩ := by
    refine ⟨by decide, rfl, fun k hk hk6 other hat => ?_⟩
    interval_cases k <;> simp [overtaken] at hat
  refine ⟨(hanswer 5 0 _ rfl).2 ⟨0, _, hfirst, rfl⟩, (hanswer 6 1 _ rfl).2 ⟨2, _, hsecond, rfl⟩, ?_,
    hgreatest⟩
  obtain ⟨accepted, hat, haccepted, -⟩ := hoffer 3 (allowing 2 "b@n") rfl
  have htied : ¬accepted := fun h =>
    absurd (haccepted.1 h (allowing 2 "a@n") (by simp [offers, overtaken])) (by decide)
  rw [hat, Bool.eq_false_of_not_eq_true htied]

end Serving

end EdgeAgent
