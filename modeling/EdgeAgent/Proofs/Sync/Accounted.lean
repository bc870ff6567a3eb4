import EdgeAgent.Proofs.Sync.Single
import EdgeAgent.Proofs.Sync.Watched
import Mathlib.Data.List.Dedup
import Mathlib.Algebra.BigOperators.Group.List.Basic

/-!
The counters of passes account for all that is done. A pass counts once, as completed or as aborted.
What a completed one counts is what its records and its calls have come to: each record once, each
object of a record with one write that is no removal, each listed key with one write that is no
creation. The events that it reports itself are one for each creation and removal that succeeded and
one for each failure. No counter is ever turned back.
-/

namespace EdgeAgent

variable {σ R : Type}

@[simp] theorem succeeded_ok {ε α : Type} (x : α) : succeeded (.ok x : Except ε α) = true := rfl

@[simp] theorem succeeded_error {ε α : Type} (e : ε) :
    succeeded (.error e : Except ε α) = false := rfl

@[simp] theorem Step.write?_unbuildable (e : String) :
    (Step.unbuildable e : Step R).write? = none := rfl

@[simp] theorem Step.write?_write (key : Key) (x : Write R) :
    (Step.write key x).write? = some x := rfl

@[simp] theorem Write.operation_create (new : R) : (create new).operation = .create := rfl

@[simp] theorem Write.operation_update (old new : R) : (update old new).operation = .update := rfl

@[simp] theorem Write.operation_delete (old : R) : (delete old).operation = .delete := rfl

/-! ### What the records and the calls of a pass come to -/

/-- How often an operation is a success, or a failure, among records and the writes that were
made. -/
def tally (desired : List (Except String R)) (written : List (Write R × Bool)) :
    Operation → Bool → Nat
  | .materialize, ok => desired.countP fun item => succeeded item = ok
  | op, ok => written.countP fun call => call.1.operation = op ∧ call.2 = ok

/-- How often an operation is tried. -/
def attempts (desired : List (Except String R)) (written : List (Write R × Bool))
    (op : Operation) : Nat :=
  tally desired written op true + tally desired written op false

theorem Step.length_built (desired : List (Except String R)) :
    (built desired).length = desired.countP fun item => succeeded item = true := by
  induction desired with
  | nil => rfl
  | cons item desired ih =>
      cases item with
      | error e =>
          rw [List.countP_cons_of_neg (by simp)]
          exact ih
      | ok new =>
          rw [List.countP_cons_of_pos (by simp), ← ih]
          rfl

/-- Of the steps for records, those without an object are for the records without one. -/
theorem Step.countP_unbuildable_plan (keyOf : R → Key) (desired : List (Except String R))
    (existing : List R) :
    (plan keyOf desired existing).countP (fun step => step.write?.isNone) =
      desired.countP fun item => succeeded item = false := by
  have hitems : ∀ orphans : Orphans R,
      (ofItems keyOf desired orphans).1.countP (fun step => step.write?.isNone) =
        desired.countP fun item => succeeded item = false := by
    induction desired with
    | nil => exact fun _ => rfl
    | cons item desired ih =>
        intro orphans
        cases item with
        | error e =>
            rw [List.countP_cons_of_pos (by simp), ← ih orphans]
            exact List.countP_cons_of_pos rfl
        | ok new =>
            rw [List.countP_cons_of_neg (by simp), ← ih (orphans.erase (keyOf new).text)]
            exact List.countP_cons_of_neg Bool.false_ne_true
  have horphans : ∀ orphans : Orphans R,
      (ofOrphans orphans).countP (fun step => step.write?.isNone) = 0 := by
    intro orphans
    simp [ofOrphans]
  rw [plan, List.countP_append, hitems, horphans, Nat.add_zero]

namespace Write

/-- The writes of all operations but one are those of the two others. -/
theorem countP_add_countP {op op' other : Operation} (hne : op ≠ op')
    (h : ∀ x : Write R, x.operation ≠ other ↔ x.operation = op ∨ x.operation = op')
    (writes : List (Write R)) :
    (writes.countP fun x => x.operation = op) + (writes.countP fun x => x.operation = op') =
      writes.countP fun x => x.operation ≠ other := by
  induction writes with
  | nil => rfl
  | cons x writes ih =>
      simp only [List.countP_cons, ← ih, h x, decide_eq_true_eq]
      by_cases hop : x.operation = op
      · simp only [hop, hne, if_true, if_false, true_or]
        omega
      · by_cases hop' : x.operation = op'
        · simp only [hop', Ne.symm hne, if_true, if_false, or_true]
          omega
        · simp only [hop, hop', if_false, or_self]
          omega

theorem operation_ne_create_iff (x : Write R) :
    x.operation ≠ .create ↔ x.operation = .update ∨ x.operation = .delete := by
  cases x <;> simp

theorem operation_ne_delete_iff (x : Write R) :
    x.operation ≠ .delete ↔ x.operation = .create ∨ x.operation = .update := by
  cases x <;> simp

/-- The writes of an operation are those that succeeded and those that failed. -/
theorem countP_operation (written : List (Write R × Bool)) (op : Operation) :
    (written.countP fun call => call.1.operation = op ∧ call.2 = true) +
        (written.countP fun call => call.1.operation = op ∧ call.2 = false) =
      (written.map (·.1)).countP fun x => x.operation = op := by
  induction written with
  | nil => rfl
  | cons call written ih =>
      obtain ⟨x, ok⟩ := call
      simp only [List.countP_cons, List.map_cons, ← ih]
      by_cases hop : x.operation = op <;> cases ok <;> simp [hop] <;> omega

/-- The writes of a key are its creations and the others. -/
theorem count_keys (keyOf : R → Key) (writes : List (Write R)) (key : Key) :
    (writes.map (Write.key keyOf)).count key = writes.countP (creates keyOf key) +
      ((writes.filter fun x => x.operation ≠ .create).map (Write.key keyOf)).count key := by
  induction writes with
  | nil => rfl
  | cons x writes ih =>
      rw [List.map_cons, List.count_cons, List.countP_cons, List.filter_cons, ih]
      cases x with
      | create new => simp [creates, Write.key]; omega
      | update old new => simp [creates, Write.key, List.count_cons]; omega
      | delete old => simp [creates, Write.key, List.count_cons]; omega

end Write

namespace Operation

/-- The failures are those of each operation. -/
theorem countP_failed (counted : List (Operation × Bool)) :
    counted.countP (fun x => x.2 = false) = counted.count (materialize, false) +
      counted.count (create, false) + counted.count (update, false) +
      counted.count (delete, false) := by
  induction counted with
  | nil => rfl
  | cons x counted ih =>
      obtain ⟨op, ok⟩ := x
      simp only [List.countP_cons, List.count_cons, ih]
      cases op <;> cases ok <;> simp <;> omega

theorem countP_told (counted : List (Operation × Bool)) :
    counted.countP (fun x => x = (create, true) ∨ x = (delete, true)) =
      counted.count (create, true) + counted.count (delete, true) := by
  induction counted with
  | nil => rfl
  | cons x counted ih =>
      obtain ⟨op, ok⟩ := x
      simp only [List.countP_cons, List.count_cons, ih]
      cases op <;> cases ok <;> simp <;> omega

end Operation

/-! ### What is counted and reported of a step -/

namespace Report

variable {op : Operation} {ok : Bool}

theorem countP_flatMap_eq {α β : Type} {f : Report R → List α} {g : Report R → List β}
    {p : α → Bool} {q : β → Bool} (h : ∀ report, (f report).countP p = (g report).countP q)
    (reports : List (Report R)) : (reports.flatMap f).countP p = (reports.flatMap g).countP q := by
  induction reports with
  | nil => rfl
  | cons report reports ih =>
      rw [List.flatMap_cons, List.flatMap_cons, List.countP_append, List.countP_append, h, ih]

theorem filterMap_written? (reports : List (Report R)) :
    reports.filterMap written? = reports.flatMap fun report => report.written?.toList :=
  List.filterMap_eq_flatMap_toList ..

/-- A write counts as its operation, with what its call has come to. -/
theorem count_operations (hop : op ≠ .materialize) (reports : List (Report R)) :
    (reports.flatMap operations).count (op, ok) =
      (reports.filterMap written?).countP fun call => call.1.operation = op ∧ call.2 = ok := by
  rw [filterMap_written?]
  refine countP_flatMap_eq (fun report => ?_) reports
  cases op with
  | materialize => exact absurd rfl hop
  | create | update | delete =>
      cases report with
      | unbuildable e => rfl
      | wrote key x result => cases x <;> cases result <;> cases ok <;> rfl

/-- A record for which a creation or an update was made has become an object. -/
theorem count_materialize (reports : List (Report R)) :
    (reports.flatMap operations).count (.materialize, true) =
      ((reports.filterMap written?).map (·.1)).countP fun x => x.operation ≠ .delete := by
  rw [filterMap_written?, List.countP_map]
  refine countP_flatMap_eq (fun report => ?_) reports
  cases report with
  | unbuildable e => simp [operations, written?]
  | wrote key x result => cases x <;> simp [operations, written?]

theorem count_unbuildable (reports : List (Report R)) :
    (reports.flatMap operations).count (.materialize, false) =
      (reports.map step).countP fun step => step.write?.isNone := by
  have hone : reports.map step = reports.flatMap fun report => [report.step] :=
    List.map_eq_flatMap
  rw [hone]
  refine countP_flatMap_eq (fun report => ?_) reports
  cases report with
  | unbuildable e => simp [operations, step]
  | wrote key x result => cases x <;> simp [operations, step]

/-- Each failure is reported as an error, and nothing else is. -/
theorem countP_error (kind : String) (reports : List (Report R)) :
    (reports.flatMap (entries kind)).countP (fun entry => entry.level = .error) =
      (reports.flatMap operations).countP fun counted => counted.2 = false := by
  refine countP_flatMap_eq (fun report => ?_) reports
  cases report with
  | unbuildable e => rfl
  | wrote key x result => cases x <;> cases result <;> rfl

/-- Each creation and each removal that succeeded is reported, and nothing else is. -/
theorem countP_info (kind : String) (reports : List (Report R)) :
    (reports.flatMap (entries kind)).countP (fun entry => entry.level = .info) =
      (reports.flatMap operations).countP fun counted =>
        counted = (.create, true) ∨ counted = (.delete, true) := by
  refine countP_flatMap_eq (fun report => ?_) reports
  cases report with
  | unbuildable e => rfl
  | wrote key x result => cases x <;> cases result <;> rfl

end Report

namespace Sides

variable {s : Sides σ R} {w w₁ w₂ : World σ} {desired : List (Except String R)}
  {existing : List R}

/-- Each object of a record is created or updated once. -/
theorem countP_ne_delete_made (hdesired : s.desired w = (.ok desired, w₁))
    (hexisting : s.existing w₁ = (.ok existing, w₂)) :
    ((s.made w).countP fun x => x.operation ≠ .delete) = (Step.built desired).length := by
  obtain ⟨deletions, hmade, -, -⟩ := Step.writes_plan s.keyOf desired existing
  have hrequests : ∀ x ∈ Step.requests s.keyOf existing (Step.built desired),
      decide (x.operation ≠ .delete) = true := by
    intro x hx
    obtain ⟨i, hi, rfl⟩ := List.mem_mapIdx.1 hx
    rw [Step.request]
    split
    · split <;> rfl
    · rfl
  have hdeletions : ∀ x ∈ deletions.map Write.delete, ¬ decide (x.operation ≠ .delete) = true := by
    intro x hx
    obtain ⟨old, -, rfl⟩ := List.mem_map.1 hx
    exact Bool.false_ne_true
  rw [made_eq hdesired hexisting, hmade, List.countP_append, List.countP_eq_length.2 hrequests,
    List.countP_eq_zero.2 hdeletions, Nat.add_zero, Step.requests, List.length_mapIdx]

/-- Each listed key is updated or removed once. -/
theorem countP_ne_create_made (hdesired : s.desired w = (.ok desired, w₁))
    (hexisting : s.existing w₁ = (.ok existing, w₂)) :
    ((s.made w).countP fun x => x.operation ≠ .create) = (existing.map s.keyOf).dedup.length := by
  have hperm : (((s.made w).filter fun x => x.operation ≠ .create).map (Write.key s.keyOf)).Perm
      (existing.map s.keyOf).dedup := by
    rw [List.perm_iff_count]
    intro key
    have hkeys := Write.count_keys s.keyOf (s.made w) key
    rw [count_keys_made hdesired hexisting, countP_creates_made hdesired hexisting] at hkeys
    rw [List.count_dedup]
    -- Of the objects of a listed key all but one are created; of the others all are.
    split at hkeys <;> simp_all
    omega
  rw [List.countP_eq_length_filter, ← hperm.length_eq, List.length_map]

/-- The writes of a pass with what they have come to. -/
theorem map_written (hdesired : s.desired w = (.ok desired, w₁))
    (hexisting : s.existing w₁ = (.ok existing, w₂)) : (s.written w).map (·.1) = s.made w := by
  have hstep : ∀ report : Report R, report.written?.map (·.1) = report.step.write? := by
    intro report
    cases report <;> rfl
  have hsteps := s.map_step_performAll (Step.plan s.keyOf desired existing) w₂
  have hwritten := (s.pass_watched w).1
  rw [pass_of_lists hdesired hexisting] at hwritten
  rw [hwritten, made_eq hdesired hexisting]
  generalize (s.performAll w₂ (Step.plan s.keyOf desired existing)).1 = reports at hsteps
  rw [PassOutcome.written, List.map_filterMap, ← hsteps, List.filterMap_map]
  exact List.filterMap_congr fun report _ => hstep report

/-! ### One pass -/

/-- A side cannot be listed: the call fails, or it does not end. -/
def Unlisted (s : Sides σ R) (w : World σ) : Prop :=
  (∃ stop w₁, s.desired w = (.error stop, w₁)) ∨
    ∃ desired w₁ stop w₂, s.desired w = (.ok desired, w₁) ∧ s.existing w₁ = (.error stop, w₂)

/-- Both sides are listed. -/
def Listed (s : Sides σ R) (w : World σ) (desired : List (Except String R)) (existing : List R) :
    Prop :=
  ∃ w₁ w₂, s.desired w = (.ok desired, w₁) ∧ s.existing w₁ = (.ok existing, w₂)

/-- What an aborted pass counts and reports. -/
structure Aborted (s : Sides σ R) (c : Counted σ) : Prop where
  counters : (s.count c).counters = { c.counters with aborted := c.counters.aborted + 1 }
  written : s.written c.world = []
  own : ∃ entry : LogEntry, entry.level = .error ∧
    Outside c.world.log (s.calls c.world) (s.count c).world.log [entry]

/-- What a completed pass counts and reports, by what its records and its calls come to. -/
structure Completed (s : Sides σ R) (c : Counted σ) (desired : List (Except String R))
    (existing : List R) : Prop where
  completed : (s.count c).counters.completed = c.counters.completed + 1
  aborted : (s.count c).counters.aborted = c.counters.aborted
  operations : ∀ op ok, (s.count c).counters.operations op ok =
    c.counters.operations op ok + tally desired (s.written c.world) op ok
  records : attempts desired (s.written c.world) .materialize = desired.length
  objects : attempts desired (s.written c.world) .create +
    attempts desired (s.written c.world) .update =
      tally desired (s.written c.world) .materialize true
  keys : attempts desired (s.written c.world) .update +
    attempts desired (s.written c.world) .delete = (existing.map s.keyOf).dedup.length
  own : ∃ reports : List (Report R), reports.filterMap Report.written? = s.written c.world ∧
    Outside c.world.log (s.calls c.world) (s.count c).world.log
      (reports.flatMap (Report.entries s.kind)) ∧
    (reports.flatMap (Report.entries s.kind)).countP (fun entry => entry.level = .info) =
      tally desired (s.written c.world) .create true +
        tally desired (s.written c.world) .delete true ∧
    (reports.flatMap (Report.entries s.kind)).countP (fun entry => entry.level = .error) =
      tally desired (s.written c.world) .materialize false +
        tally desired (s.written c.world) .create false +
        tally desired (s.written c.world) .update false +
        tally desired (s.written c.world) .delete false

theorem aborted_of_pass {c : Counted σ} {side : Side} {error : String} {w' : World σ}
    (hpass : s.pass c.world = (.aborted side error, w')) : s.Aborted c := by
  obtain ⟨hwritten, houtside⟩ := s.pass_watched c.world
  have hcount : s.count c = ⟨w', c.counters.add (.aborted side error : PassOutcome R)⟩ := by
    rw [count, hpass]
  rw [hpass] at hwritten houtside
  refine ⟨?_, hwritten, side.entry s.kind error, rfl, ?_⟩
  · rw [hcount]
    exact Counters.add_aborted c.counters side error
  · rw [hcount]
    exact houtside

theorem aborted_of_unlisted {c : Counted σ} (h : s.Unlisted c.world) : s.Aborted c := by
  rcases h with ⟨stop, w₁, hdesired⟩ | ⟨desired, w₁, stop, w₂, hdesired, hexisting⟩
  · exact aborted_of_pass (pass_of_platform_error hdesired)
  · exact aborted_of_pass (pass_of_cluster_error hdesired hexisting)

theorem tally_of_ne {op : Operation} (hop : op ≠ .materialize) (desired : List (Except String R))
    (written : List (Write R × Bool)) (ok : Bool) : tally desired written op ok =
      written.countP fun call => call.1.operation = op ∧ call.2 = ok := by
  cases op with
  | materialize => exact absurd rfl hop
  | create | update | delete => rfl

/-- What is counted of the steps of a pass is what its records and its calls come to. -/
theorem count_operations_pass (hdesired : s.desired w = (.ok desired, w₁))
    (hexisting : s.existing w₁ = (.ok existing, w₂)) (op : Operation) (ok : Bool) :
    (s.pass w).1.operations.count (op, ok) = tally desired (s.written w) op ok := by
  have hsteps := s.map_step_performAll (Step.plan s.keyOf desired existing) w₂
  have hmade := map_written hdesired hexisting
  have hwritten := (s.pass_watched w).1
  rw [pass_of_lists hdesired hexisting] at hwritten ⊢
  by_cases hop : op = .materialize
  · subst hop
    cases ok with
    | false =>
        rw [PassOutcome.operations, Report.count_unbuildable, hsteps,
          Step.countP_unbuildable_plan]
        rfl
    | true =>
        rw [PassOutcome.operations, Report.count_materialize, tally, ← Step.length_built,
          ← countP_ne_delete_made hdesired hexisting, ← hmade, hwritten]
        rfl
  · rw [tally_of_ne hop, hwritten]
    exact Report.count_operations hop _

theorem completed_of_listed {c : Counted σ} (h : s.Listed c.world desired existing) :
    s.Completed c desired existing := by
  obtain ⟨w₁, w₂, hdesired, hexisting⟩ := h
  obtain ⟨hwritten, houtside⟩ := s.pass_watched c.world
  have hoperations := count_operations_pass hdesired hexisting
  have hmade := map_written hdesired hexisting
  have hpass := pass_of_lists hdesired hexisting
  have hattempts : ∀ op, op ≠ .materialize → attempts desired (s.written c.world) op =
      (s.made c.world).countP fun x => x.operation = op := by
    intro op hop
    rw [attempts, tally_of_ne hop, tally_of_ne hop, Write.countP_operation, hmade]
  have hbuilt : (s.made c.world).countP (fun x => x.operation ≠ .delete) =
      tally desired (s.written c.world) .materialize true := by
    rw [countP_ne_delete_made hdesired hexisting, Step.length_built]
    rfl
  have hcount : s.count c = ⟨(s.pass c.world).2, c.counters.add (s.pass c.world).1⟩ := rfl
  constructor
  case completed =>
    rw [hcount, hpass]
    rfl
  case aborted =>
    rw [hcount, hpass]
    rfl
  case operations =>
    intro op ok
    rw [hcount, ← hoperations op ok]
    rfl
  case records =>
    rw [attempts, tally, tally, List.length_eq_countP_add_countP fun item => succeeded item = true]
    simp
  case objects =>
    rw [hattempts .create (by decide), hattempts .update (by decide), ← hbuilt]
    exact Write.countP_add_countP (by decide) Write.operation_ne_delete_iff _
  case keys =>
    rw [hattempts .update (by decide), hattempts .delete (by decide),
      ← countP_ne_create_made hdesired hexisting]
    exact Write.countP_add_countP (by decide) Write.operation_ne_create_iff _
  case own =>
    rw [hpass] at hwritten houtside hoperations
    refine ⟨_, hwritten.symm, ?_, ?_, ?_⟩
    · rw [hcount, hpass]
      exact houtside
    · rw [Report.countP_info, Operation.countP_told, ← hoperations, ← hoperations]
      rfl
    · rw [Report.countP_error, Operation.countP_failed, ← hoperations, ← hoperations,
        ← hoperations, ← hoperations]
      rfl

end Sides

/-! ### Many passes -/

namespace Counters

/-- The number of passes. -/
def passes (c : Counters) : Nat :=
  c.completed + c.aborted

/-- No counter of the one is greater than that of the other. -/
structure AtMost (c c' : Counters) : Prop where
  operations : ∀ op ok, c.operations op ok ≤ c'.operations op ok
  completed : c.completed ≤ c'.completed
  aborted : c.aborted ≤ c'.aborted

theorem AtMost.refl (c : Counters) : c.AtMost c :=
  ⟨fun _ _ => Nat.le_refl _, Nat.le_refl _, Nat.le_refl _⟩

theorem AtMost.trans {c c' c'' : Counters} (h : c.AtMost c') (h' : c'.AtMost c'') :
    c.AtMost c'' :=
  ⟨fun op ok => Nat.le_trans (h.operations op ok) (h'.operations op ok),
    Nat.le_trans h.completed h'.completed, Nat.le_trans h.aborted h'.aborted⟩

/-- A pass counts once, and turns no counter back. -/
theorem atMost_add (c : Counters) (outcome : PassOutcome R) :
    c.AtMost (c.add outcome) ∧ (c.add outcome).passes = c.passes + 1 := by
  cases outcome with
  | aborted side error =>
      refine ⟨⟨fun _ _ => Nat.le_add_right _ _, Nat.le_refl _, Nat.le_succ _⟩, ?_⟩
      exact (Nat.add_assoc c.completed c.aborted 1).symm
  | completed reports =>
      refine ⟨⟨fun _ _ => Nat.le_add_right _ _, Nat.le_succ _, Nat.le_refl _⟩, ?_⟩
      exact Nat.add_right_comm c.completed 1 c.aborted

end Counters

/-- Passes over any sides, one after the other, between which the world may change. -/
inductive Passes (R : Type) : Nat → Counted σ → Counted σ → Prop
  | done (c : Counted σ) : Passes R 0 c c
  | pass {n : Nat} {c c' : Counted σ} (s : Sides σ R) (h : Passes R n (s.count c) c') :
      Passes R (n + 1) c c'
  | elsewhere {n : Nat} {c c' : Counted σ} (w : World σ)
      (h : Passes R n { c with world := w } c') : Passes R n c c'

theorem Passes.atMost {n : Nat} {c c' : Counted σ} (h : Passes R n c c') :
    c.counters.AtMost c'.counters ∧ c'.counters.passes = c.counters.passes + n := by
  induction h with
  | done c => exact ⟨.refl c.counters, rfl⟩
  | @pass n c c' s h ih =>
      obtain ⟨hatMost, hpasses⟩ := c.counters.atMost_add (s.pass c.world).1
      refine ⟨hatMost.trans ih.1, ih.2.trans ?_⟩
      change (c.counters.add (s.pass c.world).1).passes + n = _
      rw [hpasses]
      omega
  | elsewhere w h ih => exact ih

namespace Sides

theorem exists_listed (s : Sides σ R) (w : World σ) (h : ¬ s.Unlisted w) :
    ∃ desired existing, s.Listed w desired existing := by
  rcases hdesired : s.desired w with ⟨stop | desired, w₁⟩
  · exact absurd (.inl ⟨stop, w₁, hdesired⟩) h
  · rcases hexisting : s.existing w₁ with ⟨stop | existing, w₂⟩
    · exact absurd (.inr ⟨desired, w₁, stop, w₂, hdesired, hexisting⟩) h
    · exact ⟨desired, existing, w₁, w₂, hdesired, hexisting⟩

/-- Every pass counts once: as aborted exactly when a side cannot be listed, and else as completed.
An aborted one counts and makes nothing else, and reports one error. A completed one counts what its
records and its calls have come to, each record, each object of a record and each listed key once,
and reports each creation and removal that succeeded and each failure. However many passes are made
and whatever they meet, no counter is turned back. -/
theorem count_accounts (s : Sides σ R) (c : Counted σ) :
    (s.count c).counters.passes = c.counters.passes + 1 ∧
    ((s.count c).counters.aborted = c.counters.aborted + 1 ↔ s.Unlisted c.world) ∧
    (s.Unlisted c.world → s.Aborted c) ∧
    (¬ s.Unlisted c.world → ∃ desired existing, s.Listed c.world desired existing) ∧
    (∀ desired existing, s.Listed c.world desired existing → s.Completed c desired existing) ∧
    ∀ n c', Passes R n c c' →
      c.counters.AtMost c'.counters ∧ c'.counters.passes = c.counters.passes + n := by
  refine ⟨(c.counters.atMost_add (s.pass c.world).1).2, ⟨fun h => ?_, fun h => ?_⟩,
    aborted_of_unlisted, s.exists_listed c.world, fun _ _ => completed_of_listed,
    fun _ _ => Passes.atMost⟩
  · by_contra hlisted
    obtain ⟨desired, existing, hlists⟩ := s.exists_listed c.world hlisted
    have haborted := (completed_of_listed hlists).aborted
    omega
  · rw [(aborted_of_unlisted h).counters]

/-- The records of `repeated`, but the cluster cannot be listed. -/
def unlisted : Script :=
  { repeated with fates := [("cluster", .stalls)] }

/-- A pass in which an update fails, a creation does not end, a record does not become an object and
a removal succeeds, and then one that is aborted. -/
theorem count_accounts_repeated :
    (∃ own, Outside [] ((repeated.sides "Test").calls ⟨repeatedState, []⟩)
        ((repeated.sides "Test").count ⟨⟨repeatedState, []⟩, {}⟩).world.log own ∧
      own.countP (fun entry => entry.level = .info) = 1 ∧
      own.countP (fun entry => entry.level = .error) = 3) ∧
    ((unlisted.sides "Test").count
      ((repeated.sides "Test").count ⟨⟨repeatedState, []⟩, {}⟩)).counters.aborted = 1 ∧
    ((unlisted.sides "Test").count
      ((repeated.sides "Test").count ⟨⟨repeatedState, []⟩, {}⟩)).counters.passes = 2 := by
  obtain ⟨-, -, -, -, hcompleted, hpasses⟩ :=
    count_accounts (repeated.sides "Test") ⟨⟨repeatedState, []⟩, {}⟩
  have hlisted : (repeated.sides "Test").Listed ⟨repeatedState, []⟩ repeated.records
      repeatedState.objects := ⟨_, _, rfl, rfl⟩
  have hpass := hcompleted _ _ hlisted
  obtain ⟨reports, -, houtside, hinfos, herrors⟩ := hpass.own
  have hunlisted : (unlisted.sides "Test").Unlisted
      ((repeated.sides "Test").count ⟨⟨repeatedState, []⟩, {}⟩).world :=
    .inr ⟨_, _, _, _, rfl, rfl⟩
  obtain ⟨-, haborted, -⟩ := count_accounts (unlisted.sides "Test")
    ((repeated.sides "Test").count ⟨⟨repeatedState, []⟩, {}⟩)
  refine ⟨⟨_, houtside, hinfos.trans (by rfl), herrors.trans (by rfl)⟩, ?_,
    (hpasses 2 _ (.pass _ (.pass _ (.done _)))).2⟩
  rw [haborted.2 hunlisted, hpass.aborted]

end Sides

end EdgeAgent
