import EdgeAgent.Proofs.Sync.Made
import EdgeAgent.Sync.Counters

/-!
A pass as its calls see it. Each call is noted when it has ended, with what had been reported before
and after it; what is added in between is reported by the pass itself. So the events of a pass are
told from those of its calls whatever the calls report, and a pass reports of each write what the
call has answered.
-/

namespace EdgeAgent

variable {σ R α : Type}

/-- A call of a pass: what had been reported when it began and when it had ended, and the write that
it was, with whether it succeeded. -/
structure Called (R : Type) where
  write? : Option (Write R × Bool)
  before : Log
  after : Log

/-- What is reported outside of calls: nothing is taken back, and `own` is added before, between and
after the calls. -/
inductive Outside : Log → List (Called R) → Log → Log → Prop
  | done (base own : Log) : Outside base [] (base ++ own) own
  | call {base own later final : Log} {call : Called R} {calls : List (Called R)}
      (hbefore : call.before = base ++ own) (h : Outside call.after calls final later) :
      Outside base (call :: calls) final (own ++ later)

/-- What a call reports is not reported by the pass. -/
theorem Outside.cons {base after final own : Log} {calls : List (Called R)}
    (write? : Option (Write R × Bool)) (h : Outside after calls final own) :
    Outside base (⟨write?, base, after⟩ :: calls) final own := by
  have hbefore : (⟨write?, base, after⟩ : Called R).before = base ++ [] :=
    (List.append_nil base).symm
  have hcall := Outside.call hbefore h
  rwa [List.nil_append] at hcall

/-- A call that is noted when it has ended. -/
def Call.watched (write? : Except Stop α → Option (Write R × Bool)) (c : Call σ α) :
    Call (σ × List (Called R)) α := fun w =>
  let (answer, after) := c ⟨w.state.1, w.log⟩
  (answer, after.noted (w.state.2 ++ [⟨write? answer, w.log, after.log⟩]))

theorem Call.watched_noted (write? : Except Stop α → Option (Write R × Bool)) (c : Call σ α)
    (w : World σ) (notes : List (Called R)) :
    c.watched write? (w.noted notes) =
      ((c w).1, (c w).2.noted (notes ++ [⟨write? (c w).1, w.log, (c w).2.log⟩])) := rfl

namespace Report

/-- The step that was made. -/
def step : Report R → Step R
  | .unbuildable e => .unbuildable e
  | .wrote key x _ => .write key x

/-- The write that was made, with whether it succeeded. -/
def written? : Report R → Option (Write R × Bool)
  | .unbuildable _ => none
  | .wrote _ x result => some (x, succeeded result)

end Report

namespace PassOutcome

def written : PassOutcome R → List (Write R × Bool)
  | .aborted _ _ => []
  | .completed reports => reports.filterMap Report.written?

/-- The events that are reported of a pass. -/
def entries (kind : String) : PassOutcome R → Log
  | .aborted side error => [side.entry kind error]
  | .completed reports => reports.flatMap (Report.entries kind)

end PassOutcome

namespace Sides

/-- The sides with all calls noted. -/
def watched (s : Sides σ R) : Sides (σ × List (Called R)) R where
  kind := s.kind
  timeout := s.timeout
  keyOf := s.keyOf
  desired := s.desired.watched fun _ => none
  existing := s.existing.watched fun _ => none
  write := fun x => (s.write x).watched fun answer => some (x, succeeded answer)

/-- The calls of a pass, in their order. -/
def calls (s : Sides σ R) (w : World σ) : List (Called R) :=
  (s.watched.pass (w.noted [])).2.state.2

/-- The writes that a pass makes, each with whether it succeeded. -/
def written (s : Sides σ R) (w : World σ) : List (Write R × Bool) :=
  (s.calls w).filterMap Called.write?

/-! ### The steps of a pass -/

theorem map_step_performAll (s : Sides σ R) (steps : List (Step R)) (w : World σ) :
    (s.performAll w steps).1.map Report.step = steps := by
  induction steps generalizing w with
  | nil => rfl
  | cons step steps ih =>
      have hstep : (s.perform w step).1.step = step := by
        cases step with
        | unbuildable e => rfl
        | write key x =>
            rw [perform]
            rcases s.write x w with ⟨_ | _, after⟩ <;> rfl
      rw [performAll, List.map_cons, hstep, ih]

theorem performAll_cons (s : Sides σ R) (w : World σ) (step : Step R) (steps : List (Step R)) :
    s.performAll w (step :: steps) = ((s.perform w step).1 ::
      (s.performAll (reported (s.perform w step).2 ((s.perform w step).1.entries s.kind)) steps).1,
      (s.performAll (reported (s.perform w step).2 ((s.perform w step).1.entries s.kind))
        steps).2) := rfl

theorem perform_watched (s : Sides σ R) (w : World σ) (notes : List (Called R)) (key : Key)
    (x : Write R) : ∃ call, s.watched.perform (w.noted notes) (.write key x) =
        ((s.perform w (.write key x)).1, (s.perform w (.write key x)).2.noted (notes ++ [call])) ∧
      call.write? = (s.perform w (.write key x)).1.written? ∧ call.before = w.log ∧
      call.after = (s.perform w (.write key x)).2.log := by
  refine ⟨⟨some (x, succeeded (s.write x w).1), w.log, (s.write x w).2.log⟩, ?_⟩
  simp only [perform, watched, Call.watched_noted]
  rcases s.write x w with ⟨_ | _, after⟩ <;> exact ⟨rfl, rfl, trivial, rfl⟩

/-- What has been reported since the last call is reported before the next one. -/
theorem performAll_watched (s : Sides σ R) (steps : List (Step R)) {w : World σ} {base since : Log}
    (hlog : w.log = base ++ since) (notes : List (Called R)) :
    ∃ calls, s.watched.performAll (w.noted notes) steps =
        ((s.performAll w steps).1, (s.performAll w steps).2.noted (notes ++ calls)) ∧
      calls.filterMap Called.write? = (s.performAll w steps).1.filterMap Report.written? ∧
      Outside base calls (s.performAll w steps).2.log
        (since ++ (s.performAll w steps).1.flatMap (Report.entries s.kind)) := by
  induction steps generalizing w base since notes with
  | nil =>
      refine ⟨[], by rw [List.append_nil]; rfl, rfl, ?_⟩
      change Outside base [] w.log (since ++ [])
      rw [List.append_nil, hlog]
      exact .done base since
  | cons step steps ih =>
      cases step with
      | unbuildable e =>
          have hlog' : (reported w ((Report.unbuildable e : Report R).entries s.kind)).log =
              base ++ (since ++ (Report.unbuildable e : Report R).entries s.kind) := by
            rw [reported, hlog, List.append_assoc]
          obtain ⟨calls, hperform, hwritten, houtside⟩ := ih hlog' notes
          rw [List.append_assoc] at houtside
          refine ⟨calls, ?_, hwritten, houtside⟩
          have hperform' : s.watched.performAll
              (reported (w.noted notes) ((Report.unbuildable e : Report R).entries s.watched.kind))
              steps = _ := hperform
          rw [performAll_cons, perform, hperform']
          rfl
      | write key x =>
          obtain ⟨call, hcall, hwrite, hbefore, hafter⟩ := s.perform_watched w notes key x
          have hlog' : (reported (s.perform w (.write key x)).2
              ((s.perform w (.write key x)).1.entries s.kind)).log =
                call.after ++ (s.perform w (.write key x)).1.entries s.kind := by
            rw [reported, hafter]
          obtain ⟨calls, hperform, hwritten, houtside⟩ := ih hlog' (notes ++ [call])
          refine ⟨call :: calls, ?_, ?_, .call (hbefore.trans hlog) houtside⟩
          · have hperform' : s.watched.performAll
                (reported ((s.perform w (.write key x)).2.noted (notes ++ [call]))
                  ((s.perform w (.write key x)).1.entries s.watched.kind)) steps = _ := hperform
            rw [performAll_cons, performAll_cons, hcall, hperform', List.append_assoc]
            rfl
          · rw [List.filterMap_cons, hwrite, hwritten, performAll_cons, List.filterMap_cons]

/-! ### The whole pass -/

theorem desired_watched {s : Sides σ R} {w w₁ : World σ}
    {answer : Except Stop (List (Except String R))} (hdesired : s.desired w = (answer, w₁))
    (notes : List (Called R)) :
    s.watched.desired (w.noted notes) = (answer, w₁.noted (notes ++ [⟨none, w.log, w₁.log⟩])) := by
  change s.desired.watched (fun _ => none) (w.noted notes) = _
  rw [Call.watched_noted, hdesired]

theorem existing_watched {s : Sides σ R} {w w₁ : World σ} {answer : Except Stop (List R)}
    (hexisting : s.existing w = (answer, w₁)) (notes : List (Called R)) :
    s.watched.existing (w.noted notes) = (answer, w₁.noted (notes ++ [⟨none, w.log, w₁.log⟩])) := by
  change s.existing.watched (fun _ => none) (w.noted notes) = _
  rw [Call.watched_noted, hexisting]

/-- What a pass makes and reports itself is what came of it. -/
theorem pass_watched (s : Sides σ R) (w : World σ) :
    s.written w = (s.pass w).1.written ∧
      Outside w.log (s.calls w) (s.pass w).2.log ((s.pass w).1.entries s.kind) := by
  rw [written, calls]
  rcases hdesired : s.desired w with ⟨stop | desired, w₁⟩
  · rw [pass_of_platform_error hdesired, pass_of_platform_error (desired_watched hdesired [])]
    exact ⟨rfl, .cons _ (.done w₁.log [_])⟩
  · have hdesired' := desired_watched hdesired []
    rcases hexisting : s.existing w₁ with ⟨stop | existing, w₂⟩
    · have hexisting' := existing_watched hexisting ([] ++ [⟨none, w.log, w₁.log⟩])
      rw [pass_of_cluster_error hdesired hexisting, pass_of_cluster_error hdesired' hexisting']
      exact ⟨rfl, .cons _ (.cons _ (.done w₂.log [_]))⟩
    · have hexisting' := existing_watched hexisting ([] ++ [⟨none, w.log, w₁.log⟩])
      obtain ⟨calls, hperform, hwritten, houtside⟩ := s.performAll_watched
        (Step.plan s.keyOf desired existing) (List.append_nil w₂.log).symm
        ([] ++ [⟨none, w.log, w₁.log⟩] ++ [⟨none, w₁.log, w₂.log⟩])
      have hperform' : s.watched.performAll _ (Step.plan s.watched.keyOf desired existing) = _ :=
        hperform
      rw [pass_of_lists hdesired hexisting, pass_of_lists hdesired' hexisting', hperform']
      exact ⟨hwritten, .cons _ (.cons _ houtside)⟩

end Sides

namespace Counters

theorem add_aborted (c : Counters) (side : Side) (error : String) :
    c.add (.aborted side error : PassOutcome R) = { c with aborted := c.aborted + 1 } := by
  have hnone : (PassOutcome.aborted side error : PassOutcome R).operations = [] := rfl
  have hended : (PassOutcome.aborted side error : PassOutcome R).isCompleted = false := rfl
  rw [add, hnone, hended]
  simp

end Counters

end EdgeAgent
