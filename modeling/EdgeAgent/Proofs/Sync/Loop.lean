import EdgeAgent.Proofs.Sync.Made
import EdgeAgent.Proofs.Sync.Schedule

/-!
The loop of passes on a clock. Whatever the calls of its passes do and however long they take, the
passes do not overlap, each of them starts as soon as the timer lets it, and none starts when the
loop was told to stop. A pass that has started is made to its end: it is the pass that it would be
if the loop went on.
-/

namespace EdgeAgent

variable {σ R : Type}

namespace Sides

/-- Calls that do not turn a clock back. -/
structure Forward (s : Sides σ R) (clock : Clock σ) : Prop where
  desired : ∀ w, clock.read w.state ≤ clock.read (s.desired w).2.state
  existing : ∀ w, clock.read w.state ≤ clock.read (s.existing w).2.state
  write : ∀ x w, clock.read w.state ≤ clock.read (s.write x w).2.state

namespace Forward

variable {s : Sides σ R} {clock : Clock σ}

theorem perform (h : s.Forward clock) (w : World σ) (step : Step R) :
    clock.read w.state ≤ clock.read (s.perform w step).2.state := by
  cases step with
  | unbuildable e => exact Nat.le_refl _
  | write key x =>
      have hwrite := h.write x w
      simp only [Sides.perform]
      cases hcall : s.write x w with
      | mk answer after =>
          rw [hcall] at hwrite
          cases answer <;> exact hwrite

theorem performAll (h : s.Forward clock) (steps : List (Step R)) (w : World σ) :
    clock.read w.state ≤ clock.read (s.performAll w steps).2.state := by
  induction steps generalizing w with
  | nil => exact Nat.le_refl _
  | cons step steps ih =>
      unfold Sides.performAll
      cases hstep : s.perform w step with
      | mk report after =>
          have hperform := h.perform w step
          rw [hstep] at hperform
          exact Nat.le_trans hperform (ih (reported after (report.entries s.kind)))

theorem pass (h : s.Forward clock) (w : World σ) :
    clock.read w.state ≤ clock.read (s.pass w).2.state := by
  have hdesired := h.desired w
  rcases hcall : s.desired w with ⟨stop | desired, w₁⟩
  · rw [pass_of_platform_error hcall]
    rwa [hcall] at hdesired
  · rw [hcall] at hdesired
    have hexisting := Nat.le_trans hdesired (h.existing w₁)
    rcases hcall' : s.existing w₁ with ⟨stop | existing, w₂⟩
    · rw [pass_of_cluster_error hcall hcall']
      rwa [hcall'] at hexisting
    · rw [hcall'] at hexisting
      rw [pass_of_lists hcall hcall']
      exact Nat.le_trans hexisting (h.performAll _ w₂)

/-- A pass does not end before it starts. -/
theorem passAt (h : s.Forward clock) (start : Nat) (c : Counted σ) :
    start ≤ (s.passAt clock start c).1 := by
  have hpass := h.pass { c.world with state := clock.set start c.world.state }
  rwa [clock.read_set] at hpass

end Forward

/-- The passes of a loop, in their order, each with the counted worlds before and after it. -/
def turns (s : Sides σ R) (clock : Clock σ) (interval stop : Nat) (c : Counted σ) :
    List (Schedule.Turn (Counted σ)) :=
  Schedule.turns clock.tolerance interval stop (s.passAt clock) c

/-- What the passes of a loop are. -/
structure Scheduled (s : Sides σ R) (clock : Clock σ) (interval stop : Nat) (c : Counted σ) :
    Prop where
  /-- Each of them starts before the loop is told to stop, and is made to its end. -/
  whole : ∀ p ∈ s.turns clock interval stop c,
    p.start < stop ∧ s.passAt clock p.start p.before = (p.ended, p.after)
  /-- No two of them overlap. -/
  apart : (s.turns clock interval stop c).Pairwise fun p q => p.ended ≤ q.start
  forward : ∀ p ∈ s.turns clock interval stop c, p.start ≤ p.ended
  /-- The first one starts at once, unless the loop was told to stop before. -/
  first : 0 < stop → ∃ p ∈ (s.turns clock interval stop c).head?, p.start = 0 ∧ p.before = c
  follows : (s.turns clock interval stop c).IsChain (Schedule.Follows clock.tolerance interval)
  /-- A slow one is not followed by a burst: how late the ticks were does not add up. -/
  paced : ∀ before p between q after,
    s.turns clock interval stop c = before ++ p :: between ++ q :: after →
      p.start + (between.length + 1) * interval ≤ q.start + clock.tolerance
  /-- There is a next one if the loop goes on until the timer ticks. -/
  last : ∀ p ∈ (s.turns clock interval stop c).getLast?, stop ≤ max (p.start + interval) p.ended
  /-- They are those of a loop that goes on for longer, with all that they do to the world, but for
  the ones that start too late. -/
  kept : ∀ stop', stop ≤ stop' → s.turns clock interval stop c =
    (s.turns clock interval stop' c).takeWhile fun p => p.start < stop
  starts : (s.turns clock interval stop c).map (·.start) =
    Schedule.starts clock.tolerance interval ((s.turns clock interval stop c).map (·.duration))
  /-- Without a pass the loop ends when it is told to. -/
  idle : s.turns clock interval stop c = [] → s.run clock interval stop c = (stop, s.stopped c)
  /-- It does not end before its last pass, of which it leaves the world. -/
  result : ∀ p ∈ (s.turns clock interval stop c).getLast?,
    s.run clock interval stop c = (max stop p.ended, s.stopped p.after)

/-- The passes of every loop are on schedule: for all sides whose calls do not turn the clock back,
every interval that is not zero, and every moment at which the loop is told to stop. -/
theorem scheduled_run {s : Sides σ R} {clock : Clock σ} (hforward : s.Forward clock)
    {interval : Nat} (hinterval : 0 < interval) (stop : Nat) (c : Counted σ) :
    s.Scheduled clock interval stop c := by
  have hcourse : ∀ stop, Schedule.Course clock.tolerance interval stop (s.passAt clock) 0 0 c
      (s.turns clock interval stop c) _ _ := fun stop =>
    Schedule.course_run hinterval clock.tolerance stop (s.passAt clock) c
  have hrun : s.run clock interval stop c =
      ((Schedule.run clock.tolerance interval stop (s.passAt clock) c).1,
        s.stopped (Schedule.run clock.tolerance interval stop (s.passAt clock) c).2) := rfl
  exact {
    whole := fun p hp => (hcourse stop).whole hp
    apart := (hcourse stop).pairwise hforward.passAt
    forward := fun p hp => (hcourse stop).forward hforward.passAt hp
    first := (hcourse stop).exists_first
    follows := (hcourse stop).isChain
    paced := fun before p between q after => (hcourse stop).paced
    last := fun p => (hcourse stop).last
    kept := fun stop' hstop => by
      obtain ⟨_, _, hkept⟩ := (hcourse stop').takeWhile hstop
      exact (hcourse stop).unique hkept
    starts := (hcourse stop).starts_eq hforward.passAt
    idle := fun hnone => by
      have hidle := hcourse stop
      rw [hnone] at hidle
      rw [hrun, hidle.result_of_nil.1, hidle.result_of_nil.2, Nat.max_zero]
    result := fun p hp => by
      rw [hrun, ((hcourse stop).result_of_last hp).1, ((hcourse stop).result_of_last hp).2] }

end Sides

namespace Script

theorem clock_le_call {α : Type} (s : Script) (name : String) (made : Nat → Made)
    (answer : State → α) {effect : State → State}
    (heffect : ∀ state, (effect state).clock = state.clock) (w : World State) :
    w.state.clock ≤ (s.call name made answer effect w).2.state.clock := by
  simp only [call, Call.change]
  cases s.fate? name with
  | none =>
      simp only [heffect]
      exact Nat.le_refl _
  | some fate =>
      cases fate with
      | fails => exact Nat.le_refl _
      | stalls => exact Nat.le_add_right _ _
      | lasts ms =>
          by_cases hms : ms ≤ s.timeout
          · simp only [if_pos hms, heffect]
            exact Nat.le_add_right _ _
          · simp only [if_neg hms]
            exact Nat.le_add_right _ _

theorem forward (kind : String) (s : Script) : (s.sides kind).Forward clock where
  desired := s.clock_le_call _ _ _ fun _ => rfl
  existing := s.clock_le_call _ _ _ fun _ => rfl
  write := fun _ => s.clock_le_call _ _ _ fun _ => rfl

end Script

namespace Sides

/-- A creation takes longer than an interval, and an update a part of one. -/
def lagging : Script where
  records := [.ok ⟨⟨"a"⟩, .int 1⟩]
  fates := [("create a", .lasts 12), ("update a", .lasts 4)]
  timeout := 20

/-- The second pass starts late, but not by so much that the timer of the third one moves. During
the third one the loop is told to stop, and it is made to its end. -/
theorem scheduled_run_lagging :
    (lagging.sides "Test").Scheduled Script.clock 10 22 ⟨⟨{}, []⟩, {}⟩ ∧
      ((lagging.sides "Test").turns Script.clock 10 22 ⟨⟨{}, []⟩, {}⟩).map
        (fun p => (p.start, p.ended)) = [(0, 12), (12, 16), (20, 24)] ∧
      (lagging.run "Test" 10 22 ⟨⟨{}, []⟩, {}⟩).1 = 24 ∧
      (lagging.run "Test" 10 22 ⟨⟨{}, []⟩, {}⟩).2.world.state.made.getLast? =
        some (.write (.update ⟨⟨"a"⟩, .int 1⟩ ⟨⟨"a"⟩, .int 1⟩) 20) :=
  ⟨scheduled_run (lagging.forward "Test") (by decide) 22 _, rfl, rfl, rfl⟩

end Sides

end EdgeAgent
