import EdgeAgent.Sync.Schedule
import Mathlib.Data.List.Chain

/-!
Which passes a loop makes. They are noted while the loop runs; apart from its notes such a loop is
the one without them. The timer is due later by an interval from tick to tick, and never later than
an interval after the last one, so that the start of a pass is bounded from both sides by the pass
before it. The moment at which the loop is told to stop decides only how many passes there are.
-/

namespace EdgeAgent

namespace Schedule

variable {σ : Type} {late interval stop stop' due now ended ended' fuel : Nat}
  {pass : Nat → σ → Nat × σ} {state final final' : σ}

/-! ### The timer -/

theorem due_le_nextDue (late interval due now : Nat) :
    due + interval ≤ nextDue late interval due now := by
  unfold nextDue
  split <;> omega

theorem nextDue_le (late interval : Nat) (h : due ≤ now) :
    nextDue late interval due now ≤ now + interval := by
  unfold nextDue
  split <;> omega

theorem le_nextDue (late interval due now : Nat) :
    now + interval ≤ nextDue late interval due now + late := by
  unfold nextDue
  split <;> omega

/-! ### The passes of a loop -/

/-- A pass of a loop: when it starts and ends, with the states before and after it. -/
structure Turn (σ : Type) where
  start : Nat
  ended : Nat
  before : σ
  after : σ

/-- How long a pass lasts. -/
def Turn.duration (p : Turn σ) : Nat :=
  p.ended - p.start

/-- A pass that is noted when it has ended. -/
def noting (pass : Nat → σ → Nat × σ) (start : Nat) (noted : σ × List (Turn σ)) :
    Nat × σ × List (Turn σ) :=
  let (ended, after) := pass start noted.1
  (ended, after, noted.2 ++ [⟨start, ended, noted.1, after⟩])

/-- The passes of a loop, in their order. -/
def turns (late interval stop : Nat) (pass : Nat → σ → Nat × σ) (state : σ) : List (Turn σ) :=
  (run late interval stop (noting pass) (state, [])).2.2

/-- The rest of a loop, from when the timer is due and is waited for, with the passes that are made,
the moment at which the loop ends and the state that it leaves. -/
inductive Course (late interval stop : Nat) (pass : Nat → σ → Nat × σ) :
    Nat → Nat → σ → List (Turn σ) → Nat → σ → Prop
  | stopped {due now : Nat} {state : σ} (hstop : stop ≤ tick due now) :
      Course late interval stop pass due now state [] (max stop now) state
  | turn {due now ended finished : Nat} {state after final : σ} {rest : List (Turn σ)}
      (hstart : tick due now < stop) (hpass : pass (tick due now) state = (ended, after))
      (hrest : Course late interval stop pass (nextDue late interval due (tick due now)) ended after
        rest finished final) :
      Course late interval stop pass due now state (⟨tick due now, ended, state, after⟩ :: rest)
        finished final

/-- With enough fuel a loop takes its course, and notes it. -/
theorem exists_course (hinterval : 0 < interval) (late : Nat) (pass : Nat → σ → Nat × σ)
    (hfuel : stop ≤ due + fuel) (now : Nat) (state : σ) (notes : List (Turn σ)) :
    ∃ made, Course late interval stop pass due now state made
        (runFrom late interval stop pass fuel due now state).1
        (runFrom late interval stop pass fuel due now state).2 ∧
      runFrom late interval stop (noting pass) fuel due now (state, notes) =
        ((runFrom late interval stop pass fuel due now state).1,
          (runFrom late interval stop pass fuel due now state).2, notes ++ made) := by
  induction fuel generalizing due now state notes with
  | zero =>
      have hdue : due ≤ tick due now := Nat.le_max_left due now
      refine ⟨[], .stopped (by omega), ?_⟩
      rw [List.append_nil]
      rfl
  | succ fuel ih =>
      by_cases hstop : stop ≤ tick due now
      · simp only [runFrom, if_pos hstop]
        exact ⟨[], .stopped hstop, by rw [List.append_nil]⟩
      · cases hpass : pass (tick due now) state with
        | mk ended after =>
            -- The timer is due later by an interval at least, and so the fuel lasts.
            have hnext := due_le_nextDue late interval due (tick due now)
            have hfuel' : stop ≤ nextDue late interval due (tick due now) + fuel := by omega
            obtain ⟨rest, hcourse, hnoted⟩ :=
              ih hfuel' ended after (notes ++ [⟨tick due now, ended, state, after⟩])
            refine ⟨⟨tick due now, ended, state, after⟩ :: rest, ?_, ?_⟩
            · simp only [runFrom, if_neg hstop, hpass]
              exact .turn (Nat.not_le.1 hstop) hpass hcourse
            · simp only [runFrom, if_neg hstop, noting, hpass, hnoted, List.append_assoc,
                List.singleton_append]

theorem course_run (hinterval : 0 < interval) (late stop : Nat) (pass : Nat → σ → Nat × σ)
    (state : σ) :
    Course late interval stop pass 0 0 state (turns late interval stop pass state)
      (run late interval stop pass state).1 (run late interval stop pass state).2 := by
  obtain ⟨made, hcourse, hnoted⟩ :=
    exists_course hinterval late pass (Nat.le_add_left stop 0) 0 state []
  rw [turns, run, hnoted]
  exact hcourse

namespace Course

variable {made made' : List (Turn σ)} {p q : Turn σ}

theorem unique (h : Course late interval stop pass due now state made ended final)
    (h' : Course late interval stop pass due now state made' ended' final') : made = made' := by
  induction h generalizing made' with
  | stopped hstop =>
      cases h' with
      | stopped => rfl
      | turn hstart => exact absurd hstart (Nat.not_lt.2 hstop)
  | turn hstart hpass hrest ih =>
      cases h' with
      | stopped hstop => exact absurd hstart (Nat.not_lt.2 hstop)
      | turn hstart' hpass' hrest' =>
          rw [hpass] at hpass'
          cases hpass'
          rw [ih hrest']

/-- A loop that is told to stop earlier makes the same passes, up to the first that would start too
late. -/
theorem takeWhile (h : Course late interval stop' pass due now state made ended final)
    (hstop : stop ≤ stop') : ∃ ended' final',
      Course late interval stop pass due now state (made.takeWhile fun p => p.start < stop)
        ended' final' := by
  induction h with
  | stopped hlate => exact ⟨_, _, .stopped (Nat.le_trans hstop hlate)⟩
  | @turn due now ended finished state after final rest hstart hpass hrest ih =>
      by_cases hnow : tick due now < stop
      · obtain ⟨ended', final', hcourse⟩ := ih
        rw [List.takeWhile_cons_of_pos (by simpa using hnow)]
        exact ⟨ended', final', .turn hnow hpass hcourse⟩
      · rw [List.takeWhile_cons_of_neg (by simpa using hnow)]
        exact ⟨_, _, .stopped (Nat.not_lt.1 hnow)⟩

/-- Every pass is a whole one, and starts before the loop is told to stop. -/
theorem whole (h : Course late interval stop pass due now state made ended final) (hp : p ∈ made) :
    p.start < stop ∧ pass p.start p.before = (p.ended, p.after) := by
  induction h with
  | stopped => cases hp
  | turn hstart hpass hrest ih =>
      rcases List.mem_cons.1 hp with rfl | hp
      · exact ⟨hstart, hpass⟩
      · exact ih hp

/-- The first pass starts when the timer ticks. -/
theorem first (h : Course late interval stop pass due now state made ended final)
    (hp : p ∈ made.head?) : p.start = tick due now ∧ p.before = state := by
  cases h with
  | stopped => cases hp
  | turn =>
      cases hp
      exact ⟨rfl, rfl⟩

theorem exists_first (h : Course late interval stop pass due now state made ended final)
    (hstart : tick due now < stop) : ∃ p ∈ made.head?, p.start = tick due now ∧ p.before = state := by
  cases h with
  | stopped hstop => exact absurd hstart (Nat.not_lt.2 hstop)
  | turn => exact ⟨_, rfl, rfl, rfl⟩

/-- After the last pass the loop was told to stop before the timer ticked again. -/
theorem last (h : Course late interval stop pass due now state made ended final)
    (hp : p ∈ made.getLast?) : stop ≤ max (p.start + interval) p.ended := by
  induction h with
  | stopped => cases hp
  | @turn due now ended finished state after final rest hstart hpass hrest ih =>
      cases hrest with
      | stopped hstop =>
          -- The next one would have started when the timer was due, or else when this one ended.
          obtain rfl : ⟨tick due now, ended, state, after⟩ = p := Option.some.inj hp
          have hnext := nextDue_le late interval (Nat.le_max_left due now)
          simp only [tick] at hstop hnext ⊢
          omega
      | turn => exact ih hp

/-- Without a pass the loop waits until it is told to stop. -/
theorem result_of_nil (h : Course late interval stop pass due now state [] ended final) :
    ended = max stop now ∧ final = state := by
  cases h
  exact ⟨rfl, rfl⟩

/-- With passes the loop leaves the state after the last one, and ends with that or when it is told
to stop. -/
theorem result_of_last (h : Course late interval stop pass due now state made ended final)
    (hp : p ∈ made.getLast?) : ended = max stop p.ended ∧ final = p.after := by
  induction h with
  | stopped => cases hp
  | @turn due now ended finished state after final rest hstart hpass hrest ih =>
      cases hrest with
      | stopped =>
          obtain rfl : ⟨tick due now, ended, state, after⟩ = p := Option.some.inj hp
          exact ⟨rfl, rfl⟩
      | turn => exact ih hp

end Course

/-- How a pass follows another one: not before it has ended, an interval after it has started but
for what a tick may be late, and then at once. -/
structure Follows (late interval : Nat) (p q : Turn σ) : Prop where
  state : q.before = p.after
  apart : p.ended ≤ q.start
  paced : p.start + interval ≤ q.start + late
  prompt : q.start ≤ max (p.start + interval) p.ended

namespace Course

variable {made : List (Turn σ)} {p q : Turn σ}

theorem isChain (h : Course late interval stop pass due now state made ended final) :
    made.IsChain (Follows late interval) := by
  induction h with
  | stopped => exact .nil
  | @turn due now ended finished state after final rest hstart hpass hrest ih =>
      refine ih.cons fun q hq => ?_
      obtain ⟨hq, hbefore⟩ := hrest.first hq
      have hnext := nextDue_le late interval (Nat.le_max_left due now)
      have hpaced := le_nextDue late interval due (tick due now)
      unfold tick at hq hnext hpaced
      refine ⟨hbefore, ?_, ?_, ?_⟩ <;> simp only [tick] <;> omega

/-- What a tick was late does not add up. -/
theorem le_start (h : Course late interval stop pass due now state made ended final)
    {before after : List (Turn σ)} (hsplit : made = before ++ q :: after) :
    due + before.length * interval ≤ q.start := by
  induction h generalizing before with
  | stopped => simp at hsplit
  | @turn due now ended finished state after' final rest hstart hpass hrest ih =>
      have hdue : due ≤ tick due now := Nat.le_max_left due now
      cases before with
      | nil =>
          obtain ⟨rfl, -⟩ := List.cons.inj hsplit
          simpa using hdue
      | cons p before =>
          have hstep := ih (List.cons.inj hsplit).2
          have hnext := due_le_nextDue late interval due (tick due now)
          rw [List.length_cons, Nat.add_mul]
          omega

theorem paced (h : Course late interval stop pass due now state made ended final)
    {before between after : List (Turn σ)}
    (hsplit : made = before ++ p :: between ++ q :: after) :
    p.start + (between.length + 1) * interval ≤ q.start + late := by
  induction h generalizing before with
  | stopped => simp at hsplit
  | @turn due now ended finished state after' final rest hstart hpass hrest ih =>
      cases before with
      | nil =>
          obtain ⟨rfl, hrest'⟩ := List.cons.inj hsplit
          have hq := hrest.le_start hrest'
          have hpaced := le_nextDue late interval due (tick due now)
          rw [Nat.add_mul]
          simp only
          omega
      | cons first before => exact ih (List.cons.inj hsplit).2

/-! ### Passes that end after they start -/

variable (hforward : ∀ start state, start ≤ (pass start state).1)
include hforward

theorem forward (h : Course late interval stop pass due now state made ended final)
    (hp : p ∈ made) : p.start ≤ p.ended := by
  have hended := hforward p.start p.before
  rwa [(h.whole hp).2] at hended

theorem now_le (h : Course late interval stop pass due now state made ended final)
    (hp : p ∈ made) : now ≤ p.start := by
  induction h with
  | stopped => cases hp
  | @turn due now ended finished state after final rest hstart hpass hrest ih =>
      have hnow : now ≤ tick due now := Nat.le_max_right due now
      have hended := hforward (tick due now) state
      rw [hpass] at hended
      rcases List.mem_cons.1 hp with rfl | hp
      · exact hnow
      · exact Nat.le_trans hnow (Nat.le_trans hended (ih hp))

/-- No two passes overlap. -/
theorem pairwise (h : Course late interval stop pass due now state made ended final) :
    made.Pairwise fun p q => p.ended ≤ q.start := by
  induction h with
  | stopped => exact .nil
  | turn hstart hpass hrest ih => exact .cons (fun q hq => hrest.now_le hforward hq) ih

/-- The passes start at the moments that their durations give. -/
theorem starts_eq (h : Course late interval stop pass due now state made ended final) :
    made.map Turn.start = startsFrom late interval due now (made.map Turn.duration) := by
  induction h with
  | stopped => rfl
  | @turn due now ended finished state after final rest hstart hpass hrest ih =>
      have hended := hforward (tick due now) state
      rw [hpass] at hended
      have hlasts : tick due now + (ended - tick due now) = ended := Nat.add_sub_cancel' hended
      rw [List.map_cons, List.map_cons, startsFrom, ih, Turn.duration, hlasts]

end Course

end Schedule

end EdgeAgent
