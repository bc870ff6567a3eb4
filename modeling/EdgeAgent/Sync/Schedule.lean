import EdgeAgent.Log

/-! When passes start. A timer is due at once and then after every interval; a tick that comes too
late moves the next one to a whole interval after itself. The loop waits for the timer, makes a
pass, and stops when it is told to before the next pass has started; a pass that has started is
finished. Times are in units of a clock, which has any number of them in a millisecond. -/

namespace EdgeAgent

namespace Schedule

/-- How many milliseconds late a tick may be without moving the next one. -/
def tolerance : Nat := 5

/-- The moment at which a timer that is due at `due` ticks, when it is waited for from `now` on. -/
def tick (due now : Nat) : Nat :=
  max due now

/-- The moment at which a timer is due after it has ticked, when a tick may be `late`. -/
def nextDue (late interval due ticked : Nat) : Nat :=
  if due + late < ticked then ticked + interval else due + interval

/-- The moments at which passes of given durations start, when the timer is due at `due` and is
waited for from `now` on. -/
def startsFrom (late interval due now : Nat) : List Nat → List Nat
  | [] => []
  | d :: durations =>
    let start := tick due now
    start :: startsFrom late interval (nextDue late interval due start) (start + d) durations

/-- The moments at which passes of given durations start. -/
def starts (late interval : Nat) (durations : List Nat) : List Nat :=
  startsFrom late interval 0 0 durations

/-- The event that is reported at the end of the loop. -/
def stoppedEntry (kind : String) : LogEntry :=
  ⟨.info, "Synchronization stopped", [("kind", kind)]⟩

/-- The state after the passes that start before `stop`, and the moment at which the loop ends. A
pass starts at a moment, and gives the moment at which it ends. -/
def runFrom {σ : Type} (late interval stop : Nat) (pass : Nat → σ → Nat × σ) :
    Nat → Nat → Nat → σ → Nat × σ
  | 0, _, now, state => (max stop now, state)
  | fuel + 1, due, now, state =>
    let start := tick due now
    if stop ≤ start then (max stop now, state)
    else
      let (ended, state) := pass start state
      runFrom late interval stop pass fuel (nextDue late interval due start) ended state

/-- The state after the passes that start before `stop`, and the moment at which the loop ends. The
timer is due later from pass to pass, so that no more passes start than units of time pass. -/
def run {σ : Type} (late interval stop : Nat) (pass : Nat → σ → Nat × σ) (state : σ) : Nat × σ :=
  runFrom late interval stop pass stop 0 0 state

end Schedule

end EdgeAgent
