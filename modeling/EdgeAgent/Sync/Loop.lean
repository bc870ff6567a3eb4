import EdgeAgent.Sync.Counters
import EdgeAgent.Sync.Schedule

/-! The loop of passes over two sides, on a clock that their calls move. -/

namespace EdgeAgent

/-- A clock in a state. -/
structure Clock (σ : Type) where
  /-- How many units of the clock a millisecond has. -/
  millisecond : Nat
  read : σ → Nat
  set : Nat → σ → σ
  read_set : ∀ time state, read (set time state) = time

/-- How late a tick may be by a clock without moving the next one. -/
def Clock.tolerance {σ : Type} (clock : Clock σ) : Nat :=
  Schedule.tolerance * clock.millisecond

namespace Sides

variable {σ R : Type}

/-- A counted world after a pass that starts at a moment, and the moment at which the pass ends. -/
def passAt (s : Sides σ R) (clock : Clock σ) (start : Nat) (c : Counted σ) : Nat × Counted σ :=
  let state := clock.set start c.world.state
  let c := s.count { c with world := { c.world with state := state } }
  (clock.read c.world.state, c)

/-- A counted world in which the end of the loop is reported. -/
def stopped (s : Sides σ R) (c : Counted σ) : Counted σ :=
  { c with world := reported c.world [Schedule.stoppedEntry s.kind] }

/-- A counted world after the passes of a loop, and the moment at which the loop ends. -/
def run (s : Sides σ R) (clock : Clock σ) (interval stop : Nat) (c : Counted σ) :
    Nat × Counted σ :=
  let (ended, c) := Schedule.run clock.tolerance interval stop (s.passAt clock) c
  (ended, s.stopped c)

end Sides

end EdgeAgent
