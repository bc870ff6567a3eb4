import EdgeAgent.Log

/-! Calls to another party. A call changes the world, reports events, and either answers, fails
with a message, or stays silent; what follows a call that does not answer is not done. -/

namespace EdgeAgent

/-- Why a call does not answer. -/
inductive Stop where
  | failed (message : String)
  | silent
  deriving DecidableEq

/-- The state of the other parties, and what was reported. -/
structure World (σ : Type) where
  state : σ
  log : Log := []

/-- A call with an answer of a given type. -/
def Call (σ α : Type) : Type :=
  World σ → Except Stop α × World σ

namespace Call

variable {σ α β : Type}

/-- The call that answers at once. -/
protected def pure (x : α) : Call σ α := fun w => (.ok x, w)

/-- A call, and another one made of its answer. -/
protected def bind (c : Call σ α) (next : α → Call σ β) : Call σ β := fun w =>
  match c w with
  | (.ok x, w) => next x w
  | (.error stop, w) => (.error stop, w)

instance : Monad (Call σ) where
  pure := Call.pure
  bind := Call.bind

def fail (message : String) : Call σ α := fun w => (.error (.failed message), w)

/-- The call that never answers. -/
def silence : Call σ α := fun w => (.error .silent, w)

/-- The report of an event. -/
def report (entry : LogEntry) : Call σ Unit := fun w =>
  (.ok (), { w with log := w.log ++ [entry] })

/-- A change of the state, with an answer. -/
def change (f : σ → Except Stop α × σ) : Call σ α := fun w =>
  let (answer, state) := f w.state
  (answer, { w with state := state })

/-- A call that fails with a message of its own. -/
def context (message : String) (c : Call σ α) : Call σ α := fun w =>
  match c w with
  | (.error (.failed _), w) => (.error (.failed message), w)
  | r => r

/-- A call with its failure as an answer. -/
def attempt (c : Call σ α) : Call σ (Except String α) := fun w =>
  match c w with
  | (.ok x, w) => (.ok (.ok x), w)
  | (.error (.failed message), w) => (.ok (.error message), w)
  | (.error .silent, w) => (.error .silent, w)

/-- The answer that was given. -/
def ofExcept : Except String α → Call σ α
  | .ok x => Call.pure x
  | .error message => fail message

end Call

end EdgeAgent
