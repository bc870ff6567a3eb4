import EdgeAgent.Proofs.Routing.Stepwise
import EdgeAgent.Routing.Gateway
import Mathlib.Data.List.Basic

/-! The queue between those who send changes and the gateway that enters them. What is entered is
always a beginning of what was accepted, and the rest is in the queue until the gateway stops. The
register and the table are those that the entered changes lead to. -/

namespace EdgeAgent

namespace Register

variable {validate : Validator} {r t : Routed}

/-- Entering a change does not depend on what was reported before. -/
theorem enter_congr (hregister : r.register = t.register) (hactive : r.active = t.active)
    (change : PolicyChange) :
    (enter validate r change).register = (enter validate t change).register ∧
      (enter validate r change).active = (enter validate t change).active := by
  simp only [enter, offer, hregister, hactive]
  cases t.register.halted with
  | true => exact ⟨hregister, hactive⟩
  | false =>
      cases changed? t.register.policies change with
      | none => exact ⟨hregister, hactive⟩
      | some policies => cases nextGeneration? t.register.generation <;> exact ⟨rfl, by simp⟩

theorem enterAll_snoc (r : Routed) (changes : List PolicyChange) (change : PolicyChange) :
    enterAll validate r (changes ++ [change]) =
      enter validate (enterAll validate r changes) change :=
  List.foldl_append

end Register

namespace Gateway

variable {validate : Validator} {g : Gateway} {change : PolicyChange}

/-! ### Changes sent and changes entered -/

/-- A gateway after the oldest change that it holds was entered. It stops when its register comes to
a halt. -/
def turned (validate : Validator) (g : Gateway) : Gateway :=
  let g := (g.drain validate 1).1
  { g with phase := if g.register.halted then .stopped else g.phase }

/-- A gateway after a change was entered, with the changes that it holds besides. -/
def entering (validate : Validator) (g : Gateway) (change : PolicyChange)
    (rest : List PolicyChange) : Gateway :=
  let s := Register.enter validate ⟨g.register, g.active, []⟩ change
  { g with
    active := s.active
    register := s.register
    queue := if s.register.halted then [] else rest
    phase := if s.register.halted then .stopped else g.phase }

theorem turned_eq (validate : Validator) {rest : List PolicyChange}
    (hqueue : g.queue = change :: rest) : g.turned validate = g.entering validate change rest := by
  simp only [turned, drain, hqueue]
  rfl

theorem send_of_room (hphase : g.phase ≠ .stopped) (hroom : g.queue.length < g.capacity) :
    (g.send change).1 = { g with queue := g.queue ++ [change] } := by
  rw [send, if_neg hphase, if_pos hroom]

theorem send_of_refused (hrefused : g.phase = .stopped ∨ g.capacity ≤ g.queue.length) :
    (g.send change).1 = g := by
  rw [send]
  by_cases hphase : g.phase = .stopped
  · rw [if_pos hphase]
  · rw [if_neg hphase, if_neg (Nat.not_lt.2 (hrefused.resolve_left hphase))]

end Gateway

/-- A gateway together with those who use it. -/
structure Session where
  gateway : Gateway
  /-- The number of handles through which changes can be sent. -/
  handles : Nat := 1
  /-- Whether the gateway was told to stop. -/
  signaled : Bool := false

namespace Session

/-- What happens in a session. -/
inductive Step where
  /-- A change is sent through one of the handles. -/
  | send (change : PolicyChange)
  /-- A handle is copied. -/
  | copy
  /-- A handle is given up. -/
  | drop
  /-- The gateway is told to stop. -/
  | signal
  /-- The gateway begins to enter changes. -/
  | start
  /-- It is the turn of the gateway. -/
  | poll
  deriving DecidableEq

/-- What comes of a step. -/
inductive Outcome where
  | sent (change : PolicyChange) (accepted : Bool)
  | entered (change : PolicyChange)
  | nothing

variable (validate : Validator)

/-- What the gateway does in its turn. It looks first whether it was told to stop, and then at its
queue. -/
def poll (s : Session) : Session × Outcome :=
  if s.gateway.phase ≠ .running then (s, .nothing)
  else if s.signaled then
    ({ s with gateway := { s.gateway with queue := [], phase := .stopped } }, .nothing)
  else
    match s.gateway.queue with
    | change :: _ => ({ s with gateway := s.gateway.turned validate }, .entered change)
    | [] =>
      if s.gateway.accepting then (s, .nothing)
      else ({ s with gateway := { s.gateway with phase := .stopped } }, .nothing)

/-- What a step changes, and what comes of it. A change is accepted when the queue has grown. -/
def step (s : Session) : Step → Session × Outcome
  | .send change =>
    if s.handles = 0 then (s, .nothing)
    else
      let g := (s.gateway.send change).1
      ({ s with gateway := g }, .sent change (s.gateway.queue.length < g.queue.length))
  | .copy => if s.handles = 0 then (s, .nothing) else ({ s with handles := s.handles + 1 }, .nothing)
  | .drop =>
    let left := s.handles - 1
    let g := { s.gateway with accepting := left ≠ 0 }
    ({ s with gateway := g, handles := left }, .nothing)
  | .signal => ({ s with signaled := true }, .nothing)
  | .start =>
    if s.gateway.phase = .waiting then ({ s with gateway := s.gateway.start }, .nothing)
    else (s, .nothing)
  | .poll => s.poll validate

/-- What a sequence of steps changes, and what comes of them. -/
def run (s : Session) (steps : List Step) : Session × List Outcome :=
  stepwise (step validate) s steps

/-- The changes that were accepted. -/
def accepted (outcomes : List Outcome) : List PolicyChange :=
  outcomes.filterMap fun
    | .sent change true => some change
    | _ => none

/-- The changes that were entered. -/
def entered (outcomes : List Outcome) : List PolicyChange :=
  outcomes.filterMap fun
    | .entered change => some change
    | _ => none

variable {validate} {s : Session} {steps : List Step}

/-! ### Single steps -/

/-- A change is refused when the queue is full or the gateway has stopped, and is the last in the
queue otherwise. -/
theorem send_cases (hhandle : s.handles ≠ 0) (change : PolicyChange) :
    (s.gateway.phase ≠ .stopped ∧ s.gateway.queue.length < s.gateway.capacity ∧
      s.step validate (.send change) =
        ({ s with gateway := { s.gateway with queue := s.gateway.queue ++ [change] } },
          .sent change true)) ∨
    ((s.gateway.phase = .stopped ∨ s.gateway.capacity ≤ s.gateway.queue.length) ∧
      s.step validate (.send change) = (s, .sent change false)) := by
  simp only [step, if_neg hhandle]
  by_cases hroom : s.gateway.phase ≠ .stopped ∧ s.gateway.queue.length < s.gateway.capacity
  · refine .inl ⟨hroom.1, hroom.2, ?_⟩
    simp [Gateway.send_of_room hroom.1 hroom.2]
  · have hrefused : s.gateway.phase = .stopped ∨ s.gateway.capacity ≤ s.gateway.queue.length := by
      by_cases hphase : s.gateway.phase = .stopped
      · exact .inl hphase
      · exact .inr (Nat.le_of_not_lt fun hlt => hroom ⟨hphase, hlt⟩)
    refine .inr ⟨hrefused, ?_⟩
    simp [Gateway.send_of_refused hrefused]

/-- The gateway has nothing to do in its turn, or it stops because it was told to, or it enters the
oldest change, or it stops because there will be no more. -/
theorem poll_cases (validate : Validator) (s : Session) :
    ((s.gateway.phase = .running →
          s.signaled = false ∧ s.gateway.queue = [] ∧ s.gateway.accepting = true) ∧
        s.poll validate = (s, .nothing)) ∨
      (s.gateway.phase = .running ∧ s.signaled = true ∧ s.poll validate =
        ({ s with gateway := { s.gateway with queue := [], phase := .stopped } }, .nothing)) ∨
      (∃ change rest, s.gateway.phase = .running ∧ s.signaled = false ∧
        s.gateway.queue = change :: rest ∧ s.poll validate =
          ({ s with gateway := s.gateway.entering validate change rest }, .entered change)) ∨
      (s.gateway.phase = .running ∧ s.signaled = false ∧ s.gateway.queue = [] ∧
        s.gateway.accepting = false ∧ s.poll validate =
          ({ s with gateway := { s.gateway with phase := .stopped } }, .nothing)) := by
  rw [poll]
  by_cases hrunning : s.gateway.phase = .running
  · rw [if_neg (not_not.2 hrunning)]
    cases hsignaled : s.signaled with
    | true => exact .inr (.inl ⟨hrunning, rfl, rfl⟩)
    | false =>
        cases hqueue : s.gateway.queue with
        | cons change rest =>
            refine .inr (.inr (.inl ⟨change, rest, hrunning, rfl, rfl, ?_⟩))
            simp only [Gateway.turned_eq validate hqueue]
            rfl
        | nil =>
            cases haccepting : s.gateway.accepting with
            | true => exact .inl ⟨fun _ => ⟨rfl, rfl, rfl⟩, rfl⟩
            | false => exact .inr (.inr (.inr ⟨hrunning, rfl, rfl, rfl, rfl⟩))
  · rw [if_pos hrunning]
    exact .inl ⟨fun h => absurd h hrunning, rfl⟩

/-! ### Accounts -/

/-- What was accepted and what was entered in a session that began with a table, and what it holds
now, fit together. -/
structure Accounts (validate : Validator) (table : RoutingTable) (capacity : Nat)
    (accepted entered : List PolicyChange) (s : Session) : Prop where
  capacity : s.gateway.capacity = capacity
  bounded : s.gateway.queue.length ≤ s.gateway.capacity
  handles : s.gateway.accepting = true ↔ s.handles ≠ 0
  inOrder : entered <+: accepted
  queued : s.gateway.phase ≠ .stopped → entered ++ s.gateway.queue = accepted
  register : s.gateway.register =
    (Register.enterAll validate ⟨.ofTable table, table, []⟩ entered).register
  active : s.gateway.active =
    (Register.enterAll validate ⟨.ofTable table, table, []⟩ entered).active
  ended : s.gateway.phase = .stopped → s.signaled = false → s.gateway.register.halted = false →
    s.handles = 0 ∧ entered = accepted

variable {table : RoutingTable} {capacity : Nat} {taken past : List PolicyChange}

theorem accounts_start : Accounts validate table capacity [] []
    { gateway := .ofTable table capacity } where
  capacity := rfl
  bounded := Nat.zero_le _
  handles := by simp [Gateway.ofTable]
  inOrder := List.nil_prefix
  queued := fun _ => rfl
  register := rfl
  active := rfl
  ended := fun h => by simp [Gateway.ofTable] at h

theorem Accounts.sent (h : Accounts validate table capacity taken past s) (change : PolicyChange)
    (hphase : s.gateway.phase ≠ .stopped) (hroom : s.gateway.queue.length < s.gateway.capacity) :
    Accounts validate table capacity (taken ++ [change]) past
      { s with gateway := { s.gateway with queue := s.gateway.queue ++ [change] } } where
  capacity := h.capacity
  bounded := by
    rw [List.length_append]
    exact hroom
  handles := h.handles
  inOrder := h.inOrder.trans (List.prefix_append taken [change])
  queued := fun _ => by rw [← List.append_assoc, h.queued hphase]
  register := h.register
  active := h.active
  ended := fun hstopped => absurd hstopped hphase

theorem Accounts.worked (h : Accounts validate table capacity taken past s) {change : PolicyChange}
    {rest : List PolicyChange} (hphase : s.gateway.phase ≠ .stopped)
    (hqueue : s.gateway.queue = change :: rest) :
    Accounts validate table capacity taken (past ++ [change])
      { s with gateway := s.gateway.entering validate change rest } := by
  have hsplit : (past ++ [change]) ++ rest = taken := by
    rw [← h.queued hphase, hqueue, List.append_assoc, List.singleton_append]
  obtain ⟨hregister, hactive⟩ := @Register.enter_congr validate
    ⟨s.gateway.register, s.gateway.active, []⟩ _ h.register h.active change
  rw [← Register.enterAll_snoc] at hregister hactive
  have hbounded : rest.length ≤ s.gateway.capacity := by
    have hlength := h.bounded
    rw [hqueue, List.length_cons] at hlength
    exact Nat.le_of_succ_le hlength
  -- a register that comes to a halt takes the rest of the queue and the gateway with it
  cases hhalted :
    (Register.enter validate ⟨s.gateway.register, s.gateway.active, []⟩ change).register.halted with
  | true =>
      exact {
        capacity := h.capacity
        bounded := by simp [Gateway.entering, hhalted]
        handles := h.handles
        inOrder := ⟨rest, hsplit⟩
        queued := fun hstill => absurd (by simp [Gateway.entering, hhalted]) hstill
        register := hregister
        active := hactive
        ended := fun _ _ hworking => Bool.noConfusion (hhalted.symm.trans hworking) }
  | false =>
      exact {
        capacity := h.capacity
        bounded := by simpa [Gateway.entering, hhalted] using hbounded
        handles := h.handles
        inOrder := ⟨rest, hsplit⟩
        queued := fun _ => by simpa [Gateway.entering, hhalted] using hsplit
        register := hregister
        active := hactive
        ended := fun hstopped => absurd (by simpa [Gateway.entering, hhalted] using hstopped) hphase }

theorem Accounts.polled (h : Accounts validate table capacity taken past s) :
    Accounts validate table capacity taken (past ++ entered [(s.poll validate).2])
      (s.poll validate).1 := by
  have hsame : Accounts validate table capacity taken (past ++ []) s := by simpa using h
  obtain ⟨-, hpoll⟩ | ⟨hrunning, hsignaled, hpoll⟩ |
    ⟨change, rest, hrunning, -, hqueue, hpoll⟩ | ⟨hrunning, -, hqueue, hclosed, hpoll⟩ :=
    poll_cases validate s <;> rw [hpoll]
  · exact hsame
  · -- told to stop: the queue is given up, so that only the beginning is left to speak of
    exact { hsame with
      bounded := Nat.zero_le _
      queued := fun hstill => absurd rfl hstill
      ended := fun _ hnot => Bool.noConfusion (hsignaled.symm.trans hnot) }
  · exact h.worked (by simp [hrunning]) hqueue
  · have hqueued := hsame.queued (by simp [hrunning])
    rw [hqueue, List.append_nil] at hqueued
    exact { hsame with
      queued := fun hstill => absurd rfl hstill
      ended := fun _ _ _ => ⟨by simpa [hclosed] using h.handles, hqueued⟩ }

theorem Accounts.step (h : Accounts validate table capacity taken past s) (x : Step) :
    Accounts validate table capacity (taken ++ accepted [(s.step validate x).2])
      (past ++ entered [(s.step validate x).2]) (s.step validate x).1 := by
  have hsame : Accounts validate table capacity (taken ++ []) (past ++ []) s := by simpa using h
  cases x with
  | send change =>
      by_cases hhandle : s.handles = 0
      · simp only [Session.step, if_pos hhandle]
        exact hsame
      · obtain ⟨hphase, hroom, hstep⟩ | ⟨-, hstep⟩ := @send_cases validate s hhandle change
        · rw [hstep]
          have hsent := h.sent change hphase hroom
          rw [← List.append_nil past] at hsent
          exact hsent
        · rw [hstep]
          exact hsame
  | copy =>
      rw [Session.step]
      split
      · exact hsame
      · next hhandle =>
        exact { hsame with
          handles := hsame.handles.trans (by simp [hhandle])
          ended := fun hstopped hnot hworking =>
            absurd (hsame.ended hstopped hnot hworking).1 hhandle }
  | drop =>
      exact { hsame with
        handles := decide_eq_true_iff
        ended := fun hstopped hnot hworking => by
          obtain ⟨hnone, hall⟩ := hsame.ended hstopped hnot hworking
          exact ⟨show s.handles - 1 = 0 by omega, hall⟩ }
  | signal => exact { hsame with ended := fun _ hnot => Bool.noConfusion hnot }
  | start =>
      rw [Session.step]
      split
      · next hwaiting =>
        exact { hsame with
          queued := fun _ => hsame.queued (by simp [hwaiting])
          ended := fun hstopped => Phase.noConfusion hstopped }
      · exact hsame
  | poll =>
      have hnone : accepted [(s.poll validate).2] = [] := by
        obtain ⟨-, hpoll⟩ | ⟨-, -, hpoll⟩ | ⟨_, _, -, -, -, hpoll⟩ | ⟨-, -, -, -, hpoll⟩ :=
          poll_cases validate s <;> rw [hpoll] <;> rfl
      have hpolled := h.polled
      rw [← List.append_nil taken, ← hnone] at hpolled
      exact hpolled

theorem accepted_append (outcomes later : List Outcome) :
    accepted (outcomes ++ later) = accepted outcomes ++ accepted later :=
  List.filterMap_append

theorem entered_append (outcomes later : List Outcome) :
    entered (outcomes ++ later) = entered outcomes ++ entered later :=
  List.filterMap_append

theorem Accounts.run (h : Accounts validate table capacity taken past s) (steps : List Step) :
    Accounts validate table capacity (taken ++ accepted (s.run validate steps).2)
      (past ++ entered (s.run validate steps).2) (s.run validate steps).1 := by
  induction steps generalizing s taken past with
  | nil => simpa [Session.run, stepwise, accepted, entered] using h
  | cons x steps ih =>
      have hrest := ih (h.step x)
      rw [List.append_assoc, ← accepted_append, List.append_assoc, ← entered_append] at hrest
      exact hrest

end Session

end EdgeAgent
