import EdgeAgent.Proofs.Routing.Publication
import EdgeAgent.Proofs.Routing.Session

/-! How a gateway comes to its end. One that is told to stop enters nothing from its next turn on; one
to which no more changes can be sent stops after it has entered all of them. The turns that a gateway
takes when it is left alone are its turns one after the other. -/

namespace EdgeAgent

namespace Register

variable {validate : Validator} {r t : Routed}

theorem enterAll_congr (hregister : r.register = t.register) (hactive : r.active = t.active)
    (changes : List PolicyChange) :
    (enterAll validate r changes).register = (enterAll validate t changes).register ∧
      (enterAll validate r changes).active = (enterAll validate t changes).active := by
  induction changes generalizing r t with
  | nil => exact ⟨hregister, hactive⟩
  | cons change changes ih =>
      obtain ⟨hnew, hnewer⟩ := @Register.enter_congr validate r t hregister hactive change
      exact ih hnew hnewer

theorem enterAll_of_halted (hhalted : r.register.halted = true) (changes : List PolicyChange) :
    enterAll validate r changes = r := by
  induction changes with
  | nil => rfl
  | cons change changes ih =>
      rw [enterAll, List.foldl_cons, enter, if_pos hhalted]
      exact ih

end Register

namespace Gateway

variable {validate : Validator} {g : Gateway} {change : PolicyChange}

/-! ### Several turns -/

/-- A gateway after some turns of it, in which it may stop. -/
def turns (validate : Validator) (count : Nat) (g : Gateway) : Gateway :=
  let d := (g.drain validate count).1
  { d with
    phase := if d.register.halted || (!g.accepting && g.queue.length < count) then .stopped
      else d.phase }

theorem drain_cons {rest : List PolicyChange} (hqueue : g.queue = change :: rest) (count : Nat) :
    (g.drain validate (count + 1)).1 =
      let r := Register.enterAll validate
        (Register.enter validate ⟨g.register, g.active, []⟩ change) (rest.take count)
      { g with
        active := r.active
        register := r.register
        queue := if r.register.halted then [] else rest.drop count } := by
  simp only [drain, hqueue]
  rfl

theorem turns_of_halted {rest : List PolicyChange} (hqueue : g.queue = change :: rest)
    (hhalted : (g.entering validate change rest).register.halted = true) (count : Nat) :
    turns validate (count + 1) g = g.entering validate change rest := by
  change (Register.enter validate ⟨g.register, g.active, []⟩ change).register.halted = true at hhalted
  simp [turns, drain_cons hqueue, Register.enterAll_of_halted hhalted, hhalted, entering]

theorem turns_cons {rest : List PolicyChange} (hqueue : g.queue = change :: rest)
    (hworking : (g.entering validate change rest).register.halted = false) (count : Nat) :
    turns validate (count + 1) g = turns validate count (g.entering validate change rest) := by
  change (Register.enter validate ⟨g.register, g.active, []⟩ change).register.halted = false at hworking
  obtain ⟨hregister, hactive⟩ := @Register.enterAll_congr validate
    (Register.enter validate ⟨g.register, g.active, []⟩ change)
    ⟨(Register.enter validate ⟨g.register, g.active, []⟩ change).register,
      (Register.enter validate ⟨g.register, g.active, []⟩ change).active, []⟩ rfl rfl (rest.take count)
  simp only [turns, drain_cons hqueue, hregister, hactive]
  simp [drain, entering, hworking, hqueue]

theorem turns_idle (hqueue : g.queue = []) (hworking : g.register.halted = false)
    (haccepting : g.accepting = true) (count : Nat) : turns validate count g = g := by
  obtain ⟨active, register, capacity, queue, accepting, phase⟩ := g
  simp_all [turns, drain, Register.enterAll]

theorem turns_last (hqueue : g.queue = []) (hworking : g.register.halted = false)
    (hclosed : g.accepting = false) (count : Nat) :
    turns validate (count + 1) g = { g with phase := .stopped } := by
  obtain ⟨active, register, capacity, queue, accepting, phase⟩ := g
  simp_all [turns, drain, Register.enterAll]

theorem turns_zero (hworking : g.register.halted = false) : turns validate 0 g = g := by
  obtain ⟨active, register, capacity, queue, accepting, phase⟩ := g
  simp_all [turns, drain, Register.enterAll]

theorem drain_all (g : Gateway) (more : Nat) :
    g.drain validate (g.queue.length + more) = g.drain validate g.queue.length := by
  rw [drain, drain, List.take_length, List.drop_length,
    List.take_of_length_le (Nat.le_add_right _ more), List.drop_of_length_le (Nat.le_add_right _ more)]

/-- When a gateway stops in some turns, it holds nothing any more. -/
theorem queue_turns {count : Nat} (hphase : g.phase = .running)
    (hended : (turns validate count g).phase ≠ .running) :
    (turns validate count g).queue = [] ∧ (turns validate count g).phase = .stopped := by
  simp only [turns, drain, hphase] at hended ⊢
  split at hended
  · next hwhy =>
    rw [if_pos hwhy]
    refine ⟨?_, rfl⟩
    split
    · rfl
    · next hworking =>
      have hall : g.accepting = false ∧ g.queue.length < count := by simpa [hworking] using hwhy
      exact List.drop_of_length_le (Nat.le_of_lt hall.2)
  · exact absurd rfl hended

end Gateway

namespace Session

variable {validate : Validator} {s : Session} {steps : List Step} {table : RoutingTable}
  {capacity : Nat} {taken past : List PolicyChange}

/-! ### Stopping -/

/-- A gateway that has stopped enters nothing and keeps its table. -/
def Rests (s t : Session) (outcomes : List Outcome) : Prop :=
  t.gateway.phase = .stopped ∧ t.gateway.register = s.gateway.register ∧
    t.gateway.active = s.gateway.active ∧ entered outcomes = []

theorem rests_step (hstopped : s.gateway.phase = .stopped) (x : Step) :
    Rests s (s.step validate x).1 [(s.step validate x).2] := by
  have hsame : Rests s s [] := ⟨hstopped, rfl, rfl, rfl⟩
  cases x with
  | send change =>
      by_cases hhandle : s.handles = 0
      · simp only [step, if_pos hhandle]
        exact hsame
      · obtain ⟨hphase, -, -⟩ | ⟨-, hstep⟩ := @send_cases validate s hhandle change
        · exact absurd hstopped hphase
        · rw [hstep]
          exact hsame
  | copy =>
      rw [step]
      split <;> exact hsame
  | drop => exact hsame
  | signal => exact hsame
  | start =>
      rw [step, if_neg (by simp [hstopped])]
      exact hsame
  | poll =>
      rw [step, poll, if_pos (by simp [hstopped])]
      exact hsame

theorem rests_run (hstopped : s.gateway.phase = .stopped) (steps : List Step) :
    Rests s (s.run validate steps).1 (s.run validate steps).2 := by
  induction steps generalizing s with
  | nil => exact ⟨hstopped, rfl, rfl, rfl⟩
  | cons x steps ih =>
      obtain ⟨hphase, hregister, hactive, hnone⟩ := @rests_step validate s hstopped x
      obtain ⟨hlast, hregisters, hactives, hnever⟩ := ih hphase
      refine ⟨hlast, hregisters.trans hregister, hactives.trans hactive, ?_⟩
      have hboth := entered_append [(s.step validate x).2] ((s.step validate x).1.run validate steps).2
      rw [hnone, hnever] at hboth
      exact hboth

/-- A gateway that was told to stop has stopped after its turn. -/
theorem rests_poll (hsignaled : s.signaled = true) (hphase : s.gateway.phase ≠ .waiting) :
    Rests s (s.poll validate).1 [(s.poll validate).2] := by
  rw [poll]
  by_cases hrunning : s.gateway.phase = .running
  · rw [if_neg (not_not.2 hrunning), if_pos hsignaled]
    exact ⟨rfl, rfl, rfl, rfl⟩
  · rw [if_pos hrunning]
    have hstopped : s.gateway.phase = .stopped := by
      cases hcase : s.gateway.phase with
      | waiting => exact absurd hcase hphase
      | running => exact absurd hcase hrunning
      | stopped => rfl
    exact ⟨hstopped, rfl, rfl, rfl⟩

/-- A gateway has begun to enter changes. -/
theorem started_step (x : Step) (hphase : s.gateway.phase ≠ .waiting) :
    (s.step validate x).1.gateway.phase ≠ .waiting := by
  cases x with
  | send change =>
      by_cases hhandle : s.handles = 0
      · simpa only [step, if_pos hhandle] using hphase
      · obtain ⟨-, -, hstep⟩ | ⟨-, hstep⟩ := @send_cases validate s hhandle change <;>
          · rw [hstep]
            exact hphase
  | copy =>
      rw [step]
      split <;> exact hphase
  | drop => exact hphase
  | signal => exact hphase
  | start =>
      rw [step, if_neg hphase]
      exact hphase
  | poll =>
      obtain ⟨-, hpoll⟩ | ⟨-, -, hpoll⟩ | ⟨_, _, -, -, -, hpoll⟩ | ⟨-, -, -, -, hpoll⟩ :=
        poll_cases validate s <;> rw [step, hpoll]
      · exact hphase
      · simp
      · simp only [Gateway.entering]
        split
        · simp
        · exact hphase
      · simp

theorem started_run (hstart : .start ∈ steps) : (s.run validate steps).1.gateway.phase ≠ .waiting := by
  refine stepwise_of_mem (fun s : Session => s.gateway.phase ≠ .waiting)
    (fun _ x hphase => started_step x hphase) (fun s => ?_) hstart
  rw [step]
  split
  · exact Phase.noConfusion
  · next hphase => exact hphase

theorem signaled_step (s : Session) (x : Step) :
    (s.step validate x).1.signaled = true ↔ s.signaled = true ∨ x = .signal := by
  cases x with
  | send change =>
      rw [step]
      split <;> simp
  | copy =>
      rw [step]
      split <;> simp
  | drop => simp [step]
  | signal => simp [step]
  | start =>
      rw [step]
      split <;> simp
  | poll =>
      obtain ⟨-, hpoll⟩ | ⟨-, -, hpoll⟩ | ⟨_, _, -, -, -, hpoll⟩ | ⟨-, -, -, -, hpoll⟩ :=
        poll_cases validate s <;> simp [step, hpoll]

theorem signaled_run (s : Session) (steps : List Step) :
    (s.run validate steps).1.signaled = true ↔ s.signaled = true ∨ .signal ∈ steps := by
  induction steps generalizing s with
  | nil => simp [run, stepwise]
  | cons x steps ih =>
      have hrest := ih (s.step validate x).1
      rw [signaled_step, or_assoc, @eq_comm _ x, ← List.mem_cons] at hrest
      exact hrest

/-! ### The end -/

/-- A gateway that enters changes, or has stopped, and to which no more changes can be sent. -/
structure Closed (s : Session) : Prop where
  handles : s.handles = 0
  accepting : s.gateway.accepting = false
  started : s.gateway.phase ≠ .waiting

/-- No step adds to the queue of a closed gateway, and each of its turns takes from it or is the
last one. -/
theorem closed_step (h : Closed s) (x : Step) :
    Closed (s.step validate x).1 ∧ ((s.step validate x).1.gateway.phase = .stopped ∨
      (s.step validate x).1.gateway.queue.length + [x].count .poll ≤ s.gateway.queue.length) := by
  have hnone := h.handles
  have hstarted := @started_step validate s x h.started
  cases x with
  | send change =>
      rw [step, if_pos hnone]
      exact ⟨h, .inr (by simp)⟩
  | copy =>
      rw [step, if_pos hnone]
      exact ⟨h, .inr (by simp)⟩
  | drop => exact ⟨⟨by simp [step, hnone], by simp [step, hnone], hstarted⟩, .inr (by simp [step])⟩
  | signal => exact ⟨⟨hnone, h.accepting, hstarted⟩, .inr (by simp [step])⟩
  | start =>
      rw [step, if_neg h.started]
      exact ⟨h, .inr (by simp)⟩
  | poll =>
      rw [step] at hstarted ⊢
      obtain ⟨hidle, hpoll⟩ | ⟨-, -, hpoll⟩ | ⟨change, rest, -, -, hqueue, hpoll⟩ |
        ⟨-, -, -, -, hpoll⟩ := poll_cases validate s <;> rw [hpoll] at hstarted ⊢
      · refine ⟨h, .inl ?_⟩
        cases hphase : s.gateway.phase with
        | waiting => exact absurd hphase h.started
        | running => exact Bool.noConfusion (h.accepting.symm.trans (hidle hphase).2.2)
        | stopped => rfl
      · exact ⟨⟨hnone, h.accepting, hstarted⟩, .inl rfl⟩
      · refine ⟨⟨hnone, h.accepting, hstarted⟩, ?_⟩
        simp only [Gateway.entering]
        split
        · exact .inl rfl
        · exact .inr (by simp [hqueue])
      · exact ⟨⟨hnone, h.accepting, hstarted⟩, .inl rfl⟩

/-- A closed gateway stops after one turn more than there are changes in its queue. -/
theorem stopped_of_turns (h : Closed s) (hturns : s.gateway.queue.length < steps.count .poll) :
    (s.run validate steps).1.gateway.phase = .stopped := by
  induction steps generalizing s with
  | nil => simp at hturns
  | cons x steps ih =>
      -- each turn takes a change off the queue, so the turns left still outnumber the changes
      obtain ⟨hclosed, hstopped | hfewer⟩ := @closed_step validate s h x
      · exact (rests_run hstopped steps).1
      · refine ih hclosed ?_
        rw [← List.singleton_append, List.count_append] at hturns
        omega

theorem Accounts.length_queue (h : Accounts validate table capacity taken past s)
    (hphase : s.gateway.phase ≠ .stopped) :
    taken.length = past.length + s.gateway.queue.length := by
  rw [← h.queued hphase, List.length_append]

/-- A change is refused exactly when the queue is full or the gateway has stopped. -/
theorem Accounts.refused_iff (h : Accounts validate table capacity taken past s)
    (hhandle : s.handles ≠ 0) (change : PolicyChange) :
    ∃ b, (s.step validate (.send change)).2 = .sent change b ∧
      (b = false ↔ taken.length = past.length + capacity ∨ s.gateway.phase = .stopped) ∧
      (b = false → (s.step validate (.send change)).1 = s) := by
  obtain ⟨hphase, hroom, hstep⟩ | ⟨hrefused, hstep⟩ := @send_cases validate s hhandle change
  · refine ⟨true, by rw [hstep], ?_, fun hfalse => Bool.noConfusion hfalse⟩
    have hlength := h.length_queue hphase
    have hcapacity := h.capacity
    simp only [hphase, or_false, Bool.true_eq_false, false_iff]
    omega
  · refine ⟨false, by rw [hstep], ?_, fun _ => by rw [hstep]⟩
    simp only [true_iff]
    by_cases hphase : s.gateway.phase = .stopped
    · exact .inr hphase
    · have hfull := hrefused.resolve_left hphase
      have hlength := h.length_queue hphase
      have hbounded := h.bounded
      have hcapacity := h.capacity
      exact .inl (by omega)

/-- From the first turn of a gateway that was told to stop, nothing is entered. -/
theorem rests_of_turn {i j : Nat} (hpoll : steps[i]? = some .poll)
    (hsignal : .signal ∈ steps.take i) (hstart : .start ∈ steps.take i) (hij : i ≤ j) :
    entered (s.run validate (steps.take j)).2 = entered (s.run validate (steps.take i)).2 ∧
      (s.run validate (steps.take j)).1.gateway.register =
        (s.run validate (steps.take i)).1.gateway.register ∧
      (s.run validate (steps.take j)).1.gateway.active =
        (s.run validate (steps.take i)).1.gateway.active := by
  rcases Nat.eq_or_lt_of_le hij with rfl | hlt
  · exact ⟨rfl, rfl, rfl⟩
  have hsignaled : (s.run validate (steps.take i)).1.signaled = true :=
    (signaled_run s _).2 (.inr hsignal)
  obtain ⟨hstopped, hregister, hactive, hnone⟩ := @rests_poll validate _ hsignaled (started_run hstart)
  obtain ⟨-, hregisters, hactives, hnever⟩ :=
    @rests_run validate _ hstopped ((steps.take j).drop (i + 1))
  -- the run up to j is the one up to i, then the turn, then the steps of a stopped gateway
  have hboth : s.run validate (steps.take j) =
      let r := (s.run validate (steps.take i)).1.poll validate
      let later := r.1.run validate ((steps.take j).drop (i + 1))
      (later.1, (s.run validate (steps.take i)).2 ++ [r.2] ++ later.2) := by
    rw [run, stepwise_take hlt, stepwise_take_succ hpoll]
    rfl
  rw [hboth]
  refine ⟨?_, hregisters.trans hregister, hactives.trans hactive⟩
  simp only [entered_append, hnone, hnever, List.append_nil]

/-- A session in which no handle is left has stopped after enough turns. -/
theorem Accounts.stopped_of_turns (h : Accounts validate table capacity taken past s)
    (hhandles : s.handles = 0) (hstarted : s.gateway.phase ≠ .waiting)
    (hturns : taken.length < past.length + steps.count .poll) :
    (s.run validate steps).1.gateway.phase = .stopped := by
  by_cases hphase : s.gateway.phase = .stopped
  · exact (rests_run hphase steps).1
  · have hclosed : Closed s := ⟨hhandles, by simpa [hhandles] using h.handles, hstarted⟩
    have hlength := h.length_queue hphase
    exact Session.stopped_of_turns hclosed (by omega)

/-! ### Many turns -/

theorem run_of_stopped (hstopped : s.gateway.phase = .stopped) (count : Nat) :
    (s.run validate (List.replicate count .poll)).1 = s := by
  induction count with
  | zero => rfl
  | succ count ih =>
      have hpoll : (s.step validate .poll).1 = s := by
        rw [step, poll, if_pos (by simp [hstopped])]
      rw [run, List.replicate_succ, stepwise, hpoll]
      exact ih

/-- The turns of a gateway, one after the other. -/
theorem run_turns (hphase : s.gateway.phase = .running) (hworking : s.gateway.register.halted = false)
    (hquiet : s.signaled = false) (count : Nat) :
    (s.run validate (List.replicate count .poll)).1 =
      { s with gateway := Gateway.turns validate count s.gateway } := by
  induction count generalizing s with
  | zero => rw [Gateway.turns_zero hworking]; rfl
  | succ count ih =>
      change (run validate (s.poll validate).1 (List.replicate count .poll)).1 = _
      obtain ⟨hidle, hpoll⟩ | ⟨-, hsignaled, -⟩ | ⟨change, rest, -, -, hqueue, hpoll⟩ |
        ⟨-, -, hqueue, hclosed, hpoll⟩ := poll_cases validate s
      · obtain ⟨-, hqueue, haccepting⟩ := hidle hphase
        rw [hpoll, Gateway.turns_idle hqueue hworking haccepting, ih hphase hworking hquiet,
          Gateway.turns_idle hqueue hworking haccepting]
      · exact Bool.noConfusion (hquiet.symm.trans hsignaled)
      · rw [hpoll]
        cases hhalted : (s.gateway.entering validate change rest).register.halted with
        | true =>
            rw [Gateway.turns_of_halted hqueue hhalted]
            exact run_of_stopped (if_pos hhalted) count
        | false =>
            rw [Gateway.turns_cons hqueue hhalted]
            exact ih ((if_neg (Bool.eq_false_iff.1 hhalted)).trans hphase) hhalted hquiet
      · rw [hpoll, Gateway.turns_last hqueue hworking hclosed]
        exact run_of_stopped rfl count

/-- A gateway that is left alone takes its turns until none of them does anything. -/
theorem run_settle (hphase : s.gateway.phase = .running)
    (hworking : s.gateway.register.halted = false) (hquiet : s.signaled = false) :
    (s.run validate (List.replicate (s.gateway.queue.length + 1) .poll)).1.gateway =
      (s.gateway.settle validate).1 := by
  rw [run_turns hphase hworking hquiet]
  have haccepting : s.gateway.accepting =
    (s.gateway.drain validate s.gateway.queue.length).1.accepting := rfl
  simp only [Gateway.turns, Gateway.settle, hphase, Gateway.drain_all, haccepting]
  generalize (s.gateway.drain validate s.gateway.queue.length).1 = g
  obtain ⟨active, register, capacity, queue, accepting, phase⟩ := g
  cases accepting <;> cases register.halted <;> simp

/-- A gateway that is told to stop finishes the turns that are due. -/
theorem run_shutdown (hphase : s.gateway.phase = .running)
    (hworking : s.gateway.register.halted = false) (hquiet : s.signaled = false) :
    (s.run validate (List.replicate Gateway.turn .poll ++ [.signal, .poll])).1.gateway =
      (s.gateway.shutdown validate).1 := by
  have hturns := @run_turns validate s hphase hworking hquiet Gateway.turn
  have hempty := @Gateway.queue_turns validate s.gateway Gateway.turn hphase
  rw [run] at hturns
  rw [run, stepwise_append, hturns]
  have hshutdown : (s.gateway.shutdown validate).1 =
      { Gateway.turns validate Gateway.turn s.gateway with queue := [], phase := .stopped } := by
    simp only [Gateway.shutdown, hphase, Gateway.turns]
  rw [hshutdown]
  change (poll validate ⟨Gateway.turns validate Gateway.turn s.gateway, s.handles, true⟩).1.gateway = _
  rw [poll]
  by_cases hrunning : (Gateway.turns validate Gateway.turn s.gateway).phase = .running
  · rw [if_neg (not_not.2 hrunning)]
    rfl
  · rw [if_pos hrunning]
    obtain ⟨hqueue, hstopped⟩ := hempty hrunning
    generalize Gateway.turns validate Gateway.turn s.gateway = g at hqueue hstopped ⊢
    obtain ⟨active, register, capacity, queue, accepting, phase⟩ := g
    cases hqueue
    cases hstopped
    rfl

theorem run_shutdown_waiting (hphase : s.gateway.phase = .waiting) :
    (s.run validate [.signal, .start, .poll]).1.gateway = (s.gateway.shutdown validate).1 := by
  simp [run, stepwise, step, poll, Gateway.start, Gateway.shutdown, hphase]

theorem run_close (hhandles : s.handles = 1) (hphase : s.gateway.phase = .running)
    (hworking : s.gateway.register.halted = false) (hquiet : s.signaled = false) :
    (s.run validate (.drop :: List.replicate (s.gateway.queue.length + 1) .poll)).1.gateway =
      (s.gateway.close validate).1 := by
  have hdrop : (s.step validate .drop).1 =
      { s with gateway := { s.gateway with accepting := false }, handles := 0 } := by
    simp [step, hhandles]
  rw [run, stepwise, hdrop]
  exact run_settle hphase hworking hquiet

/-- In every session that begins with a table, whoever sends changes and whenever the gateway has
its turn: what was entered is a beginning of what was accepted, and the register and the table are
those that it leads to. A change is refused if and only if as many changes as the queue can hold were
accepted and not entered, or the gateway has stopped, and a refused change alters nothing. From the
first turn of a gateway that was told to stop, nothing more is entered and the table stays. Without
that a gateway stops only when no handle is left and all that was accepted was entered; and when no
handle is left it stops, after one turn more than there are changes left. -/
theorem session_run (validate : Validator) (table : RoutingTable) (capacity : Nat)
    (steps : List Step) :
    let start : Session := { gateway := .ofTable table capacity }
    let reached := fun i => (start.run validate (steps.take i)).1
    let taken := fun i => accepted (start.run validate (steps.take i)).2
    let past := fun i => entered (start.run validate (steps.take i)).2
    (∀ i, past i <+: taken i ∧
      let routed := Register.enterAll validate ⟨.ofTable table, table, []⟩ (past i)
      (reached i).gateway.register = routed.register ∧ (reached i).gateway.active = routed.active) ∧
    (∀ i change, steps[i]? = some (.send change) → (reached i).handles ≠ 0 → ∃ b,
      (start.run validate steps).2[i]? = some (.sent change b) ∧
      (b = false ↔ (taken i).length = (past i).length + capacity ∨
        (reached i).gateway.phase = .stopped) ∧
      (b = false → reached (i + 1) = reached i)) ∧
    (∀ i j, steps[i]? = some .poll → .signal ∈ steps.take i → .start ∈ steps.take i → i ≤ j →
      past j = past i ∧ (reached j).gateway.register = (reached i).gateway.register ∧
        (reached j).gateway.active = (reached i).gateway.active) ∧
    (∀ i, .signal ∉ steps.take i → (reached i).gateway.phase = .stopped →
      (reached i).gateway.register.halted = false →
      (reached i).handles = 0 ∧ past i = taken i) ∧
    (∀ i, (reached i).handles = 0 → .start ∈ steps.take i →
      (taken i).length < (past i).length + (steps.drop i).count .poll →
      (start.run validate steps).1.gateway.phase = .stopped) ∧
    ∀ i, table.generation.toNat + (taken i).length < UInt64.size →
      (reached i).gateway.register.halted = false := by
  intro start reached taken past
  have haccounts : ∀ i, Accounts validate table capacity (taken i) (past i) (reached i) := fun i =>
    accounts_start.run (steps.take i)
  refine ⟨?_, ?_, ?_, ?_, ?_, ?_⟩
  · intro i
    exact ⟨(haccounts i).inOrder, (haccounts i).register, (haccounts i).active⟩
  · intro i change hsend hhandle
    have houtcome : (start.run validate steps).2[i]? =
        some ((reached i).step validate (.send change)).2 := getElem?_stepwise hsend
    have hnext : reached (i + 1) = ((reached i).step validate (.send change)).1 :=
      congrArg Prod.fst (stepwise_take_succ hsend)
    rw [houtcome, hnext]
    simpa only [Option.some.injEq] using (haccounts i).refused_iff hhandle change
  · intro i j hpoll hsignal hstart hij
    exact rests_of_turn hpoll hsignal hstart hij
  · intro i hsignal hstopped hworking
    refine (haccounts i).ended hstopped ?_ hworking
    rw [← Bool.not_eq_true, signaled_run]
    simpa using hsignal
  · intro i hhandles hstart hturns
    have hwhole : start.run validate (steps.take i ++ steps.drop i) = _ := stepwise_append start _ _
    rw [List.take_append_drop] at hwhole
    rw [hwhole]
    exact (haccounts i).stopped_of_turns hhandles (started_run hstart) hturns
  · intro i hroom
    have hstep : Register.InStep ⟨.ofTable table, table, []⟩ := ⟨rfl, rfl⟩
    have hfewer : (past i).length ≤ (taken i).length := (haccounts i).inOrder.length_le
    obtain ⟨hreached, -⟩ := @Register.inStep_enterAll validate _ (past i) hstep
      (Nat.lt_of_le_of_lt (Nat.add_le_add_left hfewer _) hroom)
    rw [(haccounts i).register]
    exact hreached.working

/-- There is room for one change. Another one is refused at once, and a third one is still in the
queue when the gateway is told to stop. -/
def discarded : List Step := [
  .send (.upsert ⟨⟨"a@n"⟩, { jwt := some {} }⟩),
  .send (.delete ⟨"b@n"⟩),
  .start,
  .poll,
  .send (.delete ⟨"a@n"⟩),
  .signal,
  .poll,
  .poll]

/-- The only handle is given up while a change is in the queue. -/
def closed : List Step := [
  .send (.upsert ⟨⟨"a@n"⟩, { jwt := some {} }⟩),
  .drop,
  .start,
  .poll,
  .poll]

theorem session_run_discarded :
    let start : Session := { gateway := .ofTable {} 1 }
    let change := PolicyChange.upsert ⟨⟨"a@n"⟩, { jwt := some {} }⟩
    (start.run .rejecting discarded).2[1]? = some (.sent (.delete ⟨"b@n"⟩) false) ∧
      entered (start.run .rejecting (discarded.take 8)).2 = [change] ∧
      accepted (start.run .rejecting (discarded.take 8)).2 = [change, .delete ⟨"a@n"⟩] ∧
      (start.run .rejecting closed).1.gateway.phase = .stopped ∧
      entered (start.run .rejecting (closed.take 5)).2 = [change] := by
  intro start change
  obtain ⟨-, hsent, htold, -⟩ := session_run .rejecting {} 1 discarded
  obtain ⟨-, -, -, hended, hstops, hworks⟩ := session_run .rejecting {} 1 closed
  obtain ⟨b, houtcome, hrefused, -⟩ := hsent 1 (.delete ⟨"b@n"⟩) rfl (by decide)
  have hfull : b = false := hrefused.2 (.inl (by decide))
  have hstopped := hstops 3 (by decide) (by decide) (by decide)
  refine ⟨hfull ▸ houtcome, ?_, by decide, hstopped, ?_⟩
  · exact (htold 6 8 rfl (by decide) (by decide) (by decide)).1.trans (by decide)
  · exact (hended 5 (by decide) hstopped (hworks 5 (by decide))).2.trans (by decide)

end Session

end EdgeAgent
