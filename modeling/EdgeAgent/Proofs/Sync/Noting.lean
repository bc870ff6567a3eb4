import EdgeAgent.Sync.Call

/-! Calls that note what is done. Notes stand beside the state and are only added to. That a call
is another one with notes is shown together with what the two do, step by step along the way in
which calls are put together. -/

namespace EdgeAgent

variable {σ ν α β : Type}

/-- A world with notes in its state. -/
def World.noted (w : World σ) (notes : List ν) : World (σ × List ν) :=
  ⟨(w.state, notes), w.log⟩

namespace Call

/-- A call that adds to the notes what its answer says. -/
def noting (notes : Except Stop α → List ν) (c : Call σ α) : Call (σ × List ν) α := fun w =>
  let (answer, after) := c ⟨w.state.1, w.log⟩
  (answer, after.noted (w.state.2 ++ notes answer))

theorem noting_noted (notes : Except Stop α → List ν) (c : Call σ α) (w : World σ)
    (before : List ν) :
    c.noting notes (w.noted before) = ((c w).1, (c w).2.noted (before ++ notes (c w).1)) := rfl

/-- One call is another one with notes. From the state before to the state after, one thing holds
of its answer and of the notes that it adds, and another one of the notes when it stops. -/
def Traces (noting : Call (σ × List ν) α) (c : Call σ α)
    (answered : σ → α → List ν → σ → Prop) (stopped : σ → List ν → σ → Prop) : Prop :=
  ∀ w notes, ∃ more, noting (w.noted notes) = ((c w).1, (c w).2.noted (notes ++ more)) ∧
    match (c w).1 with
    | .ok x => answered w.state x more (c w).2.state
    | .error _ => stopped w.state more (c w).2.state

namespace Traces

variable {c : Call σ α} {c' : Call (σ × List ν) α} {next : α → Call σ β}
  {next' : α → Call (σ × List ν) β} {answered answered' : σ → α → List ν → σ → Prop}
  {later : α → σ → β → List ν → σ → Prop} {stopped stopped' : σ → List ν → σ → Prop}
  {stoppedLater : α → σ → List ν → σ → Prop}

theorem imp (h : Traces c' c answered stopped)
    (hanswered : ∀ s x notes s', answered s x notes s' → answered' s x notes s')
    (hstopped : ∀ s notes s', stopped s notes s' → stopped' s notes s') :
    Traces c' c answered' stopped' := by
  intro w notes
  obtain ⟨more, heq, hdone⟩ := h w notes
  refine ⟨more, heq, ?_⟩
  cases hanswer : (c w).1 with
  | ok x =>
      rw [hanswer] at hdone
      exact hanswered _ _ _ _ hdone
  | error stop =>
      rw [hanswer] at hdone
      exact hstopped _ _ _ hdone

/-- A call that notes something is the call, and does what the call is known to do. -/
theorem of_noting (notes : Except Stop α → List ν)
    (hanswered : ∀ w x, (c w).1 = .ok x → answered w.state x (notes (.ok x)) (c w).2.state)
    (hstopped : ∀ w stop, (c w).1 = .error stop →
      stopped w.state (notes (.error stop)) (c w).2.state) :
    Traces (c.noting notes) c answered stopped := by
  intro w before
  refine ⟨notes (c w).1, noting_noted notes c w before, ?_⟩
  cases hanswer : (c w).1 with
  | ok x => exact hanswered w x hanswer
  | error stop => exact hstopped w stop hanswer

/-- What a call does whatever its answer is, it does when it is answered and when it stops. -/
theorem of_forall (notes : Except Stop α → List ν) {done : σ → List ν → σ → Prop}
    (h : ∀ w, done w.state (notes (c w).1) (c w).2.state) :
    Traces (c.noting notes) c (fun s _ es s' => done s es s') done := by
  refine of_noting notes ?_ ?_
  · intro w x hanswer
    exact hanswer ▸ h w
  · intro w stop hanswer
    exact hanswer ▸ h w

theorem pure (x : α) :
    Traces (Call.pure x : Call (σ × List ν) α) (Call.pure x)
      (fun s y notes s' => y = x ∧ notes = [] ∧ s' = s) fun _ _ _ => False := by
  intro w notes
  refine ⟨[], ?_, rfl, rfl, rfl⟩
  rw [List.append_nil]
  rfl

theorem fail (message : String) :
    Traces (Call.fail message : Call (σ × List ν) α) (Call.fail message)
      (fun _ _ _ _ => False) fun s notes s' => notes = [] ∧ s' = s := by
  intro w notes
  refine ⟨[], ?_, rfl, rfl⟩
  rw [List.append_nil]
  rfl

theorem report (entry : LogEntry) :
    Traces (Call.report entry : Call (σ × List ν) Unit) (Call.report entry)
      (fun s _ notes s' => notes = [] ∧ s' = s) fun _ _ _ => False := by
  intro w notes
  refine ⟨[], ?_, rfl, rfl⟩
  rw [List.append_nil]
  rfl

theorem context (h : Traces c' c answered stopped) (message : String) :
    Traces (c'.context message) (c.context message) answered stopped := by
  intro w notes
  obtain ⟨more, heq, hdone⟩ := h w notes
  refine ⟨more, ?_, ?_⟩
  · simp only [Call.context, heq]
    rcases c w with ⟨(_ | _) | _, after⟩ <;> rfl
  · simp only [Call.context]
    rcases hcall : c w with ⟨stop | x, after⟩
    · rw [hcall] at hdone
      cases stop <;> exact hdone
    · rw [hcall] at hdone
      exact hdone

/-- The failure of an attempt is an answer, but no answer is none. -/
theorem attempt (h : Traces c' c answered stopped) :
    Traces c'.attempt c.attempt
      (fun s x notes s' => match x with
        | .ok x => answered s x notes s'
        | .error _ => stopped s notes s') stopped := by
  intro w notes
  obtain ⟨more, heq, hdone⟩ := h w notes
  refine ⟨more, ?_, ?_⟩
  · simp only [Call.attempt, heq]
    rcases c w with ⟨(_ | _) | _, after⟩ <;> rfl
  · simp only [Call.attempt]
    rcases hcall : c w with ⟨stop | x, after⟩
    · rw [hcall] at hdone
      cases stop <;> exact hdone
    · rw [hcall] at hdone
      exact hdone

/-- What follows a call starts where that has ended. -/
theorem bind (h : Traces c' c answered stopped)
    (hnext : ∀ x, Traces (next' x) (next x) (later x) (stoppedLater x)) :
    Traces (c'.bind next') (c.bind next)
      (fun s y notes s' => ∃ x mid first rest, notes = first ++ rest ∧ answered s x first mid ∧
        later x mid y rest s')
      fun s notes s' => stopped s notes s' ∨ ∃ x mid first rest, notes = first ++ rest ∧
        answered s x first mid ∧ stoppedLater x mid rest s' := by
  intro w notes
  obtain ⟨first, heq, hdone⟩ := h w notes
  rcases hcall : c w with ⟨stop | x, mid⟩
  · rw [hcall] at heq hdone
    refine ⟨first, ?_, ?_⟩
    · simp only [Call.bind, heq, hcall]
    · simp only [Call.bind, hcall]
      exact .inl hdone
  · rw [hcall] at heq hdone
    obtain ⟨rest, heq', hdone'⟩ := hnext x mid (notes ++ first)
    refine ⟨first ++ rest, ?_, ?_⟩
    · simp only [Call.bind, heq, hcall, heq', List.append_assoc]
    · simp only [Call.bind, hcall]
      rcases hlater : next x mid with ⟨stop | y, after⟩
      · rw [hlater] at hdone'
        exact .inr ⟨x, mid.state, first, rest, rfl, hdone, hdone'⟩
      · rw [hlater] at hdone'
        exact ⟨x, mid.state, first, rest, rfl, hdone, hdone'⟩

end Traces

end Call

end EdgeAgent
