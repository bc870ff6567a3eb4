import EdgeAgent.Proofs.Sync.Noting

/-! What calls come to. A call is granted or refused, or it is never answered; why it was refused does
not matter here. That a call is another one with notes is shown together with what the two come to,
whichever of the three it is. -/

namespace EdgeAgent

variable {σ ν α β : Type}

/-- What a call comes to. -/
inductive Upshot (α : Type) where
  | granted (x : α)
  | refused
  | unanswered
  deriving DecidableEq

namespace Upshot

def of : Except Stop α → Upshot α
  | .ok x => granted x
  | .error (.failed _) => refused
  | .error .silent => unanswered

/-- Without what is granted. -/
def forget : Upshot α → Upshot Unit
  | granted _ => granted ()
  | refused => refused
  | unanswered => unanswered

theorem of_eq_granted {answer : Except Stop α} {x : α} : of answer = granted x ↔ answer = .ok x := by
  rcases answer with (_ | _) | y <;> simp [of]

end Upshot

namespace Call

/-- One call is another one with notes. From the state before to the state after, something holds of
what they come to and of the notes that are added. -/
def Ends (noting : Call (σ × List ν) α) (c : Call σ α)
    (done : σ → Upshot α → List ν → σ → Prop) : Prop :=
  ∀ w notes, ∃ more, noting (w.noted notes) = ((c w).1, (c w).2.noted (notes ++ more)) ∧
    done w.state (.of (c w).1) more (c w).2.state

namespace Ends

variable {c : Call σ α} {c' : Call (σ × List ν) α} {next : α → Call σ β}
  {next' : α → Call (σ × List ν) β} {done done' : σ → Upshot α → List ν → σ → Prop}
  {later : α → σ → Upshot β → List ν → σ → Prop}

theorem imp (h : Ends c' c done)
    (hdone : ∀ s u notes s', done s u notes s' → done' s u notes s') : Ends c' c done' := by
  intro w notes
  obtain ⟨more, heq, h⟩ := h w notes
  exact ⟨more, heq, hdone _ _ _ _ h⟩

theorem of_noting (notes : Except Stop α → List ν)
    (hdone : ∀ w, done w.state (.of (c w).1) (notes (c w).1) (c w).2.state) :
    Ends (c.noting notes) c done :=
  fun w before => ⟨notes (c w).1, noting_noted notes c w before, hdone w⟩

theorem pure (x : α) :
    Ends (Call.pure x : Call (σ × List ν) α) (Call.pure x)
      fun s u notes s' => u = .granted x ∧ notes = [] ∧ s' = s := by
  intro w notes
  refine ⟨[], ?_, rfl, rfl, rfl⟩
  rw [List.append_nil]
  rfl

theorem fail (message : String) :
    Ends (Call.fail message : Call (σ × List ν) α) (Call.fail message)
      fun s u notes s' => u = .refused ∧ notes = [] ∧ s' = s := by
  intro w notes
  refine ⟨[], ?_, rfl, rfl, rfl⟩
  rw [List.append_nil]
  rfl

theorem report (entry : LogEntry) :
    Ends (Call.report entry : Call (σ × List ν) Unit) (Call.report entry)
      fun s u notes s' => u = .granted () ∧ notes = [] ∧ s' = s := by
  intro w notes
  refine ⟨[], ?_, rfl, rfl, rfl⟩
  rw [List.append_nil]
  rfl

theorem context (h : Ends c' c done) (message : String) :
    Ends (c'.context message) (c.context message) done := by
  intro w notes
  obtain ⟨more, heq, h⟩ := h w notes
  refine ⟨more, ?_, ?_⟩
  · simp only [Call.context, heq]
    rcases c w with ⟨(_ | _) | _, after⟩ <;> rfl
  · simp only [Call.context]
    rcases hcall : c w with ⟨(_ | _) | _, after⟩ <;> rw [hcall] at h <;> exact h

/-- An attempt is not refused. -/
theorem attempt (h : Ends c' c done) :
    Ends c'.attempt c.attempt fun s u notes s' =>
      match u with
      | .granted (.ok x) => done s (.granted x) notes s'
      | .granted (.error _) => done s .refused notes s'
      | .refused => False
      | .unanswered => done s .unanswered notes s' := by
  intro w notes
  obtain ⟨more, heq, h⟩ := h w notes
  refine ⟨more, ?_, ?_⟩
  · simp only [Call.attempt, heq]
    rcases c w with ⟨(_ | _) | _, after⟩ <;> rfl
  · simp only [Call.attempt]
    rcases hcall : c w with ⟨(_ | _) | _, after⟩ <;> rw [hcall] at h <;> exact h

/-- What follows a call that is granted starts where that has ended. -/
theorem bind (h : Ends c' c done) (hnext : ∀ x, Ends (next' x) (next x) (later x)) :
    Ends (c'.bind next') (c.bind next) fun s u notes s' =>
      (u = .refused ∧ done s .refused notes s') ∨ (u = .unanswered ∧ done s .unanswered notes s') ∨
      ∃ x mid first rest, notes = first ++ rest ∧ done s (.granted x) first mid ∧
        later x mid u rest s' := by
  intro w notes
  obtain ⟨first, heq, h⟩ := h w notes
  simp only [Call.bind, heq]
  rcases hcall : c w with ⟨(message | _) | x, mid⟩
  · rw [hcall] at h
    exact ⟨first, rfl, .inl ⟨rfl, h⟩⟩
  · rw [hcall] at h
    exact ⟨first, rfl, .inr (.inl ⟨rfl, h⟩)⟩
  · rw [hcall] at h
    obtain ⟨rest, heq', h'⟩ := hnext x mid (notes ++ first)
    refine ⟨first ++ rest, ?_, .inr (.inr ⟨x, mid.state, first, rest, rfl, h, h'⟩)⟩
    rw [← List.append_assoc]
    exact heq'

end Ends

end Call

end EdgeAgent
