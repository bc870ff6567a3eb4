import EdgeAgent.Proofs.Sync.Plan
import EdgeAgent.Sync.Counters

/-! The states in which the writes of a pass are made. What the pass starts from and every write
preserves holds in each of them, and after the pass. -/

namespace EdgeAgent

variable {σ α β R : Type}

/-! ### Calls that preserve what holds of a state -/

/-- What holds of the state before a call holds after it, whatever comes of the call. -/
def Call.Preserves (holds : σ → Prop) (c : Call σ α) : Prop :=
  ∀ w, holds w.state → holds (c w).2.state

namespace Call.Preserves

variable {holds : σ → Prop} {c : Call σ α}

theorem pure (x : α) : (Call.pure x : Call σ α).Preserves holds := fun _ hw => hw

theorem fail (message : String) : (Call.fail message : Call σ α).Preserves holds := fun _ hw => hw

theorem report (entry : LogEntry) : (Call.report entry).Preserves holds := fun _ hw => hw

theorem context (h : c.Preserves holds) (message : String) :
    (c.context message).Preserves holds := by
  intro w hw
  have hafter := h w hw
  simp only [Call.context]
  generalize c w = result at hafter
  rcases result with ⟨(_ | _) | _, after⟩ <;> exact hafter

theorem attempt (h : c.Preserves holds) : c.attempt.Preserves holds := by
  intro w hw
  have hafter := h w hw
  simp only [Call.attempt]
  generalize c w = result at hafter
  rcases result with ⟨(_ | _) | _, after⟩ <;> exact hafter

theorem bind {next : α → Call σ β} (h : c.Preserves holds)
    (hnext : ∀ x, (next x).Preserves holds) : (c.bind next).Preserves holds := by
  intro w hw
  have hmid := h w hw
  simp only [Call.bind]
  generalize c w = result at hmid
  rcases result with ⟨_ | x, mid⟩
  · exact hmid
  · exact hnext x mid hmid

end Call.Preserves

/-! ### The writes of a pass -/

namespace Sides

variable {s : Sides σ R}

/-- The writes of steps, each with the state in which it is made. -/
def momentsOf (s : Sides σ R) : World σ → List (Step R) → List (σ × Write R)
  | _, [] => []
  | w, step :: steps =>
    let (report, after) := s.perform w step
    step.write?.toList.map (w.state, ·) ++
      momentsOf s (reported after (report.entries s.kind)) steps

/-- The writes of a pass, each with the state in which it is made. -/
def moments (s : Sides σ R) (w : World σ) : List (σ × Write R) :=
  match s.desired w with
  | (.error _, _) => []
  | (.ok desired, w) =>
    match s.existing w with
    | (.error _, _) => []
    | (.ok existing, w) => s.momentsOf w (Step.plan s.keyOf desired existing)

theorem moments_of_lists {w w₁ w₂ : World σ} {desired : List (Except String R)}
    {existing : List R} (hdesired : s.desired w = (.ok desired, w₁))
    (hexisting : s.existing w₁ = (.ok existing, w₂)) :
    s.moments w = s.momentsOf w₂ (Step.plan s.keyOf desired existing) := by
  simp only [moments, hdesired, hexisting]

theorem state_perform (s : Sides σ R) (w : World σ) (key : Key) (x : Write R) :
    (s.perform w (.write key x)).2.state = (s.write x w).2.state := by
  simp only [perform]
  rcases s.write x w with ⟨_ | _, after⟩ <;> rfl

/-- What every write preserves holds whenever one is made, and in the end. -/
theorem holds_of_writes {holds : σ → Prop} {steps : List (Step R)}
    (hwrite : ∀ x ∈ steps.filterMap Step.write?, (s.write x).Preserves holds) {w : World σ}
    (hw : holds w.state) :
    holds (s.performAll w steps).2.state ∧ ∀ m ∈ s.momentsOf w steps, holds m.1 := by
  induction steps generalizing w with
  | nil => exact ⟨hw, List.forall_mem_nil _⟩
  | cons step steps ih =>
      cases step with
      | unbuildable e => exact ih hwrite hw
      | write key x =>
          have hwrites : (Step.write key x :: steps).filterMap Step.write? =
              x :: steps.filterMap Step.write? := rfl
          rw [hwrites, List.forall_mem_cons] at hwrite
          have hafter : holds (s.perform w (.write key x)).2.state := by
            rw [state_perform]
            exact hwrite.1 w hw
          obtain ⟨hend, hlater⟩ := ih hwrite.2 (w := reported (s.perform w (.write key x)).2
            ((s.perform w (.write key x)).1.entries s.kind)) hafter
          exact ⟨hend, List.forall_mem_cons.2 ⟨hw, hlater⟩⟩

/-- What a pass starts from holds whenever it makes a write, and after it, if it is preserved by the
listing and by the writes of the plan. -/
theorem holds_of_pass {holds : σ → Prop} {w : World σ} (hdesired : s.desired.Preserves holds)
    (hexisting : s.existing.Preserves holds)
    (hwrite : ∀ desired w₁ existing w₂, s.desired w = (.ok desired, w₁) →
      s.existing w₁ = (.ok existing, w₂) →
      ∀ x ∈ (Step.plan s.keyOf desired existing).filterMap Step.write?, (s.write x).Preserves holds)
    (hw : holds w.state) :
    holds (s.pass w).2.state ∧ ∀ m ∈ s.moments w, holds m.1 := by
  have hw₁ := hdesired w hw
  simp only [pass, moments]
  rcases hlist : s.desired w with ⟨stop | desired, w₁⟩
  · rw [hlist] at hw₁
    exact ⟨hw₁, List.forall_mem_nil _⟩
  · rw [hlist] at hw₁
    have hw₂ := hexisting w₁ hw₁
    rcases hlist' : s.existing w₁ with ⟨stop | existing, w₂⟩
    · rw [hlist'] at hw₂
      simp only [hlist']
      exact ⟨hw₂, List.forall_mem_nil _⟩
    · rw [hlist'] at hw₂
      simp only [hlist']
      exact holds_of_writes (hwrite desired w₁ existing w₂ hlist hlist') hw₂

end Sides

end EdgeAgent
