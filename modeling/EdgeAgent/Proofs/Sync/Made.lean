import EdgeAgent.Proofs.Sync.Noting
import EdgeAgent.Proofs.Sync.Plan
import EdgeAgent.Sync.Script

/-! The writes that a pass makes. They are noted in the state as they are made, whatever comes of
them; apart from its notes such a pass is the one without them. What is noted is the plan of the
two lists, so that it depends neither on the cluster nor on how any write turns out. -/

namespace EdgeAgent

variable {σ R : Type}

namespace Sides

/-! ### The three ways of a pass -/

section

variable {s : Sides σ R} {w w₁ w₂ : World σ} {stop : Stop} {desired : List (Except String R)}
  {existing : List R}

theorem pass_of_platform_error (hdesired : s.desired w = (.error stop, w₁)) :
    s.pass w = (.aborted .platform (stop.message s.timeout),
      reported w₁ [Side.platform.entry s.kind (stop.message s.timeout)]) := by
  simp only [pass, hdesired]

theorem pass_of_cluster_error (hdesired : s.desired w = (.ok desired, w₁))
    (hexisting : s.existing w₁ = (.error stop, w₂)) :
    s.pass w = (.aborted .cluster (stop.message s.timeout),
      reported w₂ [Side.cluster.entry s.kind (stop.message s.timeout)]) := by
  simp only [pass, hdesired, hexisting]

theorem pass_of_lists (hdesired : s.desired w = (.ok desired, w₁))
    (hexisting : s.existing w₁ = (.ok existing, w₂)) :
    s.pass w = (.completed (s.performAll w₂ (Step.plan s.keyOf desired existing)).1,
      (s.performAll w₂ (Step.plan s.keyOf desired existing)).2) := by
  simp only [pass, hdesired, hexisting]

end

/-- The sides with each write noted as it is made, whatever comes of it. -/
def noting (s : Sides σ R) : Sides (σ × List (Write R)) R where
  kind := s.kind
  timeout := s.timeout
  keyOf := s.keyOf
  desired := s.desired.noting fun _ => []
  existing := s.existing.noting fun _ => []
  write := fun x => (s.write x).noting fun _ => [x]

/-- The writes that a pass makes, in their order. -/
def made (s : Sides σ R) (w : World σ) : List (Write R) :=
  (s.noting.pass (w.noted [])).2.state.2

/-! ### The steps of a pass -/

theorem perform_noting (s : Sides σ R) (w : World σ) (notes : List (Write R)) (step : Step R) :
    s.noting.perform (w.noted notes) step =
      ((s.perform w step).1, (s.perform w step).2.noted (notes ++ step.write?.toList)) := by
  cases step with
  | unbuildable e => exact congrArg (fun notes => (_, w.noted notes)) (List.append_nil notes).symm
  | write key x =>
      simp only [perform, noting, Call.noting_noted, Step.write?, Option.toList_some]
      cases s.write x w with
      | mk answer after => cases answer <;> rfl

theorem performAll_noting (s : Sides σ R) (steps : List (Step R)) (w : World σ)
    (notes : List (Write R)) :
    s.noting.performAll (w.noted notes) steps =
      ((s.performAll w steps).1,
        (s.performAll w steps).2.noted (notes ++ steps.filterMap Step.write?)) := by
  induction steps generalizing w notes with
  | nil => exact congrArg (fun notes => (_, w.noted notes)) (List.append_nil notes).symm
  | cons step steps ih =>
      have hreported : ∀ (after : World σ) (more : List (Write R)) (entries : Log),
          reported (after.noted more) entries = (reported after entries).noted more :=
        fun _ _ _ => rfl
      simp only [performAll, perform_noting, hreported]
      rw [show s.noting.kind = s.kind from rfl, ih]
      cases step with
      | unbuildable e => simp [List.filterMap_cons, Step.write?]
      | write key x => simp [Step.write?]

/-! ### The whole pass -/

theorem desired_noting {s : Sides σ R} {w w₁ : World σ} {answer : Except Stop (List (Except String R))}
    (hdesired : s.desired w = (answer, w₁)) (notes : List (Write R)) :
    s.noting.desired (w.noted notes) = (answer, w₁.noted notes) := by
  change s.desired.noting (fun _ => []) (w.noted notes) = _
  rw [Call.noting_noted, hdesired, List.append_nil]

theorem existing_noting {s : Sides σ R} {w w₁ : World σ} {answer : Except Stop (List R)}
    (hexisting : s.existing w = (answer, w₁)) (notes : List (Write R)) :
    s.noting.existing (w.noted notes) = (answer, w₁.noted notes) := by
  change s.existing.noting (fun _ => []) (w.noted notes) = _
  rw [Call.noting_noted, hexisting, List.append_nil]

section

variable {s : Sides σ R} {w w₁ w₂ : World σ} {desired : List (Except String R)}
  {existing : List R}

theorem pass_noting_of_lists (hdesired : s.desired w = (.ok desired, w₁))
    (hexisting : s.existing w₁ = (.ok existing, w₂)) :
    s.noting.pass (w.noted []) = ((s.pass w).1,
      (s.pass w).2.noted ((Step.plan s.keyOf desired existing).filterMap Step.write?)) := by
  rw [pass_of_lists hdesired hexisting,
    pass_of_lists (desired_noting hdesired []) (existing_noting hexisting []),
    show s.noting.keyOf = s.keyOf from rfl, performAll_noting, List.nil_append]

theorem made_eq (hdesired : s.desired w = (.ok desired, w₁))
    (hexisting : s.existing w₁ = (.ok existing, w₂)) :
    s.made w = (Step.plan s.keyOf desired existing).filterMap Step.write? := by
  rw [made, pass_noting_of_lists hdesired hexisting]
  rfl

end

/-- When both sides are listed, a pass makes exactly these writes, however each of them turns out.
The objects of the records ask for theirs in their order: the first one of a listed key for the
update of the object listed last, every other one for a creation. Then the object listed last of
every key that no record has is removed, once. So two passes over the same lists make the same
writes. -/
theorem made_of_lists (s : Sides σ R) {w w₁ w₂ : World σ} {desired : List (Except String R)}
    {existing : List R} (hdesired : s.desired w = (.ok desired, w₁))
    (hexisting : s.existing w₁ = (.ok existing, w₂)) :
    (∃ deletions : List R,
      s.made w = Step.requests s.keyOf existing (Step.built desired) ++ deletions.map .delete ∧
      (deletions.map s.keyOf).Nodup ∧
      ∀ old, old ∈ deletions ↔ Step.listed? s.keyOf existing (s.keyOf old) = some old ∧
        s.keyOf old ∉ (Step.built desired).map s.keyOf) ∧
    (∀ key old new, Step.listed? s.keyOf existing key = some old →
      (Step.built desired).find? (fun r => s.keyOf r = key) = some new →
      (s.made w).filter (Write.updates s.keyOf key) = [.update old new]) ∧
    ∀ (τ : Type) (t : Sides τ R) (v v₁ v₂ : World τ), t.keyOf = s.keyOf →
      t.desired v = (.ok desired, v₁) → t.existing v₁ = (.ok existing, v₂) →
      t.made v = s.made w := by
  obtain ⟨deletions, hwrites, hnodup, hmem⟩ := Step.writes_plan s.keyOf desired existing
  rw [← made_eq hdesired hexisting] at hwrites
  refine ⟨⟨deletions, hwrites, hnodup, hmem⟩, ?_, ?_⟩
  · intro key old new hlisted hfirst
    have hnone : (deletions.map Write.delete).filter (Write.updates s.keyOf key) = [] := by
      simp [List.filter_map, Function.comp_def, Write.updates]
    have hrequests := Step.filter_updates_requests hlisted [] (Step.built desired)
    rw [hwrites, List.filter_append, hnone, List.append_nil, Step.requests]
    simpa [hfirst] using hrequests
  · intro τ t v v₁ v₂ hkey hdesired' hexisting'
    rw [made_eq hdesired hexisting, made_eq hdesired' hexisting', hkey]

/-- Of two records with the key `a` the first is listed twice; the update fails and the creation
does not end. -/
def repeated : Script where
  records := [.ok ⟨⟨"a"⟩, .int 1⟩, .error "invalid", .ok ⟨⟨"a"⟩, .int 2⟩]
  fates := [("update a", .fails), ("create a", .stalls)]
  timeout := 10

/-- Each of two keys is listed twice. -/
def repeatedState : Script.State where
  objects := [⟨⟨"a"⟩, .int 3⟩, ⟨⟨"b"⟩, .int 4⟩, ⟨⟨"a"⟩, .int 5⟩, ⟨⟨"b"⟩, .int 6⟩]

theorem made_of_lists_repeated :
    (∃ w₁ w₂, (repeated.sides "Test").desired ⟨repeatedState, []⟩ = (.ok repeated.records, w₁) ∧
      (repeated.sides "Test").existing w₁ = (.ok repeatedState.objects, w₂)) ∧
    ((repeated.sides "Test").made ⟨repeatedState, []⟩).filter (Write.updates Script.Item.key ⟨"a"⟩) =
      [.update ⟨⟨"a"⟩, .int 5⟩ ⟨⟨"a"⟩, .int 1⟩] ∧
    Write.create ⟨⟨"a"⟩, .int 2⟩ ∈ (repeated.sides "Test").made ⟨repeatedState, []⟩ ∧
    Write.delete ⟨⟨"b"⟩, .int 6⟩ ∈ (repeated.sides "Test").made ⟨repeatedState, []⟩ := by
  have hdesired : (repeated.sides "Test").desired ⟨repeatedState, []⟩ = (.ok repeated.records, _) :=
    rfl
  obtain ⟨⟨deletions, hmade, -, hmem⟩, hupdates, -⟩ :=
    made_of_lists (repeated.sides "Test") hdesired rfl
  refine ⟨⟨_, _, rfl, rfl⟩, hupdates ⟨"a"⟩ _ _ rfl rfl, ?_, ?_⟩
  · rw [hmade]
    exact List.mem_append_left _ (.tail _ (.head _))
  · rw [hmade]
    exact List.mem_append_right _ (List.mem_map_of_mem ((hmem ⟨⟨"b"⟩, .int 6⟩).2 ⟨rfl, by decide⟩))

end Sides

end EdgeAgent
