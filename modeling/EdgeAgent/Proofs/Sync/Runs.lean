import EdgeAgent.Proofs.Sync.Moments
import EdgeAgent.Proofs.Sync.Noting
import Mathlib.Data.List.Forall2
import Mathlib.Logic.Function.Basic

/-! The writes of a pass as a run: one state after the other, each write with whether it succeeded
and with what it noted. When every write changes what is shown at a place of its own, each place
shows in the end what its own write has left there. Removals may empty other places as well. -/

namespace EdgeAgent

variable {σ ν R ι γ : Type}

/-! ### Changes at one place -/

/-- What a state shows changes at one place at most. -/
def Located [DecidableEq ι] (view : σ → ι → γ) (place : ι) (s s' : σ) : Prop :=
  ∃ x, view s' = Function.update (view s) place x

namespace Located

variable [DecidableEq ι] {view : σ → ι → γ} {place : ι} {s mid s' : σ}

theorem of_eq (h : view s' = view s) : Located view place s s' :=
  ⟨view s place, by rw [h, Function.update_eq_self]⟩

theorem of_ne (h : ∀ other, other ≠ place → view s' other = view s other) :
    Located view place s s' := by
  refine ⟨view s' place, ?_⟩
  funext other
  by_cases hother : other = place
  · rw [hother, Function.update_self]
  · rw [Function.update_of_ne hother, h other hother]

theorem trans (h : Located view place s mid) (h' : Located view place mid s') :
    Located view place s s' := by
  obtain ⟨x, hx⟩ := h
  obtain ⟨y, hy⟩ := h'
  exact ⟨y, by rw [hy, hx, Function.update_idem]⟩

theorem eq_of_ne (h : Located view place s s') {other : ι} (hne : other ≠ place) :
    view s' other = view s other := by
  obtain ⟨x, hx⟩ := h
  rw [hx, Function.update_of_ne hne]

end Located

/-- A removal empties one place. Any other one is left alone, or emptied along with it where that
may be. -/
structure Empties (view : σ → ι → γ) (nothing : γ) (along : ι → Prop) (place : ι) (s s' : σ) :
    Prop where
  gone : view s' place = nothing
  others : ∀ other, other ≠ place →
    view s' other = view s other ∨ view s' other = nothing ∧ along other

/-- What is left stands as it was. -/
theorem Empties.eq_of_ne {view : σ → ι → γ} {nothing : γ} {along : ι → Prop} {place other : ι}
    {s s' : σ} (h : Empties view nothing along place s s') (hleft : view s' other ≠ nothing) :
    view s' other = view s other := by
  have hother : other ≠ place := by
    rintro rfl
    exact hleft h.gone
  exact (h.others other hother).resolve_right fun hgone => hleft hgone.1

theorem Empties.imp {view : σ → ι → γ} {nothing : γ} {along along' : ι → Prop} {place : ι}
    {s s' : σ} (h : Empties view nothing along place s s') (himp : ∀ other, along other → along' other) :
    Empties view nothing along' place s s' :=
  ⟨h.gone, fun other hother => (h.others other hother).imp_right (.imp_right (himp other))⟩

/-- What is made of what a state shows is emptied as well. -/
theorem Empties.map {δ : Type} {view : σ → ι → γ} {nothing : γ} {along : ι → Prop} {place : ι}
    {s s' : σ} (h : Empties view nothing along place s s') (f : γ → δ) :
    Empties (fun s i => f (view s i)) (f nothing) along place s s' :=
  ⟨congrArg f h.gone, fun other hother =>
    (h.others other hother).imp (congrArg f) (.imp_left (congrArg f))⟩

/-! ### Runs -/

/-- Whether what was asked for was done. A record that does not become an object asks for nothing. -/
def Report.Succeeded : Report R → Prop
  | .unbuildable _ => True
  | .wrote _ _ result => succeeded result = true

/-- A pass was completed, and each of its writes succeeded. -/
def PassOutcome.Succeeded : PassOutcome R → Prop
  | .aborted _ _ => False
  | .completed reports => ∀ report ∈ reports, report.Succeeded

instance (report : Report R) : Decidable report.Succeeded :=
  match report with
  | .unbuildable _ => .isTrue trivial
  | .wrote _ _ result => inferInstanceAs (Decidable (succeeded result = true))

instance (outcome : PassOutcome R) : Decidable outcome.Succeeded :=
  match outcome with
  | .aborted _ _ => .isFalse id
  | .completed reports => inferInstanceAs (Decidable (∀ report ∈ reports, report.Succeeded))

/-- Writes, one after the other. -/
inductive Runs (moves : Write R → Bool → List ν → σ → σ → Prop) :
    List (Write R) → List (Bool × List ν) → σ → σ → Prop where
  | nil (s : σ) : Runs moves [] [] s s
  | cons {x : Write R} {xs : List (Write R)} {run : Bool × List ν} {runs : List (Bool × List ν)}
      {s mid s' : σ} : moves x run.1 run.2 s mid → Runs moves xs runs mid s' →
      Runs moves (x :: xs) (run :: runs) s s'

/-- What all writes of a run have noted. -/
def notesOf (runs : List (Bool × List ν)) : List ν :=
  runs.flatMap (·.2)

theorem notesOf_cons (run : Bool × List ν) (runs : List (Bool × List ν)) :
    notesOf (run :: runs) = run.2 ++ notesOf runs :=
  List.flatMap_cons

theorem infix_notesOf {run : Bool × List ν} {runs : List (Bool × List ν)} (h : run ∈ runs) :
    run.2 <:+: notesOf runs := by
  obtain ⟨front, back, rfl⟩ := List.append_of_mem h
  exact ⟨notesOf front, notesOf back, by simp [notesOf]⟩

theorem notesOf_append (runs runs' : List (Bool × List ν)) :
    notesOf (runs ++ runs') = notesOf runs ++ notesOf runs' :=
  List.flatMap_append

/-- Each on the left has one on the right. -/
theorem exists_of_forall₂ {α β : Type} {r : α → β → Prop} {xs : List α} {ys : List β}
    (h : List.Forall₂ r xs ys) {x : α} (hx : x ∈ xs) : ∃ y ∈ ys, r x y := by
  obtain ⟨i, hi, rfl⟩ := List.getElem_of_mem hx
  have hi' : i < ys.length := h.length_eq ▸ hi
  exact ⟨ys[i], List.getElem_mem hi', (List.forall₂_iff_get.1 h).2 i hi hi'⟩

namespace Runs

variable {moves : Write R → Bool → List ν → σ → σ → Prop} {xs ys : List (Write R)}
  {runs : List (Bool × List ν)} {s s' : σ}

theorem of_append (h : Runs moves (xs ++ ys) runs s s') :
    ∃ mid first rest, runs = first ++ rest ∧ Runs moves xs first s mid ∧
      Runs moves ys rest mid s' := by
  induction xs generalizing runs s with
  | nil => exact ⟨s, [], runs, rfl, .nil s, h⟩
  | cons x xs ih =>
      cases h with
      | cons hmoves hlater =>
          obtain ⟨mid, first, rest, rfl, hfirst, hrest⟩ := ih hlater
          exact ⟨mid, _ :: first, rest, rfl, .cons hmoves hfirst, hrest⟩

theorem imp {moves' : Write R → Bool → List ν → σ → σ → Prop} (h : Runs moves xs runs s s')
    (himp : ∀ x ∈ xs, ∀ ok es s s', moves x ok es s s' → moves' x ok es s s') :
    Runs moves' xs runs s s' := by
  induction h with
  | nil s => exact .nil s
  | @cons x xs run runs s mid s' hmove _ ih =>
      rw [List.forall_mem_cons] at himp
      exact .cons (himp.1 run.1 run.2 s mid hmove) (ih himp.2)

/-- Writes with places of their own: each leaves its place as the last state shows it. -/
theorem forall₂ [DecidableEq ι] {view : σ → ι → γ} {place : Write R → ι}
    {comes : Write R → Bool → List ν → γ → γ → Prop}
    (hmoves : ∀ x ok es s s', moves x ok es s s' → Located view (place x) s s' ∧
      comes x ok es (view s (place x)) (view s' (place x)))
    (h : Runs moves xs runs s s') (hplaces : (xs.map place).Nodup) :
    (∀ other ∉ xs.map place, view s' other = view s other) ∧
      List.Forall₂ (fun x run => comes x run.1 run.2 (view s (place x)) (view s' (place x)))
        xs runs := by
  induction h with
  | nil s => exact ⟨fun _ _ => rfl, .nil⟩
  | @cons x xs run runs s mid s' hmove _ ih =>
      rw [List.map_cons, List.nodup_cons] at hplaces
      obtain ⟨hlocated, hcomes⟩ := hmoves x run.1 run.2 s mid hmove
      obtain ⟨hframe, hlater⟩ := ih hplaces.2
      refine ⟨?_, .cons ?_ ?_⟩
      · intro other hother
        rw [List.map_cons, List.mem_cons, not_or] at hother
        rw [hframe other hother.2, hlocated.eq_of_ne hother.1]
      · rw [hframe _ hplaces.1]
        exact hcomes
      · refine List.forall₂_iff_get.2 ⟨hlater.length_eq, fun i hi hi' => ?_⟩
        have hne : place (xs.get ⟨i, hi⟩) ≠ place x := fun heq =>
          hplaces.1 (heq ▸ List.mem_map_of_mem (List.get_mem xs ⟨i, hi⟩))
        have hcame := (List.forall₂_iff_get.1 hlater).2 i hi hi'
        rw [hlocated.eq_of_ne hne] at hcame
        exact hcame

/-- Removals, each of which empties its place or has changed nothing: what is shown at a place stays,
unless it is the place of a removal or goes along with one. -/
theorem emptied {view : σ → ι → γ} {nothing : γ} {along : ι → Prop} {place : Write R → ι}
    {missed : List ν → Prop}
    (hmoves : ∀ x ok es s s', moves x ok es s s' →
      missed es ∧ view s' = view s ∨ Empties view nothing along (place x) s s')
    (h : Runs moves xs runs s s') (other : ι) :
    view s' other = view s other ∧ (other ∈ xs.map place → ∃ run ∈ runs, missed run.2) ∨
      view s' other = nothing ∧ (other ∈ xs.map place ∨ along other) := by
  induction h with
  | nil s => exact .inl ⟨rfl, fun h => nomatch h⟩
  | @cons x xs run runs s mid s' hmove _ ih =>
      have hfirst : view mid other = view s other ∧ (other = place x → missed run.2) ∨
          view mid other = nothing ∧ (other = place x ∨ along other) := by
        rcases hmoves x run.1 run.2 s mid hmove with ⟨hmissed, hsame⟩ | ⟨hgone, hothers⟩
        · exact .inl ⟨congrFun hsame other, fun _ => hmissed⟩
        · by_cases hplace : other = place x
          · exact .inr ⟨hplace ▸ hgone, .inl hplace⟩
          · exact (hothers other hplace).imp (⟨·, fun h => absurd h hplace⟩) (.imp_right .inr)
      rw [List.map_cons, List.mem_cons]
      rcases ih with ⟨hsame, hlater⟩ | ⟨hgone, hlater⟩
      · rw [hsame]
        rcases hfirst with ⟨hsame', hmissed⟩ | ⟨hgone, hwhere⟩
        · refine .inl ⟨hsame', ?_⟩
          rintro (hplace | hmem)
          · exact ⟨run, .head _, hmissed hplace⟩
          · obtain ⟨run', hrun, hmissed'⟩ := hlater hmem
            exact ⟨run', .tail _ hrun, hmissed'⟩
        · exact .inr ⟨hgone, hwhere.imp_left .inl⟩
      · exact .inr ⟨hgone, hlater.imp_left .inr⟩

end Runs

/-! ### The writes of a pass -/

variable {s : Sides σ R} {s' : Sides (σ × List ν) R}
  {moves : Write R → Bool → List ν → σ → σ → Prop}

/-- A write is made with what it notes, and succeeds when nothing else is reported. -/
theorem Sides.perform_noted (htimeout : s'.timeout = s.timeout) (key : Key) {x : Write R}
    (hwrite : Call.Traces (s'.write x) (s.write x)
      (fun before _ es after => moves x true es before after)
      fun before es after => moves x false es before after)
    (w : World σ) (notes : List ν) :
    ∃ ok es, s'.perform (w.noted notes) (.write key x) =
        ((s.perform w (.write key x)).1, (s.perform w (.write key x)).2.noted (notes ++ es)) ∧
      moves x ok es w.state (s.perform w (.write key x)).2.state ∧
      ((s.perform w (.write key x)).1.Succeeded → ok = true) := by
  obtain ⟨es, hcall, hmoves⟩ := hwrite w notes
  rw [perform, perform, hcall, htimeout]
  rcases hanswer : s.write x w with ⟨stop | x, after⟩
  · rw [hanswer] at hmoves
    exact ⟨false, es, rfl, hmoves, fun h => absurd h Bool.false_ne_true⟩
  · rw [hanswer] at hmoves
    exact ⟨true, es, rfl, hmoves, fun _ => rfl⟩

/-- The writes of a pass are a run, each made in the state of its moment, and all succeed when nothing
else is reported. -/
theorem Sides.performAll_runs (hkind : s'.kind = s.kind) (htimeout : s'.timeout = s.timeout)
    (steps : List (Step R))
    (hwrite : ∀ x ∈ steps.filterMap Step.write?, Call.Traces (s'.write x) (s.write x)
      (fun before _ es after => moves x true es before after)
      fun before es after => moves x false es before after)
    (w : World σ) (notes : List ν) :
    ∃ runs, s'.performAll (w.noted notes) steps =
        ((s.performAll w steps).1, (s.performAll w steps).2.noted (notes ++ notesOf runs)) ∧
      Runs (fun x ok es before after => moves x ok es before after ∧
          (before, x) ∈ s.momentsOf w steps) (steps.filterMap Step.write?) runs w.state
        (s.performAll w steps).2.state ∧
      ((∀ report ∈ (s.performAll w steps).1, report.Succeeded) → ∀ run ∈ runs, run.1 = true) := by
  induction steps generalizing w notes with
  | nil =>
      refine ⟨[], ?_, .nil _, fun _ => List.forall_mem_nil _⟩
      rw [notesOf, List.flatMap_nil, List.append_nil]
      rfl
  | cons step steps ih =>
      cases step with
      | unbuildable e =>
          obtain ⟨runs, heq, hruns, hsucceeded⟩ := ih hwrite
            (reported w (Report.entries s.kind (.unbuildable e))) notes
          refine ⟨runs, ?_, hruns, fun h => hsucceeded fun report hreport => h report (.tail _ hreport)⟩
          rw [performAll, performAll, perform, perform, hkind]
          change (_ :: (s'.performAll ((reported w _).noted notes) steps).1,
            (s'.performAll ((reported w _).noted notes) steps).2) = _
          rw [heq]
      | write key x =>
          have hwrites : (Step.write key x :: steps).filterMap Step.write? =
              x :: steps.filterMap Step.write? := rfl
          rw [hwrites] at hwrite ⊢
          obtain ⟨ok, first, hperform, hmove, hok⟩ :=
            perform_noted htimeout key (hwrite x (.head _)) w notes
          obtain ⟨runs, heq, hruns, hsucceeded⟩ := ih (fun y hy => hwrite y (.tail _ hy))
            (reported (s.perform w (.write key x)).2
              ((s.perform w (.write key x)).1.entries s.kind)) (notes ++ first)
          refine ⟨(ok, first) :: runs, ?_, .cons ⟨hmove, .head _⟩ ?_, ?_⟩
          · rw [performAll, performAll, hperform, hkind, notesOf_cons, ← List.append_assoc]
            change (_ :: (s'.performAll ((reported _ _).noted _) steps).1,
              (s'.performAll ((reported _ _).noted _) steps).2) = _
            rw [heq]
          · exact hruns.imp fun _ _ _ _ _ _ h => ⟨h.1, .tail _ h.2⟩
          · intro hreports run hrun
            rcases List.mem_cons.1 hrun with rfl | hlater
            · exact hok (hreports _ (.head _))
            · exact hsucceeded (fun report hreport => hreports report (.tail _ hreport)) run hlater

end EdgeAgent
