import EdgeAgent.Cluster.Server
import Mathlib.Data.List.Nodup
import Mathlib.Logic.Function.Basic

/-! What a server stores. A request is refused and changes nothing, or it stores one object at its
place; only a removal goes further, to the objects that the removed one owns. -/

namespace EdgeAgent

namespace Server

variable {P D : Type} [DecidableEq P] {form : Form D} {s : Server P D} {place : P} {d : D}

/-! ### What is stored where -/

/-- No two objects lie at one place. -/
def Tidy (s : Server P D) : Prop :=
  (s.objects.map Prod.fst).Nodup

theorem find?_putIn (place other : P) (d : D) (objects : List (P × D)) :
    ((putIn place d objects).find? fun x => x.1 = other).map (·.2) =
      if other = place then some d else (objects.find? fun x => x.1 = other).map (·.2) := by
  induction objects with
  | nil =>
      by_cases hother : other = place
      · simp [putIn, hother]
      · simp [putIn, hother, Ne.symm hother]
  | cons x objects ih =>
      rw [putIn]
      by_cases hx : x.1 = place
      · rw [if_pos hx]
        by_cases hother : other = place
        · simp [hother]
        · simp [hother, Ne.symm hother, hx]
      · rw [if_neg hx]
        by_cases hsame : x.1 = other
        · have hother : other ≠ place := hsame ▸ hx
          simp [hsame, hother]
        · simpa [List.find?_cons, hsame] using ih

/-- What is stored is found at its place, and nothing else changes. -/
theorem find?_store (form : Form D) (place : P) (uid : Nat → Option String) (object : D)
    (s : Server P D) : (s.store form place uid object).2.find? =
      Function.update s.find? place (some (s.store form place uid object).1) := by
  funext other
  change ((putIn place _ s.objects).find? fun x => x.1 = other).map (·.2) = _
  rw [find?_putIn]
  by_cases hother : other = place
  · rw [if_pos hother, hother, Function.update_self]
    rfl
  · rw [if_neg hother, Function.update_of_ne hother]
    rfl

theorem keys_putIn (place : P) (d : D) (objects : List (P × D)) :
    (putIn place d objects).map Prod.fst =
      if place ∈ objects.map Prod.fst then objects.map Prod.fst
      else objects.map Prod.fst ++ [place] := by
  induction objects with
  | nil => simp [putIn]
  | cons x objects ih =>
      rw [putIn]
      by_cases hx : x.1 = place
      · simp [hx]
      · rw [if_neg hx, List.map_cons, ih, List.map_cons]
        by_cases hmem : place ∈ objects.map Prod.fst
        · rw [if_pos hmem, if_pos (.tail _ hmem)]
        · have hnone : place ∉ x.1 :: objects.map Prod.fst := by
            rw [List.mem_cons, not_or]
            exact ⟨Ne.symm hx, hmem⟩
          rw [if_neg hmem, if_neg hnone, List.cons_append]

theorem Tidy.store (h : s.Tidy) (form : Form D) (place : P) (uid : Nat → Option String)
    (object : D) : (s.store form place uid object).2.Tidy := by
  change ((putIn place _ s.objects).map Prod.fst).Nodup
  rw [keys_putIn]
  by_cases hmem : place ∈ s.objects.map Prod.fst
  · rw [if_pos hmem]
    exact h
  · rw [if_neg hmem, ← List.concat_eq_append, List.nodup_concat]
    exact ⟨hmem, h⟩

theorem Tidy.find?_eq_some_iff (h : s.Tidy) : s.find? place = some d ↔ (place, d) ∈ s.objects := by
  rw [find?, Option.map_eq_some_iff]
  constructor
  · rintro ⟨x, hx, rfl⟩
    have hplace : x.1 = place := by simpa using List.find?_some hx
    rw [← hplace]
    exact List.mem_of_find?_eq_some hx
  · intro hmem
    have hsome : (s.objects.find? fun x => x.1 = place).isSome := by
      rw [List.find?_isSome]
      exact ⟨_, hmem, by simp⟩
    obtain ⟨x, hx⟩ := Option.isSome_iff_exists.1 hsome
    have hplace : x.1 = place := by simpa using List.find?_some hx
    have heq := List.inj_on_of_nodup_map h (List.mem_of_find?_eq_some hx) hmem hplace
    exact ⟨x, hx, congrArg Prod.snd heq⟩

/-! ### What a request comes to -/

theorem create_cases (form : Form D) (place : P) (object : D) (s : Server P D) :
    (∃ refusal, s.create form place object = (.error refusal, s)) ∨
      s.find? place = none ∧ s.create form place object =
        Prod.map .ok id (s.store form place s.newUid (form.withoutStatus object)) := by
  rw [create]
  cases hfound : s.find? place with
  | some stored => exact .inl ⟨_, rfl⟩
  | none => exact .inr ⟨rfl, rfl⟩

theorem replace_cases (form : Form D) (place : P) (object : D) (s : Server P D) :
    (∃ refusal, s.replace form place object = (.error refusal, s)) ∨
      ∃ stored, s.find? place = some stored ∧ s.replace form place object =
        Prod.map .ok id
          (s.store form place (fun _ => form.uid? stored) (form.withStatusOf stored object)) := by
  rw [replace]
  cases hfound : s.find? place with
  | none => exact .inl ⟨_, rfl⟩
  | some stored =>
      by_cases hstale :
          (form.version? object).isSome ∧ form.version? object ≠ form.version? stored
      · exact .inl ⟨_, if_pos hstale⟩
      · exact .inr ⟨stored, rfl, if_neg hstale⟩

theorem patchStatus_cases (form : Form D) (place : P) (patch : Json) (s : Server P D) :
    (∃ refusal, s.patchStatus form place patch = (.error refusal, s)) ∨
      ∃ stored, s.find? place = some stored ∧ s.patchStatus form place patch =
        Prod.map .ok id
          (s.store form place (fun _ => form.uid? stored) (form.mergeStatus patch stored)) := by
  rw [patchStatus]
  cases hfound : s.find? place with
  | none => exact .inl ⟨_, rfl⟩
  | some stored => exact .inr ⟨stored, rfl, rfl⟩

theorem Tidy.create (h : s.Tidy) (form : Form D) (place : P) (object : D) :
    (s.create form place object).2.Tidy := by
  rcases create_cases form place object s with ⟨refusal, heq⟩ | ⟨-, heq⟩
  · rw [heq]
    exact h
  · rw [heq]
    exact h.store form place _ _

theorem Tidy.replace (h : s.Tidy) (form : Form D) (place : P) (object : D) :
    (s.replace form place object).2.Tidy := by
  rcases replace_cases form place object s with ⟨refusal, heq⟩ | ⟨stored, -, heq⟩
  · rw [heq]
    exact h
  · rw [heq]
    exact h.store form place (fun _ => form.uid? stored) _

theorem Tidy.patchStatus (h : s.Tidy) (form : Form D) (place : P) (patch : Json) :
    (s.patchStatus form place patch).2.Tidy := by
  rcases patchStatus_cases form place patch s with ⟨refusal, heq⟩ | ⟨stored, -, heq⟩
  · rw [heq]
    exact h
  · rw [heq]
    exact h.store form place (fun _ => form.uid? stored) _

/-- The objects that are left when a stored one is removed. -/
theorem mem_delete_iff {stored : D} (hfound : s.find? place = some stored) (foreground : Bool)
    (x : P × D) : x ∈ (s.delete form place foreground).2.objects ↔
      x ∈ s.objects ∧ x.1 ≠ place ∧
        ¬∃ uid, form.uid? stored = some uid ∧ foreground = true ∧ uid ∈ form.owners x.2 := by
  simp only [delete, hfound, List.mem_filter]
  cases form.uid? stored with
  | none => simp
  | some uid => cases foreground <;> simp

theorem Tidy.delete (h : s.Tidy) (form : Form D) (place : P) (foreground : Bool) :
    (s.delete form place foreground).2.Tidy := by
  rw [Server.delete]
  cases s.find? place with
  | none => exact h
  | some stored => exact h.sublist (List.filter_sublist.map _)

/-- What is removed is the object itself, or owned by it. -/
theorem Tidy.delete_cases (h : s.Tidy) (form : Form D) (place : P) (foreground : Bool) :
    (s.delete form place foreground).2 = s ∨ ∃ stored, s.find? place = some stored ∧
      ∀ other, (s.delete form place foreground).2.find? other = s.find? other ∨
        (s.delete form place foreground).2.find? other = none ∧ (other = place ∨
          ∃ uid d, form.uid? stored = some uid ∧ s.find? other = some d ∧
            uid ∈ form.owners d) := by
  cases hfound : s.find? place with
  | none =>
      refine .inl ?_
      rw [Server.delete, hfound]
  | some stored =>
      refine .inr ⟨stored, rfl, fun other => ?_⟩
      cases hafter : (s.delete form place foreground).2.find? other with
      | some d =>
          have hmem := (h.delete form place foreground).find?_eq_some_iff.1 hafter
          rw [mem_delete_iff hfound, ← h.find?_eq_some_iff] at hmem
          exact .inl hmem.1.symm
      | none =>
          cases hbefore : s.find? other with
          | none => exact .inl rfl
          | some d =>
              refine .inr ⟨rfl, ?_⟩
              by_contra hleft
              rw [not_or] at hleft
              have hmem : (other, d) ∈ (s.delete form place foreground).2.objects := by
                rw [mem_delete_iff hfound]
                refine ⟨h.find?_eq_some_iff.1 hbefore, hleft.1, ?_⟩
                rintro ⟨uid, huid, -, howned⟩
                exact hleft.2 ⟨uid, d, huid, rfl, howned⟩
              rw [← (h.delete form place foreground).find?_eq_some_iff, hafter] at hmem
              cases hmem

end Server

end EdgeAgent
