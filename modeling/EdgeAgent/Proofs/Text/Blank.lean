import EdgeAgent.Text.Blank
import Mathlib.Data.List.TakeWhile

/-! What trimming takes off. A text is made of blanks, the trimmed text and blanks, and the trimmed
text is the only one between blanks that neither begins nor ends with one. -/

namespace EdgeAgent

variable {s t before after : List Char}

/-- A text that neither begins nor ends with a blank. -/
def Trimmed (s : List Char) : Prop :=
  ∀ c, s.head? = some c ∨ s.getLast? = some c → isBlank c = false

theorem Trimmed.of_forall (h : ∀ c ∈ s, isBlank c = false) : Trimmed s := by
  rintro c (hc | hc)
  · exact h c (List.mem_of_mem_head? hc)
  · exact h c (List.mem_of_mem_getLast? hc)

theorem dropWhile_isBlank_of_head? (h : ∀ c, s.head? = some c → isBlank c = false) :
    s.dropWhile isBlank = s := by
  cases s with
  | nil => rfl
  | cons c r => exact List.dropWhile_cons_of_neg (by simp [h c rfl])

theorem exists_trim (s : List Char) :
    ∃ before after, s = before ++ trim s ++ after ∧ ∀ c ∈ before ++ after, isBlank c = true := by
  refine ⟨s.takeWhile isBlank, ((trimStart s).reverse.takeWhile isBlank).reverse, ?_, ?_⟩
  · rw [trim, trimEnd, List.append_assoc, ← List.reverse_append, List.takeWhile_append_dropWhile,
      List.reverse_reverse, trimStart, List.takeWhile_append_dropWhile]
  · intro c hc
    rcases List.mem_append.1 hc with hc | hc
    · exact List.mem_takeWhile_imp hc
    · exact List.mem_takeWhile_imp (List.mem_reverse.1 hc)

theorem trimmed_trim (s : List Char) : Trimmed (trim s) := by
  rintro c (hc | hc)
  · -- Without the blanks at its end the text begins as before, unless nothing is left of it.
    have hprefix : trim s <+: trimStart s := by
      rw [trim, trimEnd, ← List.reverse_suffix, List.reverse_reverse]
      exact List.dropWhile_suffix _
    obtain ⟨rest, hrest⟩ := hprefix
    have hhead := List.head?_dropWhile_not isBlank s
    rw [← trimStart, ← hrest, List.head?_append, hc] at hhead
    simpa using hhead
  · rw [trim, trimEnd, List.getLast?_reverse] at hc
    have hhead := List.head?_dropWhile_not isBlank (trimStart s).reverse
    rw [hc] at hhead
    simpa using hhead

theorem trim_append (hblank : ∀ c ∈ before ++ after, isBlank c = true) (hs : Trimmed s) :
    trim (before ++ s ++ after) = s := by
  have hbefore : ∀ c ∈ before, isBlank c = true := fun c hc => hblank c (by simp [hc])
  have hafter : ∀ c ∈ after.reverse, isBlank c = true := fun c hc =>
    hblank c (List.mem_append_right _ (List.mem_reverse.1 hc))
  rw [trim, trimEnd, trimStart, List.append_assoc, List.dropWhile_append_of_pos hbefore]
  cases s with
  | nil =>
      have hnil : after.dropWhile isBlank = [] :=
        List.dropWhile_eq_nil_iff.2 fun c hc => hblank c (List.mem_append_right _ hc)
      rw [List.nil_append, hnil]
      rfl
  | cons c r =>
      have hstart : ((c :: r) ++ after).dropWhile isBlank = (c :: r) ++ after :=
        dropWhile_isBlank_of_head? fun d hd => hs d (.inl hd)
      have hend : (c :: r).reverse.dropWhile isBlank = (c :: r).reverse :=
        dropWhile_isBlank_of_head? fun d hd => hs d (.inr (by rwa [List.head?_reverse] at hd))
      rw [hstart, List.reverse_append, List.dropWhile_append_of_pos hafter, hend,
        List.reverse_reverse]

end EdgeAgent
