import EdgeAgent.Proofs.Text.Utf8

/-!
The order of texts is that of their bytes. Of two characters the lesser one has the lesser first
byte, or the same number of bytes and the lesser of the first two that differ; so no text comes
before another one that its bytes come after.
-/

namespace EdgeAgent.Utf8

variable {m n : Nat} {as bs : List UInt8} {c d : Char} {s t : String}

theorem ofNat_cons_lt (hn : n < 256) (h : m < n ∨ m = n ∧ as < bs) :
    UInt8.ofNat m :: as < UInt8.ofNat n :: bs := by
  rw [List.cons_lt_cons_iff]
  refine h.imp (fun hlt => ?_) (And.imp (congrArg _) id)
  rwa [UInt8.lt_iff_toNat_lt, UInt8.toNat_ofNat_of_lt' hn,
    UInt8.toNat_ofNat_of_lt' (Nat.lt_trans hlt hn)]

theorem encodeChar_append_lt (h : c < d) (as bs : List UInt8) :
    encodeChar c ++ as < encodeChar d ++ bs := by
  have hlt : c.toNat < d.toNat := h
  have hd := toNat_lt d
  rw [encodeChar_eq c, encodeChar_eq d]
  -- A character of fewer bytes has the lesser first byte.
  by_cases h₁ : c.toNat < 0x80
  · rw [if_pos h₁]
    repeat' split
    all_goals exact ofNat_cons_lt (by omega) (.inl (by omega))
  rw [if_neg h₁, if_neg (by omega : ¬d.toNat < 0x80)]
  by_cases h₂ : c.toNat < 0x800
  · rw [if_pos h₂]
    by_cases hd₂ : d.toNat < 0x800
    · rw [if_pos hd₂]
      by_cases hfirst : c.toNat / 64 < d.toNat / 64
      · exact ofNat_cons_lt (by omega) (.inl (by omega))
      · refine ofNat_cons_lt (by omega) (.inr ⟨by omega, ?_⟩)
        exact ofNat_cons_lt (by omega) (.inl (by omega))
    · rw [if_neg hd₂]
      split
      all_goals exact ofNat_cons_lt (by omega) (.inl (by omega))
  rw [if_neg h₂, if_neg (by omega : ¬d.toNat < 0x800)]
  by_cases h₃ : c.toNat < 0x10000
  · rw [if_pos h₃]
    by_cases hd₃ : d.toNat < 0x10000
    · rw [if_pos hd₃]
      by_cases hfirst : c.toNat / 4096 < d.toNat / 4096
      · exact ofNat_cons_lt (by omega) (.inl (by omega))
      · refine ofNat_cons_lt (by omega) (.inr ⟨by omega, ?_⟩)
        by_cases hsecond : c.toNat / 64 % 64 < d.toNat / 64 % 64
        · exact ofNat_cons_lt (by omega) (.inl (by omega))
        · refine ofNat_cons_lt (by omega) (.inr ⟨by omega, ?_⟩)
          exact ofNat_cons_lt (by omega) (.inl (by omega))
    · rw [if_neg hd₃]
      exact ofNat_cons_lt (by omega) (.inl (by omega))
  rw [if_neg h₃, if_neg (by omega : ¬d.toNat < 0x10000)]
  by_cases hfirst : c.toNat / 262144 < d.toNat / 262144
  · exact ofNat_cons_lt (by omega) (.inl (by omega))
  · refine ofNat_cons_lt (by omega) (.inr ⟨by omega, ?_⟩)
    by_cases hsecond : c.toNat / 4096 % 64 < d.toNat / 4096 % 64
    · exact ofNat_cons_lt (by omega) (.inl (by omega))
    · refine ofNat_cons_lt (by omega) (.inr ⟨by omega, ?_⟩)
      by_cases hthird : c.toNat / 64 % 64 < d.toNat / 64 % 64
      · exact ofNat_cons_lt (by omega) (.inl (by omega))
      · refine ofNat_cons_lt (by omega) (.inr ⟨by omega, ?_⟩)
        exact ofNat_cons_lt (by omega) (.inl (by omega))

theorem encodeChar_ne_nil (c : Char) : encodeChar c ≠ [] := by
  rw [encodeChar_eq]
  repeat' split
  all_goals exact List.cons_ne_nil _ _

theorem encode_lt {s t : List Char} (h : s < t) : encode s < encode t := by
  induction s generalizing t with
  | nil =>
      cases t with
      | nil => exact absurd h (List.lt_irrefl [])
      | cons d t =>
          cases hbytes : encode (d :: t) with
          | nil => exact absurd (List.append_eq_nil_iff.1 hbytes).1 (encodeChar_ne_nil d)
          | cons b r => exact List.nil_lt_cons b r
  | cons c s ih =>
      cases t with
      | nil => exact absurd h (List.not_lt_nil _)
      | cons d t =>
          simp only [encode, List.flatMap_cons]
          rcases List.cons_lt_cons_iff.1 h with hlt | ⟨rfl, hrest⟩
          · exact encodeChar_append_lt hlt _ _
          · exact List.append_left_lt (ih hrest)

theorem bytes_lt_iff : bytes s < bytes t ↔ s < t := by
  constructor
  · intro hbytes
    apply Classical.byContradiction
    intro hnot
    have hne : t ≠ s := by
      rintro rfl
      exact List.lt_irrefl _ hbytes
    have hgt : t < s := Std.lt_of_le_of_ne (Std.not_lt.1 hnot) hne
    exact List.lt_irrefl _ (List.lt_trans hbytes (encode_lt hgt))
  · exact fun hlt => encode_lt hlt

/-- The bytes of a text come before those of another one exactly when it comes before it itself. -/
theorem bytes_le_iff : bytes s ≤ bytes t ↔ s ≤ t := by
  calc bytes s ≤ bytes t
      ↔ ¬bytes t < bytes s := Std.not_lt.symm
    _ ↔ ¬t < s := not_congr bytes_lt_iff
    _ ↔ s ≤ t := Std.not_lt

end EdgeAgent.Utf8
