import EdgeAgent.Http.Percent
import EdgeAgent.Http.Uri
import EdgeAgent.Proofs.Text.Utf8

/-!
Bytes in a path. A byte may be spelled by its two digits, in either case, or stand for itself when
it ends nothing; reading gives the bytes back whichever way each of them is spelled.
-/

namespace EdgeAgent

namespace Percent

variable {b : UInt8} {n : Nat} {bytes spelling : List UInt8}

/-- A digit of a value below sixteen, in either case. -/
def IsDigit (n : Nat) (b : UInt8) : Prop :=
  (n < 10 ∧ b.toNat = '0'.toNat + n) ∨
    (10 ≤ n ∧ n < 16 ∧ (b.toNat = 'a'.toNat + (n - 10) ∨ b.toNat = 'A'.toNat + (n - 10)))

/-- The spellings of bytes in a path: each byte is given by its two digits, or stands for itself
when it may do so and is neither a slash nor a percent sign. -/
inductive Spells : List UInt8 → List UInt8 → Prop
  | nil : Spells [] []
  | encoded {b high low : UInt8} {bytes spelling : List UInt8} (hhigh : IsDigit (b.toNat / 16) high)
      (hlow : IsDigit (b.toNat % 16) low) (h : Spells bytes spelling) :
      Spells (b :: bytes) (37 :: high :: low :: spelling)
  | literal {b : UInt8} {bytes spelling : List UInt8} (hpath : Uri.isPathByte b = true)
      (hslash : b ≠ 47) (hpercent : b ≠ 37) (h : Spells bytes spelling) :
      Spells (b :: bytes) (b :: spelling)

theorem IsDigit.byteValue? (h : IsDigit n b) : Hex.byteValue? b = some n := by
  have hb := b.toNat_lt
  have hchar : (Char.ofNat b.toNat).toNat = b.toNat := Utf8.toNat_ofNat (Or.inl (by omega))
  simp only [IsDigit, Char.reduceToNat] at h
  rw [Hex.byteValue?, Hex.value?, hchar]
  rcases h with ⟨hn, hdigit⟩ | ⟨hn, hlt, hdigit | hdigit⟩
  · rw [if_pos (by omega), hdigit, Nat.add_sub_cancel_left]
  · rw [if_neg (by omega), if_pos (by omega)]
    exact congrArg some (by omega)
  · rw [if_neg (by omega), if_neg (by omega), if_pos (by omega)]
    exact congrArg some (by omega)

theorem decode_cons_ne (h : b ≠ 37) (rest : List UInt8) : decode (b :: rest) = b :: decode rest := by
  rw [decode]
  rintro high low rest' rfl
  exact absurd rfl h

theorem decode_encoded {high low : UInt8} (hhigh : IsDigit (b.toNat / 16) high)
    (hlow : IsDigit (b.toNat % 16) low) (rest : List UInt8) :
    decode (37 :: high :: low :: rest) = b :: decode rest := by
  have hsum : 16 * (b.toNat / 16) + b.toNat % 16 = b.toNat := Nat.div_add_mod _ _
  simp only [decode, hhigh.byteValue?, hlow.byteValue?, hsum, UInt8.ofNat_toNat]

theorem Spells.decode_eq (h : Spells bytes spelling) : decode spelling = bytes := by
  induction h with
  | nil => rfl
  | encoded hhigh hlow _ ih => rw [decode_encoded hhigh hlow, ih]
  | literal _ _ hpercent _ ih => rw [decode_cons_ne hpercent, ih]

theorem IsDigit.plain (h : IsDigit n b) : b ≠ 35 ∧ b ≠ 47 ∧ b ≠ 63 := by
  simp only [IsDigit, Char.reduceToNat] at h
  refine ⟨?_, ?_, ?_⟩ <;> rintro rfl <;> simp at h <;> omega

/-- A spelling has no byte that ends a segment, a path or an address. -/
theorem Spells.plain (h : Spells bytes spelling) : ∀ b ∈ spelling, b ≠ 35 ∧ b ≠ 47 ∧ b ≠ 63 := by
  induction h with
  | nil => simp
  | encoded hhigh hlow _ ih =>
      intro b hb
      simp only [List.mem_cons] at hb
      rcases hb with rfl | rfl | rfl | hb
      · decide
      · exact hhigh.plain
      · exact hlow.plain
      · exact ih b hb
  | literal hpath hslash _ _ ih =>
      intro b hb
      rcases List.mem_cons.1 hb with rfl | hb
      · refine ⟨?_, hslash, ?_⟩ <;> rintro rfl <;> exact absurd hpath (by decide)
      · exact ih b hb

theorem Spells.ne_nil (h : Spells bytes spelling) (hbytes : bytes ≠ []) : spelling ≠ [] := by
  cases h with
  | nil => exact absurd rfl hbytes
  | encoded => simp
  | literal => simp

end Percent

end EdgeAgent
