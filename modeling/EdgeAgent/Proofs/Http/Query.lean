import EdgeAgent.Http.Query
import EdgeAgent.Proofs.Http.Percent

/-!
The text of a form is read back. A part is written without the bytes that end a part, a pair or an
address, and the plus sign in it stands for a blank alone, since one of its own is written by its
digits; so cutting at `&` and at the first `=` undoes the joining, and any pairs in any order come
back as they were.
-/

namespace EdgeAgent

namespace Percent

theorem isDigit_digit {n : Nat} (h : n < 16) : IsDigit n (digit n) := by
  have toNat : ∀ m, m < 256 → (UInt8.ofNat m).toNat = m := fun m hm => UInt8.toNat_ofNat_of_lt' hm
  unfold IsDigit digit
  by_cases hn : n < 10
  · rw [if_pos hn, toNat _ (by omega)]
    exact .inl ⟨hn, rfl⟩
  · rw [if_neg hn, toNat _ (by omega)]
    exact .inr ⟨by omega, h, .inr (by simp only [Char.reduceToNat]; omega)⟩

end Percent

namespace Query

variable {b : UInt8} {bs : List UInt8} {s : String}

/-- The bytes with each plus sign as a blank. -/
def unplussed (bs : List UInt8) : List UInt8 :=
  bs.map fun b => if b = plus then space else b

/-! ### What is written -/

theorem isPlain_digit {n : Nat} (h : n < 16) : isPlain (Percent.digit n) = true := by
  have table : ∀ n : Fin 16, isPlain (Percent.digit n) = true := by decide
  exact table ⟨n, h⟩

/-- A part is written in plain bytes, plus signs and percent signs. -/
theorem written_encodePart (h : b ∈ encodePart s) : isPlain b = true ∨ b = plus ∨ b = 37 := by
  obtain ⟨x, -, hb⟩ := List.mem_flatMap.1 h
  have hx := x.toNat_lt
  unfold encodeByte at hb
  split at hb
  · exact .inr (.inl (List.mem_singleton.1 hb))
  · split at hb
    · next hplain => exact .inl (List.mem_singleton.1 hb ▸ hplain)
    · simp only [Percent.encodeByte, List.mem_cons, List.not_mem_nil, or_false] at hb
      rcases hb with rfl | rfl | rfl
      · exact .inr (.inr rfl)
      · exact .inl (isPlain_digit (by omega))
      · exact .inl (isPlain_digit (by omega))

theorem ampersand_not_mem_encodePart (s : String) : ampersand ∉ encodePart s := fun h => by
  rcases written_encodePart h with h | h | h <;> exact absurd h (by decide)

theorem equals_not_mem_encodePart (s : String) : equals ∉ encodePart s := fun h => by
  rcases written_encodePart h with h | h | h <;> exact absurd h (by decide)

theorem ampersand_not_mem_encodePair (pair : String × String) : ampersand ∉ encodePair pair := by
  rw [encodePair, List.mem_append, List.mem_cons]
  rintro (h | h | h)
  · exact ampersand_not_mem_encodePart _ h
  · exact absurd h (by decide)
  · exact ampersand_not_mem_encodePart _ h

/-- A query is written in visible bytes that may stand in one. -/
theorem visible_encode {pairs : List (String × String)} (h : b ∈ encode pairs) :
    Uri.isQueryByte b = true ∧ HeaderValue.isVisible b = true := by
  have part : ∀ {s b}, b ∈ encodePart s →
      Uri.isQueryByte b = true ∧ HeaderValue.isVisible b = true := by
    intro s b hb
    rcases written_encodePart hb with hb | rfl | rfl
    · simp only [isPlain, Bool.or_eq_true, Bool.and_eq_true, decide_eq_true_eq] at hb
      simp only [Uri.isQueryByte, HeaderValue.isVisible, Bool.or_eq_true, Bool.and_eq_true,
        decide_eq_true_eq]
      omega
    · decide
    · decide
  have whole : ∀ {pair : String × String} {b}, b ∈ encodePair pair →
      Uri.isQueryByte b = true ∧ HeaderValue.isVisible b = true := by
    intro pair b hb
    rw [encodePair, List.mem_append, List.mem_cons] at hb
    rcases hb with hb | rfl | hb
    · exact part hb
    · decide
    · exact part hb
  fun_induction encode pairs with
  | case1 => cases h
  | case2 pair => exact whole h
  | case3 pair r _ ih =>
      rw [List.mem_append, List.mem_cons] at h
      rcases h with h | rfl | h
      · exact whole h
      · decide
      · exact ih h

/-! ### Reading it back -/

theorem decode_encodeByte (b : UInt8) (rest : List UInt8) :
    Percent.decode (unplussed (encodeByte b ++ rest)) = b :: Percent.decode (unplussed rest) := by
  have hb := b.toNat_lt
  unfold encodeByte
  split
  · next hspace =>
    rw [hspace]
    exact Percent.decode_cons_ne (by decide) _
  · split
    · next hplain =>
      have hplus : b ≠ plus := by rintro rfl; exact absurd hplain (by decide)
      have hpercent : b ≠ 37 := by rintro rfl; exact absurd hplain (by decide)
      simp only [unplussed, List.singleton_append, List.map_cons, if_neg hplus]
      exact Percent.decode_cons_ne hpercent _
    · have digit : ∀ {n}, n < 16 → Percent.digit n ≠ plus := fun hn h =>
        absurd (h ▸ isPlain_digit hn) (by decide)
      have hhigh : b.toNat / 16 < 16 := by omega
      have hlow : b.toNat % 16 < 16 := by omega
      simp only [unplussed, Percent.encodeByte, List.cons_append, List.nil_append, List.map_cons,
        if_neg (digit hhigh), if_neg (digit hlow)]
      exact Percent.decode_encoded (Percent.isDigit_digit hhigh) (Percent.isDigit_digit hlow) _

theorem decodePart_encodePart (s : String) : decodePart (encodePart s) = s := by
  have hbytes : ∀ bs : List UInt8, Percent.decode (unplussed (bs.flatMap encodeByte)) = bs := by
    intro bs
    induction bs with
    | nil => rfl
    | cons b r ih => rw [List.flatMap_cons, decode_encodeByte, ih]
  calc decodePart (encodePart s)
      = Utf8.lossy (Percent.decode (unplussed ((Utf8.bytes s).flatMap encodeByte))) := rfl
    _ = Utf8.lossy (Utf8.bytes s) := by rw [hbytes]
    _ = s := Utf8.lossy_bytes s

theorem decodePair_encodePair (pair : String × String) : decodePair (encodePair pair) = pair := by
  rw [decodePair, encodePair, cutFirst_append _ (equals_not_mem_encodePart pair.1)]
  simp only [decodePart_encodePart]

theorem encodePair_ne_nil (pair : String × String) : encodePair pair ≠ [] := by
  simp [encodePair]

/-- The pairs of a form are read back from its text. -/
theorem decode_encode (pairs : List (String × String)) : decode (encode pairs) = pairs := by
  fun_induction encode pairs with
  | case1 => rfl
  | case2 pair =>
      simp [decode, fields_of_not_mem (ampersand_not_mem_encodePair pair), encodePair_ne_nil,
        decodePair_encodePair]
  | case3 pair r _ ih =>
      rw [decode, fields_append _ (ampersand_not_mem_encodePair pair)]
      simpa [decode, encodePair_ne_nil, decodePair_encodePair] using ih

end Query

end EdgeAgent
