import EdgeAgent.Http.Header
import EdgeAgent.Proofs.Text.Utf8

/-!
What can stand in a header. A name is a token in either case, and two texts are one name when they
agree in lower case; a value is any text without control characters but the tab, and is its bytes.
-/

namespace EdgeAgent

variable {b : UInt8} {c : Char} {s : String}

namespace HeaderName

variable {n : HeaderName}

/-- A character of a token. -/
def IsTokenChar (c : Char) : Prop :=
  ('a' ≤ c ∧ c ≤ 'z') ∨ ('A' ≤ c ∧ c ≤ 'Z') ∨ ('0' ≤ c ∧ c ≤ '9') ∨
    c ∈ ['!', '#', '$', '%', '&', '\'', '*', '+', '-', '.', '^', '_', '\x60', '|', '~']

/-- A token that is not too long for the name of a header. -/
def IsToken (s : String) : Prop :=
  1 ≤ s.length ∧ s.length ≤ 65535 ∧ ∀ c ∈ s.toList, IsTokenChar c

instance (c : Char) : Decidable (IsTokenChar c) :=
  inferInstanceAs (Decidable (_ ∨ _))

instance (s : String) : Decidable (IsToken s) :=
  letI := List.decidableBAll IsTokenChar s.toList
  inferInstanceAs (Decidable (_ ∧ _ ∧ _))

theorem isHeaderNameChar_lowerChar_iff :
    isHeaderNameChar (lowerChar c) = true ↔ IsTokenChar c := by
  have hle : ∀ {d e : Char}, d ≤ e ↔ d.toNat ≤ e.toNat := Iff.rfl
  by_cases hupper : 65 ≤ c.toNat ∧ c.toNat ≤ 90
  · have hlower : (Char.ofNat (c.toNat + 32)).toNat = c.toNat + 32 :=
      Utf8.toNat_ofNat (Or.inl (by omega))
    rw [lowerChar, if_pos hupper]
    constructor
    · intro _
      exact .inr (.inl hupper)
    · intro _
      simp only [isHeaderNameChar, hlower, Bool.or_eq_true, Bool.and_eq_true, decide_eq_true_eq]
      exact .inl (.inl (by omega))
  · rw [lowerChar, if_neg hupper]
    simp only [isHeaderNameChar, IsTokenChar, hle, Char.reduceToNat, Bool.or_eq_true,
      Bool.and_eq_true, decide_eq_true_eq, hupper, false_or, or_assoc]

theorem isHeaderName_lowerChars_iff : isHeaderName (lowerChars s.toList) = true ↔ IsToken s := by
  simp only [isHeaderName, IsToken, lowerChars, Bool.and_eq_true, decide_eq_true_eq,
    List.all_eq_true, List.mem_map, forall_exists_index, and_imp, forall_apply_eq_imp_iff₂,
    isHeaderNameChar_lowerChar_iff, List.length_map, String.length_toList, and_assoc]

theorem ofText?_eq_some_iff : ofText? s = some n ↔ n.text.toList = lowerChars s.toList := by
  rw [← String.toList_ofList (l := lowerChars s.toList), String.toList_inj]
  constructor
  · intro h
    simp only [ofText?, Option.dite_none_right_eq_some, Option.some.injEq] at h
    obtain ⟨-, rfl⟩ := h
    rfl
  · intro h
    simp only [ofText?, ← h, dif_pos n.valid]

theorem ofText?_eq_none_iff : ofText? s = none ↔ ¬IsToken s := by
  rw [← isHeaderName_lowerChars_iff, ofText?]
  simp

theorem exists_ofText?_iff : (∃ n, ofText? s = some n) ↔ IsToken s := by
  rw [← Option.ne_none_iff_exists', Ne, ofText?_eq_none_iff, Decidable.not_not]

end HeaderName

namespace HeaderValue

variable {v : HeaderValue}

/-- A control character of ASCII. -/
def IsControl (c : Char) : Prop :=
  c.toNat < 32 ∨ c.toNat = 127

/-- A text without control characters but the tab. -/
def IsText (s : String) : Prop :=
  ∀ c ∈ s.toList, IsControl c → c = '\t'

instance (c : Char) : Decidable (IsControl c) :=
  inferInstanceAs (Decidable (_ ∨ _))

instance (s : String) : Decidable (IsText s) :=
  List.decidableBAll (fun c => IsControl c → c = '\t') s.toList

theorem isHeaderValueByte_ofNat {m : Nat} (h : 0x80 ≤ m) (hm : m < 256) :
    isHeaderValueByte (UInt8.ofNat m) = true := by
  simp only [isHeaderValueByte, UInt8.toNat_ofNat_of_lt' hm, Bool.or_eq_true, Bool.and_eq_true,
    decide_eq_true_eq]
  omega

theorem isHeaderValueByte_of_isVisible (h : isVisible b = true) :
    isHeaderValueByte b = true := by
  simp only [isVisible, Bool.or_eq_true, Bool.and_eq_true, decide_eq_true_eq] at h
  simp only [isHeaderValueByte, Bool.or_eq_true, Bool.and_eq_true, decide_eq_true_eq]
  omega

/-- The bytes of a character beyond ASCII may all stand in a value. -/
theorem all_encodeChar_iff :
    (∀ b ∈ Utf8.encodeChar c, isHeaderValueByte b = true) ↔ (IsControl c → c = '\t') := by
  have htab : c = '\t' ↔ c.toNat = 9 := Char.toNat_inj.symm
  have hlt : c.toNat < 0x110000 := Utf8.toNat_lt c
  rw [htab, IsControl, Utf8.encodeChar_eq]
  by_cases hascii : c.toNat < 0x80
  · have htoNat : (UInt8.ofNat c.toNat).toNat = c.toNat :=
      UInt8.toNat_ofNat_of_lt' (Nat.lt_trans hascii (by decide))
    simp only [if_pos hascii, List.forall_mem_singleton, isHeaderValueByte, htoNat,
      Bool.or_eq_true, Bool.and_eq_true, decide_eq_true_eq]
    omega
  · refine iff_of_true ?_ (by omega)
    rw [if_neg hascii]
    intro b hb
    repeat' split at hb
    all_goals
      simp only [List.mem_cons, List.not_mem_nil, or_false] at hb
      rcases hb with rfl | rfl | rfl | rfl
    all_goals exact isHeaderValueByte_ofNat (by omega) (by omega)

theorem ofText?_eq_some_iff : ofText? s = some v ↔ v.bytes = Utf8.bytes s := by
  rw [ofText?, ofBytes?]
  constructor
  · intro h
    simp only [Option.dite_none_right_eq_some, Option.some.injEq] at h
    obtain ⟨-, rfl⟩ := h
    rfl
  · intro h
    simp only [← h, dif_pos v.valid]

theorem ofText?_eq_none_iff : ofText? s = none ↔ ¬IsText s := by
  have hall : (Utf8.bytes s).all isHeaderValueByte = true ↔ IsText s := by
    simp only [List.all_eq_true, Utf8.bytes, Utf8.encode, List.mem_flatMap, forall_exists_index,
      and_imp, IsText, ← all_encodeChar_iff]
    exact ⟨fun h c hc b hb => h b c hc hb, fun h b c hc hb => h c hc b hb⟩
  rw [← hall, ofText?, ofBytes?]
  simp

theorem exists_ofText?_iff : (∃ v, ofText? s = some v) ↔ IsText s := by
  rw [← Option.ne_none_iff_exists', Ne, ofText?_eq_none_iff, Decidable.not_not]

end HeaderValue

end EdgeAgent
