import EdgeAgent.Json.Doc

/-! Reading the tokens of a JSON text: the strings and the whole numbers that were written are read
again, whatever follows. What follows a number must not go on with it. -/

namespace EdgeAgent.Doc

/-! ### Strings -/

theorem hexValue?_control {n : Nat} (h : n < 32) :
    hexValue? '0' '0' (Hex.digit (n / 16)) (Hex.digit (n % 16)) = some n := by
  rw [hexValue?, Hex.value?_digit (by omega), Hex.value?_digit (by omega),
    show Hex.value? '0' = some 0 by decide]
  simp only [Option.bind_eq_bind, Option.bind_some]
  exact congrArg some (by omega)

/-- A written character is read as itself. -/
theorem stringBody_escape (c : Char) (rest : Pieces) :
    stringBody ((Json.escape c).map some ++ rest) = before (.char c) (stringBody rest) := by
  unfold Json.escape
  split
  · next h => subst h; rfl
  split
  · next h => subst h; rfl
  split
  · next h => subst h; rfl
  split
  · next h => subst h; rfl
  split
  · next h => subst h; rfl
  split
  · next h => subst h; rfl
  split
  · next h => subst h; rfl
  split
  · next hcontrol =>
    have hunit : Part.ofUnit c.toNat = .char c := by
      rw [Part.ofUnit, if_neg (by omega), Char.ofNat_toNat]
    simp only [List.map_cons, List.map_nil, List.cons_append, List.nil_append]
    rw [stringBody, hexValue?_control hcontrol, ← hunit]
  · next hquote hslash _ _ _ _ _ hcontrol =>
    simp only [List.map_cons, List.map_nil, List.cons_append, List.nil_append]
    rw [stringBody.eq_def]
    split <;> grind

theorem stringBody_quoted (cs : List Char) (rest : Pieces) :
    stringBody ((cs.flatMap Json.escape).map some ++ some '"' :: rest) =
      some (cs.map .char, rest) := by
  induction cs with
  | nil => rfl
  | cons c cs ih =>
      rw [List.flatMap_cons, List.map_append, List.append_assoc, stringBody_escape, ih]
      rfl

theorem joined_map_char (cs : List Char) : joined (cs.map .char) = cs.map some := by
  induction cs with
  | nil => rfl
  | cons c cs ih => rw [List.map_cons, joined, ih, List.map_cons]

theorem stringOf?_map_char (s : String) : stringOf? (s.toList.map .char) = some s := by
  have hall : ∀ cs : List Char, (cs.map some).mapM id = some cs := by
    intro cs
    induction cs with
    | nil => rfl
    | cons c cs ih => simp [List.mapM_cons, ih]
  rw [stringOf?, joined_map_char, hall, Option.map_some, String.ofList_toList]

/-! ### Numbers -/

/-- What follows a number does not go on with it. -/
def Ends (rest : Pieces) : Prop :=
  ∀ c r, rest = some c :: r → Decimal.isDigit c = false ∧ c ≠ '.' ∧ c ≠ 'e' ∧ c ≠ 'E'

theorem ends_nil : Ends [] := by
  intro c r h
  cases h

theorem ends_cons {c : Char} {r : Pieces}
    (h : Decimal.isDigit c = false ∧ c ≠ '.' ∧ c ≠ 'e' ∧ c ≠ 'E') : Ends (some c :: r) := by
  intro c' r' heq
  cases heq
  exact h

theorem digits_append {ds : List Char} (hds : ∀ c ∈ ds, Decimal.isDigit c = true) {rest : Pieces}
    (hrest : Ends rest) : digits (ds.map some ++ rest) = (ds, rest) := by
  induction ds with
  | nil =>
      match rest, hrest with
      | [], _ => rfl
      | none :: _, _ => rfl
      | some c :: r, hrest => simp [digits, (hrest c r rfl).1]
  | cons c ds ih =>
      rw [List.map_cons, List.cons_append, digits, if_pos (hds c (.head _)),
        ih fun d hd => hds d (.tail _ hd)]

theorem fractionPart_of_ends {rest : Pieces} (hrest : Ends rest) :
    fractionPart rest = some ([], rest) := by
  rw [fractionPart.eq_def]
  split
  · exact absurd rfl (hrest _ _ rfl).2.1
  · rfl

theorem exponentPart_of_ends {rest : Pieces} (hrest : Ends rest) :
    exponentPart rest = some (none, rest) := by
  rw [exponentPart.eq_def]
  match rest, hrest with
  | [], _ => rfl
  | none :: _, _ => rfl
  | some c :: r, hrest =>
      have hne := (hrest c r rfl).2.2
      simp [hne.1, hne.2]

theorem le_foldl_digits (ds : List Char) (n : Nat) :
    n ≤ ds.foldl (fun n c => 10 * n + Decimal.digitValue c) n := by
  induction ds generalizing n with
  | nil => exact Nat.le_refl n
  | cons c ds ih =>
      have hlater := ih (10 * n + Decimal.digitValue c)
      rw [List.foldl_cons]
      omega

theorem absorb_eq {ds : List Char} {n : Nat}
    (h : ds.foldl (fun n c => 10 * n + Decimal.digitValue c) n < Nat.pow 2 64) :
    Numeral.absorb n ds = (ds.foldl (fun n c => 10 * n + Decimal.digitValue c) n, []) := by
  induction ds generalizing n with
  | nil => rfl
  | cons c ds ih =>
      rw [List.foldl_cons] at h ⊢
      have hle := le_foldl_digits ds (10 * n + Decimal.digitValue c)
      rw [Numeral.absorb, if_pos (Nat.lt_of_le_of_lt hle h), ih h]

/-- Only zero is written with a leading zero. -/
theorem digits_of_head_zero {n : Nat} (h : (Decimal.digits n).head? = some '0') :
    Decimal.digits n = ['0'] := by
  induction n using Nat.strongRecOn with
  | ind n ih =>
      rw [Decimal.digits] at h ⊢
      by_cases hn : n < 10
      · rw [if_pos hn] at h ⊢
        exact congrArg (· :: []) (Option.some.inj h)
      · rw [if_neg hn] at h
        have hhead : (Decimal.digits (n / 10)).head? = some '0' := by
          rw [List.head?_append] at h
          cases hdigits : (Decimal.digits (n / 10)).head? with
          | none => exact absurd (List.head?_eq_none_iff.1 hdigits) (Decimal.digits_ne_nil _)
          | some c => simpa [hdigits] using h
        have hzero := congrArg Decimal.value (ih (n / 10) (by omega) hhead)
        rw [Decimal.value_digits] at hzero
        have : Decimal.value ['0'] = 0 := by decide
        omega

/-- The digits of a number are read up to what follows them. -/
theorem numeral_digits (n : Nat) {rest : Pieces} (hrest : Ends rest) :
    numeral ((Decimal.digits n).map some ++ rest) =
        some (⟨false, Decimal.digits n, [], none⟩, rest) ∧
      numeral (some '-' :: ((Decimal.digits n).map some ++ rest)) =
        some (⟨true, Decimal.digits n, [], none⟩, rest) := by
  have hdigits := digits_append (fun c hc => Decimal.isDigit_of_mem_digits (n := n) hc) hrest
  have hshort : ¬(Decimal.digits n = [] ∨
      ((Decimal.digits n).head? = some '0' ∧ Decimal.digits n ≠ ['0'])) := by
    rintro (hnil | ⟨hzero, hne⟩)
    · exact Decimal.digits_ne_nil n hnil
    · exact hne (digits_of_head_zero hzero)
  constructor
  · have hminus : ∀ r, (Decimal.digits n).map some ++ rest ≠ some '-' :: r := by
      intro r heq
      obtain ⟨c, ds, hcons⟩ := List.exists_cons_of_ne_nil (Decimal.digits_ne_nil n)
      have hc : c ∈ Decimal.digits n := hcons ▸ List.mem_cons_self
      rw [hcons] at heq
      cases heq
      exact absurd (Decimal.isDigit_of_mem_digits hc) (by decide)
    rw [numeral.eq_def]
    simp only [hdigits, if_neg hshort, fractionPart_of_ends hrest, exponentPart_of_ends hrest,
      Option.bind_eq_bind, Option.bind_some, Option.pure_def]
  · rw [numeral.eq_def]
    simp only [hdigits, if_neg hshort, fractionPart_of_ends hrest, exponentPart_of_ends hrest,
      Option.bind_eq_bind, Option.bind_some, Option.pure_def]

/-- A whole number that fits in 64 bits, with its sign or without. -/
def Fits (n : Int) : Prop :=
  -(Nat.pow 2 63 : Nat) ≤ n ∧ n < (Nat.pow 2 64 : Nat)

theorem number?_digits {n : Nat} :
    (n < Nat.pow 2 64 → Numeral.number? ⟨false, Decimal.digits n, [], none⟩ = some (.int n)) ∧
    (0 < n → n ≤ Nat.pow 2 63 →
      Numeral.number? ⟨true, Decimal.digits n, [], none⟩ = some (.int (-n))) := by
  have hvalue : (Decimal.digits n).foldl (fun n c => 10 * n + Decimal.digitValue c) 0 = n :=
    Decimal.value_digits n
  have habsorb : n < Nat.pow 2 64 → Numeral.absorb 0 (Decimal.digits n) = (n, []) := by
    intro hn
    rw [absorb_eq (hvalue.symm ▸ hn), hvalue]
  constructor
  · intro hn
    simp [Numeral.number?, habsorb hn]
  · intro hpos hn
    have hlt : n < Nat.pow 2 64 := Nat.lt_of_le_of_lt hn (by decide)
    simp [Numeral.number?, habsorb hlt, hpos, hn]

/-- A written whole number is read as itself. -/
theorem numeral_ofInt {n : Int} (hn : Fits n) {rest : Pieces} (hrest : Ends rest) :
    ∃ t, numeral ((Decimal.ofInt n).map some ++ rest) = some (t, rest) ∧
      t.number? = some (.int n) := by
  obtain ⟨hlow, hhigh⟩ := hn
  cases n with
  | ofNat n => exact ⟨_, (numeral_digits n hrest).1, number?_digits.1 (Int.ofNat_lt.1 hhigh)⟩
  | negSucc n =>
      refine ⟨_, (numeral_digits (n + 1) hrest).2, ?_⟩
      exact number?_digits.2 (Nat.succ_pos n) (by omega)

end EdgeAgent.Doc
