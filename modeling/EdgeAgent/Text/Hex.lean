/-! Hexadecimal text. A byte is two lower-case digits; digits of either case are read. -/

namespace EdgeAgent.Hex

/-- The lower-case digit of a value below sixteen. -/
def digit (n : Nat) : Char :=
  if n < 10 then Char.ofNat (48 + n) else Char.ofNat (87 + n)

/-- The value of a digit in either case. -/
def value? (c : Char) : Option Nat :=
  let n := c.toNat
  if 48 ≤ n ∧ n ≤ 57 then some (n - 48)
  else if 97 ≤ n ∧ n ≤ 102 then some (n - 87)
  else if 65 ≤ n ∧ n ≤ 70 then some (n - 55)
  else none

/-- The value of a digit given as a byte. -/
def byteValue? (b : UInt8) : Option Nat :=
  value? (Char.ofNat b.toNat)

/-- Two digits per byte. -/
def encode (bs : List UInt8) : List Char :=
  bs.flatMap fun b => [digit (b.toNat / 16), digit (b.toNat % 16)]

/-- The text of bytes, two digits each. -/
def text (bs : List UInt8) : String :=
  String.ofList (encode bs)

/-- The bytes of an even number of digits. -/
def decode? : List Char → Option (List UInt8)
  | [] => some []
  | [_] => none
  | a :: b :: r => do
    let high ← value? a
    let low ← value? b
    let rest ← decode? r
    return UInt8.ofNat (16 * high + low) :: rest

/-- A number in as few digits as it needs. -/
def ofNat (n : Nat) : List Char :=
  if n < 16 then [digit n] else ofNat (n / 16) ++ [digit (n % 16)]

private theorem value?_digit_table : ∀ n : Fin 16, value? (digit n.val) = some n.val := by
  decide

theorem value?_digit {n : Nat} (h : n < 16) : value? (digit n) = some n :=
  value?_digit_table ⟨n, h⟩

theorem decode?_encode (bs : List UInt8) : decode? (encode bs) = some bs := by
  induction bs with
  | nil => rfl
  | cons b r ih =>
    have hb : b.toNat < 256 := b.toNat_lt
    simp only [encode, List.flatMap_cons, List.cons_append, List.nil_append] at ih ⊢
    rw [decode?, value?_digit (by omega), value?_digit (by omega), ih]
    have hsum : 16 * (b.toNat / 16) + b.toNat % 16 = b.toNat := Nat.div_add_mod _ _
    simp only [Option.bind_eq_bind, Option.bind_some, hsum, UInt8.ofNat_toNat]
    rfl

end EdgeAgent.Hex
