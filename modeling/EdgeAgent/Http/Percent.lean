import EdgeAgent.Text.Hex

/-! Percent-encoding. `%` and two hexadecimal digits stand for a byte, and any other byte for
itself; a `%` without two digits after it also stands for itself. -/

namespace EdgeAgent.Percent

/-- The bytes that an encoded text stands for. -/
def decode : List UInt8 → List UInt8
  | [] => []
  | 37 :: a :: b :: r =>
    match Hex.byteValue? a, Hex.byteValue? b with
    | some high, some low => UInt8.ofNat (16 * high + low) :: decode r
    | _, _ => 37 :: decode (a :: b :: r)
  | b :: r => b :: decode r

/-- The digit of a value below sixteen, in upper case. -/
def digit (n : Nat) : UInt8 :=
  if n < 10 then UInt8.ofNat (48 + n) else UInt8.ofNat (55 + n)

/-- A byte as `%` and two digits. -/
def encodeByte (b : UInt8) : List UInt8 :=
  [37, digit (b.toNat / 16), digit (b.toNat % 16)]

end EdgeAgent.Percent
