import EdgeAgent.Text.Decimal

/-! Finite binary64 numbers in exact arithmetic. A number is `significand * 2 ^ exponent` with at
most 53 bits; operations compute the exact ratio and round it to the nearest number, a tie to the
even one. `shortest` is the fewest decimal digits that round back to the number, and among those
the nearest. -/

namespace EdgeAgent

/-- A finite binary64 number, `significand * 2 ^ exponent` or its negative. -/
structure Double where
  negative : Bool
  significand : Nat
  exponent : Int
  deriving DecidableEq

namespace Double

/-- Zero, which is held with the least exponent. -/
def zero : Double := ⟨false, 0, -1074⟩

/-- The magnitude as a ratio of whole numbers. -/
def ratio (d : Double) : Nat × Nat :=
  if 0 ≤ d.exponent then (d.significand * Nat.pow 2 d.exponent.toNat, 1)
  else (d.significand, Nat.pow 2 (-d.exponent).toNat)

/-- The quotient of a ratio and a power of two, as a ratio. -/
def scaled (num den : Nat) (exponent : Int) : Nat × Nat :=
  if 0 ≤ exponent then (num, den * Nat.pow 2 exponent.toNat)
  else (num * Nat.pow 2 (-exponent).toNat, den)

/-- The whole number nearest to a ratio, of two the even one. -/
def roundRatio (num den : Nat) : Nat :=
  let low := num / den
  let twice := 2 * (num % den)
  if twice < den then low
  else if den < twice then low + 1
  else low + low % 2

/-- The number nearest to a ratio, if there is a finite one. -/
def ofRatio (num den : Nat) : Option Double :=
  if num = 0 then some zero
  else
    let guess : Int := (Nat.log2 num : Int) - (Nat.log2 den : Int) - 52
    let (n, d) := scaled num den guess
    let exponent := max (-1074) (if n / d < Nat.pow 2 52 then guess - 1 else guess)
    let (n, d) := scaled num den exponent
    let significand := roundRatio n d
    let (significand, exponent) :=
      if significand = Nat.pow 2 53 then (Nat.pow 2 52, exponent + 1)
      else (significand, exponent)
    if 971 < exponent then none else some ⟨false, significand, exponent⟩

/-- The number nearest to a whole number. -/
def ofNat (n : Nat) : Option Double :=
  ofRatio n 1

/-- The product of the magnitudes, rounded. -/
def mul (a b : Double) : Option Double :=
  ofRatio (a.ratio.1 * b.ratio.1) (a.ratio.2 * b.ratio.2)

/-- The quotient of the magnitudes, rounded. -/
def div (a b : Double) : Option Double :=
  ofRatio (a.ratio.1 * b.ratio.2) (a.ratio.2 * b.ratio.1)

/-- A magnitude with a sign. -/
def withSign (negative : Bool) (d : Double) : Double :=
  { d with negative := negative }

/-- A magnitude moved down by 308 decimal places at a time, until the exponent that is left over
is no less than -308 or nothing is left of it. Three moves bring any whole number of 64 bits
to zero. -/
def lowered : Nat → Double → Int → Option (Double × Int)
  | 0, d, e => some (d, e)
  | moves + 1, d, e =>
    if -308 ≤ e ∨ d.significand = 0 then some (d, e)
    else do
      let step ← ofNat (Nat.pow 10 308)
      let next ← d.div step
      lowered moves next (e + 308)

/-- The magnitude read from `significand * 10 ^ exponent`: the significand is rounded first, and
the product or quotient with a power of ten, itself rounded, after it. There is none when the
power or the product is not finite. -/
def ofDecimal (significand : Nat) (exponent : Int) : Option Double := do
  let d ← ofNat significand
  if d.significand = 0 then
    return zero
  else if 308 < exponent then
    none
  else if 0 ≤ exponent then
    d.mul (← ofNat (Nat.pow 10 exponent.toNat))
  else
    let (d, e) ← lowered 3 d exponent
    if d.significand = 0 then return zero
    d.div (← ofNat (Nat.pow 10 (-e).toNat))

/-- The position of the decimal point of a positive ratio: the least `k` with
`num / den < 10 ^ k`. -/
def pointOf (num den : Nat) : Int :=
  if den ≤ num then (Decimal.digits (num / den)).length
  else 1 - (Decimal.digits ((den + num - 1) / num - 1)).length

/-- The digits on the grid of `count` digits after `0.`, at a given point, that lie within the
bounds of a magnitude: the nearer of the two neighbours, the even one of a tie. All are given
over one denominator. -/
def onGrid (low exact high den : Nat) (inclusive : Bool) (point : Int) (count : Nat) :
    Option Nat :=
  let places : Int := count - point
  let up := if 0 ≤ places then Nat.pow 10 places.toNat else 1
  let down := if 0 ≤ places then 1 else Nat.pow 10 (-places).toNat
  let below := exact * up / (den * down)
  let within := fun (digits : Nat) =>
    let x := digits * (den * down)
    if inclusive then low * up ≤ x ∧ x ≤ high * up else low * up < x ∧ x < high * up
  let gapBelow := exact * up - below * (den * down)
  let gapAbove := (below + 1) * (den * down) - exact * up
  if within below ∧ 0 < below then
    if within (below + 1) ∧
        (gapAbove < gapBelow ∨ (gapAbove = gapBelow ∧ below % 2 = 1)) then some (below + 1)
    else some below
  else if within (below + 1) then some (below + 1)
  else none

/-- The digits of the coarsest of some grids that has one within the bounds. -/
def firstGrid (low exact high den : Nat) (inclusive : Bool) (point : Int) :
    List Nat → Option (Nat × Int)
  | [] => none
  | count :: counts =>
    match onGrid low exact high den inclusive point count with
    | some digits => some (digits, point - count)
    | none => firstGrid low exact high den inclusive point counts

/-- A number without the zeros at its end, and the exponent that makes up for them. -/
def stripZeros : Nat → Nat → Int → Nat × Int
  | 0, digits, e => (digits, e)
  | fuel + 1, digits, e =>
    if digits ≠ 0 ∧ digits % 10 = 0 then stripZeros fuel (digits / 10) (e + 1) else (digits, e)

/-- The fewest digits that round back to a positive magnitude, with the power of ten of the last
one. The bounds are halfway to the neighbours, which lie closer below a power of two. -/
def shortest (d : Double) : Nat × Int :=
  let m := d.significand
  let closeBelow := m = Nat.pow 2 52 ∧ -1074 < d.exponent
  let (unit, den) := ratio { d with significand := 1 }
  let low := if closeBelow then 4 * m - 1 else 4 * m - 2
  let (low, exact, high, den) := (low * unit, 4 * m * unit, (4 * m + 2) * unit, 4 * den)
  match firstGrid low exact high den (m % 2 = 0) (pointOf exact den) (List.range' 1 17) with
  | some (digits, e) => stripZeros 17 digits e
  | none => (0, 0)

/-- A whole number with its sign. -/
def signed (n : Int) : List Char :=
  if 0 ≤ n then '+' :: Decimal.ofInt n else Decimal.ofInt n

/-- The text of a number. A magnitude from `1e-5` to below `1e16` is written with a point and at
least one digit on either side of it, any other with a signed exponent. -/
def chars (d : Double) : List Char :=
  let sign := if d.negative then ['-'] else []
  if d.significand = 0 then sign ++ ['0', '.', '0']
  else
    let (number, k) := shortest d
    let digits := Decimal.digits number
    let point : Int := digits.length + k
    let zeros := fun (n : Int) => List.replicate n.toNat '0'
    sign ++
      if 0 ≤ k ∧ point ≤ 16 then digits ++ zeros k ++ ['.', '0']
      else if 0 < point ∧ point ≤ 16 then
        digits.take point.toNat ++ '.' :: digits.drop point.toNat
      else if -5 < point ∧ point ≤ 0 then '0' :: '.' :: (zeros (-point) ++ digits)
      else
        let fraction := if digits.length = 1 then [] else '.' :: digits.drop 1
        digits.take 1 ++ fraction ++ 'e' :: signed (point - 1)

end Double

end EdgeAgent
