import EdgeAgent.Json.Double
import EdgeAgent.Text.Alphabetic
import EdgeAgent.Text.Cut

/-! Spans of time written as numbers with units, such as `1h30m` or `2.5s`. The parts of a span are
added, each rounded to a whole number of nanoseconds. -/

namespace EdgeAgent

/-- A span of time, forward or back. -/
structure TimeSpan where
  negative : Bool := false
  nanoseconds : Nat
  deriving DecidableEq

/-- Why a text is no span of time. -/
inductive TimeSpanError where
  /-- A part has no number, no unit, or an unknown one. -/
  | malformed
  /-- A part is negative, or the span has more seconds than 64 bits can count. -/
  | outOfBounds
  deriving DecidableEq

namespace TimeSpan

/-- The nanoseconds that are too many for a span. -/
def limit : Nat := 1000000000 * Nat.pow 2 64

/-- The nanoseconds of a unit. -/
def unit? : String → Option Nat
  | "ns" => some 1
  | "us" => some 1000
  | "µs" => some 1000
  | "μs" => some 1000
  | "ms" => some 1000000
  | "s" => some 1000000000
  | "m" => some 60000000000
  | "h" => some 3600000000000
  | _ => none

/-- A number with a sign or without one, as the digits before and after its point. It has a digit on
either side of the point. -/
def decimal? (s : List Char) : Option (Bool × List Char × List Char) :=
  let (negative, s) := match s with
    | '-' :: r => (true, r)
    | '+' :: r => (false, r)
    | r => (false, r)
  let (whole, fraction) := (cutFirst '.' s).getD (s, [])
  if whole ++ fraction ≠ [] ∧ (whole ++ fraction).all Decimal.isDigit then
    some (negative, whole, fraction)
  else none

/-- The nanoseconds of a number of units. The number, the seconds of the unit and their product are
each rounded to binary64. -/
def part (negative : Bool) (whole fraction : List Char) (unit : Nat) :
    Except TimeSpanError Nat :=
  let seconds? := do
    let number ← Double.ofRatio (Decimal.value (whole ++ fraction)) (Nat.pow 10 fraction.length)
    let unit ← Double.ofRatio unit 1000000000
    number.mul unit
  match seconds? with
  | none => .error .outOfBounds
  | some seconds =>
    let (num, den) := seconds.ratio
    if negative ∧ num ≠ 0 then .error .outOfBounds
    else .ok (Double.roundRatio (1000000000 * num) den)

theorem length_rest_lt {p q : Char → Bool} {s r : List Char} {c : Char}
    (h : s.dropWhile p = c :: r) : (r.dropWhile q).length < s.length := by
  have hr := (List.dropWhile_sublist q (l := r)).length_le
  have hs := (List.dropWhile_sublist p (l := s)).length_le
  rw [h, List.length_cons] at hs
  omega

/-- What parts add up to, after those before them. A zero at the end needs no unit. -/
def sum (total : Nat) (s : List Char) : Except TimeSpanError Nat :=
  match h : s.dropWhile fun c => !isAlphabetic c with
  | [] => if s = [] ∨ s = ['0'] then .ok total else .error .malformed
  | c :: r =>
    have := length_rest_lt (q := isAlphabetic) h
    match decimal? (s.takeWhile fun c => !isAlphabetic c),
        unit? (String.ofList ((c :: r).takeWhile isAlphabetic)) with
    | some (negative, whole, fraction), some unit => do
      let nanoseconds ← part negative whole fraction unit
      if limit ≤ total + nanoseconds then .error .outOfBounds
      else sum (total + nanoseconds) (r.dropWhile isAlphabetic)
    | _, _ => .error .malformed
termination_by s.length

/-- The span that a text gives. Plus signs may stand before it, and after those minus signs; the
span goes back if the first sign is a minus. -/
def ofText (s : String) : Except TimeSpanError TimeSpan := do
  let s := s.toList
  let nanoseconds ← sum 0 ((s.dropWhile (· = '+')).dropWhile (· = '-'))
  return ⟨s.head? = some '-', nanoseconds⟩

end TimeSpan

end EdgeAgent
