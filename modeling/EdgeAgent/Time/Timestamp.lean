import EdgeAgent.Text.Blank
import EdgeAgent.Text.Cut
import EdgeAgent.Text.Decimal

/-! Moments in universal time, to the nanosecond, and their text. A moment is written as date, `T`,
time of day and `Z`. The reader takes a wider form: blanks around the parts, fields of one digit,
years with a sign, any offset from universal time below a day, and digits of the fraction beyond
the ninth, which it drops. The second of a minute may be 60, for a leap second. -/

namespace EdgeAgent

namespace Calendar

/-- Whether a year has a 29 February. -/
def isLeap (year : Int) : Bool :=
  year % 4 = 0 && (year % 100 ≠ 0 || year % 400 = 0)

/-- The number of days of a month. -/
def daysIn (year : Int) (month : Nat) : Nat :=
  if month = 2 then if isLeap year then 29 else 28
  else if month = 4 ∨ month = 6 ∨ month = 9 ∨ month = 11 then 30
  else 31

/-- A day of the calendar. -/
structure Date where
  year : Int
  month : Nat
  day : Nat
  deriving DecidableEq

/-- The years in which a day may lie. -/
def firstYear : Int := -262143

/-- The last year in which a day may lie. -/
def lastYear : Int := 262142

/-- Whether there is such a day. -/
def Date.Exists (d : Date) : Prop :=
  firstYear ≤ d.year ∧ d.year ≤ lastYear ∧ 1 ≤ d.month ∧ d.month ≤ 12 ∧ 1 ≤ d.day ∧
    d.day ≤ daysIn d.year d.month

instance (d : Date) : Decidable d.Exists := by
  unfold Date.Exists
  infer_instance

/-- The day after a day. -/
def Date.next (d : Date) : Date :=
  if d.day < daysIn d.year d.month then { d with day := d.day + 1 }
  else if d.month < 12 then ⟨d.year, d.month + 1, 1⟩
  else ⟨d.year + 1, 1, 1⟩

/-- The day before a day. -/
def Date.previous (d : Date) : Date :=
  if 1 < d.day then { d with day := d.day - 1 }
  else if 1 < d.month then ⟨d.year, d.month - 1, daysIn d.year (d.month - 1)⟩
  else ⟨d.year - 1, 12, 31⟩

end Calendar

open Calendar

/-- A moment. -/
structure Timestamp where
  date : Date
  /-- The minute of the day. -/
  minute : Nat
  /-- The second of the minute, 60 for a leap second. -/
  second : Nat
  nanosecond : Nat
  date_exists : date.Exists
  minute_lt : minute < 1440
  second_le : second ≤ 60
  nanosecond_lt : nanosecond < 1000000000
  deriving DecidableEq

namespace Timestamp

/-- A year: four digits from 0 to 9999, and any other with its sign and at least four digits. -/
def yearChars (year : Int) : List Char :=
  if 0 ≤ year ∧ year ≤ 9999 then Decimal.padded 4 year.toNat
  else if year < 0 then '-' :: Decimal.padded 4 year.natAbs
  else '+' :: Decimal.padded 4 year.toNat

/-- The fraction of a second in the fewest of 0, 3, 6 or 9 places that are exact. -/
def fractionChars (nanosecond : Nat) : List Char :=
  if nanosecond = 0 then []
  else if nanosecond % 1000000 = 0 then '.' :: Decimal.padded 3 (nanosecond / 1000000)
  else if nanosecond % 1000 = 0 then '.' :: Decimal.padded 6 (nanosecond / 1000)
  else '.' :: Decimal.padded 9 nanosecond

/-- The characters of a moment, with a given fraction. -/
def charsWith (t : Timestamp) (fraction : List Char) : List Char :=
  yearChars t.date.year ++ '-' :: Decimal.padded 2 t.date.month ++ '-' ::
    Decimal.padded 2 t.date.day ++ 'T' :: Decimal.padded 2 (t.minute / 60) ++ ':' ::
    Decimal.padded 2 (t.minute % 60) ++ ':' :: Decimal.padded 2 t.second ++ fraction ++ ['Z']

/-- The text of a moment. -/
def text (t : Timestamp) : String :=
  String.ofList (t.charsWith (fractionChars t.nanosecond))

/-- The text of a moment to the second. -/
def textToSecond (t : Timestamp) : String :=
  String.ofList (t.charsWith [])

/-- The value of one to `most` digits, and the text after them. -/
def number? (most : Nat) (s : List Char) : Option (Nat × List Char) :=
  let ds := (s.take most).takeWhile Decimal.isDigit
  if ds = [] then none else some (Decimal.value ds, s.drop ds.length)

/-- The value of any number of digits, and the text after them. -/
def longNumber? (s : List Char) : Option (Nat × List Char) :=
  number? s.length s

/-- A year, of one to four digits or with a sign. -/
def year? (s : List Char) : Option (Int × List Char) :=
  match trimStart s with
  | '-' :: r => (longNumber? r).map fun (n, rest) => (-n, rest)
  | '+' :: r => (longNumber? r).map fun (n, rest) => (n, rest)
  | s => (number? 4 s).map fun (n, rest) => (n, rest)

/-- A number of one or two digits. -/
def short? (s : List Char) : Option (Nat × List Char) :=
  number? 2 (trimStart s)

/-- The text after a mark, with blanks before it. -/
def mark? (c : Char) (s : List Char) : Option (List Char) :=
  dropBeginning [c] (trimStart s)

/-- The nanoseconds of a fraction: as many of its digits as there are places count. -/
def fraction? : List Char → Option (Nat × List Char)
  | '.' :: r =>
    let ds := (r.take 9).takeWhile Decimal.isDigit
    if ds = [] then none
    else some (Decimal.value ds * Nat.pow 10 (9 - ds.length), r.dropWhile Decimal.isDigit)
  | s => some (0, s)

/-- Two digits, the first up to a given one. -/
def twoDigits? (first : Char) : List Char → Option (Nat × List Char)
  | a :: b :: r =>
    if Decimal.isDigit a ∧ Decimal.isDigit b ∧ a ≤ first then some (Decimal.value [a, b], r)
    else none
  | _ => none

/-- An offset from universal time in minutes: `Z`, `UTC`, or a sign with hours and minutes. -/
def offset? (s : List Char) : Option (Int × List Char) :=
  if (s.take 3).map Char.toUpper = ['U', 'T', 'C'] then some (0, s.drop 3)
  else
    let signed := fun (sign : Int) (s : List Char) => do
      let (hours, s) ← twoDigits? '9' s
      let (minutes, s) ← twoDigits? '5' (s.dropWhile fun c => c = ':' || isBlank c)
      return (sign * (60 * hours + minutes : Nat), s)
    match s with
    | 'Z' :: r => some (0, r)
    | 'z' :: r => some (0, r)
    | '+' :: r => signed 1 r
    | '-' :: r => signed (-1) r
    | '\u2212' :: r => signed (-1) r
    | _ => none

/-- The moment of a day, a minute of it by a clock with an offset, and the rest. -/
def ofLocal? (date : Date) (minute second nanosecond : Nat) (offset : Int) :
    Option Timestamp :=
  let shifted : Int := minute - offset
  let date' :=
    if shifted < 0 then date.previous else if shifted < 1440 then date else date.next
  let minute' := (shifted % 1440).toNat
  if h : date.Exists ∧ date'.Exists ∧ minute' < 1440 ∧ second ≤ 60 ∧ nanosecond < 1000000000 then
    some ⟨date', minute', second, nanosecond, h.2.1, h.2.2.1, h.2.2.2.1, h.2.2.2.2⟩
  else none

/-- The moment that characters stand for. -/
def ofChars? (s : List Char) : Option Timestamp := do
  let (year, s) ← year? s
  let s ← mark? '-' s
  let (month, s) ← short? s
  let s ← mark? '-' s
  let (day, s) ← short? s
  let s ← match s with
    | c :: r => if c = 't' ∨ c = 'T' ∨ c = ' ' then some r else none
    | [] => none
  let (hour, s) ← short? s
  let s ← mark? ':' s
  let (minute, s) ← short? s
  let s ← mark? ':' s
  let (second, s) ← short? s
  let (nanosecond, s) ← fraction? s
  let (offset, s) ← offset? (trimStart s)
  if trimStart s = [] ∧ hour < 24 ∧ minute < 60 ∧ offset.natAbs < 1440 then
    ofLocal? ⟨year, month, day⟩ (60 * hour + minute) second nanosecond offset
  else none

/-- The moment that a text stands for. -/
def ofText? (s : String) : Option Timestamp :=
  ofChars? s.toList

end Timestamp

end EdgeAgent
