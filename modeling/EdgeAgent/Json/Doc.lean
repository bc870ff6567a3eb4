import EdgeAgent.Json.Basic

/-! Reading JSON text. A `Doc` is what can be seen of a text up to its first flaw: an object is
the list of its fields in their order, and a flaw stands at the place where it was met. So a
reader of a `Doc` can tell which comes first, a flaw of the text or a value of the wrong kind.
Two flaws concern only a reader of the value, not one who skips it: a number too great for
binary64, and a string that is not Unicode text. -/

namespace EdgeAgent

mutual

/-- A value as it stands in a text. -/
inductive Doc where
  | null
  | bool (b : Bool)
  /-- A number, or `none` when it is too great. -/
  | num (n : Option Number)
  /-- A string, or `none` when it is not Unicode text. -/
  | str (s : Option String)
  | arr (items : Items)
  | obj (fields : Fields)
  /-- No value. -/
  | broken

/-- The items of a list. -/
inductive Items where
  | closed
  | cut
  | more (item : Doc) (rest : Items)

/-- The fields of an object. -/
inductive Fields where
  | closed
  | cut
  | more (name : Option String) (value : Doc) (rest : Fields)

end

namespace Doc

/-- A text in the making: characters, and `none` where the bytes are not UTF-8. -/
abbrev Pieces := List (Option Char)

/-- The blanks between the tokens of a JSON text. -/
def isSpace (c : Char) : Bool :=
  c = ' ' || c = '\n' || c = '\t' || c = '\r'

/-- The text from its first character that is no blank. -/
def skipSpace : Pieces → Pieces
  | some c :: r => if isSpace c then skipSpace r else some c :: r
  | s => s

/-- The value of four hexadecimal digits. -/
def hexValue? (a b c d : Char) : Option Nat := do
  let a ← Hex.value? a
  let b ← Hex.value? b
  let c ← Hex.value? c
  let d ← Hex.value? d
  return ((a * 16 + b) * 16 + c) * 16 + d

/-- The character that a letter after a backslash stands for. -/
def escaped? (c : Char) : Option Char :=
  if c = '"' then some '"'
  else if c = '\\' then some '\\'
  else if c = '/' then some '/'
  else if c = 'b' then some '\x08'
  else if c = 'f' then some '\x0c'
  else if c = 'n' then some '\n'
  else if c = 'r' then some '\r'
  else if c = 't' then some '\t'
  else none

/-- A part of a string: a character, a place that is not UTF-8, or a number of 16 bits that is
half of a character. -/
inductive Part where
  | char (c : Char)
  | flaw
  | half (n : Nat)

/-- The part that an escaped number of 16 bits is. -/
def Part.ofUnit (n : Nat) : Part :=
  if 0xD800 ≤ n ∧ n < 0xE000 then .half n else .char (Char.ofNat n)

/-- One part more in front of the rest of a string. -/
def before (p : Part) : Option (List Part × Pieces) → Option (List Part × Pieces) :=
  Option.map fun (ps, rest) => (p :: ps, rest)

/-- The parts of a string up to its quotation mark, and the text after it. -/
def stringBody : Pieces → Option (List Part × Pieces)
  | [] => none
  | none :: r => before .flaw (stringBody r)
  | some '"' :: r => some ([], r)
  | some '\\' :: some 'u' :: some a :: some b :: some c :: some d :: r =>
    match hexValue? a b c d with
    | some n => before (.ofUnit n) (stringBody r)
    | none => none
  | some '\\' :: some c :: r =>
    match escaped? c with
    | some c => before (.char c) (stringBody r)
    | none => none
  | some '\\' :: _ => none
  | some c :: r => if c.toNat < 32 then none else before (.char c) (stringBody r)

/-- The characters of parts. Only a first half with a second one after it is a character. -/
def joined : List Part → Pieces
  | [] => []
  | .char c :: r => some c :: joined r
  | .half n :: .half m :: r =>
    if n < 0xDC00 ∧ 0xDC00 ≤ m then
      some (Char.ofNat (0x10000 + (n - 0xD800) * 0x400 + (m - 0xDC00))) :: joined r
    else none :: joined (.half m :: r)
  | _ :: r => none :: joined r

/-- The string of parts, if all are characters. -/
def stringOf? (ps : List Part) : Option String :=
  ((joined ps).mapM id).map String.ofList

/-- The digits at the start of a text. -/
def digits : Pieces → List Char × Pieces
  | some c :: r =>
    if Decimal.isDigit c then
      let (ds, rest) := digits r
      (c :: ds, rest)
    else ([], some c :: r)
  | s => ([], s)

/-- A number as it is written. -/
structure Numeral where
  negative : Bool
  whole : List Char
  /-- The digits after the point. -/
  fraction : List Char := []
  /-- Whether the exponent is negative, and its digits. -/
  exponent : Option (Bool × List Char) := none

namespace Numeral

/-- The digits that can be added to a number of 64 bits, and those that are left. -/
def absorb : Nat → List Char → Nat × List Char
  | n, [] => (n, [])
  | n, c :: r =>
    let m := 10 * n + Decimal.digitValue c
    if m < Nat.pow 2 64 then absorb m r else (n, c :: r)

/-- The number that is written. A numeral without point and exponent is whole when it fits in 64
bits, but for a negative zero. Of any other only the digits that fit in 64 bits count. -/
def number? (t : Numeral) : Option Number :=
  let (whole, dropped) := absorb 0 t.whole
  if dropped = [] ∧ t.fraction = [] ∧ t.exponent.isNone ∧
      (if t.negative then 0 < whole ∧ whole ≤ Nat.pow 2 63 else True) then
    some (.int (if t.negative then -whole else whole))
  else
    let (significand, ignored) := absorb whole t.fraction
    let point : Int := dropped.length - (t.fraction.length - ignored.length : Nat)
    let signed := fun (d : Double) => Number.float (d.withSign t.negative)
    match t.exponent with
    | none => (Double.ofDecimal significand point).map signed
    | some (down, ds) =>
      let shift := Decimal.value ds
      if Nat.pow 2 31 ≤ shift then
        if significand ≠ 0 ∧ ¬down then none else some (signed .zero)
      else
        (Double.ofDecimal significand (if down then point - shift else point + shift)).map signed

end Numeral

/-- The exponent at the start of a text, if it is complete. -/
def exponentPart (s : Pieces) : Option (Option (Bool × List Char) × Pieces) :=
  let digitsOf := fun (down : Bool) (r : Pieces) =>
    let (ds, rest) := digits r
    if ds = [] then none else some (some (down, ds), rest)
  match s with
  | some c :: r =>
    if c = 'e' ∨ c = 'E' then
      match r with
      | some '+' :: r => digitsOf false r
      | some '-' :: r => digitsOf true r
      | r => digitsOf false r
    else some (none, s)
  | s => some (none, s)

/-- The fraction at the start of a text, if it is complete. -/
def fractionPart : Pieces → Option (List Char × Pieces)
  | some '.' :: r =>
    let (ds, rest) := digits r
    if ds = [] then none else some (ds, rest)
  | s => some ([], s)

/-- The numeral at the start of a text. A numeral of more digits than one does not begin
with zero. -/
def numeral (s : Pieces) : Option (Numeral × Pieces) := do
  let (negative, s) := match s with
    | some '-' :: r => (true, r)
    | s => (false, s)
  let (whole, s) := digits s
  if whole = [] ∨ (whole.head? = some '0' ∧ whole ≠ ['0']) then none
  let (fraction, s) ← fractionPart s
  let (exponent, s) ← exponentPart s
  return (⟨negative, whole, fraction, exponent⟩, s)

/-- The text after a word that it begins with, and the value that the word stands for. -/
def word (value : Doc) : List Char → Pieces → Doc × Pieces
  | [], s => (value, s)
  | c :: cs, some x :: r => if c = x then word value cs r else (.broken, [])
  | _ :: _, _ => (.broken, [])

mutual

/-- The value at the start of a text, and the text after it. -/
def readValue : Nat → Pieces → Doc × Pieces
  | 0, _ => (.broken, [])
  | fuel + 1, s =>
    match skipSpace s with
    | some 'n' :: r => word .null ['u', 'l', 'l'] r
    | some 't' :: r => word (.bool true) ['r', 'u', 'e'] r
    | some 'f' :: r => word (.bool false) ['a', 'l', 's', 'e'] r
    | some '"' :: r =>
      match stringBody r with
      | some (parts, rest) => (.str (stringOf? parts), rest)
      | none => (.broken, [])
    | some '[' :: r =>
      match skipSpace r with
      | some ']' :: rest => (.arr .closed, rest)
      | r =>
        let (items, rest) := readItems fuel r
        (.arr items, rest)
    | some '\x7b' :: r =>
      match skipSpace r with
      | some '\x7d' :: rest => (.obj .closed, rest)
      | r =>
        let (fields, rest) := readFields fuel r
        (.obj fields, rest)
    | s =>
      match numeral s with
      | some (t, rest) => (.num t.number?, rest)
      | none => (.broken, [])

/-- The items from one on to the end of a list, and the text after it. -/
def readItems : Nat → Pieces → Items × Pieces
  | 0, _ => (.cut, [])
  | fuel + 1, s =>
    let (item, r) := readValue fuel s
    match skipSpace r with
    | some ']' :: rest => (.more item .closed, rest)
    | some ',' :: r =>
      let (items, rest) := readItems fuel r
      (.more item items, rest)
    | _ => (.more item .cut, [])

/-- The fields from one on to the end of an object, and the text after it. -/
def readFields : Nat → Pieces → Fields × Pieces
  | 0, _ => (.cut, [])
  | fuel + 1, s =>
    match skipSpace s with
    | some '"' :: r =>
      match stringBody r with
      | none => (.cut, [])
      | some (name, r) =>
        match skipSpace r with
        | some ':' :: r =>
          let (value, r) := readValue fuel r
          match skipSpace r with
          | some '\x7d' :: rest => (.more (stringOf? name) value .closed, rest)
          | some ',' :: r =>
            let (fields, rest) := readFields fuel r
            (.more (stringOf? name) value fields, rest)
          | _ => (.more (stringOf? name) value .cut, [])
        | _ => (.more (stringOf? name) .broken .cut, [])
    | _ => (.cut, [])

end

/-- What a text holds, and whether nothing but blanks follows it. -/
def ofPieces (s : Pieces) : Doc × Bool :=
  let (doc, rest) := readValue (2 * s.length + 2) s
  (doc, (skipSpace rest).isEmpty)

/-- The reading of a text. -/
def ofText (s : String) : Doc × Bool :=
  ofPieces (s.toList.map some)

/-- The reading of bytes. -/
def ofBytes (bs : List UInt8) : Doc × Bool :=
  ofPieces (Utf8.pieces bs)

mutual

/-- A value as it would stand in a text. -/
def ofJson : Json → Doc
  | .null => .null
  | .bool b => .bool b
  | .num n => .num (some n)
  | .str s => .str (some s)
  | .arr items => .arr (ofItems items)
  | .obj fields => .obj (ofFields fields)
termination_by structural j => j

/-- Items as they would stand in a text. -/
def ofItems : List Json → Items
  | [] => .closed
  | j :: r => .more (ofJson j) (ofItems r)
termination_by structural js => js

/-- Fields as they would stand in a text. -/
def ofFields : List (String × Json) → Fields
  | [] => .closed
  | (name, j) :: r => .more (some name) (ofJson j) (ofFields r)
termination_by structural fields => fields

end

mutual

/-- Whether a value without a flaw of the text can be skipped. -/
def sound : Doc → Bool
  | .broken => false
  | .arr items => soundItems items
  | .obj fields => soundFields fields
  | _ => true

/-- Whether items can be skipped to the end of their list. -/
def soundItems : Items → Bool
  | .closed => true
  | .cut => false
  | .more item rest => sound item && soundItems rest

/-- Whether fields can be skipped to the end of their object. -/
def soundFields : Fields → Bool
  | .closed => true
  | .cut => false
  | .more _ value rest => sound value && soundFields rest

end

mutual

/-- The value of a text without a flaw, with the fields of each object in the order of their names
and the last of those with one name. Lists and objects may stand in one another only to a given
depth. -/
def toJson? : Nat → Doc → Option Json
  | _, .null => some .null
  | _, .bool b => some (.bool b)
  | _, .num n => n.map .num
  | _, .str s => s.map .str
  | 0, .arr _ => none
  | depth + 1, .arr items => (itemsToJson? depth items).map .arr
  | 0, .obj _ => none
  | depth + 1, .obj fields =>
    (fieldsToJson? depth fields).map fun fields => .obj (Dict.ofList fields).entries
  | _, .broken => none
termination_by structural _ d => d

/-- The values of items. -/
def itemsToJson? : Nat → Items → Option (List Json)
  | _, .closed => some []
  | _, .cut => none
  | depth, .more item rest => do
    let item ← toJson? depth item
    let rest ← itemsToJson? depth rest
    return item :: rest
termination_by structural _ items => items

/-- The names and values of fields. -/
def fieldsToJson? : Nat → Fields → Option (List (String × Json))
  | _, .closed => some []
  | _, .cut => none
  | depth, .more name value rest => do
    let name ← name
    let value ← toJson? depth value
    let rest ← fieldsToJson? depth rest
    return (name, value) :: rest
termination_by structural _ fields => fields

end

end Doc

namespace Json

/-- How deep lists and objects may stand in one another. -/
def maxDepth : Nat := 127

/-- The value that a text holds. -/
def ofText? (s : String) : Option Json :=
  match Doc.ofText s with
  | (doc, true) => doc.toJson? maxDepth
  | (_, false) => none

/-- The value that bytes hold. -/
def ofBytes? (bs : List UInt8) : Option Json :=
  match Doc.ofBytes bs with
  | (doc, true) => doc.toJson? maxDepth
  | (_, false) => none

end Json

end EdgeAgent
