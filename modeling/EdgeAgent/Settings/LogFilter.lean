import EdgeAgent.Text.Alphabetic
import EdgeAgent.Text.Blank
import EdgeAgent.Text.Case
import EdgeAgent.Text.Cut
import EdgeAgent.Text.Decimal

/-! Filters of the log: directives between commas. A directive is a level, or says which level a
target has, within a span and with a field of it where these are given in brackets and braces. A
field may be given with a value: a truth value, a number, or else a pattern.

A directive is read without the blanks around it. Its parts are cut from the text with the blanks,
at the same numbers of bytes, so that a cut may come within a character. Of directives with one
scope the last counts; but patterns cannot be compared, so that none may be in two scopes that agree
in all else. -/

namespace EdgeAgent

/-- Why a text is no filter of the log. -/
inductive LogFilterError where
  | malformed
  /-- A part would begin or end within a character. -/
  | withinCharacter
  /-- A scope with a pattern is given twice. -/
  | repeatedPattern
  deriving DecidableEq

namespace LogFilter

/-- The names of the levels. -/
def levels : List String :=
  ["trace", "debug", "info", "warn", "error", "off"]

/-- Whether a text is a level: a name in letters of either case, or a number up to five with a plus
sign or without one. -/
def isLevel (s : List Char) : Bool :=
  let digits := match s with
    | '+' :: r => r
    | r => r
  String.ofList (lowerChars s) ∈ levels || (Decimal.read? digits).any (· ≤ 5)

/-- A field, with its value if one is given. -/
structure Field where
  name : List Char
  value : Option (List Char)
  deriving DecidableEq

/-- The field that a text gives. What follows a second equals sign is passed over. -/
def Field.ofText (s : List Char) : Field :=
  match cutFirst '=' s with
  | none => ⟨s, none⟩
  | some (name, rest) => ⟨name, some (rest.takeWhile (· ≠ '='))⟩

/-- What a directive is about. -/
structure Scope where
  target : Option (List Char) := none
  span : Option (List Char) := none
  field : Option Field := none
  deriving DecidableEq

/-- Whether a text is an exponent, or nothing. -/
def isExponent : List Char → Bool
  | [] => true
  | c :: r =>
    let digits := match r with
      | '+' :: r => r
      | '-' :: r => r
      | r => r
    (c = 'e' || c = 'E') && digits ≠ [] && digits.all Decimal.isDigit

/-- Whether a text is a number, with a sign or without one. A number that is written in digits has
one on either side of its point. -/
def isNumber (s : List Char) : Bool :=
  let magnitude := match s with
    | '+' :: r => r
    | '-' :: r => r
    | r => r
  let (whole, rest) := magnitude.span Decimal.isDigit
  let (fraction, rest) := match rest with
    | '.' :: r => r.span Decimal.isDigit
    | r => ([], r)
  String.ofList (lowerChars magnitude) ∈ ["inf", "infinity", "nan"] ||
    (whole ++ fraction ≠ [] && isExponent rest)

/-- Whether a field has a value that is a pattern. -/
def Field.hasPattern (f : Field) : Bool :=
  f.value.any fun s => String.ofList s ∉ ["true", "false"] && !isNumber s

def Scope.hasPattern (s : Scope) : Bool :=
  s.field.any Field.hasPattern

/-- The parts of a text before and after a number of bytes, unless that ends within a character. -/
def cutBytes : Nat → List Char → Option (List Char × List Char)
  | 0, s => some ([], s)
  | _ + 1, [] => none
  | n + 1, c :: r =>
    if c.utf8Size ≤ n + 1 then
      (cutBytes (n + 1 - c.utf8Size) r).map fun (before, after) => (c :: before, after)
    else none

/-- The part of a directive from one number of bytes on, up to another one. -/
def part (directive : List Char) (start stop : Nat) : Except LogFilterError (List Char) :=
  match (cutBytes start directive).bind fun (_, rest) => cutBytes (stop - start) rest with
  | some (text, _) => .ok text
  | none => .error .withinCharacter

/-- How far a directive has been read. A part that goes on is known by the bytes before it. -/
inductive Progress where
  | nothing
  /-- A target, or a level alone. -/
  | target
  | span (scope : Scope) (start : Nat)
  | field (scope : Scope) (start : Nat)
  /-- A field is closed, and its span is not. -/
  | fields (scope : Scope)
  /-- A span is closed. -/
  | closed (scope : Scope)
  | level (scope : Scope) (start : Nat)

/-- Whether a character may be the first of a target. -/
def beginsTarget (c : Char) : Bool :=
  c = '-' || c = ':' || c = '_' || isAlphanumeric c

/-- The progress after one character more, which has some bytes before it. -/
def Progress.step (directive : List Char) (place : Nat) (c : Char) :
    Progress → Except LogFilterError Progress
  | .nothing =>
    if c = '[' then .ok (.span {} (place + 1))
    else if beginsTarget c then .ok .target
    else .error .malformed
  | .target =>
    if c = '=' then
      (part directive 0 place).map fun name => .level { target := name } (place + 1)
    else if c = '[' then
      (part directive 0 place).map fun name => .span { target := name } (place + 1)
    else .ok .target
  | .span s start =>
    if c = ']' then
      (part directive start place).map fun name => .closed { s with span := name }
    else if c = '\x7b' then
      (part directive start place).map fun name => .field { s with span := name } (place + 1)
    else .ok (.span s start)
  | .field s start =>
    if c = '\x7d' then do
      let text ← part directive start place
      if text = [] then .error .malformed
      else return .fields { s with field := Field.ofText text }
    else .ok (.field s start)
  | .fields s => if c = ']' then .ok (.closed s) else .error .malformed
  | .closed s => if c = '=' then .ok (.level s (place + 1)) else .error .malformed
  | .level s start => .ok (.level s start)

/-- The progress after more characters. -/
def Progress.read (directive : List Char) (place : Nat) :
    List Char → Progress → Except LogFilterError Progress
  | [], p => .ok p
  | c :: r, p => do
    let next ← p.step directive place c
    next.read directive (place + c.utf8Size) r

/-- The scope of a directive that ends. The level after an equals sign may be left out, and what is
no level alone is a target. -/
def Progress.finish (directive : List Char) : Progress → Except LogFilterError Scope
  | .target => .ok (if isLevel directive then {} else { target := directive })
  | .closed s => .ok s
  | .level s start =>
    match cutBytes start directive with
    | none => .error .withinCharacter
    | some (_, name) => if name = [] ∨ isLevel name then .ok s else .error .malformed
  | _ => .error .malformed

def readDirective (directive : List Char) : Except LogFilterError Scope := do
  let p ← Progress.nothing.read directive 0 (trim directive)
  p.finish directive

/-- Whether a scope with a pattern is given twice. -/
def repeatsPattern : List Scope → Bool
  | [] => false
  | s :: r => (s.hasPattern && s ∈ r) || repeatsPattern r

/-- The scopes of the directives of a filter. What is empty between commas is passed over. -/
def scopes (s : String) : Except LogFilterError (List Scope) := do
  let scopes ← ((fields ',' s.toList).filter (· ≠ [])).mapM readDirective
  if repeatsPattern scopes then .error .repeatedPattern else return scopes

end LogFilter

end EdgeAgent
