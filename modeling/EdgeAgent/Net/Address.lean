import EdgeAgent.Text.Cut
import EdgeAgent.Text.Decimal
import EdgeAgent.Text.Hex

/-! Addresses at which a server listens: an IP address and a port. An address of version 4 is four
decimal numbers; one of version 6 is eight hexadecimal groups, of which the last two may be written
as an address of version 4 and one run of zeros may be left out. -/

namespace EdgeAgent

/-- An IP address. -/
inductive IpAddress where
  /-- An address of version 4, by its four bytes. -/
  | v4 (octets : List Nat)
  /-- An address of version 6, by its eight groups, in a zone. -/
  | v6 (groups : List Nat) (zone : Nat)
  deriving DecidableEq

/-- An address at which a server listens. -/
structure ListenAddress where
  ip : IpAddress
  port : Nat
  deriving DecidableEq

namespace Address

/-- The value that stands at the beginning of a text, with the rest of the text. -/
abbrev Reader (α : Type) := List Char → Option (α × List Char)

/-- A run of decimal digits whose value is at most `limit`. -/
def number (limit : Nat) : Reader Nat := fun s =>
  let (ds, rest) := s.span Decimal.isDigit
  if ds = [] ∨ limit < Decimal.value ds then none else some (Decimal.value ds, rest)

/-- A byte in decimal digits, without zeros before it. -/
def octet : Reader Nat := fun s =>
  let ds := s.takeWhile Decimal.isDigit
  if 1 < ds.length ∧ ds.head? = some '0' then none else number 255 s

def after {α : Type} (begins : List Char) (read : Reader α) : Reader α := fun s =>
  (dropBeginning begins s).bind read

/-- Four bytes with points between them. -/
def octets : Reader (List Nat) := fun s => do
  let (a, s) ← octet s
  let (b, s) ← after ['.'] octet s
  let (c, s) ← after ['.'] octet s
  let (d, s) ← after ['.'] octet s
  return ([a, b, c, d], s)

/-- The two groups that four bytes make. -/
def groupsOf : List Nat → List Nat
  | a :: b :: r => (256 * a + b) :: groupsOf r
  | _ => []

/-- A group of one to four hexadecimal digits. -/
def group : Reader Nat := fun s =>
  let (ds, rest) := s.span fun c => (Hex.value? c).isSome
  if ds = [] ∨ 4 < ds.length then none
  else some (ds.foldl (fun n c => 16 * n + (Hex.value? c).getD 0) 0, rest)

/-- As many groups with colons between them as there are, up to a number of them, with whether they
end in four bytes. The first one has no colon before it if `first` is set. -/
def groups : Nat → Bool → List Char → List Nat × Bool × List Char
  | 0, _, s => ([], false, s)
  | room + 1, first, s =>
    let begins := if first then [] else [':']
    match if 0 < room then after begins octets s else none with
    | some (bytes, rest) => (groupsOf bytes, true, rest)
    | none =>
      match after begins group s with
      | none => ([], false, s)
      | some (g, rest) =>
        let (gs, inBytes, rest) := groups room false rest
        (g :: gs, inBytes, rest)

/-- Eight groups, where a double colon stands for at least one group of zero. Nothing may come
before it but groups of digits. -/
def eightGroups : Reader (List Nat) := fun s =>
  let (head, inBytes, rest) := groups 8 true s
  if head.length = 8 then some (head, rest)
  else if inBytes then none
  else do
    let rest ← dropBeginning [':', ':'] rest
    let (tail, _, rest) := groups (7 - head.length) true rest
    return (head ++ List.replicate (8 - head.length - tail.length) 0 ++ tail, rest)

/-- The zone of an address, which is zero if none is named. -/
def zone : Reader Nat := fun s =>
  match after ['%'] (number 4294967295) s with
  | some r => some r
  | none => some (0, s)

/-- A port after a colon. -/
def port : Reader Nat :=
  after [':'] (number 65535)

/-- An address of version 4 with a port. -/
def v4 : Reader ListenAddress := fun s => do
  let (bytes, s) ← octets s
  let (p, s) ← port s
  return (⟨.v4 bytes, p⟩, s)

/-- An address of version 6 in brackets with a port. -/
def v6 : Reader ListenAddress := fun s => do
  let (gs, s) ← after ['['] eightGroups s
  let (z, s) ← zone s
  let (p, s) ← after [']'] port s
  return (⟨.v6 gs z, p⟩, s)

/-- The number of zeros at the beginning of a list. -/
def zeros (gs : List Nat) : Nat :=
  (gs.takeWhile (· = 0)).length

/-- The place of the first longest run of zeros, with its length. -/
def longestZeros : List Nat → Nat × Nat
  | [] => (0, 0)
  | g :: r =>
    let (start, length) := longestZeros r
    if 0 < zeros (g :: r) ∧ length ≤ zeros (g :: r) then (0, zeros (g :: r))
    else (start + 1, length)

/-- Numbers with a character between them. -/
def joined (sep : String) (digits : Nat → List Char) (ns : List Nat) : String :=
  sep.intercalate (ns.map fun n => String.ofList (digits n))

/-- The text of four bytes. -/
def octetsText (bytes : List Nat) : String :=
  joined "." Decimal.digits bytes

/-- The text of eight groups: the longest run of more than one zero is left out, and an address of
version 4 in the place that is kept for these is written as one. -/
def groupsText (gs : List Nat) : String :=
  if gs.take 6 = [0, 0, 0, 0, 0, 65535] then
    "::ffff:" ++ octetsText ((gs.drop 6).flatMap fun g => [g / 256, g % 256])
  else
    let (start, length) := longestZeros gs
    if 1 < length then
      joined ":" Hex.ofNat (gs.take start) ++ "::" ++
        joined ":" Hex.ofNat (gs.drop (start + length))
    else joined ":" Hex.ofNat gs

end Address

def IpAddress.text : IpAddress → String
  | .v4 bytes => Address.octetsText bytes
  | .v6 gs zone =>
    let zoneText := if zone = 0 then "" else "%" ++ Decimal.text zone
    "[" ++ Address.groupsText gs ++ zoneText ++ "]"

namespace ListenAddress

/-- The address that a whole text gives. -/
def ofText? (s : String) : Option ListenAddress :=
  match (Address.v4 s.toList).orElse fun _ => Address.v6 s.toList with
  | some (address, []) => some address
  | _ => none

/-- The text of an address with its port. -/
def text (a : ListenAddress) : String :=
  a.ip.text ++ ":" ++ Decimal.text a.port

end ListenAddress

end EdgeAgent
