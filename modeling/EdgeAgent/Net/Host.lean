import EdgeAgent.Http.Percent
import EdgeAgent.Net.Address
import EdgeAgent.Net.DomainName
import EdgeAgent.Text.Utf8

/-! Hosts: a domain, an address of version 6 in brackets, or up to four numbers, of which the last
one fills the bytes that are left of an address of version 4. -/

namespace EdgeAgent

/-- A host. -/
inductive Host where
  /-- A domain, by its written form. -/
  | domain (name : List Char)
  | v4 (octets : List Nat)
  | v6 (groups : List Nat)
  deriving DecidableEq

namespace Host

/-- The number of a run of digits in a base. -/
def valueIn (base : Nat) (ds : List Char) : Option Nat :=
  ds.foldlM (fun n c =>
    (Hex.value? c).bind fun d => if d < base then some (base * n + d) else none) 0

/-- A number of a host: in hexadecimal digits after `0x`, in octal digits after a zero, or in
decimal digits. -/
def number? : List Char → Option Nat
  | [] => none
  | '0' :: 'x' :: r => valueIn 16 r
  | '0' :: 'X' :: r => valueIn 16 r
  | '0' :: c :: r => valueIn 8 (c :: r)
  | ds => valueIn 10 ds

/-- The labels of a domain. A point at the end begins no label. -/
def labels (name : List Char) : List (List Char) :=
  let parts := fields '.' name
  if parts.getLast? = some [] then parts.dropLast else parts

/-- Whether the last label of a domain is a number, so that all of them must be. -/
def endsInNumber (name : List Char) : Bool :=
  (labels name).getLast?.any fun label =>
    (label ≠ [] && label.all Decimal.isDigit) || (number? label).isSome

/-- The four bytes that a number has. -/
def bytesOf (n : Nat) : List Nat :=
  [n / 16777216, n / 65536 % 256, n / 256 % 256, n % 256]

/-- The four bytes that numbers give. -/
def octets? (numbers : List Nat) : Option (List Nat) := do
  let last ← numbers.getLast?
  let first := numbers.dropLast
  if first.length < 4 ∧ (∀ n ∈ first, n < 256) ∧ last < Nat.pow 256 (4 - first.length) then
    some (first ++ (bytesOf last).drop first.length)
  else none

/-- The address of version 6 that a text between brackets gives. -/
def v6? (s : List Char) : Option Host :=
  match Address.eightGroups s with
  | some (groups, [']']) => some (.v6 groups)
  | _ => none

/-- The host that a text gives. The text of a domain is percent-encoded. -/
def ofText? : List Char → Option Host
  | '[' :: r => v6? r
  | s => do
    let decoded := Utf8.lossyChars (Percent.decode (Utf8.encode s))
    let name := Domain.text (← Domain.labels? decoded)
    if name = [] then none
    else if endsInNumber name then
      let numbers ← (labels name).mapM number?
      return .v4 (← octets? numbers)
    else return .domain name

def text : Host → List Char
  | .domain name => name
  | .v4 octets => (Address.octetsText octets).toList
  | .v6 groups => '[' :: ((Address.groupsText groups).toList ++ [']'])

end Host

end EdgeAgent
