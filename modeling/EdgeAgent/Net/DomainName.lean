import EdgeAgent.Net.Domain.Direction
import EdgeAgent.Net.Domain.Joining
import EdgeAgent.Net.Domain.Mapping
import EdgeAgent.Net.Punycode

/-! Domain names: labels between points. A name is read in its composed form, with every character
replaced by those that it stands for, and written in letters, digits and hyphens, where a label of
other characters begins with `xn--`. -/

namespace EdgeAgent.Domain

/-- The beginning of a label that is written in letters, digits and hyphens. -/
def mark : List Char := ['x', 'n', '-', '-']

/-- The greatest number of characters of a label that is written. -/
def maxWritten : Nat := 2000

/-- The greatest number of characters of a label with others than ASCII. -/
def maxLabel : Nat := 1000

/-- Whether all characters are of ASCII. -/
def isBasic (s : List Char) : Bool :=
  s.all fun c => c.toNat < 128

/-- The label of which the written form is given after its mark. It stands for itself, is composed,
has other characters than those of ASCII, and begins with no mark of its own. -/
def unwritten? (s : List Char) : Option (List Char) := do
  if maxWritten < s.length ∨ s.getLast? = some '-' then none
  let label ← Punycode.decode? s
  if !isBasic label && label.all isPlain && composed label = label &&
      (dropBeginning mark label).isNone then some label else none

/-- A label as it is read. -/
def label? (s : List Char) : Option (List Char) := do
  let label ← match dropBeginning mark s with
    | some rest => unwritten? rest
    | none => some s
  if !isBasic label && maxLabel < label.length then none
  else if label.head?.any isCombining || !joins label then none
  else some label

/-- The characters that separate a domain name from the other parts of an address. -/
def separators : List Char := ['%', '#', '/', ':', '<', '>', '?', '@', '[', '\\', ']', '^', '|']

/-- Whether a character of ASCII may not stand in a domain name. -/
def isForbidden (c : Char) : Bool :=
  c.toNat ≤ 0x20 || c.toNat = 0x7F || c ∈ separators

/-- The labels of a domain name. A name of characters of both directions keeps to one in each
label. -/
def labels? (s : List Char) : Option (List (List Char)) := do
  let name := composed (← mapped s)
  if name.any isForbidden then none
  else
    let labels ← (fields '.' name).mapM label?
    if hasRight labels.flatten && !labels.all keepsDirection then none else some labels

/-- The written form of a label. -/
def written (label : List Char) : List Char :=
  if isBasic label then label else mark ++ Punycode.encode label

/-- The written form of labels. -/
def text (labels : List (List Char)) : List Char :=
  ['.'].intercalate (labels.map written)

end EdgeAgent.Domain
