import EdgeAgent.Http.Percent
import EdgeAgent.Text.Cut
import EdgeAgent.Text.Utf8

/-! The pairs of a query, as an HTML form writes them: pairs between `&`, name and value at either
side of the first `=`, a blank as `+`, and every byte that is not a letter, a digit or one of
`*-._` percent-encoded. -/

namespace EdgeAgent.Query

/-- The byte of `&`. -/
def ampersand : UInt8 := 38

/-- The byte of `=`. -/
def equals : UInt8 := 61

/-- The byte of `+`. -/
def plus : UInt8 := 43

/-- The byte of a blank. -/
def space : UInt8 := 32

/-- The text of one part of a pair. What is not UTF-8 is shown as U+FFFD. -/
def decodePart (bs : List UInt8) : String :=
  Utf8.lossy (Percent.decode (bs.map fun b => if b = plus then space else b))

/-- The name and the value of a pair. -/
def decodePair (bs : List UInt8) : String × String :=
  match cutFirst equals bs with
  | some (name, value) => (decodePart name, decodePart value)
  | none => (decodePart bs, "")

/-- The pairs of a query. Nothing between two `&` is no pair. -/
def decode (bs : List UInt8) : List (String × String) :=
  ((fields ampersand bs).filter fun f => !f.isEmpty).map decodePair

/-- Whether a byte stands for itself. -/
def isPlain (b : UInt8) : Bool :=
  let n := b.toNat
  (48 ≤ n && n ≤ 57) || (65 ≤ n && n ≤ 90) || (97 ≤ n && n ≤ 122) || n = 42 || n = 45 ||
    n = 46 || n = 95

/-- A byte of a part. -/
def encodeByte (b : UInt8) : List UInt8 :=
  if b = space then [plus] else if isPlain b then [b] else Percent.encodeByte b

/-- One part of a pair. -/
def encodePart (s : String) : List UInt8 :=
  (Utf8.bytes s).flatMap encodeByte

def encodePair (pair : String × String) : List UInt8 :=
  encodePart pair.1 ++ equals :: encodePart pair.2

/-- The query of pairs. -/
def encode : List (String × String) → List UInt8
  | [] => []
  | [pair] => encodePair pair
  | pair :: r => encodePair pair ++ ampersand :: encode r

end EdgeAgent.Query
