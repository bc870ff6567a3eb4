import EdgeAgent.Text.Cut

/-! Labels of domain names in letters, digits and hyphens. The other characters of a label are told
after a last hyphen: in the order of their code points, each by the distance from the one before it,
counted over all places of the label. A distance is written in digits of which the least ones come
first; a digit below a threshold, which follows the distances seen so far, is the last one. -/

namespace EdgeAgent.Punycode

/-- The digit of a value below 36. -/
def digit (n : Nat) : Char :=
  if n < 26 then Char.ofNat (97 + n) else Char.ofNat (22 + n)

/-- The value of a digit. -/
def value? (c : Char) : Option Nat :=
  let n := c.toNat
  if 97 ≤ n ∧ n ≤ 122 then some (n - 97)
  else if 65 ≤ n ∧ n ≤ 90 then some (n - 65)
  else if 48 ≤ n ∧ n ≤ 57 then some (n - 22)
  else none

/-- The threshold of the digit that has `k / 36 - 1` digits before it. -/
def threshold (k bias : Nat) : Nat :=
  if k ≤ bias then 1 else if bias + 26 ≤ k then 26 else k - bias

theorem one_le_threshold (k bias : Nat) : 1 ≤ threshold k bias := by
  unfold threshold
  split
  · omega
  · split <;> omega

/-- A distance brought down to 455, with 36 for each division by 35 that takes. -/
def lowered (delta k : Nat) : Nat × Nat :=
  if 455 < delta then lowered (delta / 35) (k + 36) else (delta, k)
termination_by delta
decreasing_by omega

/-- The bias after a distance, by the number of characters there are then. -/
def adapted (delta count : Nat) (first : Bool) : Nat :=
  let scaled := if first then delta / 700 else delta / 2
  let (delta, k) := lowered (scaled + scaled / count) 0
  k + 36 * delta / (delta + 38)

/-- The code point of the first character beyond ASCII. -/
def firstCode : Nat := 128

/-- The bias before the first distance. -/
def firstBias : Nat := 72

/-! ### Writing -/

/-- The digits of a distance. -/
def digits (bias k delta : Nat) : List Char :=
  let t := threshold k bias
  if delta < t then [digit delta]
  else
    digit (t + (delta - t) % (36 - t)) :: digits bias (k + 36) ((delta - t) / (36 - t))
termination_by delta
decreasing_by
  have h := one_le_threshold k bias
  have := Nat.div_le_self (delta - threshold k bias) (36 - threshold k bias)
  omega

/-- What has been written of a label. -/
structure Writing where
  out : List Char
  delta : Nat := 0
  bias : Nat := firstBias
  /-- The number of characters that have been written. -/
  count : Nat

/-- What has been written after a character was passed on the way to those of a code point. -/
def Writing.pass (basic code : Nat) (w : Writing) (c : Char) : Writing :=
  if c.toNat < code then { w with delta := w.delta + 1 }
  else if c.toNat = code then
    { out := w.out ++ digits w.bias 36 w.delta
      bias := adapted w.delta (w.count + 1) (w.count = basic)
      count := w.count + 1 }
  else w

/-- What has been written after the characters of some code points, from a code point on. -/
def writeAll (basic : Nat) (s : List Char) : List Nat → Nat → Writing → Writing
  | [], _, w => w
  | code :: codes, n, w =>
    let w := { w with delta := w.delta + (code - n) * (w.count + 1) }
    let w := s.foldl (Writing.pass basic code) w
    writeAll basic s codes (code + 1) { w with delta := w.delta + 1 }

/-- The written form of a label. -/
def encode (s : List Char) : List Char :=
  let basic := s.filter fun c => c.toNat < firstCode
  let codes := ((s.map Char.toNat).filter fun n => firstCode ≤ n).eraseDups.mergeSort
  let start := if basic = [] then [] else basic ++ ['-']
  (writeAll basic.length s codes firstCode { out := start, count := basic.length }).out

/-! ### Reading -/

/-- The numbers that are too great for a distance or a weight. -/
def limit : Nat := 4294967296

/-- A distance added to a number, with the characters after it. The digits have weights, of which
that of the first one is given. -/
def distance (bias k weight i : Nat) : List Char → Option (Nat × List Char)
  | [] => none
  | c :: r => do
    let d ← value? c
    let t := threshold k bias
    let i := i + d * weight
    let next := weight * (36 - t)
    if limit ≤ i then none
    else if d < t then some (i, r)
    else if limit ≤ next then none
    else distance bias (k + 36) next i r

/-- A label with the characters put into it that are told by the rest of the written form, after
those before place `i`. Each of them takes one of `rounds` at least. -/
def insertAll : Nat → Nat → Nat → Nat → List Char → List Char → Option (List Char)
  | _, _, _, _, out, [] => some out
  | 0, _, _, _, _, _ :: _ => none
  | rounds + 1, code, i, bias, out, s => do
    let (j, rest) ← distance bias 36 1 i s
    let count := out.length + 1
    let code := code + j / count
    let place := j % count
    if code.isValidChar then
      insertAll rounds code (place + 1) (adapted (j - i) count (i = 0))
        (out.take place ++ Char.ofNat code :: out.drop place) rest
    else none

/-- The label of a written form. A hyphen at its beginning is no last hyphen. -/
def decode? (s : List Char) : Option (List Char) :=
  match cutLast '-' s with
  | some (c :: basic, rest) => insertAll s.length firstCode 0 firstBias (c :: basic) rest
  | _ => insertAll s.length firstCode 0 firstBias [] s

end EdgeAgent.Punycode
