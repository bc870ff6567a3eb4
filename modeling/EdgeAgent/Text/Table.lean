import EdgeAgent.Text.Cut
import EdgeAgent.Text.Hex
import EdgeAgent.Text.Ranges

/-! Tables of code points, written as lines of entries between blanks. An entry is some hexadecimal
numbers between commas. -/

namespace EdgeAgent.Table

/-- The number of a run of hexadecimal digits. -/
def number (ds : List Char) : Nat :=
  ds.foldl (fun n c => 16 * n + (Hex.value? c).getD 0) 0

def entriesOf (line : String) : List (List Nat) :=
  (fields ' ' line.toList).map fun entry => (fields ',' entry).map number

def entries (lines : List String) : List (List Nat) :=
  lines.flatMap entriesOf

/-- The ranges of a table whose entries have one or two numbers. -/
def ranges (lines : List String) : List (Nat × Nat) :=
  (entries lines).filterMap fun
    | [n] => some (n, n)
    | [first, last] => some (first, last)
    | _ => none

end EdgeAgent.Table
