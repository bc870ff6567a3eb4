/-! Numbers in decimal digits. `digits` writes a number in as few digits as it needs, and `value`
reads a run of digits; reading what was written gives the number back. -/

namespace EdgeAgent.Decimal

/-- The digit of a value below ten. -/
def digit (n : Nat) : Char :=
  Char.ofNat (48 + n)

def isDigit (c : Char) : Bool :=
  48 ≤ c.toNat && c.toNat ≤ 57

def digitValue (c : Char) : Nat :=
  c.toNat - 48

/-- A number in as few digits as it needs. -/
def digits (n : Nat) : List Char :=
  if n < 10 then [digit n] else digits (n / 10) ++ [digit (n % 10)]

/-- A number in at least `width` digits, with zeros before it. -/
def padded (width n : Nat) : List Char :=
  let ds := digits n
  List.replicate (width - ds.length) '0' ++ ds

/-- The number that a run of digits stands for. -/
def value (ds : List Char) : Nat :=
  ds.foldl (fun n c => 10 * n + digitValue c) 0

/-- A whole number, with a minus sign when it is negative. -/
def ofInt : Int → List Char
  | .ofNat n => digits n
  | .negSucc n => '-' :: digits (n + 1)

/-- The text of a number. -/
def text (n : Nat) : String :=
  String.ofList (digits n)

/-- The number that a non-empty run of digits stands for. -/
def read? (ds : List Char) : Option Nat :=
  if ds ≠ [] ∧ ds.all isDigit then some (value ds) else none

private theorem digit_table : ∀ n : Fin 10,
    isDigit (digit n.val) = true ∧ digitValue (digit n.val) = n.val := by
  decide

theorem isDigit_digit {n : Nat} (h : n < 10) : isDigit (digit n) = true :=
  (digit_table ⟨n, h⟩).1

theorem digitValue_digit {n : Nat} (h : n < 10) : digitValue (digit n) = n :=
  (digit_table ⟨n, h⟩).2

theorem value_append_digit (ds : List Char) (c : Char) :
    value (ds ++ [c]) = 10 * value ds + digitValue c := by
  simp [value]

theorem digits_ne_nil (n : Nat) : digits n ≠ [] := by
  rw [digits]
  split <;> simp

theorem value_digits (n : Nat) : value (digits n) = n := by
  induction n using Nat.strongRecOn with
  | ind n ih =>
    rw [digits]
    by_cases h : n < 10
    · simp [h, value, digitValue_digit h]
    · rw [if_neg h, value_append_digit, ih (n / 10) (by omega), digitValue_digit (by omega)]
      omega

theorem isDigit_of_mem_digits {n : Nat} {c : Char} (h : c ∈ digits n) : isDigit c = true := by
  induction n using Nat.strongRecOn with
  | ind n ih =>
    rw [digits] at h
    by_cases hn : n < 10
    · rw [if_pos hn, List.mem_singleton] at h
      rw [h, isDigit_digit hn]
    · rw [if_neg hn, List.mem_append, List.mem_singleton] at h
      rcases h with h | h
      · exact ih (n / 10) (by omega) h
      · rw [h, isDigit_digit (by omega)]

theorem read?_digits (n : Nat) : read? (digits n) = some n := by
  rw [read?, if_pos ⟨digits_ne_nil n, List.all_eq_true.2 fun _ => isDigit_of_mem_digits⟩,
    value_digits]

end EdgeAgent.Decimal
