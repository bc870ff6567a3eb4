import EdgeAgent.Proofs.Text.Blank
import EdgeAgent.Time.Timestamp
import Mathlib.Tactic.NormNum

/-! A moment is read back from its text. Each number in it is written in digits that end where it
does, either because it has as many as are read or because a mark follows; nothing in it is blank,
and the fraction has the places that make it exact. -/

namespace EdgeAgent

variable {c : Char} {ds rest : List Char} {n width : Nat}

namespace Decimal

theorem length_digits_le (hwidth : 0 < width) (h : n < 10 ^ width) : (digits n).length ≤ width := by
  induction width generalizing n with
  | zero => omega
  | succ width ih =>
      rw [digits]
      by_cases hn : n < 10
      · simp [hn]
      · have hwidth : 0 < width := by
          rcases Nat.eq_zero_or_pos width with rfl | hpos
          · omega
          · exact hpos
        have hrest := ih (n := n / 10) hwidth (by rw [Nat.pow_succ] at h; omega)
        simp only [hn, if_false, List.length_append, List.length_singleton]
        omega

theorem length_padded (hwidth : 0 < width) (h : n < 10 ^ width) :
    (padded width n).length = width := by
  have hlength := length_digits_le hwidth h
  simp only [padded, List.length_append, List.length_replicate]
  omega

theorem isDigit_of_mem_padded (h : c ∈ padded width n) : isDigit c = true := by
  rw [padded, List.mem_append] at h
  rcases h with h | h
  · rw [List.eq_of_mem_replicate h]
    decide
  · exact isDigit_of_mem_digits h

theorem padded_ne_nil (width n : Nat) : padded width n ≠ [] := by
  simp [padded, digits_ne_nil]

/-- A written number begins with a digit. -/
theorem padded_append_ne (hc : isDigit c = false) (tail : List Char) :
    padded width n ++ rest ≠ c :: tail := by
  intro heq
  cases hds : padded width n with
  | nil => exact padded_ne_nil width n hds
  | cons d ds =>
      rw [hds] at heq
      cases heq
      have hdigit : isDigit c = true := isDigit_of_mem_padded (hds ▸ List.mem_cons_self)
      rw [hc] at hdigit
      cases hdigit

theorem value_padded (width n : Nat) : value (padded width n) = n := by
  have hzeros : ∀ k, value (List.replicate k '0' ++ digits n) = n := by
    intro k
    induction k with
    | zero => exact value_digits n
    | succ k ih =>
        rw [List.replicate_succ, List.cons_append, value, List.foldl_cons]
        exact ih
  exact hzeros _

theorem not_isBlank_of_isDigit (h : isDigit c = true) : isBlank c = false := by
  simp only [isDigit, Bool.and_eq_true, decide_eq_true_eq] at h
  simp only [isBlank, Bool.or_eq_false_iff, Bool.and_eq_false_iff, decide_eq_false_iff_not,
    beq_eq_false_iff_ne]
  omega

end Decimal

namespace Timestamp

open Decimal

/-! ### Numbers -/

/-- A text that begins with no blank. -/
theorem trimStart_cons (h : isBlank c = false) : trimStart (c :: rest) = c :: rest :=
  List.dropWhile_cons_of_neg (by simp [h])

theorem trimStart_digits (hds : ∀ c ∈ ds, isDigit c = true) (hne : ds ≠ []) :
    trimStart (ds ++ rest) = ds ++ rest := by
  cases ds with
  | nil => exact absurd rfl hne
  | cons c r => exact trimStart_cons (not_isBlank_of_isDigit (hds c (by simp)))

/-- A number is read up to where its digits end, or as many have been read as can be. -/
theorem number?_append {most : Nat} (hds : ∀ c ∈ ds, isDigit c = true) (hne : ds ≠ [])
    (hlength : ds.length ≤ most)
    (hrest : ds.length = most ∨ ∀ c, rest.head? = some c → isDigit c = false) :
    number? most (ds ++ rest) = some (value ds, rest) := by
  have htaken : ((ds ++ rest).take most).takeWhile isDigit = ds := by
    rw [List.take_append, List.take_of_length_le hlength, List.takeWhile_append_of_pos hds]
    have hnone : (rest.take (most - ds.length)).takeWhile isDigit = [] := by
      rcases hrest with heq | hend
      · simp [heq]
      · cases rest with
        | nil => simp
        | cons c r =>
            cases most - ds.length with
            | zero => rfl
            | succ k => simp [hend c rfl]
    rw [hnone, List.append_nil]
  rw [number?, htaken, if_neg hne, List.drop_left]

theorem short?_padded (h : n < 100) : short? (padded 2 n ++ rest) = some (n, rest) := by
  have hlength : (padded 2 n).length = 2 := length_padded (by omega) h
  rw [short?, trimStart_digits (fun _ => isDigit_of_mem_padded) (padded_ne_nil 2 n),
    number?_append (fun _ => isDigit_of_mem_padded) (padded_ne_nil 2 n) hlength.le (.inl hlength),
    value_padded]

theorem mark?_cons (h : isBlank c = false) : mark? c (c :: rest) = some rest := by
  rw [mark?, trimStart_cons h]
  exact dropBeginning_append [c] rest

theorem longNumber?_padded (width n : Nat) :
    longNumber? (padded width n ++ '-' :: rest) = some (n, '-' :: rest) := by
  rw [longNumber?, number?_append (fun _ => isDigit_of_mem_padded) (padded_ne_nil width n)
    (by simp) (.inr ?_), value_padded]
  rintro c ⟨⟩
  decide

theorem year?_yearChars (year : Int) :
    year? (yearChars year ++ '-' :: rest) = some (year, '-' :: rest) := by
  rw [yearChars]
  by_cases hplain : 0 ≤ year ∧ year ≤ 9999
  · have hlength : (padded 4 year.toNat).length = 4 := length_padded (by omega) (by omega)
    have hnumber : number? 4 (padded 4 year.toNat ++ '-' :: rest) = some (year.toNat, '-' :: rest) := by
      rw [number?_append (fun _ => isDigit_of_mem_padded) (padded_ne_nil _ _) hlength.le
        (.inl hlength), value_padded]
    rw [if_pos hplain, year?, trimStart_digits (fun _ => isDigit_of_mem_padded) (padded_ne_nil _ _)]
    split
    · next heq => exact absurd heq (padded_append_ne (by decide) _)
    · next heq => exact absurd heq (padded_append_ne (by decide) _)
    · rw [hnumber]
      exact congrArg (fun y => some (y, '-' :: rest)) (Int.toNat_of_nonneg hplain.1)
  · rw [if_neg hplain]
    by_cases hnegative : year < 0
    · rw [if_pos hnegative, year?, List.cons_append, trimStart_cons (by decide)]
      simp only [longNumber?_padded, Option.map_some]
      have habs : -(year.natAbs : Int) = year := by omega
      rw [habs]
    · rw [if_neg hnegative, year?, List.cons_append, trimStart_cons (by decide)]
      simp only [longNumber?_padded, Option.map_some]
      rw [Int.toNat_of_nonneg (by omega)]

/-! ### The parts of a moment -/

theorem fraction?_point (hwidth : 0 < width) (hnine : width ≤ 9) (h : n < 10 ^ width) :
    fraction? ('.' :: padded width n ++ ['Z']) = some (n * 10 ^ (9 - width), ['Z']) := by
  have hlength := length_padded hwidth h
  have hdigits : ∀ c ∈ padded width n, isDigit c = true := fun _ => isDigit_of_mem_padded
  have htaken : ((padded width n ++ ['Z']).take 9).takeWhile isDigit = padded width n := by
    rw [List.take_append, List.take_of_length_le (by omega), List.takeWhile_append_of_pos hdigits]
    cases 9 - (padded width n).length <;> simp [isDigit]
  have hdropped : (padded width n ++ ['Z']).dropWhile isDigit = ['Z'] :=
    (List.dropWhile_append_of_pos hdigits).trans rfl
  rw [List.cons_append, fraction?]
  simp only [htaken, hdropped, if_neg (padded_ne_nil width n), value_padded, hlength]
  rfl

theorem fraction?_fractionChars (h : n < 1000000000) :
    fraction? (fractionChars n ++ ['Z']) = some (n, ['Z']) := by
  rw [fractionChars]
  by_cases hnone : n = 0
  · rw [if_pos hnone, hnone]
    rfl
  rw [if_neg hnone]
  by_cases hmilli : n % 1000000 = 0
  · rw [if_pos hmilli, fraction?_point (by omega) (by omega) (by omega)]
    norm_num
    omega
  rw [if_neg hmilli]
  by_cases hmicro : n % 1000 = 0
  · rw [if_pos hmicro, fraction?_point (by omega) (by omega) (by omega)]
    norm_num
    omega
  · rw [if_neg hmicro, fraction?_point (by omega) (by omega) (by omega)]
    norm_num

/-- By a clock of universal time, a moment is its own date and minute. -/
theorem ofLocal?_zero (t : Timestamp) :
    ofLocal? t.date t.minute t.second t.nanosecond 0 = some t := by
  have hminute := t.minute_lt
  have hstart : ¬((t.minute : Int) - 0 < 0) := by omega
  have hend : (t.minute : Int) - 0 < 1440 := by omega
  have hsame : (((t.minute : Int) - 0) % 1440).toNat = t.minute := by omega
  have hexists : t.date.Exists ∧ t.date.Exists ∧ t.minute < 1440 ∧ t.second ≤ 60 ∧
      t.nanosecond < 1000000000 :=
    ⟨t.date_exists, t.date_exists, hminute, t.second_le, t.nanosecond_lt⟩
  simp only [ofLocal?, if_neg hstart, if_pos hend, hsame, dif_pos hexists]

theorem daysIn_le (year : Int) (month : Nat) : Calendar.daysIn year month ≤ 31 := by
  rw [Calendar.daysIn]
  repeat' split
  all_goals omega

theorem ofText?_text (t : Timestamp) : ofText? t.text = some t := by
  obtain ⟨-, -, -, hmonth, -, hlast⟩ := t.date_exists
  have hday := hlast.trans (daysIn_le t.date.year t.date.month)
  have hminute := t.minute_lt
  have hsecond := t.second_le
  have hclock : 60 * (t.minute / 60) + t.minute % 60 = t.minute := by omega
  have hoffset : offset? (trimStart ['Z']) = some (0, []) := rfl
  have step := fun {α β : Type} {x : Option α} {f : α → Option β} {a : α} {b : β}
    (hx : x = some a) (hf : f a = some b) => Option.bind_eq_some_iff.2 ⟨a, hx, hf⟩
  rw [ofText?, text, String.toList_ofList, charsWith]
  simp only [List.append_assoc, List.cons_append]
  refine step (year?_yearChars _) (step (mark?_cons rfl) (step (short?_padded (by omega)) ?_))
  refine step (mark?_cons rfl) (step (short?_padded (by omega)) ?_)
  refine step (short?_padded (by omega)) (step (mark?_cons rfl) (step (short?_padded (by omega)) ?_))
  refine step (mark?_cons rfl) (step (short?_padded (by omega)) ?_)
  refine step (fraction?_fractionChars t.nanosecond_lt) (step hoffset ?_)
  have hwhole : trimStart [] = [] ∧ t.minute / 60 < 24 ∧ t.minute % 60 < 60 ∧
      (0 : Int).natAbs < 1440 := ⟨rfl, by omega, by omega, by decide⟩
  exact (if_pos hwhole).trans (by rw [hclock]; exact ofLocal?_zero t)

end Timestamp

end EdgeAgent
