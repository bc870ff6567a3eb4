import EdgeAgent.Proofs.Http.Header
import EdgeAgent.Text.Cut
import Mathlib.Data.List.Basic

/-!
Challenges as a client reads them. A challenge is a scheme and parameters, which are separated by
commas; a parameter is a name, an equals sign and a token or a quoted text, in which a backslash
stands before a character that is meant as it is. What is written by these rules is read back. A
quoted text whose marks and backslashes were not escaped is never read back, for each of them costs
the reader a byte or ends the text too soon.
-/

namespace EdgeAgent

/-- What a refusal asks for: a scheme, and the texts of its parameters under their names. -/
structure Challenge where
  scheme : List UInt8
  parameters : List (List UInt8 × List UInt8)
  deriving DecidableEq

namespace Challenge

variable {bs rest text name : List UInt8} {b : UInt8}

/-! ### The rules -/

def mark : UInt8 := 34

def backslash : UInt8 := 92

def comma : UInt8 := 44

def equals : UInt8 := 61

def isTokenByte (b : UInt8) : Bool :=
  decide (HeaderName.IsTokenChar (Char.ofNat b.toNat))

def isBlankByte (b : UInt8) : Bool :=
  b = 32 || b = 9

/-- Whether a byte may stand between two parameters. -/
def isBetween (b : UInt8) : Bool :=
  b = comma || isBlankByte b

/-- The longest token at the beginning, and what follows it. -/
def token? (bs : List UInt8) : Option (List UInt8 × List UInt8) :=
  if bs.takeWhile isTokenByte = [] then none
  else some (bs.takeWhile isTokenByte, bs.dropWhile isTokenByte)

/-- The text up to the closing mark, and what follows the mark. The flag says whether a backslash
stands before the first byte. -/
def quoted? : Bool → List UInt8 → Option (List UInt8 × List UInt8)
  | _, [] => none
  | true, b :: r => (quoted? false r).map fun (text, rest) => (b :: text, rest)
  | false, b :: r =>
    if b = mark then some ([], r)
    else if b = backslash then quoted? true r
    else (quoted? false r).map fun (text, rest) => (b :: text, rest)

def value? (bs : List UInt8) : Option (List UInt8 × List UInt8) :=
  match dropBeginning [mark] bs with
  | some r => quoted? false r
  | none => token? bs

def parameter? (bs : List UInt8) : Option ((List UInt8 × List UInt8) × List UInt8) := do
  let (name, r) ← token? bs
  let r ← dropBeginning [equals] (r.dropWhile isBlankByte)
  let (text, r) ← value? (r.dropWhile isBlankByte)
  return ((name, text), r)

/-- The parameters, if they are fewer than a number. -/
def parameters? : Nat → List UInt8 → Option (List (List UInt8 × List UInt8))
  | 0, _ => none
  | n + 1, bs =>
    match bs.dropWhile isBetween with
    | [] => some []
    | b :: r => do
      let (parameter, r) ← parameter? (b :: r)
      let r := r.dropWhile isBlankByte
      if r = [] ∨ r.head? = some comma then (parameters? n r).map (parameter :: ·) else none

/-- The challenge that bytes are. A parameter takes more than one byte, so that there are never more
of them than bytes. -/
def read? (bs : List UInt8) : Option Challenge := do
  let (scheme, r) ← token? bs
  if r = [] ∨ r.head? = some 32 then (parameters? bs.length r).map (⟨scheme, ·⟩) else none

/-- A byte of a quoted text. -/
def escape (b : UInt8) : List UInt8 :=
  if b = mark ∨ b = backslash then [backslash, b] else [b]

/-- A parameter as a quoted text. -/
def parameterBytes (parameter : List UInt8 × List UInt8) : List UInt8 :=
  parameter.1 ++ equals :: mark :: (parameter.2.flatMap escape ++ [mark])

def parametersBytes : List (List UInt8 × List UInt8) → List UInt8
  | [] => []
  | [parameter] => parameterBytes parameter
  | parameter :: next :: r =>
    parameterBytes parameter ++ comma :: 32 :: parametersBytes (next :: r)

/-- A challenge as it is written. -/
def bytes (challenge : Challenge) : List UInt8 :=
  challenge.scheme ++ 32 :: parametersBytes challenge.parameters

def IsToken (bs : List UInt8) : Prop :=
  bs ≠ [] ∧ ∀ b ∈ bs, isTokenByte b = true

instance (bs : List UInt8) : Decidable (IsToken bs) :=
  decidable_of_iff (bs ≠ [] ∧ bs.all isTokenByte = true) (and_congr_right' List.all_eq_true)

/-! ### Reading what is written -/

theorem exists_cons_of_isToken (h : IsToken bs) :
    ∃ b r, bs = b :: r ∧ isTokenByte b = true := by
  obtain ⟨b, r, rfl⟩ := List.exists_cons_of_ne_nil h.1
  exact ⟨b, r, rfl, h.2 b (List.mem_cons_self ..)⟩

theorem isBetween_of_isTokenByte (h : isTokenByte b = true) : isBetween b = false := by
  by_contra hbetween
  simp only [isBetween, isBlankByte, Bool.not_eq_false, Bool.or_eq_true, decide_eq_true_eq]
    at hbetween
  rcases hbetween with rfl | rfl | rfl <;> exact absurd h (by decide)

/-- A token ends at the first byte that cannot be in one. -/
theorem token?_append (hname : IsToken name) (hb : isTokenByte b = false) (rest : List UInt8) :
    token? (name ++ b :: rest) = some (name, b :: rest) := by
  have htake : (name ++ b :: rest).takeWhile isTokenByte = name := by
    rw [List.takeWhile_append_of_pos hname.2, List.takeWhile_cons_of_neg (by simp [hb]),
      List.append_nil]
  have hdrop : (name ++ b :: rest).dropWhile isTokenByte = b :: rest := by
    rw [List.dropWhile_append_of_pos hname.2, List.dropWhile_cons_of_neg (by simp [hb])]
  rw [token?, htake, hdrop, if_neg hname.1]

theorem quoted?_escape (text rest : List UInt8) :
    quoted? false (text.flatMap escape ++ mark :: rest) = some (text, rest) := by
  induction text with
  | nil => rw [List.flatMap_nil, List.nil_append, quoted?, if_pos rfl]
  | cons b text ih =>
      rw [List.flatMap_cons, List.append_assoc, escape]
      by_cases hspecial : b = mark ∨ b = backslash
      · rw [if_pos hspecial, List.cons_append, List.cons_append, List.nil_append, quoted?,
          if_neg (by decide), if_pos rfl, quoted?, ih]
        rfl
      · obtain ⟨hmark, hbackslash⟩ := not_or.1 hspecial
        rw [if_neg hspecial, List.cons_append, List.nil_append, quoted?, if_neg hmark,
          if_neg hbackslash, ih]
        rfl

theorem parameter?_mark (hname : IsToken name) (bs : List UInt8) :
    parameter? (name ++ equals :: mark :: bs) =
      (quoted? false bs).map fun (text, rest) => ((name, text), rest) := by
  have hequals : dropBeginning [equals] ((equals :: mark :: bs).dropWhile isBlankByte) =
      some (mark :: bs) := rfl
  have hvalue : value? ((mark :: bs).dropWhile isBlankByte) = quoted? false bs := rfl
  rw [parameter?, token?_append hname (by decide)]
  simp only [Option.bind_eq_bind, Option.bind_some, hequals, hvalue]
  cases quoted? false bs <;> rfl

theorem parameter?_parameterBytes (hname : IsToken name) (text rest : List UInt8) :
    parameter? (parameterBytes (name, text) ++ rest) = some ((name, text), rest) := by
  have hshape : parameterBytes (name, text) ++ rest =
      name ++ equals :: mark :: (text.flatMap escape ++ mark :: rest) := by
    simp [parameterBytes]
  rw [hshape, parameter?_mark hname, quoted?_escape]
  rfl

theorem parametersBytes_cons (parameter : List UInt8 × List UInt8)
    (r : List (List UInt8 × List UInt8)) :
    ∃ between, parametersBytes (parameter :: r) =
        parameterBytes parameter ++ (between ++ parametersBytes r) ∧
      (∀ b ∈ between, isBetween b = true) ∧
      (between ++ parametersBytes r = [] ∨
        (between ++ parametersBytes r).head? = some comma) := by
  cases r with
  | nil => exact ⟨[], by simp [parametersBytes], by simp, .inl rfl⟩
  | cons next r => exact ⟨[comma, 32], rfl, List.all_eq_true.1 rfl, .inr rfl⟩

theorem parameters?_parametersBytes {parameters : List (List UInt8 × List UInt8)} {n : Nat}
    {before : List UInt8} (hn : parameters.length < n)
    (hnames : ∀ parameter ∈ parameters, IsToken parameter.1)
    (hbefore : ∀ b ∈ before, isBetween b = true) :
    parameters? n (before ++ parametersBytes parameters) = some parameters := by
  induction parameters generalizing n before with
  | nil =>
      cases n with
      | zero => cases hn
      | succ n =>
          have hdrop : (before ++ parametersBytes []).dropWhile isBetween = [] := by
            rw [List.dropWhile_append_of_pos hbefore]
            rfl
          rw [parameters?, hdrop]
  | cons parameter r ih =>
      obtain ⟨name, text⟩ := parameter
      cases n with
      | zero => cases hn
      | succ n =>
          rw [List.forall_mem_cons] at hnames
          obtain ⟨between, hbytes, hbetween, hcomma⟩ := parametersBytes_cons (name, text) r
          obtain ⟨c, name', hname, hc⟩ := exists_cons_of_isToken hnames.1
          have hdrop : (before ++ parametersBytes ((name, text) :: r)).dropWhile isBetween =
              parameterBytes (name, text) ++ (between ++ parametersBytes r) := by
            rw [List.dropWhile_append_of_pos hbefore, hbytes, parameterBytes, hname]
            exact List.dropWhile_cons_of_neg (by simp [isBetween_of_isTokenByte hc])
          obtain ⟨b, l, hcons⟩ : ∃ b l, parameterBytes (name, text) ++
              (between ++ parametersBytes r) = b :: l := ⟨c, _, by rw [parameterBytes, hname]; rfl⟩
          have hblank : (between ++ parametersBytes r).dropWhile isBlankByte =
              between ++ parametersBytes r := by
            rcases hcomma with hempty | hhead
            · rw [hempty]
              rfl
            · obtain ⟨l, hl⟩ := List.head?_eq_some_iff.1 hhead
              rw [hl, List.dropWhile_cons_of_neg (by decide)]
          rw [parameters?, hdrop, hcons]
          simp only [← hcons, parameter?_parameterBytes hnames.1, Option.bind_eq_bind,
            Option.bind_some, hblank, if_pos hcomma,
            ih (Nat.lt_of_succ_lt_succ hn) hnames.2 hbetween, Option.map_some]

theorem length_le_length_parametersBytes (parameters : List (List UInt8 × List UInt8)) :
    parameters.length ≤ (parametersBytes parameters).length := by
  induction parameters with
  | nil => exact Nat.zero_le _
  | cons parameter r ih =>
      obtain ⟨between, hbytes, -⟩ := parametersBytes_cons parameter r
      simp only [hbytes, parameterBytes, List.length_append, List.length_cons]
      omega

/-- What is written as a challenge is read as this challenge. -/
theorem read?_bytes {challenge : Challenge} (hscheme : IsToken challenge.scheme)
    (hnames : ∀ parameter ∈ challenge.parameters, IsToken parameter.1) :
    read? challenge.bytes = some challenge := by
  have hn : challenge.parameters.length < challenge.bytes.length := by
    have := length_le_length_parametersBytes challenge.parameters
    simp only [bytes, List.length_append, List.length_cons]
    omega
  have hblank : ∀ b ∈ [(32 : UInt8)], isBetween b = true := List.all_eq_true.1 rfl
  have hparameters := parameters?_parametersBytes hn hnames hblank
  rw [read?, bytes, token?_append hscheme (by decide), ← bytes]
  simp only [Option.bind_eq_bind, Option.bind_some, List.head?_cons, or_true, if_true]
  rw [← List.singleton_append, hparameters]
  rfl

/-! ### Texts that are not escaped -/

theorem length_le_of_quoted? {escaped : Bool} (h : quoted? escaped bs = some (text, rest)) :
    text.length + rest.length + 1 ≤ bs.length := by
  fun_induction quoted? escaped bs generalizing text with
  | case1 => cases h
  | case2 b r ih =>
      obtain ⟨⟨text, rest⟩, hr, heq⟩ := Option.map_eq_some_iff.1 h
      cases heq
      have := ih hr
      simp only [List.length_cons]
      omega
  | case3 r =>
      cases h
      simp
  | case4 r _ ih =>
      have := ih h
      simp only [List.length_cons]
      omega
  | case5 b r _ _ ih =>
      obtain ⟨⟨text, rest⟩, hr, heq⟩ := Option.map_eq_some_iff.1 h
      cases heq
      have := ih hr
      simp only [List.length_cons]
      omega

/-- A reader that was given no byte more than the text and its closing mark met nothing special in
the text. -/
theorem eq_of_quoted? (h : quoted? false bs = some (text, rest))
    (hlength : bs.length ≤ text.length + rest.length + 1) :
    bs = text ++ mark :: rest ∧ mark ∉ text ∧ backslash ∉ text := by
  induction bs generalizing text with
  | nil => cases h
  | cons b r ih =>
      rw [quoted?] at h
      by_cases hmark : b = mark
      · rw [if_pos hmark] at h
        cases h
        simp [hmark]
      · rw [if_neg hmark] at h
        by_cases hbackslash : b = backslash
        · rw [if_pos hbackslash] at h
          have := length_le_of_quoted? h
          rw [List.length_cons] at hlength
          omega
        · rw [if_neg hbackslash] at h
          obtain ⟨⟨text, rest⟩, hr, heq⟩ := Option.map_eq_some_iff.1 h
          cases heq
          obtain ⟨hsplit, htext⟩ := ih hr (by simp only [List.length_cons] at hlength; omega)
          simp [hsplit, htext, Ne.symm hmark, Ne.symm hbackslash]

/-- The bytes of a challenge with one parameter whose text was not escaped. -/
def plainBytes (scheme name text : List UInt8) : List UInt8 :=
  scheme ++ 32 :: (name ++ equals :: mark :: (text ++ [mark]))

theorem exists_parameter?_of_parameters? {n : Nat} {parameter : List UInt8 × List UInt8}
    {r : List (List UInt8 × List UInt8)} (h : parameters? n bs = some (parameter :: r)) :
    ∃ rest, parameter? (bs.dropWhile isBetween) = some (parameter, rest) := by
  cases n with
  | zero => cases h
  | succ n =>
      rw [parameters?] at h
      cases hdrop : bs.dropWhile isBetween with
      | nil =>
          rw [hdrop] at h
          cases h
      | cons b l =>
          rw [hdrop] at h
          obtain ⟨⟨found, rest⟩, hfound, hrest⟩ := Option.bind_eq_some_iff.1 h
          simp only [Option.ite_none_right_eq_some, Option.map_eq_some_iff] at hrest
          obtain ⟨-, l, -, heq⟩ := hrest
          cases heq
          exact ⟨rest, hfound⟩

/-- A text that was not escaped is read back exactly when there was nothing to escape. -/
theorem read?_plainBytes_iff {scheme : List UInt8} (hscheme : IsToken scheme)
    (hname : IsToken name) (text : List UInt8) :
    read? (plainBytes scheme name text) = some ⟨scheme, [(name, text)]⟩ ↔
      mark ∉ text ∧ backslash ∉ text := by
  constructor
  · intro h
    rw [read?, plainBytes, token?_append hscheme (by decide), ← plainBytes] at h
    simp only [Option.bind_eq_bind, Option.bind_some, List.head?_cons, or_true, if_true,
      Option.map_eq_some_iff, Challenge.mk.injEq, true_and, exists_eq_right] at h
    obtain ⟨rest, hparameter⟩ := exists_parameter?_of_parameters? h
    have hdrop : (32 :: (name ++ equals :: mark :: (text ++ [mark]))).dropWhile isBetween =
        name ++ equals :: mark :: (text ++ [mark]) := by
      obtain ⟨c, name', rfl, hc⟩ := exists_cons_of_isToken hname
      rw [List.dropWhile_cons_of_pos (by decide)]
      exact List.dropWhile_cons_of_neg (by simp [isBetween_of_isTokenByte hc])
    rw [hdrop, parameter?_mark hname] at hparameter
    obtain ⟨⟨text', rest⟩, hquoted, heq⟩ := Option.map_eq_some_iff.1 hparameter
    cases heq
    have hlength : (text ++ [mark]).length ≤ text.length + rest.length + 1 := by
      simp only [List.length_append, List.length_singleton]
      omega
    exact (eq_of_quoted? hquoted hlength).2
  · rintro ⟨hmark, hbackslash⟩
    have hescape : text.flatMap escape = text := by
      have hone : ∀ b ∈ text, escape b = [b] := by
        intro b hb
        refine if_neg ?_
        rintro (rfl | rfl)
        · exact hmark hb
        · exact hbackslash hb
      rw [List.flatMap_congr hone, List.flatMap_singleton']
    have hbytes : plainBytes scheme name text = bytes ⟨scheme, [(name, text)]⟩ := by
      simp [plainBytes, bytes, parametersBytes, parameterBytes, hescape]
    rw [hbytes, read?_bytes hscheme (by simpa using hname)]

end Challenge

end EdgeAgent
