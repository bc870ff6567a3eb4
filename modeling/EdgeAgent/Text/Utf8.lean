/-! Text as UTF-8 bytes. `pieces` reads any bytes as characters and malformed stretches, where a
malformed stretch is the longest beginning of a character that cannot be completed; `decode?`
accepts the bytes without one, and `lossy` shows each as U+FFFD. The main statement is that reading
the bytes of a text gives its characters back, whatever bytes follow. -/

namespace EdgeAgent.Utf8

/-- The byte with a given value below 256. -/
private def byte (n : Nat) : UInt8 := UInt8.ofNat n

/-- The one to four bytes of a character. -/
def encodeChar (c : Char) : List UInt8 :=
  let n := c.toNat
  if n < 0x80 then [byte n]
  else if n < 0x800 then [byte (0xC0 + n / 64), byte (0x80 + n % 64)]
  else if n < 0x10000 then
    [byte (0xE0 + n / 4096), byte (0x80 + n / 64 % 64), byte (0x80 + n % 64)]
  else
    [byte (0xF0 + n / 262144), byte (0x80 + n / 4096 % 64), byte (0x80 + n / 64 % 64),
      byte (0x80 + n % 64)]

/-- The bytes of a list of characters. -/
def encode (s : List Char) : List UInt8 :=
  s.flatMap encodeChar

def bytes (s : String) : List UInt8 :=
  encode s.toList

/-- A character of which the first bytes have been read. -/
structure Begun where
  /-- How many bytes are still to come. -/
  owed : Nat
  /-- The least value the next byte may have. -/
  low : Nat
  /-- The greatest value the next byte may have. -/
  high : Nat
  /-- The bits read so far. -/
  bits : Nat

/-- What the first byte of a character says. -/
inductive Lead where
  | char (c : Char)
  | begun (b : Begun)
  | malformed

/-- The reading of a first byte. The bounds on the second byte leave out overlong forms, the
surrogates and all above U+10FFFF. -/
def lead (b : UInt8) : Lead :=
  let n := b.toNat
  if n < 0x80 then .char (Char.ofNat n)
  else if n < 0xC2 then .malformed
  else if n < 0xE0 then .begun ⟨1, 0x80, 0xBF, n - 0xC0⟩
  else if n = 0xE0 then .begun ⟨2, 0xA0, 0xBF, 0⟩
  else if n = 0xED then .begun ⟨2, 0x80, 0x9F, 0xD⟩
  else if n < 0xF0 then .begun ⟨2, 0x80, 0xBF, n - 0xE0⟩
  else if n = 0xF0 then .begun ⟨3, 0x90, 0xBF, 0⟩
  else if n < 0xF4 then .begun ⟨3, 0x80, 0xBF, n - 0xF0⟩
  else if n = 0xF4 then .begun ⟨3, 0x80, 0x8F, 4⟩
  else .malformed

/-- Characters, with `none` for each malformed stretch, read on from a character already begun. -/
def piecesFrom : Option Begun → List UInt8 → List (Option Char)
  | none, [] => []
  | some _, [] => [none]
  | none, b :: r =>
    match lead b with
    | .char c => some c :: piecesFrom none r
    | .begun g => piecesFrom (some g) r
    | .malformed => none :: piecesFrom none r
  | some g, b :: r =>
    if g.low ≤ b.toNat ∧ b.toNat ≤ g.high then
      let bits := g.bits * 64 + (b.toNat - 0x80)
      if g.owed ≤ 1 then some (Char.ofNat bits) :: piecesFrom none r
      else piecesFrom (some ⟨g.owed - 1, 0x80, 0xBF, bits⟩) r
    else
      none :: match lead b with
        | .char c => some c :: piecesFrom none r
        | .begun g => piecesFrom (some g) r
        | .malformed => none :: piecesFrom none r

/-- Characters, with `none` for each malformed stretch. -/
def pieces (bs : List UInt8) : List (Option Char) :=
  piecesFrom none bs

/-- The characters of well-formed bytes. -/
def decode? (bs : List UInt8) : Option (List Char) :=
  (pieces bs).mapM id

/-- The text of well-formed bytes. -/
def text? (bs : List UInt8) : Option String :=
  (decode? bs).map String.ofList

/-- The characters of any bytes, with U+FFFD for each malformed stretch. -/
def lossyChars (bs : List UInt8) : List Char :=
  (pieces bs).map fun piece => piece.getD '\ufffd'

/-- The text of any bytes, with U+FFFD for each malformed stretch. -/
def lossy (bs : List UInt8) : String :=
  String.ofList (lossyChars bs)

private theorem toNat_byte {n : Nat} (h : n < 256) : (byte n).toNat = n := by
  simp [byte, Nat.mod_eq_of_lt h]

private theorem toNat_valid (c : Char) :
    c.toNat < 0xD800 ∨ (0xE000 ≤ c.toNat ∧ c.toNat < 0x110000) := by
  have h := c.valid
  simp only [UInt32.isValidChar, Nat.isValidChar] at h
  have : c.val.toNat = c.toNat := rfl
  omega

/-- The last byte of a character completes it. -/
private theorem piecesFrom_last {low high bits m : Nat} (rest : List UInt8)
    (h : low ≤ m ∧ m ≤ high) (hm : m < 256) :
    piecesFrom (some ⟨1, low, high, bits⟩) (byte m :: rest) =
      some (Char.ofNat (bits * 64 + (m - 128))) :: piecesFrom none rest := by
  rw [piecesFrom, toNat_byte hm, if_pos h]
  simp

/-- A byte before the last adds its six bits. -/
private theorem piecesFrom_more {owed low high bits m : Nat} (rest : List UInt8)
    (h : low ≤ m ∧ m ≤ high) (hm : m < 256) :
    piecesFrom (some ⟨owed + 2, low, high, bits⟩) (byte m :: rest) =
      piecesFrom (some ⟨owed + 1, 0x80, 0xBF, bits * 64 + (m - 128)⟩) rest := by
  rw [piecesFrom, toNat_byte hm, if_pos h]
  simp

private theorem piecesFrom_two {n : Nat} (rest : List UInt8) (h : 0x80 ≤ n) (hn : n < 0x800) :
    piecesFrom none (byte (0xC0 + n / 64) :: byte (0x80 + n % 64) :: rest) =
      some (Char.ofNat n) :: piecesFrom none rest := by
  have hl : lead (byte (0xC0 + n / 64)) = .begun ⟨1, 0x80, 0xBF, n / 64⟩ := by
    rw [lead, toNat_byte (by omega), if_neg (by omega), if_neg (by omega), if_pos (by omega)]
    simp
  rw [piecesFrom, hl]
  simp only
  rw [piecesFrom_last rest (by omega) (by omega),
    show n / 64 * 64 + (0x80 + n % 64 - 128) = n by omega]

private theorem piecesFrom_three {n : Nat} (rest : List UInt8) (h : 0x800 ≤ n) (hn : n < 0x10000)
    (hs : n < 0xD800 ∨ 0xE000 ≤ n) :
    piecesFrom none
        (byte (0xE0 + n / 4096) :: byte (0x80 + n / 64 % 64) :: byte (0x80 + n % 64) :: rest) =
      some (Char.ofNat n) :: piecesFrom none rest := by
  have hl : ∃ low high, lead (byte (0xE0 + n / 4096)) = .begun ⟨2, low, high, n / 4096⟩ ∧
      low ≤ 0x80 + n / 64 % 64 ∧ 0x80 + n / 64 % 64 ≤ high := by
    rw [lead, toNat_byte (by omega), if_neg (by omega), if_neg (by omega), if_neg (by omega)]
    by_cases h0 : 0xE0 + n / 4096 = 0xE0
    · exact ⟨0xA0, 0xBF, by rw [if_pos h0, show n / 4096 = 0 by omega], by omega⟩
    · by_cases hd : 0xE0 + n / 4096 = 0xED
      · exact ⟨0x80, 0x9F, by rw [if_neg h0, if_pos hd, show n / 4096 = 13 by omega], by omega⟩
      · refine ⟨0x80, 0xBF, ?_, by omega⟩
        rw [if_neg h0, if_neg hd, if_pos (by omega),
          show 0xE0 + n / 4096 - 0xE0 = n / 4096 by omega]
  obtain ⟨low, high, hl, hb⟩ := hl
  rw [piecesFrom, hl]
  simp only
  rw [piecesFrom_more _ hb (by omega), piecesFrom_last rest (by omega) (by omega),
    show (n / 4096 * 64 + (0x80 + n / 64 % 64 - 128)) * 64 + (0x80 + n % 64 - 128) = n by omega]

private theorem piecesFrom_four {n : Nat} (rest : List UInt8) (h : 0x10000 ≤ n)
    (hn : n < 0x110000) :
    piecesFrom none
        (byte (0xF0 + n / 262144) :: byte (0x80 + n / 4096 % 64) :: byte (0x80 + n / 64 % 64) ::
          byte (0x80 + n % 64) :: rest) =
      some (Char.ofNat n) :: piecesFrom none rest := by
  have hl : ∃ low high, lead (byte (0xF0 + n / 262144)) = .begun ⟨3, low, high, n / 262144⟩ ∧
      low ≤ 0x80 + n / 4096 % 64 ∧ 0x80 + n / 4096 % 64 ≤ high := by
    rw [lead, toNat_byte (by omega), if_neg (by omega), if_neg (by omega), if_neg (by omega),
      if_neg (by omega), if_neg (by omega), if_neg (by omega)]
    by_cases h0 : 0xF0 + n / 262144 = 0xF0
    · exact ⟨0x90, 0xBF, by rw [if_pos h0, show n / 262144 = 0 by omega], by omega⟩
    · by_cases hd : 0xF0 + n / 262144 < 0xF4
      · refine ⟨0x80, 0xBF, ?_, by omega⟩
        rw [if_neg h0, if_pos hd, show 0xF0 + n / 262144 - 0xF0 = n / 262144 by omega]
      · refine ⟨0x80, 0x8F, ?_, by omega⟩
        rw [if_neg h0, if_neg hd, if_pos (by omega), show n / 262144 = 4 by omega]
  obtain ⟨low, high, hl, hb⟩ := hl
  rw [piecesFrom, hl]
  simp only
  rw [piecesFrom_more _ hb (by omega), piecesFrom_more _ (by omega) (by omega),
    piecesFrom_last rest (by omega) (by omega),
    show ((n / 262144 * 64 + (0x80 + n / 4096 % 64 - 128)) * 64 + (0x80 + n / 64 % 64 - 128)) * 64 +
      (0x80 + n % 64 - 128) = n by omega]

theorem piecesFrom_encodeChar (c : Char) (rest : List UInt8) :
    piecesFrom none (encodeChar c ++ rest) = some c :: piecesFrom none rest := by
  have hv := toNat_valid c
  have hc : Char.ofNat c.toNat = c := Char.ofNat_toNat c
  unfold encodeChar
  by_cases h1 : c.toNat < 0x80
  · simp only [h1, if_true, List.cons_append, List.nil_append]
    rw [piecesFrom, lead, toNat_byte (by omega), if_pos h1, hc]
  · by_cases h2 : c.toNat < 0x800
    · simp only [h1, h2, if_true, if_false, List.cons_append, List.nil_append]
      rw [piecesFrom_two rest (by omega) h2, hc]
    · by_cases h3 : c.toNat < 0x10000
      · simp only [h1, h2, h3, if_true, if_false, List.cons_append, List.nil_append]
        rw [piecesFrom_three rest (by omega) h3 (by omega), hc]
      · simp only [h1, h2, h3, if_false, List.cons_append, List.nil_append]
        rw [piecesFrom_four rest (by omega) (by omega), hc]

theorem pieces_encode_append (s : List Char) (rest : List UInt8) :
    pieces (encode s ++ rest) = s.map some ++ pieces rest := by
  induction s with
  | nil => rfl
  | cons c r ih =>
    simp only [pieces, encode, List.flatMap_cons, List.append_assoc, List.map_cons,
      List.cons_append] at ih ⊢
    rw [piecesFrom_encodeChar, ih]

theorem pieces_encode (s : List Char) : pieces (encode s) = s.map some := by
  simpa [pieces, piecesFrom] using pieces_encode_append s []

theorem decode?_encode (s : List Char) : decode? (encode s) = some s := by
  rw [decode?, pieces_encode]
  induction s with
  | nil => rfl
  | cons c r ih => simp [List.map_cons, List.mapM_cons, ih]

theorem lossyChars_encode (s : List Char) : lossyChars (encode s) = s := by
  rw [lossyChars, pieces_encode, List.map_map]
  exact List.map_id s

theorem text?_bytes (s : String) : text? (bytes s) = some s := by
  simp [text?, bytes, decode?_encode]

theorem lossy_bytes (s : String) : lossy (bytes s) = s := by
  simp [lossy, bytes, lossyChars_encode]

theorem bytes_injective {s t : String} (h : bytes s = bytes t) : s = t := by
  have := congrArg text? h
  simpa [text?_bytes] using this

end EdgeAgent.Utf8
