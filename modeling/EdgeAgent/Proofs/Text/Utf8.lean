import EdgeAgent.Text.Utf8

/-!
Reading UTF-8 is exact: the bytes that are read as characters, with no malformed stretch among them,
are the bytes of these characters. So there is one spelling of a text, and no overlong form, no
surrogate and no value above U+10FFFF is ever read.
-/

namespace EdgeAgent.Utf8

variable {b : UInt8} {c : Char} {g : Begun} {n : Nat} {bs : List UInt8} {s : List Char}

theorem toNat_ofNat (h : n.isValidChar) : (Char.ofNat n).toNat = n := by
  rw [Char.ofNat, dif_pos h]
  rfl

theorem encodeChar_ofNat (h : n.isValidChar) :
    encodeChar (Char.ofNat n) =
      if n < 0x80 then [UInt8.ofNat n]
      else if n < 0x800 then [UInt8.ofNat (0xC0 + n / 64), UInt8.ofNat (0x80 + n % 64)]
      else if n < 0x10000 then
        [UInt8.ofNat (0xE0 + n / 4096), UInt8.ofNat (0x80 + n / 64 % 64), UInt8.ofNat (0x80 + n % 64)]
      else [UInt8.ofNat (0xF0 + n / 262144), UInt8.ofNat (0x80 + n / 4096 % 64),
        UInt8.ofNat (0x80 + n / 64 % 64), UInt8.ofNat (0x80 + n % 64)] := by
  rw [encodeChar, toNat_ofNat h]
  rfl

theorem toNat_lt (c : Char) : c.toNat < 0x110000 := by
  have hvalid : c.toNat < 0xD800 ∨ 0xDFFF < c.toNat ∧ c.toNat < 0x110000 := c.valid
  omega

theorem encodeChar_eq (c : Char) :
    encodeChar c =
      if c.toNat < 0x80 then [UInt8.ofNat c.toNat]
      else if c.toNat < 0x800 then
        [UInt8.ofNat (0xC0 + c.toNat / 64), UInt8.ofNat (0x80 + c.toNat % 64)]
      else if c.toNat < 0x10000 then
        [UInt8.ofNat (0xE0 + c.toNat / 4096), UInt8.ofNat (0x80 + c.toNat / 64 % 64),
          UInt8.ofNat (0x80 + c.toNat % 64)]
      else [UInt8.ofNat (0xF0 + c.toNat / 262144), UInt8.ofNat (0x80 + c.toNat / 4096 % 64),
        UInt8.ofNat (0x80 + c.toNat / 64 % 64), UInt8.ofNat (0x80 + c.toNat % 64)] := by
  have h := encodeChar_ofNat (n := c.toNat) c.valid
  rwa [Char.ofNat_toNat] at h

/-- The byte of an ASCII character is a byte of no other character. -/
theorem mem_encodeChar_iff {d : Char} (h : d.toNat < 0x80) :
    UInt8.ofNat d.toNat ∈ encodeChar c ↔ c = d := by
  have toNat : ∀ m, m < 256 → (UInt8.ofNat m).toNat = m := fun m hm => UInt8.toNat_ofNat_of_lt' hm
  have hbyte : ∀ m, m < 256 → (UInt8.ofNat d.toNat = UInt8.ofNat m ↔ d.toNat = m) := by
    intro m hm
    rw [← UInt8.toNat_inj, toNat _ (by omega), toNat m hm]
  have hlt : c.toNat < 0x110000 := toNat_lt c
  rw [encodeChar_eq, ← Char.toNat_inj]
  repeat' split
  all_goals
    simp only [List.mem_cons, List.not_mem_nil, or_false]
    repeat rw [hbyte _ (by omega)]
    omega

theorem mem_encode_iff {d : Char} (h : d.toNat < 0x80) :
    UInt8.ofNat d.toNat ∈ encode s ↔ d ∈ s := by
  simp only [encode, List.mem_flatMap, mem_encodeChar_iff h, exists_eq_right]

theorem ofNat_eq (h : n = b.toNat) : UInt8.ofNat n = b := by
  rw [h, UInt8.ofNat_toNat]

theorem encodeChar_of_lead (h : lead b = .char c) : encodeChar c = [b] := by
  rw [lead] at h
  by_cases hb : b.toNat < 0x80
  · rw [if_pos hb] at h
    cases h
    rw [encodeChar_ofNat (Or.inl (by omega)), if_pos hb, UInt8.ofNat_toNat]
  · rw [if_neg hb] at h
    repeat' split at h
    all_goals cases h

/-- The state after the first of two, three or four bytes. -/
theorem begun_of_lead (h : lead b = .begun g) :
    (g = ⟨1, 0x80, 0xBF, b.toNat - 0xC0⟩ ∧ 0xC2 ≤ b.toNat ∧ b.toNat < 0xE0) ∨
    (∃ low high, g = ⟨2, low, high, b.toNat - 0xE0⟩ ∧ 0xE0 ≤ b.toNat ∧ b.toNat < 0xF0 ∧
      0x80 ≤ low ∧ high ≤ 0xBF ∧ (b.toNat = 0xE0 → 0xA0 ≤ low) ∧
      (b.toNat = 0xED → high ≤ 0x9F)) ∨
    (∃ low high, g = ⟨3, low, high, b.toNat - 0xF0⟩ ∧ 0xF0 ≤ b.toNat ∧ b.toNat < 0xF5 ∧
      0x80 ≤ low ∧ high ≤ 0xBF ∧ (b.toNat = 0xF0 → 0x90 ≤ low) ∧
      (b.toNat = 0xF4 → high ≤ 0x8F)) := by
  rw [lead] at h
  repeat' split at h
  all_goals cases h
  · exact .inl ⟨rfl, by omega, by omega⟩
  · refine .inr (.inl ⟨0xA0, 0xBF, ?_, ?_⟩) <;> simp [*]
  · refine .inr (.inl ⟨0x80, 0x9F, ?_, ?_⟩) <;> simp [*]
  · exact .inr (.inl ⟨0x80, 0xBF, rfl, by omega⟩)
  · refine .inr (.inr ⟨0x90, 0xBF, ?_, ?_⟩) <;> simp [*]
  · exact .inr (.inr ⟨0x80, 0xBF, rfl, by omega⟩)
  · refine .inr (.inr ⟨0x80, 0x8F, ?_, ?_⟩) <;> simp [*]

/-- A character that was begun goes on with a byte within its bounds. -/
theorem piecesFrom_begun (h : piecesFrom (some g) bs = s.map some) :
    ∃ b r, bs = b :: r ∧ g.low ≤ b.toNat ∧ b.toNat ≤ g.high ∧
      (g.owed ≤ 1 → ∃ s', s = Char.ofNat (g.bits * 64 + (b.toNat - 0x80)) :: s' ∧
        piecesFrom none r = s'.map some) ∧
      (1 < g.owed →
        piecesFrom (some ⟨g.owed - 1, 0x80, 0xBF, g.bits * 64 + (b.toNat - 0x80)⟩) r =
          s.map some) := by
  cases bs with
  | nil => cases s <;> simp [piecesFrom] at h
  | cons b r =>
      rw [piecesFrom] at h
      by_cases hb : g.low ≤ b.toNat ∧ b.toNat ≤ g.high
      · rw [if_pos hb] at h
        refine ⟨b, r, rfl, hb.1, hb.2, ?_, ?_⟩
        · intro howed
          rw [if_pos howed] at h
          cases s with
          | nil => cases h
          | cons c s' =>
              simp only [List.map_cons, List.cons.injEq, Option.some.injEq] at h
              exact ⟨s', by rw [h.1], h.2⟩
        · intro howed
          rwa [if_neg (by omega)] at h
      · rw [if_neg hb] at h
        cases s <;> simp at h

theorem encodeChar_two {b₁ b₂ : UInt8} (h₁ : 0xC2 ≤ b₁.toNat ∧ b₁.toNat < 0xE0)
    (h₂ : 0x80 ≤ b₂.toNat ∧ b₂.toNat ≤ 0xBF) :
    encodeChar (Char.ofNat ((b₁.toNat - 0xC0) * 64 + (b₂.toNat - 0x80))) = [b₁, b₂] := by
  rw [encodeChar_ofNat (Or.inl (by omega)), if_neg (by omega), if_pos (by omega),
    ofNat_eq (b := b₁) (by omega), ofNat_eq (b := b₂) (by omega)]

theorem encodeChar_three {b₁ b₂ b₃ : UInt8} (h₁ : 0xE0 ≤ b₁.toNat ∧ b₁.toNat < 0xF0)
    (h₂ : 0x80 ≤ b₂.toNat ∧ b₂.toNat ≤ 0xBF) (h₃ : 0x80 ≤ b₃.toNat ∧ b₃.toNat ≤ 0xBF)
    (hlong : b₁.toNat = 0xE0 → 0xA0 ≤ b₂.toNat) (hhalf : b₁.toNat = 0xED → b₂.toNat ≤ 0x9F) :
    encodeChar (Char.ofNat (((b₁.toNat - 0xE0) * 64 + (b₂.toNat - 0x80)) * 64 +
      (b₃.toNat - 0x80))) = [b₁, b₂, b₃] := by
  rw [encodeChar_ofNat (by simp only [Nat.isValidChar]; omega), if_neg (by omega),
    if_neg (by omega), if_pos (by omega), ofNat_eq (b := b₁) (by omega),
    ofNat_eq (b := b₂) (by omega), ofNat_eq (b := b₃) (by omega)]

theorem encodeChar_four {b₁ b₂ b₃ b₄ : UInt8} (h₁ : 0xF0 ≤ b₁.toNat ∧ b₁.toNat < 0xF5)
    (h₂ : 0x80 ≤ b₂.toNat ∧ b₂.toNat ≤ 0xBF) (h₃ : 0x80 ≤ b₃.toNat ∧ b₃.toNat ≤ 0xBF)
    (h₄ : 0x80 ≤ b₄.toNat ∧ b₄.toNat ≤ 0xBF) (hlong : b₁.toNat = 0xF0 → 0x90 ≤ b₂.toNat)
    (hlast : b₁.toNat = 0xF4 → b₂.toNat ≤ 0x8F) :
    encodeChar (Char.ofNat ((((b₁.toNat - 0xF0) * 64 + (b₂.toNat - 0x80)) * 64 +
      (b₃.toNat - 0x80)) * 64 + (b₄.toNat - 0x80))) = [b₁, b₂, b₃, b₄] := by
  rw [encodeChar_ofNat (by simp only [Nat.isValidChar]; omega), if_neg (by omega),
    if_neg (by omega), if_neg (by omega), ofNat_eq (b := b₁) (by omega),
    ofNat_eq (b := b₂) (by omega), ofNat_eq (b := b₃) (by omega), ofNat_eq (b := b₄) (by omega)]

/-- A character that was begun by its first byte is read from the bytes of one. -/
theorem exists_encodeChar_of_begun (hlead : lead b = .begun g)
    (h : piecesFrom (some g) bs = s.map some) :
    ∃ c r s', b :: bs = encodeChar c ++ r ∧ s = c :: s' ∧ piecesFrom none r = s'.map some := by
  obtain ⟨b₂, r₂, rfl, hlow₂, hhigh₂, hlast₂, hmore₂⟩ := piecesFrom_begun h
  rcases begun_of_lead hlead with ⟨rfl, hb⟩ | ⟨low, high, rfl, hb⟩ | ⟨low, high, rfl, hb⟩ <;>
    simp only at hlow₂ hhigh₂ hlast₂ hmore₂
  · obtain ⟨s', rfl, hrest⟩ := hlast₂ (by omega)
    refine ⟨_, r₂, s', ?_, rfl, hrest⟩
    rw [encodeChar_two hb ⟨hlow₂, hhigh₂⟩]
    rfl
  · obtain ⟨b₃, r₃, rfl, hlow₃, hhigh₃, hlast₃, -⟩ := piecesFrom_begun (hmore₂ (by omega))
    obtain ⟨s', rfl, hrest⟩ := hlast₃ (by simp)
    refine ⟨_, r₃, s', ?_, rfl, hrest⟩
    rw [encodeChar_three ⟨hb.1, hb.2.1⟩ (by omega) ⟨hlow₃, hhigh₃⟩ (by omega) (by omega)]
    rfl
  · obtain ⟨b₃, r₃, rfl, hlow₃, hhigh₃, -, hmore₃⟩ := piecesFrom_begun (hmore₂ (by omega))
    obtain ⟨b₄, r₄, rfl, hlow₄, hhigh₄, hlast₄, -⟩ := piecesFrom_begun (hmore₃ (by simp))
    obtain ⟨s', rfl, hrest⟩ := hlast₄ (by simp)
    refine ⟨_, r₄, s', ?_, rfl, hrest⟩
    rw [encodeChar_four ⟨hb.1, hb.2.1⟩ (by omega) ⟨hlow₃, hhigh₃⟩ ⟨hlow₄, hhigh₄⟩ (by omega)
      (by omega)]
    rfl

/-- The first character that is read, and the bytes that it takes. -/
theorem exists_encodeChar (h : pieces (b :: bs) = s.map some) :
    ∃ c r s', b :: bs = encodeChar c ++ r ∧ s = c :: s' ∧ pieces r = s'.map some := by
  rw [pieces, piecesFrom] at h
  cases hlead : lead b with
  | char c =>
      simp only [hlead] at h
      cases s with
      | nil => cases h
      | cons c' s' =>
          simp only [List.map_cons, List.cons.injEq, Option.some.injEq] at h
          exact ⟨c, bs, s', by rw [encodeChar_of_lead hlead]; rfl, by rw [h.1], h.2⟩
  | begun g =>
      simp only [hlead] at h
      exact exists_encodeChar_of_begun hlead h
  | malformed =>
      simp only [hlead] at h
      cases s <;> simp at h

theorem pieces_eq_iff : pieces bs = s.map some ↔ bs = encode s := by
  constructor
  · intro h
    induction s generalizing bs with
    | nil =>
        cases bs with
        | nil => rfl
        | cons b bs =>
            obtain ⟨c, r, s', -, hs, -⟩ := exists_encodeChar h
            cases hs
    | cons c s ih =>
        cases bs with
        | nil => cases h
        | cons b bs =>
            obtain ⟨c', r, s', hbytes, hs, hrest⟩ := exists_encodeChar h
            cases hs
            rw [hbytes, ih hrest]
            rfl
  · rintro rfl
    exact pieces_encode s

theorem eq_map_of_mapM_id {α : Type} {l : List (Option α)} {xs : List α}
    (h : l.mapM id = some xs) : l = xs.map some := by
  induction l generalizing xs with
  | nil =>
      cases h
      rfl
  | cons x l ih =>
      simp only [List.mapM_cons, id_eq, Option.bind_eq_bind, Option.bind_eq_some_iff] at h
      obtain ⟨y, rfl, ys, hys, hxs⟩ := h
      cases hxs
      rw [ih hys]
      rfl

/-- Bytes are read as a text only if they are the bytes of it. -/
theorem decode?_eq_some_iff : decode? bs = some s ↔ bs = encode s := by
  constructor
  · intro h
    exact pieces_eq_iff.1 (eq_map_of_mapM_id h)
  · rintro rfl
    exact decode?_encode s

end EdgeAgent.Utf8
