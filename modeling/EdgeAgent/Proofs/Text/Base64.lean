import EdgeAgent.Proofs.Text.Utf8
import EdgeAgent.Text.Base64

/-!
Reading Base64 is exact: what is read as bytes is their written form and nothing else, so that no
two texts stand for the same bytes. The bits that the padding leaves over are read off a last group
of one or two bytes; every group before it is four symbols.
-/

namespace EdgeAgent.Base64

variable {a b c d : UInt8} {n x y z w : Nat} {bs xs r group : List UInt8}

theorem value?_symbol_table : ∀ n : Fin 64, value? (symbol n) = some n.val := by
  decide

theorem symbol_value?_table :
    ∀ n : Fin 256, ∀ x ∈ value? (UInt8.ofNat n), x < 64 ∧ UInt8.ofNat n = symbol x := by
  decide +kernel

theorem value?_symbol (h : n < 64) : value? (symbol n) = some n :=
  value?_symbol_table ⟨n, h⟩

theorem eq_symbol (h : value? b = some x) : x < 64 ∧ b = symbol x := by
  have htable := symbol_value?_table ⟨b.toNat, b.toNat_lt⟩ x
  rw [UInt8.ofNat_toNat] at htable
  exact htable h

theorem symbol_ne_padding (h : n < 64) : symbol n ≠ padding := by
  intro heq
  have hvalue := value?_symbol h
  rw [heq] at hvalue
  cases hvalue

/-! ### Groups -/

-- The bound stands as a number here, so that `omega` finds it.
theorem toNat_ofNat (h : n < 256) : (UInt8.ofNat n).toNat = n :=
  UInt8.toNat_ofNat_of_lt' h

theorem decodeGroup_symbols (hx : x < 64) (hy : y < 64) (hz : z < 64) (hw : w < 64) :
    decodeGroup (symbol x) (symbol y) (symbol z) (symbol w) =
      some [UInt8.ofNat (x * 4 + y / 16), UInt8.ofNat (y % 16 * 16 + z / 4),
        UInt8.ofNat (z % 4 * 64 + w)] := by
  simp only [decodeGroup, value?_symbol hx, value?_symbol hy, value?_symbol hz, value?_symbol hw,
    Option.bind_eq_bind, Option.bind_some]

theorem eq_symbols_of_decodeGroup (h : decodeGroup a b c d = some group) :
    ∃ x y z w, x < 64 ∧ y < 64 ∧ z < 64 ∧ w < 64 ∧ a = symbol x ∧ b = symbol y ∧ c = symbol z ∧
      d = symbol w ∧ group = [UInt8.ofNat (x * 4 + y / 16), UInt8.ofNat (y % 16 * 16 + z / 4),
        UInt8.ofNat (z % 4 * 64 + w)] := by
  simp only [decodeGroup, Option.bind_eq_bind, Option.bind_eq_some_iff] at h
  obtain ⟨x, hx, y, hy, z, hz, w, hw, hgroup⟩ := h
  cases hgroup
  exact ⟨x, y, z, w, (eq_symbol hx).1, (eq_symbol hy).1, (eq_symbol hz).1, (eq_symbol hw).1,
    (eq_symbol hx).2, (eq_symbol hy).2, (eq_symbol hz).2, (eq_symbol hw).2, rfl⟩

theorem encode_group (hx : x < 64) (hy : y < 64) (hz : z < 64) (hw : w < 64) (r : List UInt8) :
    encode (UInt8.ofNat (x * 4 + y / 16) :: UInt8.ofNat (y % 16 * 16 + z / 4) ::
        UInt8.ofNat (z % 4 * 64 + w) :: r) =
      symbol x :: symbol y :: symbol z :: symbol w :: encode r := by
  rw [encode, toNat_ofNat (by omega), toNat_ofNat (by omega), toNat_ofNat (by omega),
    show (x * 4 + y / 16) / 4 = x by omega,
    show (x * 4 + y / 16) % 4 * 16 + (y % 16 * 16 + z / 4) / 16 = y by omega,
    show (y % 16 * 16 + z / 4) % 16 * 4 + (z % 4 * 64 + w) / 64 = z by omega,
    show (z % 4 * 64 + w) % 64 = w by omega]

/-- A last group without padding is a group as any other. -/
theorem decodeLast_eq_decodeGroup (hc : c ≠ padding) (hd : d ≠ padding) :
    decodeLast a b c d = decodeGroup a b c d := by
  simp only [decodeLast, decodeGroup, if_neg hc, if_neg hd]

theorem decode?_group (hc : c ≠ padding) (hd : d ≠ padding) (r : List UInt8) :
    decode? (a :: b :: c :: d :: r) =
      (decodeGroup a b c d).bind fun group => (decode? r).map (group ++ ·) := by
  cases r with
  | nil =>
      rw [show decode? [a, b, c, d] = decodeLast a b c d from rfl, decodeLast_eq_decodeGroup hc hd]
      cases decodeGroup a b c d <;> simp [decode?]
  | cons e r =>
      rw [decode?]
      · cases decodeGroup a b c d with
        | none => rfl
        | some group => cases decode? (e :: r) <;> rfl
      · simp

theorem decodeLast_one (hx : x < 64) (hy : y < 64) (hzero : y % 16 = 0) :
    decodeLast (symbol x) (symbol y) padding padding = some [UInt8.ofNat (x * 4 + y / 16)] := by
  simp [decodeLast, value?_symbol hx, value?_symbol hy, hzero]

theorem decodeLast_two (hx : x < 64) (hy : y < 64) (hz : z < 64) (hzero : z % 4 = 0) :
    decodeLast (symbol x) (symbol y) (symbol z) padding =
      some [UInt8.ofNat (x * 4 + y / 16), UInt8.ofNat (y % 16 * 16 + z / 4)] := by
  simp [decodeLast, value?_symbol hx, value?_symbol hy, value?_symbol hz, symbol_ne_padding hz,
    hzero]

/-- The last group is filled up with padding, and the bits that this leaves over are zero. -/
theorem eq_encode_of_decodeLast (h : decodeLast a b c d = some group) :
    [a, b, c, d] = encode group := by
  by_cases hc : c = padding
  · simp only [decodeLast, if_pos hc, Option.bind_eq_bind, Option.bind_eq_some_iff,
      Option.ite_none_right_eq_some, Option.some.injEq] at h
    obtain ⟨x, hx, y, hy, ⟨hd, hzero⟩, rfl⟩ := h
    obtain ⟨hxlt, rfl⟩ := eq_symbol hx
    obtain ⟨hylt, rfl⟩ := eq_symbol hy
    rw [encode, toNat_ofNat (by omega), show (x * 4 + y / 16) / 4 = x by omega,
      show (x * 4 + y / 16) % 4 * 16 = y by omega, hc, hd]
  · by_cases hd : d = padding
    · simp only [decodeLast, if_neg hc, if_pos hd, Option.bind_eq_bind, Option.bind_eq_some_iff,
        Option.ite_none_right_eq_some, Option.some.injEq] at h
      obtain ⟨x, hx, y, hy, z, hz, hzero, rfl⟩ := h
      obtain ⟨hxlt, rfl⟩ := eq_symbol hx
      obtain ⟨hylt, rfl⟩ := eq_symbol hy
      obtain ⟨hzlt, rfl⟩ := eq_symbol hz
      rw [encode, toNat_ofNat (by omega), toNat_ofNat (by omega),
        show (x * 4 + y / 16) / 4 = x by omega,
        show (x * 4 + y / 16) % 4 * 16 + (y % 16 * 16 + z / 4) / 16 = y by omega,
        show (y % 16 * 16 + z / 4) % 16 * 4 = z by omega, hd]
    · rw [decodeLast_eq_decodeGroup hc hd] at h
      obtain ⟨x, y, z, w, hx, hy, hz, hw, rfl, rfl, rfl, rfl, rfl⟩ := eq_symbols_of_decodeGroup h
      rw [encode_group hx hy hz hw, encode]

/-! ### Reading and writing -/

theorem decode?_encode (bs : List UInt8) : decode? (encode bs) = some bs := by
  induction bs using encode.induct with
  | case1 => rfl
  | case2 a =>
      have ha := a.toNat_lt
      rw [encode, decode?, decodeLast_one (by omega) (by omega) (by omega),
        Utf8.ofNat_eq (b := a) (by omega)]
  | case3 a b =>
      have ha := a.toNat_lt
      have hb := b.toNat_lt
      rw [encode, decode?, decodeLast_two (by omega) (by omega) (by omega) (by omega),
        Utf8.ofNat_eq (b := a) (by omega), Utf8.ofNat_eq (b := b) (by omega)]
  | case4 a b c r ih =>
      have ha := a.toNat_lt
      have hb := b.toNat_lt
      have hc := c.toNat_lt
      rw [encode, decode?_group (symbol_ne_padding (by omega)) (symbol_ne_padding (by omega)),
        decodeGroup_symbols (by omega) (by omega) (by omega) (by omega), ih,
        Utf8.ofNat_eq (b := a) (by omega), Utf8.ofNat_eq (b := b) (by omega), Utf8.ofNat_eq (b := c) (by omega)]
      rfl

theorem eq_encode_of_decode? (h : decode? bs = some xs) : bs = encode xs := by
  induction bs using decode?.induct generalizing xs with
  | case1 =>
      cases h
      rfl
  | case2 a b c d => exact eq_encode_of_decodeLast h
  | case3 a b c d r hr ih =>
      rw [decode?] at h
      · simp only [Option.bind_eq_bind, Option.bind_eq_some_iff] at h
        obtain ⟨group, hgroup, rest, hrest, hxs⟩ := h
        cases hxs
        obtain ⟨x, y, z, w, hx, hy, hz, hw, rfl, rfl, rfl, rfl, rfl⟩ :=
          eq_symbols_of_decodeGroup hgroup
        rw [ih hrest]
        exact (encode_group hx hy hz hw rest).symm
      · exact hr
  | case4 bs hempty hlast hgroup =>
      rw [decode?] at h
      · cases h
      all_goals assumption

theorem mem_encode (h : b ∈ encode bs) : b = padding ∨ ∃ n < 64, b = symbol n := by
  induction bs using encode.induct with
  | case1 => cases h
  | case2 a =>
      have ha := a.toNat_lt
      simp only [encode, List.mem_cons, List.not_mem_nil, or_false] at h
      rcases h with h | h | h | h
      · exact .inr ⟨_, by omega, h⟩
      · exact .inr ⟨_, by omega, h⟩
      · exact .inl h
      · exact .inl h
  | case3 a c =>
      have ha := a.toNat_lt
      have hc := c.toNat_lt
      simp only [encode, List.mem_cons, List.not_mem_nil, or_false] at h
      rcases h with h | h | h | h
      · exact .inr ⟨_, by omega, h⟩
      · exact .inr ⟨_, by omega, h⟩
      · exact .inr ⟨_, by omega, h⟩
      · exact .inl h
  | case4 a c d r ih =>
      have ha := a.toNat_lt
      have hc := c.toNat_lt
      have hd := d.toNat_lt
      simp only [encode, List.mem_cons] at h
      rcases h with h | h | h | h | h
      · exact .inr ⟨_, by omega, h⟩
      · exact .inr ⟨_, by omega, h⟩
      · exact .inr ⟨_, by omega, h⟩
      · exact .inr ⟨_, by omega, h⟩
      · exact ih h

/-- Base64 is read as bytes only if it is the written form of them. -/
theorem decode?_eq_some_iff : decode? bs = some xs ↔ bs = encode xs := by
  constructor
  · exact eq_encode_of_decode?
  · rintro rfl
    exact decode?_encode xs

end EdgeAgent.Base64
