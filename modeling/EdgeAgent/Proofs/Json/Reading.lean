import EdgeAgent.Json.Decode
import EdgeAgent.Proofs.Json.Token

/-! Reading a JSON text that was written: the value comes back with its fields in their order, if
its numbers are whole and fit in 64 bits. The fuel of the reader is twice the number of characters,
of which each value, item or field takes at least one. -/

namespace EdgeAgent

namespace Json

mutual

/-- Whether all numbers of a value are whole and fit in 64 bits. -/
def Whole : Json → Prop
  | .num (.int n) => Doc.Fits n
  | .num (.float _) => False
  | .arr items => WholeItems items
  | .obj fields => WholeFields fields
  | _ => True
termination_by structural j => j

/-- Whether all numbers of items are whole. -/
def WholeItems : List Json → Prop
  | [] => True
  | j :: r => Whole j ∧ WholeItems r
termination_by structural js => js

/-- Whether all numbers of fields are whole. -/
def WholeFields : List (String × Json) → Prop
  | [] => True
  | (_, j) :: r => Whole j ∧ WholeFields r
termination_by structural fields => fields

end

theorem wholeItems_iff {items : List Json} : WholeItems items ↔ ∀ j ∈ items, j.Whole := by
  induction items with
  | nil => simp [WholeItems]
  | cons j r ih => simp [WholeItems, ih]

theorem wholeFields_iff {fields : List (String × Json)} :
    WholeFields fields ↔ ∀ f ∈ fields, f.2.Whole := by
  induction fields with
  | nil => simp [WholeFields]
  | cons f r ih => simp [WholeFields, ih]

end Json

namespace Doc

open Json (quoted laterItems laterFields WholeItems WholeFields)

/-! ### The first character -/

/-- A character that only a number begins with. -/
def Numeric (c : Char) : Prop :=
  c = '-' ∨ Decimal.isDigit c = true

theorem Numeric.ne {c d : Char} (hc : Numeric c) (hd : d ≠ '-' ∧ Decimal.isDigit d = false) :
    c ≠ d := by
  rintro rfl
  rcases hc with hminus | hdigit
  · exact hd.1 hminus
  · rw [hd.2] at hdigit
    cases hdigit

theorem ofInt_eq_cons (n : Int) : ∃ c cs, Decimal.ofInt n = c :: cs ∧ Numeric c := by
  cases n with
  | ofNat n =>
      obtain ⟨c, ds, hcons⟩ := List.exists_cons_of_ne_nil (Decimal.digits_ne_nil n)
      have hc : c ∈ Decimal.digits n := hcons ▸ List.mem_cons_self
      exact ⟨c, ds, hcons, .inr (Decimal.isDigit_of_mem_digits hc)⟩
  | negSucc n => exact ⟨'-', Decimal.digits (n + 1), rfl, .inl rfl⟩

theorem skipSpace_cons {c : Char} (hc : isSpace c = false) (s : Pieces) :
    skipSpace (some c :: s) = some c :: s := by
  rw [skipSpace, hc]
  rfl

theorem Numeric.isSpace {c : Char} (hc : Numeric c) : isSpace c = false := by
  simp [Doc.isSpace, hc.ne (d := ' ') (by decide), hc.ne (d := '\n') (by decide),
    hc.ne (d := '\t') (by decide), hc.ne (d := '\r') (by decide)]

theorem readValue_numeric {c : Char} (hc : Numeric c) (fuel : Nat) (s : Pieces) {t : Numeral}
    {rest : Pieces} (hnumeral : numeral (some c :: s) = some (t, rest)) :
    readValue (fuel + 1) (some c :: s) = (.num t.number?, rest) := by
  have hn := hc.ne (d := 'n') (by decide)
  have ht := hc.ne (d := 't') (by decide)
  have hf := hc.ne (d := 'f') (by decide)
  have hquote := hc.ne (d := '"') (by decide)
  have hbracket := hc.ne (d := '[') (by decide)
  have hbrace := hc.ne (d := '\x7b') (by decide)
  rw [readValue, skipSpace_cons hc.isSpace]
  split <;> simp_all

/-- A value that is written begins with a character that is neither a blank nor the end of a
list. -/
theorem chars_eq_cons {j : Json} (hj : j.Whole) :
    ∃ c cs, j.chars = c :: cs ∧ isSpace c = false ∧ c ≠ ']' := by
  cases j with
  | null => exact ⟨_, _, rfl, by decide, by decide⟩
  | bool b => cases b <;> exact ⟨_, _, rfl, by decide, by decide⟩
  | num n =>
      cases n with
      | int n =>
          obtain ⟨c, cs, hcons, hc⟩ := ofInt_eq_cons n
          exact ⟨c, cs, hcons, hc.isSpace, hc.ne (by decide)⟩
      | float d => exact hj.elim
  | str s => exact ⟨_, _, rfl, by decide, by decide⟩
  | arr items => cases items <;> exact ⟨_, _, rfl, by decide, by decide⟩
  | obj fields =>
      cases fields with
      | nil => exact ⟨_, _, rfl, by decide, by decide⟩
      | cons f r => exact ⟨_, _, rfl, by decide, by decide⟩

theorem laterItems_ends (r : List Json) (rest : Pieces) : Ends ((laterItems r).map some ++ rest) := by
  cases r <;> exact ends_cons (by decide)

theorem laterFields_ends (r : List (String × Json)) (rest : Pieces) :
    Ends ((laterFields r).map some ++ rest) := by
  rcases r with _ | ⟨⟨name, j⟩, r⟩ <;> exact ends_cons (by decide)

/-! ### Values, items and fields -/

theorem length_chars_pos {j : Json} (hj : j.Whole) : 0 < j.chars.length := by
  obtain ⟨c, cs, hcons, -⟩ := chars_eq_cons hj
  rw [hcons]
  exact Nat.succ_pos _

/-- A written name is read up to its value. -/
theorem readFields_name {fuel : Nat} (name : String) {value : Doc} {s rest : Pieces} {c : Char}
    (hs : readValue fuel s = (value, some c :: rest)) (hc : isSpace c = false) :
    readFields (fuel + 1) ((quoted name).map some ++ some ':' :: s) =
      match some c :: rest with
      | some '\x7d' :: rest => (.more (some name) value .closed, rest)
      | some ',' :: r =>
        let (fields, rest) := readFields fuel r
        (.more (some name) value fields, rest)
      | _ => (.more (some name) value .cut, []) := by
  have hbody : stringBody ((name.toList.flatMap Json.escape ++ ['"']).map some ++ some ':' :: s) =
      some (name.toList.map .char, some ':' :: s) := by
    rw [List.map_append, List.append_assoc]
    exact stringBody_quoted name.toList (some ':' :: s)
  rw [quoted, List.map_cons, List.cons_append, readFields,
    skipSpace_cons (show isSpace '"' = false by decide)]
  simp only [hbody, stringOf?_map_char, skipSpace_cons (show isSpace ':' = false by decide), hs,
    skipSpace_cons hc]
  rfl

mutual

/-- A value that was written is read as it is. -/
theorem readValue_chars : ∀ (j : Json), j.Whole → ∀ (fuel : Nat), 2 * j.chars.length ≤ fuel →
    ∀ (rest : Pieces), Ends rest → readValue fuel (j.chars.map some ++ rest) = (ofJson j, rest)
  | .null, _, fuel + 1, _, rest, _ => rfl
  | .bool true, _, fuel + 1, _, rest, _ => rfl
  | .bool false, _, fuel + 1, _, rest, _ => rfl
  | .num (.int n), hj, fuel + 1, _, rest, hrest => by
      obtain ⟨t, hnumeral, hnumber⟩ := numeral_ofInt hj hrest
      obtain ⟨c, cs, hcons, hc⟩ := ofInt_eq_cons n
      rw [hcons, List.map_cons, List.cons_append] at hnumeral
      rw [Json.chars, Number.chars, hcons, List.map_cons, List.cons_append,
        readValue_numeric hc fuel _ hnumeral, hnumber]
      rfl
  | .str s, _, fuel + 1, _, rest, _ => by
      have hbody : stringBody ((s.toList.flatMap Json.escape ++ ['"']).map some ++ rest) =
          some (s.toList.map .char, rest) := by
        rw [List.map_append, List.append_assoc]
        exact stringBody_quoted s.toList rest
      rw [Json.chars, quoted, List.map_cons, List.cons_append, readValue,
        skipSpace_cons (show isSpace '"' = false by decide)]
      simp only [hbody, stringOf?_map_char]
      rfl
  | .arr [], _, fuel + 1, _, rest, _ => rfl
  | .arr (j :: r), hj, fuel + 1, hfuel, rest, hrest => by
      obtain ⟨hitem, hlater⟩ : j.Whole ∧ WholeItems r := hj
      have hlength : (Json.arr (j :: r)).chars.length =
          1 + (j.chars.length + (laterItems r).length) := by
        rw [Json.chars, List.length_cons, List.length_append, Nat.add_comm]
      obtain ⟨more, rfl⟩ : ∃ more, fuel = more + 1 := ⟨fuel - 1, by omega⟩
      have hvalue := readValue_chars j hitem more (by omega) _ (laterItems_ends r rest)
      have hitems := readItems_chars r hlater more (by omega) _ _ rest hvalue
      obtain ⟨c, cs, hcons, hspace, hbracket⟩ := chars_eq_cons hitem
      rw [hcons, List.map_cons, List.cons_append] at hitems
      rw [Json.chars, hcons, List.map_cons, List.map_append, List.map_cons, List.cons_append,
        List.append_assoc, List.cons_append, readValue,
        skipSpace_cons (show isSpace '[' = false by decide)]
      simp only [skipSpace_cons hspace]
      split
      · next heq =>
        cases heq
        exact absurd rfl hbracket
      · rw [hitems]
        rfl
  | .obj [], _, fuel + 1, _, rest, _ => rfl
  | .obj ((name, j) :: r), hj, fuel + 1, hfuel, rest, hrest => by
      obtain ⟨hfield, hlater⟩ : j.Whole ∧ WholeFields r := hj
      have hlength : (Json.obj ((name, j) :: r)).chars.length =
          1 + ((quoted name).length + (1 + (j.chars.length + (laterFields r).length))) := by
        simp only [Json.chars, List.length_cons, List.length_append]
        omega
      obtain ⟨more, rfl⟩ : ∃ more, fuel = more + 1 := ⟨fuel - 1, by omega⟩
      have hvalue := readValue_chars j hfield more (by omega) _ (laterFields_ends r rest)
      have hfields := readFields_chars r hlater more (by omega) name _ _ rest hvalue
      rw [quoted, List.map_cons, List.cons_append] at hfields
      simp only [Json.chars, quoted, List.map_cons, List.map_append, List.cons_append,
        List.append_assoc] at hfields ⊢
      rw [readValue, skipSpace_cons (show isSpace '\x7b' = false by decide)]
      simp only [skipSpace_cons (show isSpace '"' = false by decide)]
      split
      · next heq => cases heq
      · rw [hfields]
        rfl
  | j, hj, 0, hfuel, _, _ => by
      have := length_chars_pos hj
      omega
termination_by structural j => j

/-- After an item the others are read up to the end of the list. -/
theorem readItems_chars : ∀ (r : List Json), WholeItems r → ∀ (fuel : Nat),
    2 * (laterItems r).length ≤ fuel → ∀ (item : Doc) (s rest : Pieces),
    readValue fuel s = (item, (laterItems r).map some ++ rest) →
    readItems (fuel + 1) s = (.more item (ofItems r), rest)
  | [], _, fuel, _, item, s, rest, hs => by
      rw [readItems, hs]
      rfl
  | j :: r, hr, fuel, hfuel, item, s, rest, hs => by
      obtain ⟨hitem, hlater⟩ : j.Whole ∧ WholeItems r := hr
      have hlength : (laterItems (j :: r)).length =
          1 + (j.chars.length + (laterItems r).length) := by
        rw [laterItems, List.length_cons, List.length_append, Nat.add_comm]
      obtain ⟨more, rfl⟩ : ∃ more, fuel = more + 1 := ⟨fuel - 1, by omega⟩
      have hvalue := readValue_chars j hitem more (by omega) _ (laterItems_ends r rest)
      have hitems := readItems_chars r hlater more (by omega) _ _ rest hvalue
      rw [laterItems, List.map_cons, List.map_append, List.cons_append, List.append_assoc] at hs
      rw [readItems, hs]
      simp only [skipSpace_cons (show isSpace ',' = false by decide), hitems]
      rfl
termination_by structural r => r

/-- After a field the others are read up to the end of the object. -/
theorem readFields_chars : ∀ (r : List (String × Json)), WholeFields r → ∀ (fuel : Nat),
    2 * (laterFields r).length ≤ fuel → ∀ (name : String) (value : Doc) (s rest : Pieces),
    readValue fuel s = (value, (laterFields r).map some ++ rest) →
    readFields (fuel + 1) ((quoted name).map some ++ some ':' :: s) =
      (.more (some name) value (ofFields r), rest)
  | [], _, fuel, _, name, value, s, rest, hs => by
      rw [readFields_name name hs (by decide)]
      rfl
  | (later, j) :: r, hr, fuel, hfuel, name, value, s, rest, hs => by
      obtain ⟨hfield, hlater⟩ : j.Whole ∧ WholeFields r := hr
      have hlength : (laterFields ((later, j) :: r)).length =
          1 + ((quoted later).length + (1 + (j.chars.length + (laterFields r).length))) := by
        simp only [laterFields, List.length_cons, List.length_append]
        omega
      obtain ⟨more, rfl⟩ : ∃ more, fuel = more + 1 := ⟨fuel - 1, by omega⟩
      have hvalue := readValue_chars j hfield more (by omega) _ (laterFields_ends r rest)
      have hfields := readFields_chars r hlater more (by omega) later _ _ rest hvalue
      simp only [laterFields, List.map_cons, List.map_append, List.cons_append,
        List.append_assoc] at hs
      rw [readFields_name name hs (by decide)]
      simp only [hfields]
      rfl
termination_by structural r => r

end

/-! ### Whole texts -/

/-- The text of a value is read as the value. -/
theorem ofPieces_chars {j : Json} (hj : j.Whole) : ofPieces (j.chars.map some) = (ofJson j, true) := by
  have hvalue := readValue_chars j hj (2 * (j.chars.map some).length + 2)
    (by rw [List.length_map]; omega) [] ends_nil
  rw [List.append_nil] at hvalue
  rw [ofPieces, hvalue]
  rfl

theorem ofBytes_bytes {j : Json} (hj : j.Whole) : ofBytes j.bytes = (ofJson j, true) := by
  rw [ofBytes, Json.bytes, Utf8.pieces_encode, ofPieces_chars hj]

end Doc

namespace Decode

variable {α : Type} {decode : Decoder α} {encode : α → Json}

/-- A decoder that reads encoded values reads their bytes. -/
theorem bytes_encode (hdecode : ∀ x, decode (Doc.ofJson (encode x)) = .ok x)
    (hwhole : ∀ x, (encode x).Whole) (x : α) : bytes decode (encode x).bytes = .ok x := by
  rw [bytes, Doc.ofBytes_bytes (hwhole x)]
  simp only [hdecode]
  rfl

end Decode

end EdgeAgent
