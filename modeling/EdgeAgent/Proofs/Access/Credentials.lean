import EdgeAgent.Access.UserPassword
import EdgeAgent.Proofs.Text.Base64
import EdgeAgent.Proofs.Text.Blank

/-!
The credentials that a request carries. A header value is read as text only when all of it is
visible ASCII, where the blanks are the space and the tab and each character is its own byte; after
the word `Basic` and between blanks stands one Base64 text, which is the written form of the bytes
of the credentials and no other. So reading the credentials is the inverse of writing them down.
-/

namespace EdgeAgent

variable {b : UInt8} {bs : List UInt8}

/-! ### Visible values -/

theorem visible_lt (h : HeaderValue.isVisible b = true) : b.toNat < 0x80 := by
  simp only [HeaderValue.isVisible, Bool.or_eq_true, Bool.and_eq_true, decide_eq_true_eq] at h
  omega

/-- The characters of bytes that are each a character. -/
def asciiChars (bs : List UInt8) : List Char :=
  bs.map fun b => Char.ofNat b.toNat

theorem encode_asciiChars (h : ∀ b ∈ bs, HeaderValue.isVisible b = true) :
    Utf8.encode (asciiChars bs) = bs := by
  induction bs with
  | nil => rfl
  | cons b r ih =>
      have hlt := visible_lt (h b (by simp))
      have hrest := ih fun c hc => h c (by simp [hc])
      rw [asciiChars, List.map_cons, Utf8.encode, List.flatMap_cons,
        Utf8.encodeChar_ofNat (Or.inl (by omega)), if_pos hlt, UInt8.ofNat_toNat]
      exact congrArg (b :: ·) hrest

/-- The visible characters that are blank are the space and the tab. -/
theorem isBlank_iff_of_visible (h : HeaderValue.isVisible b = true) :
    isBlank (Char.ofNat b.toNat) = true ↔ b = 32 ∨ b = 9 := by
  have hlt := visible_lt h
  have hspace : b = 32 ↔ b.toNat = 32 := UInt8.toNat_inj.symm
  have htab : b = 9 ↔ b.toNat = 9 := UInt8.toNat_inj.symm
  simp only [HeaderValue.isVisible, Bool.or_eq_true, Bool.and_eq_true, decide_eq_true_eq] at h
  simp only [isBlank, Utf8.toNat_ofNat (Or.inl (by omega : b.toNat < 0xD800)), hspace, htab,
    Bool.or_eq_true, Bool.and_eq_true, decide_eq_true_eq, beq_iff_eq]
  omega

/-- No written form has a blank, and all of it is visible. -/
theorem visible_of_mem_encode (h : b ∈ Base64.encode bs) :
    HeaderValue.isVisible b = true ∧ b ≠ 32 ∧ b ≠ 9 := by
  have htable : ∀ n : Fin 64, HeaderValue.isVisible (Base64.symbol n) = true ∧
      Base64.symbol n ≠ 32 ∧ Base64.symbol n ≠ 9 := by decide
  rcases Base64.mem_encode h with rfl | ⟨n, hn, rfl⟩
  · decide
  · exact htable ⟨n, hn⟩

/-! ### Credentials -/

/-- The word before credentials. -/
def basicWord : String := "Basic "

/-- A value that is made of the word, the written form of some bytes, and blanks on both sides. -/
def HeaderValue.Holds (value : HeaderValue) (content : List UInt8) : Prop :=
  ∃ before after : List UInt8, (∀ b ∈ before ++ after, b = 32 ∨ b = 9) ∧
    value.bytes = Utf8.bytes basicWord ++ before ++ Base64.encode content ++ after

variable {value : HeaderValue} {text encoded : List Char} {content : List UInt8}

theorem visible?_eq_some_iff : value.visible? = some text ↔
    (∀ b ∈ value.bytes, HeaderValue.isVisible b = true) ∧ text = asciiChars value.bytes := by
  rw [HeaderValue.visible?, Option.ite_none_right_eq_some, List.all_eq_true, Option.some.injEq,
    eq_comm (b := text)]
  rfl

theorem holds_of_decode? (hvisible : value.visible? = some text)
    (hdrop : dropBeginning basicWord.toList text = some encoded)
    (hdecode : Base64.decode? (Utf8.encode (trim encoded)) = some content) :
    value.Holds content := by
  obtain ⟨hall, rfl⟩ := visible?_eq_some_iff.1 hvisible
  obtain ⟨before, after, htrim, hblank⟩ := exists_trim encoded
  have hsplit := dropBeginning_eq_some hdrop
  rw [htrim] at hsplit
  obtain ⟨word, rest, hbytes, hword, hrest⟩ := List.map_eq_append_iff.1 hsplit
  obtain ⟨front, back, rfl, hfront, hback⟩ := List.map_eq_append_iff.1 hrest
  obtain ⟨first, middle, rfl, hfirst, hmiddle⟩ := List.map_eq_append_iff.1 hfront
  rw [hbytes] at hall
  have hwordBytes : Utf8.encode (asciiChars word) = word :=
    encode_asciiChars fun b hb => hall b (by simp [hb])
  have hmiddleBytes : Utf8.encode (asciiChars middle) = middle :=
    encode_asciiChars fun b hb => hall b (by simp [hb])
  rw [asciiChars, hword] at hwordBytes
  rw [asciiChars, hmiddle, Base64.decode?_eq_some_iff.1 hdecode] at hmiddleBytes
  refine ⟨first, back, ?_, ?_⟩
  · intro b hb
    have hmem : b ∈ word ++ (first ++ middle ++ back) := by
      rcases List.mem_append.1 hb with hb | hb <;> simp [hb]
    refine (isBlank_iff_of_visible (hall b hmem)).1 (hblank _ ?_)
    rw [← hfirst, ← hback, ← List.map_append]
    exact List.mem_map_of_mem hb
  · rw [hbytes, Utf8.bytes, hwordBytes, hmiddleBytes]
    simp only [List.append_assoc]

theorem visible_of_holds {before after : List UInt8} (hblank : ∀ b ∈ before ++ after, b = 32 ∨ b = 9)
    (hbytes : value.bytes =
      Utf8.bytes basicWord ++ before ++ Base64.encode content ++ after) :
    ∀ b ∈ value.bytes, HeaderValue.isVisible b = true := by
  have hword : ∀ b ∈ Utf8.bytes basicWord, HeaderValue.isVisible b = true := by decide +kernel
  have hvisible : ∀ b ∈ before ++ after, HeaderValue.isVisible b = true := by
    intro b hb
    rcases hblank b hb with rfl | rfl <;> rfl
  intro b hb
  rw [hbytes] at hb
  simp only [List.mem_append] at hb
  rcases hb with ((hb | hb) | hb) | hb
  · exact hword b hb
  · exact hvisible b (by simp [hb])
  · exact (visible_of_mem_encode hb).1
  · exact hvisible b (by simp [hb])

theorem decode?_of_holds (h : value.Holds content) :
    ∃ text encoded, value.visible? = some text ∧
      dropBeginning basicWord.toList text = some encoded ∧
      Base64.decode? (Utf8.encode (trim encoded)) = some content := by
  obtain ⟨before, after, hblank, hbytes⟩ := h
  have hall := visible_of_holds hblank hbytes
  have hencoded : ∀ b ∈ Base64.encode content, HeaderValue.isVisible b = true := fun b hb =>
    (visible_of_mem_encode hb).1
  have htext : asciiChars value.bytes = basicWord.toList ++
      (asciiChars before ++ asciiChars (Base64.encode content) ++ asciiChars after) := by
    have hword : asciiChars (Utf8.bytes basicWord) = basicWord.toList := by decide
    rw [hbytes, ← hword]
    simp only [asciiChars, List.map_append, List.append_assoc]
  refine ⟨_, _, visible?_eq_some_iff.2 ⟨hall, htext.symm⟩, dropBeginning_append _ _, ?_⟩
  rw [trim_append, encode_asciiChars hencoded, Base64.decode?_encode]
  · intro c hc
    rw [asciiChars, asciiChars, ← List.map_append] at hc
    obtain ⟨b, hb, rfl⟩ := List.mem_map.1 hc
    refine (isBlank_iff_of_visible (hall b ?_)).2 (hblank b hb)
    rw [hbytes]
    rcases List.mem_append.1 hb with hb | hb <;> simp [hb]
  · refine .of_forall fun c hc => ?_
    obtain ⟨b, hb, rfl⟩ := List.mem_map.1 hc
    obtain ⟨hvisible, hspace, htab⟩ := visible_of_mem_encode hb
    have hblank := isBlank_iff_of_visible hvisible
    simpa [hspace, htab] using hblank

/-- A request carries a user name and a password when the first value of its credentials holds the
bytes of the name, a colon and the password. -/
theorem BasicAuth.credentials?_eq_some_iff {request : Request} {user password : String} :
    credentials? request = some (user, password) ↔
      ∃ value, request.headers.first? .authorization = some value ∧
        value.Holds (Utf8.bytes (user ++ ":" ++ password)) ∧ ':' ∉ user.toList := by
  have hjoin : Utf8.bytes (user ++ ":" ++ password) =
      Utf8.encode (user.toList ++ ':' :: password.toList) := by
    simp [Utf8.bytes]
  simp only [credentials?, Option.bind_eq_bind, Option.bind_eq_some_iff]
  constructor
  · rintro ⟨value, hfirst, text, hvisible, encoded, hdrop, content, hdecode, chars, hchars, parts,
      hcut, hparts⟩
    obtain ⟨hsplit, habsent⟩ := cutFirst_eq_some hcut
    cases hparts
    refine ⟨value, hfirst, ?_, by simpa using habsent⟩
    rw [hjoin, String.toList_ofList, String.toList_ofList, ← hsplit,
      ← Utf8.decode?_eq_some_iff.1 hchars]
    exact holds_of_decode? hvisible hdrop hdecode
  · rintro ⟨value, hfirst, hholds, habsent⟩
    obtain ⟨text, encoded, hvisible, hdrop, hdecode⟩ := decode?_of_holds hholds
    refine ⟨value, hfirst, text, hvisible, encoded, hdrop, _, hdecode,
      user.toList ++ ':' :: password.toList, ?_, _, cutFirst_append _ habsent, ?_⟩
    · rw [hjoin, Utf8.decode?_encode]
    · simp

end EdgeAgent
