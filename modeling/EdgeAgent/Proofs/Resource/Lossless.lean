import EdgeAgent.Proofs.Cluster.Keeper
import EdgeAgent.Proofs.Resource.Overlaid
import EdgeAgent.Resource.AccessControlPolicy

/-!
Nothing of a spec or a status is lost when it is encoded. What is left out of a text because it is
empty is read as empty, at every level and for every kind of value; so the text gives the value
back, and a spec that differs in anything has another text. Where no two of the texts have one
digest, the fingerprint tells specs apart as well, and the fingerprint that an object records says
which spec the platform has declared for it.
-/

namespace EdgeAgent

/-- No two of some messages have one digest. -/
def Sha256.CollisionFree (messages : List UInt8 → Prop) : Prop :=
  ∀ a b, messages a → messages b → hex a = hex b → a = b

/-- A value is read from its text, what is read is written as this text again, and only equal values
have one text. -/
structure Lossless {α : Type} (encode : α → Json) (decode : Decoder α) : Prop where
  text_encode : ∀ x, Decode.text decode (encode x).text = .ok x
  bytes_encode : ∀ x, Decode.bytes decode (encode x).bytes = .ok x
  rewritten : ∀ x,
    (Decode.text decode (encode x).text).map (fun y => (encode y).text) = .ok (encode x).text
  text_eq_iff : ∀ x y, (encode x).text = (encode y).text ↔ x = y
  bytes_eq_iff : ∀ x y, (encode x).bytes = (encode y).bytes ↔ x = y

namespace Lossless

variable {α : Type} {encode : α → Json} {decode : Decoder α} {messages : List UInt8 → Prop}

/-- Texts are read as they were written if the numbers in them are whole. -/
theorem of_decode (hdecode : ∀ x, decode (Doc.ofJson (encode x)) = .ok x)
    (hwhole : ∀ x, (encode x).Whole) : Lossless encode decode := by
  have htext : ∀ x, Decode.text decode (encode x).text = .ok x := by
    intro x
    rw [Decode.text, Doc.ofText, Json.text, String.toList_ofList, Doc.ofPieces_chars (hwhole x)]
    simp only [hdecode]
    rfl
  refine ⟨htext, Decode.bytes_encode hdecode hwhole, fun x => ?_, fun x y => ⟨fun h => ?_, ?_⟩,
    fun x y => ⟨Decode.eq_of_bytes_eq hdecode hwhole, ?_⟩⟩
  · rw [htext]
    rfl
  · exact Except.ok.inj ((htext x).symm.trans (h ▸ htext y))
  · rintro rfl
    rfl
  · rintro rfl
    rfl

theorem fingerprint_eq_iff (h : Lossless encode decode) (hfree : Sha256.CollisionFree messages)
    {x y : α} (hx : messages (encode x).bytes) (hy : messages (encode y).bytes) :
    fingerprint (encode x) = fingerprint (encode y) ↔ x = y := by
  constructor
  · intro heq
    exact (h.bytes_eq_iff x y).1 (hfree _ _ hx hy heq)
  · rintro rfl
    rfl

end Lossless

/-! ### Policies -/

theorem JwtSpec.decode_toJson (s : JwtSpec) : JwtSpec.decode (Doc.ofJson s.toJson) = .ok s :=
  Decode.record_object (by decide) <|
    .text rfl <| .always rfl <| .text rfl <| .text rfl <| .text rfl <| .always rfl <|
    .dict rfl <| .text rfl <| .text rfl <| .nil _

theorem BasicAuthSpec.decode_toJson (s : BasicAuthSpec) :
    BasicAuthSpec.decode (Doc.ofJson s.toJson) = .ok s :=
  Decode.record_object (by decide) <|
    .always (Decode.list_map (fun _ => rfl) s.users) <| .text rfl <| .always rfl <| .text rfl <|
    .nil _

theorem PolicySpec.decode_toJson (s : PolicySpec) :
    PolicySpec.decode (Doc.ofJson s.toJson) = .ok s :=
  Decode.record_object (by decide) <|
    .present (fun jwt => Decode.optional_object jwt.decode_toJson) rfl <|
    .present (fun basic => Decode.optional_object basic.decode_toJson) rfl <| .nil _

theorem Json.whole_strs (texts : List String) : (Json.strs texts).Whole := by
  rw [strs, Whole, wholeItems_iff]
  intro j hj
  obtain ⟨s, -, rfl⟩ := List.mem_map.1 hj
  trivial

theorem Json.whole_ofDict (d : Dict String) : (Json.ofDict d).Whole := by
  rw [ofDict, Whole, wholeFields_iff]
  intro f hf
  obtain ⟨e, -, rfl⟩ := List.mem_map.1 hf
  trivial

theorem JwtSpec.whole_toJson (s : JwtSpec) : s.toJson.Whole := by
  have hheaders : ∀ e, (if s.forwardHeaders.isEmpty then none
      else Encode.always "forwardHeaders" (.ofDict s.forwardHeaders)) = some e → e.2.Whole := by
    intro e he
    split at he
    · cases he
    · exact Encode.whole_always (Json.whole_ofDict _) e he
  exact Encode.whole_object ⟨Encode.whole_text, Encode.whole_always trivial, Encode.whole_text,
    Encode.whole_text, Encode.whole_text, Encode.whole_always trivial, hheaders, Encode.whole_text,
    Encode.whole_text⟩

theorem BasicAuthSpec.whole_toJson (s : BasicAuthSpec) : s.toJson.Whole :=
  Encode.whole_object ⟨Encode.whole_always (Json.whole_strs s.users), Encode.whole_text,
    Encode.whole_always trivial, Encode.whole_text⟩

theorem PolicySpec.whole_toJson (s : PolicySpec) : s.toJson.Whole :=
  Encode.whole_object ⟨Encode.whole_present JwtSpec.whole_toJson,
    Encode.whole_present BasicAuthSpec.whole_toJson⟩

/-! ### Statuses -/

theorem EdgeIngressStatus.decode_toJson (s : EdgeIngressStatus) :
    EdgeIngressStatus.decode (Doc.ofJson s.toJson) = .ok s :=
  Decode.record_object (by decide) <|
    .text rfl <| .present (fun t => t.whole_text.read_eq) rfl <| .text rfl <|
    .list (fun _ => rfl) rfl <| .text rfl <| .text rfl <|
    .present (fun c => c.whole_word.read_eq) rfl <| .nil _

theorem CatalogStatus.decode_toJson (s : CatalogStatus) :
    CatalogStatus.decode (Doc.ofJson s.toJson) = .ok s :=
  Decode.record_object (by decide) <|
    .text rfl <| .present (fun t => t.whole_text.read_eq) rfl <| .list (fun _ => rfl) rfl <|
    .list (fun _ => rfl) rfl <| .text rfl <| .nil _

theorem EdgeIngressStatus.whole_toJson (s : EdgeIngressStatus) : s.toJson.Whole :=
  Encode.whole_object ⟨Encode.whole_text, Encode.whole_present fun _ => trivial, Encode.whole_text,
    Encode.whole_list fun _ => trivial, Encode.whole_text, Encode.whole_text,
    Encode.whole_present fun _ => trivial⟩

theorem CatalogStatus.whole_toJson (s : CatalogStatus) : s.toJson.Whole :=
  Encode.whole_object ⟨Encode.whole_text, Encode.whole_present fun _ => trivial,
    Encode.whole_list fun _ => trivial, Encode.whole_list fun _ => trivial, Encode.whole_text⟩

/-! ### Records -/

theorem EdgeIngressRecord.spec_eq_iff {r r' : EdgeIngressRecord} :
    r.spec = r'.spec ↔
      r.service = r'.service ∧ r.acp = r'.acp ∧ r.customDomains = r'.customDomains := by
  rw [spec, spec, EdgeIngressSpec.mk.injEq]

theorem CatalogRecord.spec_eq_iff {r r' : CatalogRecord} :
    r.spec = r'.spec ↔ r.customDomains = r'.customDomains ∧ r.services = r'.services := by
  rw [spec, spec, CatalogSpec.mk.injEq]

/-- What fingerprints say of specs whose texts are among some messages, and of the records whose
objects have such specs. -/
structure Telling (messages : List UInt8 → Prop) : Prop where
  policies : ∀ a b : PolicySpec, messages a.toJson.bytes → messages b.toJson.bytes →
    (a.hash = b.hash ↔ a = b)
  edgeIngresses : ∀ a b : EdgeIngressSpec, messages a.toJson.bytes → messages b.toJson.bytes →
    (a.hash = b.hash ↔ a = b)
  catalogs : ∀ a b : CatalogSpec, messages a.toJson.bytes → messages b.toJson.bytes →
    (a.hash = b.hash ↔ a = b)
  edgeIngressRecords : ∀ (r r' : EdgeIngressRecord) (now now' : Timestamp) (o o' : EdgeIngress),
    r.materialize now = .ok o → r'.materialize now' = .ok o' →
    messages o.spec.toJson.bytes → messages o'.spec.toJson.bytes →
    ∃ s s', o.status = some s ∧ o'.status = some s' ∧
      (s.specHash = s'.specHash ↔
        r.service = r'.service ∧ r.acp = r'.acp ∧ r.customDomains = r'.customDomains)
  catalogRecords : ∀ (r r' : CatalogRecord) (now now' : Timestamp) (o o' : Catalog),
    r.materialize now = .ok o → r'.materialize now' = .ok o' →
    messages o.spec.toJson.bytes → messages o'.spec.toJson.bytes →
    ∃ s s', o.status = some s ∧ o'.status = some s' ∧
      (s.specHash = s'.specHash ↔
        r.customDomains = r'.customDomains ∧ r.services = r'.services)

/-- Specs and statuses are read back from their texts, whatever they hold; and among messages
without collisions the fingerprints of specs, and those that objects record, are equal exactly when
what is declared is equal. -/
theorem lossless_toJson :
    Lossless PolicySpec.toJson PolicySpec.decode ∧
    Lossless EdgeIngressSpec.toJson EdgeIngressSpec.decode ∧
    Lossless CatalogSpec.toJson CatalogSpec.decode ∧
    Lossless EdgeIngressStatus.toJson EdgeIngressStatus.decode ∧
    Lossless CatalogStatus.toJson CatalogStatus.decode ∧
    ∀ messages, Sha256.CollisionFree messages → Telling messages := by
  have hpolicy := Lossless.of_decode PolicySpec.decode_toJson PolicySpec.whole_toJson
  have hedge := Lossless.of_decode EdgeIngressSpec.decode_toJson EdgeIngressSpec.whole_toJson
  have hcatalog := Lossless.of_decode CatalogSpec.decode_toJson CatalogSpec.whole_toJson
  refine ⟨hpolicy, hedge, hcatalog,
    .of_decode EdgeIngressStatus.decode_toJson EdgeIngressStatus.whole_toJson,
    .of_decode CatalogStatus.decode_toJson CatalogStatus.whole_toJson, fun messages hfree => ?_⟩
  constructor
  case policies => exact fun a b => hpolicy.fingerprint_eq_iff hfree
  case edgeIngresses => exact fun a b => hedge.fingerprint_eq_iff hfree
  case catalogs => exact fun a b => hcatalog.fingerprint_eq_iff hfree
  case edgeIngressRecords =>
    intro r r' now now' o o' ho ho' hmessage hmessage'
    obtain ⟨-, rfl⟩ := Keeper.materialize_edge_iff.1 ho
    obtain ⟨-, rfl⟩ := Keeper.materialize_edge_iff.1 ho'
    refine ⟨_, _, rfl, rfl, ?_⟩
    rw [← EdgeIngressRecord.spec_eq_iff]
    exact hedge.fingerprint_eq_iff hfree hmessage hmessage'
  case catalogRecords =>
    intro r r' now now' o o' ho ho' hmessage hmessage'
    obtain ⟨-, rfl⟩ := Keeper.materialize_catalog_iff.1 ho
    obtain ⟨-, rfl⟩ := Keeper.materialize_catalog_iff.1 ho'
    refine ⟨_, _, rfl, rfl, ?_⟩
    rw [← CatalogRecord.spec_eq_iff]
    exact hcatalog.fingerprint_eq_iff hfree hmessage hmessage'

namespace CatalogRecord

/-- A catalog of one domain. -/
def single (name domain : String) : CatalogRecord where
  name := name
  customDomains := [domain]

/-- The texts of the specs of two catalogs. -/
def singleTexts (message : List UInt8) : Prop :=
  message = (single "shop" "a").spec.toJson.bytes ∨ message = (single "shop" "b").spec.toJson.bytes

/-- With another domain a catalog records another fingerprint, under another name and a day later
the same. -/
theorem lossless_toJson_single :
    Sha256.CollisionFree singleTexts ∧
    ∃ o o' later s s' s'', (single "shop" "a").materialize .newYear = .ok o ∧
      (single "shop" "b").materialize .newYear = .ok o' ∧
      (single "store" "a").materialize { Timestamp.newYear with
        date := ⟨2024, 1, 2⟩, date_exists := by decide } = .ok later ∧
      o.status = some s ∧ o'.status = some s' ∧ later.status = some s'' ∧
      s.specHash ≠ s'.specHash ∧ s.specHash = s''.specHash := by
  have hne : Sha256.hex (single "shop" "a").spec.toJson.bytes ≠
      Sha256.hex (single "shop" "b").spec.toJson.bytes := by decide +kernel
  have hfree : Sha256.CollisionFree singleTexts := by
    rintro _ _ (rfl | rfl) (rfl | rfl) h
    · rfl
    · exact absurd h hne
    · exact absurd h.symm hne
    · rfl
  have htelling := lossless_toJson.2.2.2.2.2 singleTexts hfree
  have hshop : (single "shop" "a").materialize .newYear = .ok _ := rfl
  obtain ⟨s, s', hs, hs', hother⟩ := htelling.catalogRecords (single "shop" "a")
    (single "shop" "b") .newYear .newYear _ _ hshop rfl (.inl rfl) (.inr rfl)
  obtain ⟨t, s'', ht, hs'', hsame⟩ := htelling.catalogRecords (single "shop" "a")
    (single "store" "a") .newYear _ _ _ hshop rfl (.inl rfl) (.inl rfl)
  cases hs.symm.trans ht
  exact ⟨hfree, _, _, _, s, s', s'', hshop, rfl, rfl, hs, hs', hs'', mt hother.1 (by decide),
    hsame.2 ⟨rfl, rfl⟩⟩

end CatalogRecord

end EdgeAgent
