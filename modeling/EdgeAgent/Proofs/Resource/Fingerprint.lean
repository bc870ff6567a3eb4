import EdgeAgent.Proofs.Json.Filled
import EdgeAgent.Resource.Catalog
import EdgeAgent.Resource.EdgeIngress
import Mathlib.Data.List.Basic

/-! The texts that fingerprints are taken of. A spec can be read off its text; so specs of one text
are equal. -/

namespace EdgeAgent

theorem Sha256.hex_ne_empty (message : List UInt8) : Sha256.hex message ≠ "" := by
  intro h
  have htoList := congrArg String.toList h
  rw [Sha256.hex, Hex.text, String.toList_ofList] at htoList
  exact absurd htoList (List.cons_ne_nil _ _)

/-! ### Encoded specs, read again -/

theorem ServicePort.decode_toJson (s : ServicePort) :
    ServicePort.decode (Doc.ofJson s.toJson) = .ok s :=
  Decode.record_object (by decide) <|
    .always rfl <| .always (Decode.int32_toInt s.port) <| .nil _

theorem PolicyRef.decode_toJson (r : PolicyRef) :
    PolicyRef.decode (Doc.ofJson r.toJson) = .ok r := rfl

theorem EdgeIngressSpec.decode_toJson (s : EdgeIngressSpec) :
    EdgeIngressSpec.decode (Doc.ofJson s.toJson) = .ok s :=
  Decode.record_object (by decide) <|
    .always s.service.decode_toJson <|
    .present (fun r => Decode.optional_object r.decode_toJson) rfl <|
    .list (fun _ => rfl) rfl <| .nil _

theorem CatalogService.decode_toJson (s : CatalogService) :
    CatalogService.decode (Doc.ofJson s.toJson) = .ok s :=
  Decode.record_object (by decide) <|
    .always rfl <| .always rfl <| .always (Decode.int32_toInt s.port) <|
    .text rfl <| .text rfl <| .nil _

theorem CatalogSpec.decode_toJson (s : CatalogSpec) :
    CatalogSpec.decode (Doc.ofJson s.toJson) = .ok s :=
  Decode.record_object (by decide) <|
    .list (fun _ => rfl) rfl <| .list CatalogService.decode_toJson rfl <| .nil _

/-! ### The numbers of encoded specs -/

namespace Encode

variable {α : Type} {encode : α → Json}

theorem whole_object {fields : List FieldOf}
    (h : fields.Forall fun f => ∀ e, f = some e → e.2.Whole) : (object fields).Whole := by
  rw [object, Json.Whole, Json.wholeFields_iff]
  intro e he
  obtain ⟨f, hf, hid⟩ := List.mem_filterMap.1 he
  exact List.forall_iff_forall_mem.1 h f hf e hid

theorem whole_always {name : String} {j : Json} (h : j.Whole) :
    ∀ e, always name j = some e → e.2.Whole := by
  rintro e ⟨⟩
  exact h

theorem whole_text {name s : String} : ∀ e, text name s = some e → e.2.Whole := by
  intro e he
  rcases text_cases name s with ⟨-, htext⟩ | htext
  · rw [htext] at he
    cases he
  · rw [htext] at he
    cases he
    trivial

theorem whole_present {name : String} {x : Option α} (h : ∀ x, (encode x).Whole) :
    ∀ e, present name encode x = some e → e.2.Whole := by
  intro e he
  obtain ⟨x, -, rfl⟩ := Option.map_eq_some_iff.1 he
  exact h x

theorem whole_list {name : String} {xs : List α} (h : ∀ x, (encode x).Whole) :
    ∀ e, list name encode xs = some e → e.2.Whole := by
  intro e he
  rcases list_cases name encode xs with ⟨-, hlist⟩ | hlist
  · rw [hlist] at he
    cases he
  · rw [hlist] at he
    cases he
    rw [Json.Whole, Json.wholeItems_iff]
    intro j hj
    obtain ⟨x, -, rfl⟩ := List.mem_map.1 hj
    exact h x

theorem whole_int32 (n : Int32) : (Json.int n.toInt).Whole := by
  have hlow := n.le_toInt
  have hhigh := n.toInt_lt
  change Doc.Fits n.toInt
  have hbounds : (Nat.pow 2 63 : Nat) = 9223372036854775808 ∧
      (Nat.pow 2 64 : Nat) = 18446744073709551616 := by decide
  rw [Doc.Fits, hbounds.1, hbounds.2]
  omega

end Encode

theorem ServicePort.whole_toJson (s : ServicePort) : s.toJson.Whole :=
  Encode.whole_object ⟨Encode.whole_always trivial, Encode.whole_always (Encode.whole_int32 s.port)⟩

theorem EdgeIngressSpec.whole_toJson (s : EdgeIngressSpec) : s.toJson.Whole :=
  Encode.whole_object ⟨Encode.whole_always (ServicePort.whole_toJson s.service),
    Encode.whole_present fun _ => ⟨trivial, trivial⟩, Encode.whole_list fun _ => trivial⟩

theorem CatalogService.whole_toJson (s : CatalogService) : s.toJson.Whole :=
  Encode.whole_object ⟨Encode.whole_always trivial, Encode.whole_always trivial,
    Encode.whole_always (Encode.whole_int32 s.port), Encode.whole_text, Encode.whole_text⟩

theorem CatalogSpec.whole_toJson (s : CatalogSpec) : s.toJson.Whole :=
  Encode.whole_object ⟨Encode.whole_list fun _ => trivial,
    Encode.whole_list CatalogService.whole_toJson⟩

/-! ### Specs of one text -/

/-- Specs that are encoded as one text are equal. -/
def Kind.Legible {Spec Status : Type} (kind : Kind Spec Status) : Prop :=
  ∀ a b, (kind.encodeSpec a).bytes = (kind.encodeSpec b).bytes → a = b

theorem Decode.eq_of_bytes_eq {α : Type} {decode : Decoder α} {encode : α → Json}
    (hdecode : ∀ x, decode (Doc.ofJson (encode x)) = .ok x) (hwhole : ∀ x, (encode x).Whole)
    {a b : α} (h : (encode a).bytes = (encode b).bytes) : a = b := by
  have ha := bytes_encode hdecode hwhole a
  rw [h, bytes_encode hdecode hwhole b] at ha
  cases ha
  rfl

theorem Catalog.legible : Catalog.kind.Legible :=
  fun _ _ => Decode.eq_of_bytes_eq CatalogSpec.decode_toJson CatalogSpec.whole_toJson

theorem EdgeIngress.legible : EdgeIngress.kind.Legible :=
  fun _ _ => Decode.eq_of_bytes_eq EdgeIngressSpec.decode_toJson EdgeIngressSpec.whole_toJson

end EdgeAgent
