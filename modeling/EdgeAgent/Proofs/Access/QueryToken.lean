import EdgeAgent.Proofs.Access.Token
import EdgeAgent.Proofs.Http.Header
import EdgeAgent.Proofs.Http.Query

/-!
Tokens in queries. A token that a form gives under the configured name, after fields of other names
and before any others, is the token that is asked about, whatever characters the name, the token and
the fields have: the text of a form is visible and has no byte that ends an address, so that it is
the whole query of the address, and its fields are read back as they were given.
-/

namespace EdgeAgent

namespace Uri

variable {path query : List UInt8}

/-- The path of an address: a slash, and after it ASCII that may stand in a path. -/
def IsPath (path : List UInt8) : Prop :=
  path.head? = some 47 ∧ ∀ b ∈ path, isPathByte b = true ∧ isBeyondAscii b = false

theorem IsPath.plain (h : IsPath path) : 35 ∉ path ∧ 63 ∉ path := by
  constructor
  · intro hmem
    exact absurd (h.2 35 hmem).1 (by decide)
  · intro hmem
    exact absurd (h.2 63 hmem).1 (by decide)

theorem IsPath.visible (h : IsPath path) {b : UInt8} (hb : b ∈ path) :
    HeaderValue.isVisible b = true := by
  obtain ⟨hpath, hascii⟩ := h.2 b hb
  simp only [isPathByte, isBeyondAscii, Bool.or_eq_true, Bool.and_eq_true, decide_eq_true_eq,
    decide_eq_false_iff_not] at hpath hascii
  simp only [HeaderValue.isVisible, Bool.or_eq_true, Bool.and_eq_true, decide_eq_true_eq]
  omega

theorem pathAndQuery?_of_isPath (hpath : IsPath path)
    (hquery : ∀ b ∈ query, isQueryByte b = true) :
    pathAndQuery? (path ++ 63 :: query) = some ⟨path, some query⟩ := by
  have hfragment : withoutFragment (path ++ 63 :: query) = path ++ 63 :: query := by
    rw [withoutFragment, List.takeWhile_eq_self_iff]
    intro b hb
    have hne : b ≠ 35 := by
      rintro rfl
      rcases List.mem_append.1 hb with hb | hb
      · exact hpath.plain.1 hb
      · rcases List.mem_cons.1 hb with hb | hb
        · exact absurd hb (by decide)
        · exact absurd (hquery 35 hb) (by decide)
    simpa using hne
  have hne : path ≠ [] := by
    rintro rfl
    exact nomatch hpath.1
  have hall : path.all isPathByte = true ∧ query.all isQueryByte = true :=
    ⟨List.all_eq_true.2 fun b hb => (hpath.2 b hb).1, List.all_eq_true.2 hquery⟩
  simp only [pathAndQuery?, hfragment, cutFirst_append query hpath.plain.2, Option.getD_some]
  rw [if_pos hall, if_neg hne]

/-- A path with a query is read as what it is. -/
theorem ofBytes?_of_isPath (hpath : IsPath path) (hquery : ∀ b ∈ query, isQueryByte b = true)
    (hlength : (path ++ 63 :: query).length ≤ maxLength) :
    ofBytes? (path ++ 63 :: query) = some ⟨path, some query⟩ := by
  obtain ⟨rest, rfl⟩ : ∃ rest, path = 47 :: rest := List.head?_eq_some_iff.1 hpath.1
  unfold ofBytes?
  rw [if_neg (by omega)]
  exact pathAndQuery?_of_isPath hpath hquery

end Uri

namespace JwtAuth

variable {spec : JwtSpec} {auth : JwtAuth} {token : String} {path : List UInt8}
  {before after : List (String × String)}

/-- The address with a path and with the text of a form as its query. -/
def formAddress (path : List UInt8) (pairs : List (String × String)) : List UInt8 :=
  path ++ 63 :: Query.encode pairs

theorem formAddress_visible (hpath : Uri.IsPath path) {pairs : List (String × String)} {b : UInt8}
    (hb : b ∈ formAddress path pairs) : HeaderValue.isVisible b = true := by
  rw [formAddress, List.mem_append, List.mem_cons] at hb
  rcases hb with hb | rfl | hb
  · exact hpath.visible hb
  · decide
  · exact (Query.visible_encode hb).2

theorem ofBytes?_formAddress (hpath : Uri.IsPath path) {pairs : List (String × String)}
    (hlength : (formAddress path pairs).length ≤ Uri.maxLength) :
    Uri.ofBytes? (formAddress path pairs) = some ⟨path, some (Query.encode pairs)⟩ :=
  Uri.ofBytes?_of_isPath hpath (fun _ hb => (Query.visible_encode hb).1) hlength

theorem queryToken?_of_form {name : String} (htoken : token ≠ "")
    (hbefore : ∀ pair ∈ before, pair.1 ≠ name) :
    queryToken? name ⟨path, some (Query.encode (before ++ (name, token) :: after))⟩ =
      some token := by
  refine queryToken?_eq_some_iff.2 ⟨htoken, _, before, after, rfl, ?_, hbefore⟩
  exact Query.decode_encode _

/-- A policy in force that takes tokens from queries under a name. A form gives a token under this
name, after fields of other names and before any fields. The address of a path and the text of the
form, if it is not too long, can be read and can stand in a header. A request without a token in its
credentials asks about exactly this token when it was forwarded under that address, and when it has
that address itself and was not forwarded. -/
theorem asked_of_form (h : ofSpec spec = .ok auth) (validate : Validator)
    (hname : spec.tokenQueryKey ≠ "") (htoken : token ≠ "")
    (hbefore : ∀ pair ∈ before, pair.1 ≠ spec.tokenQueryKey) (hpath : Uri.IsPath path)
    (hlength : (formAddress path (before ++ (spec.tokenQueryKey, token) :: after)).length ≤
      Uri.maxLength) :
    (∃ value : HeaderValue,
      value.bytes = formAddress path (before ++ (spec.tokenQueryKey, token) :: after) ∧
      ∀ request : Request, (∀ other, ¬request.Bears other) →
        request.headers.first? .forwardedUri = some value →
        (auth.decide validate request).asked = [token]) ∧
    ∃ uri, Uri.ofBytes? (formAddress path (before ++ (spec.tokenQueryKey, token) :: after)) =
        some uri ∧
      ∀ request : Request, (∀ other, ¬request.Bears other) →
        request.headers.first? .forwardedUri = none → request.uri = uri →
        (auth.decide validate request).asked = [token] := by
  have huri := ofBytes?_formAddress hpath hlength
  have hvisible : ∀ b ∈ formAddress path (before ++ (spec.tokenQueryKey, token) :: after),
      HeaderValue.isVisible b = true := fun b hb => formAddress_visible hpath hb
  have hfound : queryToken? spec.tokenQueryKey
      ⟨path, some (Query.encode (before ++ (spec.tokenQueryKey, token) :: after))⟩ = some token :=
    queryToken?_of_form htoken hbefore
  obtain rfl := spec_of_ofSpec h
  have hasked : ∀ {request : Request}, token? auth.spec request = some token →
      (auth.decide validate request).asked = [token] := by
    intro request hrequest
    rw [asked_decide, hrequest, Option.toList_some]
  refine ⟨⟨⟨_, ?_⟩, rfl, fun request hbears hfirst => ?_⟩, _, huri,
    fun request hbears hfirst hown => ?_⟩
  · exact List.all_eq_true.2 fun b hb =>
      HeaderValue.isHeaderValueByte_of_isVisible (hvisible b hb)
  · apply hasked
    rw [token?_of_forwardedAs hbears hname ⟨_, hfirst, hvisible, huri⟩]
    exact hfound
  · apply hasked
    have hnot : ∀ uri, ¬request.ForwardedAs uri := by
      rintro uri ⟨value, hsome, -⟩
      rw [hfirst] at hsome
      cases hsome
    rw [token?_of_not_forwarded hbears hname hnot, hown]
    exact hfound

/-- A policy that takes tokens from queries under a name with reserved characters. -/
def reserving : JwtSpec where
  tokenQueryKey := "tøken&=+"

/-- The fields of a form before the token, one of which only begins with its name. -/
def decoys : List (String × String) := [("", "a&b"), ("tøken", "no")]

theorem asked_of_form_reserved : ∃ auth, ofSpec reserving = .ok auth ∧ ∀ validate : Validator,
    ∃ value : HeaderValue,
      value.bytes = Utf8.bytes "/p%20q?=a%26b&t%C3%B8ken=no&t%C3%B8ken%26%3D%2B=+%25%23%0A%E2%98%83&=" ∧
      (auth.decide validate ⟨⟨[47], none⟩, [(.forwardedUri, value)]⟩).asked = [" %#\n☃"] ∧
      ∃ uri, Uri.ofBytes? value.bytes = some uri ∧
        (auth.decide validate ⟨uri, []⟩).asked = [" %#\n☃"] := by
  obtain ⟨auth, hspec⟩ : ∃ auth, ofSpec reserving = .ok auth := ⟨_, rfl⟩
  refine ⟨auth, hspec, fun validate => ?_⟩
  have hpath : Uri.IsPath (Utf8.bytes "/p%20q") := ⟨rfl, by decide +kernel⟩
  have hbefore : ∀ pair ∈ decoys, pair.1 ≠ reserving.tokenQueryKey := by decide
  have htoken : " %#\n☃" ≠ "" := by decide
  have hlength : (formAddress (Utf8.bytes "/p%20q") (decoys ++
      (reserving.tokenQueryKey, " %#\n☃") :: [("", "")])).length ≤ Uri.maxLength := by
    decide +kernel
  obtain ⟨⟨value, hvalue, hforwarded⟩, uri, huri, hown⟩ :=
    asked_of_form hspec validate (by decide) htoken hbefore hpath hlength
  refine ⟨value, ?_, hforwarded _ (not_bears rfl) rfl, uri, ?_, hown _ (not_bears rfl) rfl rfl⟩
  · rw [hvalue]
    decide +kernel
  · rw [hvalue]
    exact huri

end JwtAuth

end EdgeAgent
