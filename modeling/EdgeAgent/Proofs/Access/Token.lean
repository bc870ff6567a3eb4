import EdgeAgent.Access.Token
import EdgeAgent.Proofs.Access.Credentials

/-!
Which token of a request is asked about. A token in the header goes before one in a query, and the
query of the forwarded address before that of the request: a source that is there is the only one
that counts, even if it holds no token. So the decision about a request does not depend on the
sources after it, and about the token that is found the validator alone decides.
-/

namespace EdgeAgent

variable {spec : JwtSpec} {auth : JwtAuth} {request request' : Request} {token name : String}
  {uri : Uri}

/-! ### The sources of a token -/

/-- The word before a token in a header. -/
def bearerWord : String := "Bearer "

/-- A value that is made of the word, a token and blanks on both sides, all of it visible. -/
def HeaderValue.Bears (value : HeaderValue) (token : String) : Prop :=
  token ≠ "" ∧ Trimmed token.toList ∧ ∃ before after,
    value.visible? = some (bearerWord.toList ++ (before ++ token.toList ++ after)) ∧
      ∀ c ∈ before ++ after, isBlank c = true

namespace Request

/-- The first credentials of a request are a token. -/
def Bears (request : Request) (token : String) : Prop :=
  ∃ value, request.headers.first? .authorization = some value ∧ value.Bears token

/-- The first address under which a request says it was forwarded can be read. -/
def ForwardedAs (request : Request) (uri : Uri) : Prop :=
  ∃ value, request.headers.first? .forwardedUri = some value ∧
    (∀ b ∈ value.bytes, HeaderValue.isVisible b = true) ∧ Uri.ofBytes? value.bytes = some uri

end Request

/-- The first value under a name in the query of an address. -/
def Uri.FirstUnder (uri : Uri) (name value : String) : Prop :=
  ∃ query before after, uri.query = some query ∧
    Query.decode query = before ++ (name, value) :: after ∧ ∀ pair ∈ before, pair.1 ≠ name

theorem Uri.firstUnder_iff {value : String} : uri.FirstUnder name value ↔ ∃ query,
    uri.query = some query ∧
      (Query.decode query).find? (fun pair => pair.1 = name) = some (name, value) := by
  simp only [List.find?_eq_some_iff_append]
  constructor
  · rintro ⟨query, before, after, hquery, hpairs, hbefore⟩
    exact ⟨query, hquery, by simp, before, after, hpairs, fun pair hp => by
      simpa using hbefore pair hp⟩
  · rintro ⟨query, hquery, -, before, after, hpairs, hbefore⟩
    exact ⟨query, before, after, hquery, hpairs, fun pair hp => by simpa using hbefore pair hp⟩

theorem Uri.FirstUnder.eq {value value' : String} (h : uri.FirstUnder name value)
    (h' : uri.FirstUnder name value') : value = value' := by
  obtain ⟨query, hquery, hfind⟩ := firstUnder_iff.1 h
  obtain ⟨query', hquery', hfind'⟩ := firstUnder_iff.1 h'
  rw [hquery] at hquery'
  cases hquery'
  rw [hfind] at hfind'
  cases hfind'
  rfl

namespace JwtAuth

theorem bearer?_eq_some_iff : bearer? request = some token ↔ request.Bears token := by
  simp only [bearer?, Option.bind_eq_bind, Option.bind_eq_some_iff]
  constructor
  · rintro ⟨value, hfirst, text, hvisible, rest, hdrop, htoken⟩
    by_cases hempty : trim rest = []
    · rw [if_pos hempty] at htoken
      cases htoken
    · rw [if_neg hempty] at htoken
      obtain rfl := Option.some.inj htoken
      obtain ⟨before, after, hrest, hblank⟩ := exists_trim rest
      refine ⟨value, hfirst, ?_, ?_, before, after, ?_, hblank⟩
      · rwa [Ne, ← String.toList_eq_nil_iff, String.toList_ofList]
      · rw [String.toList_ofList]
        exact trimmed_trim rest
      · rw [String.toList_ofList, ← hrest, hvisible, dropBeginning_eq_some hdrop]
        rfl
  · rintro ⟨value, hfirst, hne, htrimmed, before, after, hvisible, hblank⟩
    refine ⟨value, hfirst, _, hvisible, _, dropBeginning_append _ _, ?_⟩
    rw [trim_append hblank htrimmed, if_neg fun h => hne (String.toList_eq_nil_iff.1 h),
      String.ofList_toList]

theorem not_bears (h : bearer? request = none) (token : String) : ¬request.Bears token := by
  rw [← bearer?_eq_some_iff, h]
  exact fun h => nomatch h

/-- The address that is asked for is the forwarded one if that can be read. -/
theorem askedUri_cases (request : Request) :
    request.ForwardedAs (askedUri request) ∨
      (∀ uri, ¬request.ForwardedAs uri) ∧ askedUri request = request.uri := by
  let forwarded := (request.headers.first? .forwardedUri).bind fun value =>
    value.visible?.bind fun text => Uri.ofBytes? (Utf8.encode text)
  have hforwarded : ∀ uri, forwarded = some uri ↔ request.ForwardedAs uri := by
    intro uri
    simp only [forwarded, Option.bind_eq_some_iff, visible?_eq_some_iff]
    constructor
    · rintro ⟨value, hfirst, _, ⟨hall, rfl⟩, huri⟩
      rw [encode_asciiChars hall] at huri
      exact ⟨value, hfirst, hall, huri⟩
    · rintro ⟨value, hfirst, hall, huri⟩
      refine ⟨value, hfirst, _, ⟨hall, rfl⟩, ?_⟩
      rwa [encode_asciiChars hall]
  have hasked : askedUri request = forwarded.getD request.uri := rfl
  cases hcase : forwarded with
  | some uri =>
      rw [hasked, hcase]
      exact .inl ((hforwarded uri).1 hcase)
  | none =>
      refine .inr ⟨fun uri huri => ?_, by rw [hasked, hcase]; rfl⟩
      rw [(hforwarded uri).2 huri] at hcase
      cases hcase

theorem askedUri_eq (h : request.ForwardedAs uri) : askedUri request = uri := by
  rcases askedUri_cases request with hasked | ⟨hnone, -⟩
  · obtain ⟨value, hfirst, -, huri⟩ := h
    obtain ⟨value', hfirst', -, hasked⟩ := hasked
    rw [hfirst] at hfirst'
    cases hfirst'
    exact Option.some.inj (hasked.symm.trans huri)
  · exact absurd h (hnone uri)

theorem queryToken?_eq_some_iff :
    queryToken? name uri = some token ↔ token ≠ "" ∧ uri.FirstUnder name token := by
  simp only [queryToken?, Option.bind_eq_bind, Option.bind_eq_some_iff]
  constructor
  · rintro ⟨query, hquery, ⟨found, value⟩, hfind, htoken⟩
    obtain rfl : found = name := by simpa using List.find?_some hfind
    by_cases hempty : value = ""
    · simp [hempty] at htoken
    · simp only [if_neg hempty] at htoken
      cases htoken
      exact ⟨hempty, Uri.firstUnder_iff.2 ⟨query, hquery, hfind⟩⟩
  · rintro ⟨hne, hfirst⟩
    obtain ⟨query, hquery, hfind⟩ := Uri.firstUnder_iff.1 hfirst
    exact ⟨query, hquery, (name, token), hfind, by simp [hne]⟩

/-! ### The token of a request -/

theorem token?_of_bears (h : request.Bears token) : token? spec request = some token := by
  rw [token?, bearer?_eq_some_iff.2 h]

theorem token?_of_not_bears (h : ∀ token, ¬request.Bears token) :
    token? spec request = if spec.tokenQueryKey = "" then none
      else queryToken? spec.tokenQueryKey (askedUri request) := by
  have hnone : bearer? request = none :=
    Option.eq_none_iff_forall_not_mem.2 fun token htoken => h token (bearer?_eq_some_iff.1 htoken)
  rw [token?, hnone]

theorem token?_of_forwardedAs (hbears : ∀ token, ¬request.Bears token)
    (hkey : spec.tokenQueryKey ≠ "") (huri : request.ForwardedAs uri) :
    token? spec request = queryToken? spec.tokenQueryKey uri := by
  rw [token?_of_not_bears hbears, if_neg hkey, askedUri_eq huri]

theorem token?_of_not_forwarded (hbears : ∀ token, ¬request.Bears token)
    (hkey : spec.tokenQueryKey ≠ "") (huri : ∀ uri, ¬request.ForwardedAs uri) :
    token? spec request = queryToken? spec.tokenQueryKey request.uri := by
  rw [token?_of_not_bears hbears, if_neg hkey,
    ((askedUri_cases request).resolve_left (huri _)).2]

theorem token_ne_empty (h : token? spec request = some token) : token ≠ "" := by
  by_cases hbears : ∃ token, request.Bears token
  · obtain ⟨token', hbears⟩ := hbears
    rw [token?_of_bears hbears] at h
    cases h
    obtain ⟨_, -, hne, -⟩ := hbears
    exact hne
  · rw [token?_of_not_bears (not_exists.1 hbears), Option.ite_none_left_eq_some] at h
    exact (queryToken?_eq_some_iff.1 h.2).1

theorem bears_congr (h : request'.headers.first? .authorization =
    request.headers.first? .authorization) : request'.Bears token ↔ request.Bears token := by
  rw [Request.Bears, Request.Bears, h]

/-! ### Decisions -/

theorem spec_of_ofSpec (h : ofSpec spec = .ok auth) : auth.spec = spec := by
  rw [ofSpec] at h
  cases hforward : forward? spec.forwardHeaders.entries with
  | error flaw =>
      rw [hforward] at h
      cases h
  | ok forward =>
      rw [hforward] at h
      cases h
      rfl

theorem asked_decide (auth : JwtAuth) (validate : Validator) (request : Request) :
    (auth.decide validate request).asked = (token? auth.spec request).toList := by
  rw [decide]
  cases token? auth.spec request <;> rfl

theorem isAllowed_decide (auth : JwtAuth) (validate : Validator) (request : Request) :
    (auth.decide validate request).decision.isAllowed = true ↔
      ∃ token ∈ (token? auth.spec request).toList,
        (validate auth.spec token).claims.isSome = true := by
  rw [decide]
  cases token? auth.spec request with
  | none => simp [Decision.isAllowed]
  | some token => cases hclaims : (validate auth.spec token).claims <;>
      simp [Decision.isAllowed, hclaims]

theorem decide_congr {validate validate' : Validator}
    (htoken : token? auth.spec request' = token? auth.spec request)
    (hvalidate : ∀ token ∈ (token? auth.spec request).toList,
      validate' auth.spec token = validate auth.spec token) :
    auth.decide validate' request' = auth.decide validate request := by
  rw [decide, decide, htoken]
  cases hcase : token? auth.spec request with
  | none => rfl
  | some token =>
      rw [hcase] at hvalidate
      simp only [hvalidate token (by simp)]

/-- A policy that is in force asks about one token at most, which has text, and lets a request on
exactly when it has asked and the token was good. A token in the first credentials is asked about
whatever else the request says. Without one, and with a name for tokens in queries, it is the first
value under this name in the query of the forwarded address, whatever the address of the request;
only if the request tells of no forwarded address that can be read, it is that in its own. -/
theorem asked_by_precedence (h : ofSpec spec = .ok auth) (validate : Validator)
    (request : Request) :
    ((auth.decide validate request).asked.length ≤ 1 ∧
      "" ∉ (auth.decide validate request).asked ∧
      ((auth.decide validate request).decision.isAllowed = true ↔
        ∃ token ∈ (auth.decide validate request).asked,
          (validate spec token).claims.isSome = true) ∧
      (∀ validate' : Validator,
        (∀ token ∈ (auth.decide validate request).asked,
          validate' spec token = validate spec token) →
        auth.decide validate' request = auth.decide validate request) ∧
      (auth.decide .rejecting request).decision.isAllowed = false) ∧
    (∀ token, request.Bears token →
      (auth.decide validate request).asked = [token] ∧
      ∀ request' : Request, request'.headers.first? .authorization =
          request.headers.first? .authorization →
        auth.decide validate request' = auth.decide validate request) ∧
    ((∀ token, ¬request.Bears token) → spec.tokenQueryKey = "" →
      auth.decide validate request = { decision := .deny [] }) ∧
    ((∀ token, ¬request.Bears token) → spec.tokenQueryKey ≠ "" →
      (∀ uri, request.ForwardedAs uri →
        (∀ token, (auth.decide validate request).asked = [token] ↔
          token ≠ "" ∧ uri.FirstUnder spec.tokenQueryKey token) ∧
        ∀ uri', auth.decide validate { request with uri := uri' } =
          auth.decide validate request) ∧
      ((∀ uri, ¬request.ForwardedAs uri) →
        ∀ token, (auth.decide validate request).asked = [token] ↔
          token ≠ "" ∧ request.uri.FirstUnder spec.tokenQueryKey token)) := by
  obtain rfl := spec_of_ofSpec h
  have hsingle : ∀ {x : Option String} {token}, x.toList = [token] ↔ x = some token := by
    intro x token
    cases x <;> simp
  have hsame : ∀ {request' : Request}, token? auth.spec request' = token? auth.spec request →
      auth.decide validate request' = auth.decide validate request := fun htoken =>
    decide_congr htoken fun _ _ => rfl
  simp only [asked_decide, hsingle]
  refine ⟨⟨Option.length_toList_le, ?_, isAllowed_decide auth validate request,
    fun validate' => decide_congr rfl, ?_⟩, fun token hbears => ?_, fun hbears hkey => ?_,
    fun hbears hkey => ⟨fun uri hforwarded => ?_, fun hforwarded token => ?_⟩⟩
  · intro hmem
    exact token_ne_empty (Option.mem_toList.1 hmem) rfl
  · rw [Bool.eq_false_iff, Ne, isAllowed_decide]
    rintro ⟨token, -, hclaims⟩
    cases hclaims
  · refine ⟨token?_of_bears hbears, fun request' hfirst => hsame ?_⟩
    rw [token?_of_bears hbears, token?_of_bears ((bears_congr hfirst).2 hbears)]
  · rw [decide, token?_of_not_bears hbears, if_pos hkey]
  · refine ⟨fun token => ?_, fun uri' => hsame ?_⟩
    · rw [token?_of_forwardedAs hbears hkey hforwarded, queryToken?_eq_some_iff]
    · rw [token?_of_forwardedAs hbears hkey hforwarded]
      exact token?_of_forwardedAs hbears hkey hforwarded
  · rw [token?_of_not_forwarded hbears hkey hforwarded, queryToken?_eq_some_iff]

/-- A policy that takes tokens from queries. -/
def querying : JwtSpec where
  tokenQueryKey := "token"

/-- A request with credentials of another kind, which was forwarded under an address with an empty
token before a good one, and has a good one in its own address. -/
def overlaid : Request where
  uri := ⟨Utf8.bytes "/p@ns", some (Utf8.bytes "token=good")⟩
  headers := [
    (.authorization, ⟨Utf8.bytes "Basic Bearer good", by decide⟩),
    (.forwardedUri, ⟨Utf8.bytes "/api?token=&token=good", by decide⟩)]

theorem asked_by_precedence_overlaid : ∃ auth, ofSpec querying = .ok auth ∧
    ∀ validate : Validator,
      (auth.decide validate overlaid).asked = [] ∧
      (auth.decide validate overlaid).decision.isAllowed = false ∧
      (auth.decide validate { uri := overlaid.uri }).asked = ["good"] := by
  obtain ⟨auth, hspec⟩ : ∃ auth, ofSpec querying = .ok auth := ⟨_, rfl⟩
  refine ⟨auth, hspec, fun validate => ?_⟩
  have hkey : querying.tokenQueryKey ≠ "" := by decide
  obtain ⟨⟨hlength, -, hallowed, -⟩, -, -, hquery⟩ := asked_by_precedence hspec validate overlaid
  obtain ⟨-, -, -, hplain⟩ := asked_by_precedence hspec validate { uri := overlaid.uri }
  have hforwarded : overlaid.ForwardedAs ⟨Utf8.bytes "/api", some (Utf8.bytes "token=&token=good")⟩ :=
    ⟨_, rfl, by decide +kernel, by decide +kernel⟩
  have hempty : (⟨Utf8.bytes "/api", some (Utf8.bytes "token=&token=good")⟩ : Uri).FirstUnder
      querying.tokenQueryKey "" := Uri.firstUnder_iff.2 ⟨_, rfl, by decide +kernel⟩
  have hnone : (auth.decide validate overlaid).asked = [] := by
    cases hasked : (auth.decide validate overlaid).asked with
    | nil => rfl
    | cons token rest =>
        rw [hasked] at hlength
        obtain rfl : rest = [] := List.length_eq_zero_iff.1 (by simpa using hlength)
        obtain ⟨hne, hfirst⟩ :=
          (((hquery (not_bears (by decide +kernel)) hkey).1 _ hforwarded).1 token).1 hasked
        exact absurd (hfirst.eq hempty) hne
  refine ⟨hnone, ?_, ?_⟩
  · rw [Bool.eq_false_iff, Ne, hallowed, hnone]
    simp
  · refine ((hplain (not_bears rfl) hkey).2 ?_ "good").2 ⟨by decide, ?_⟩
    · rintro uri ⟨value, hfirst, -⟩
      cases hfirst
    · exact Uri.firstUnder_iff.2 ⟨_, rfl, by decide +kernel⟩

end JwtAuth

end EdgeAgent
