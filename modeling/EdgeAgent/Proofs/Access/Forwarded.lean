import EdgeAgent.Proofs.Access.FirstFlaw
import EdgeAgent.Proofs.Access.Token
import Mathlib.Data.List.Induction

/-!
What a request that may go on is given. Of the entries of a policy by token that name one header in
any case, the last whose claim is there and can stand in a header counts; a policy by password gives
the name of the user under one header; and stripped credentials are the empty value, whatever was
given under their name. The headers are made of the claims or of the user alone, so that nothing
else of a request is found in them.
-/

namespace EdgeAgent

/-! ### Headers that are set -/

namespace Headers

variable {headers : Headers} {n name : HeaderName} {v value : HeaderValue}

/-- Each name occurs once at most, the name of stripped credentials with the empty value, and every
other one with the value that is given to it. -/
structure Exact (headers : Headers) (strip : Bool) (given : HeaderName → HeaderValue → Prop) :
    Prop where
  once : (headers.map (·.1)).Nodup
  stripped : strip = true → ∀ value, (.authorization, value) ∈ headers ↔ value = .empty
  others : ∀ name value, ¬(strip = true ∧ name = .authorization) →
    ((name, value) ∈ headers ↔ given name value)

theorem mem_set_iff :
    (n, v) ∈ headers.set name value ↔ if n = name then v = value else (n, v) ∈ headers := by
  by_cases h : n = name <;> simp [set, h]

theorem nodup_set (h : (headers.map (·.1)).Nodup) :
    ((headers.set name value).map (·.1)).Nodup := by
  rw [set, List.map_append, List.nodup_append]
  refine ⟨h.sublist (List.filter_sublist.map _), by simp, ?_⟩
  intro n hn m hm
  obtain ⟨entry, hentry, rfl⟩ := List.mem_map.1 hn
  rw [List.mem_singleton.1 hm]
  simpa using (List.mem_filter.1 hentry).2

/-- Headers that hold what is given, with the credentials stripped if asked. -/
theorem exact_of_given {strip : Bool} {given : HeaderName → HeaderValue → Prop}
    (hnodup : (headers.map (·.1)).Nodup)
    (hgiven : ∀ name value, (name, value) ∈ headers ↔ given name value) :
    Exact (if strip then headers.set .authorization .empty else headers) strip given := by
  cases strip with
  | false =>
      exact ⟨hnodup, (fun h => nomatch h), fun name value _ => hgiven name value⟩
  | true =>
      refine ⟨nodup_set hnodup, fun _ value => ?_, fun name value hname => ?_⟩
      · exact mem_set_iff.trans (by rw [if_pos rfl])
      · have hne : name ≠ .authorization := fun h => hname ⟨rfl, h⟩
        exact mem_set_iff.trans (by rw [if_neg hne, hgiven])

end Headers

/-! ### Claims -/

/-- The text of a claim: a string as it is, any other value as compact JSON. -/
inductive Json.Shows : Json → String → Prop
  | str (s : String) : Shows (.str s) s
  | compact {j : Json} (h : ∀ s, j ≠ .str s) : Shows j j.text

/-- An entry gives a value to a header: its name in lower case is that of the header, and its claim
is there and has the text of the value. -/
def JwtSpec.Gives (claims : Claims) (entry : String × String) (n : HeaderName) (v : HeaderValue) :
    Prop :=
  n.text.toList = lowerChars entry.1.toList ∧ ∃ claim text, claims.find? entry.2 = some claim ∧
    claim.Shows text ∧ v.bytes = Utf8.bytes text

/-- The value that the last of the entries gives to a header, in the order of the bytes of their
names. -/
def JwtSpec.Forwards (spec : JwtSpec) (claims : Claims) (n : HeaderName) (v : HeaderValue) : Prop :=
  ∃ entry ∈ spec.forwardHeaders.entries, Gives claims entry n v ∧
    ∀ other ∈ spec.forwardHeaders.entries, ∀ v', Gives claims other n v' →
      Utf8.bytes other.1 ≤ Utf8.bytes entry.1

theorem Json.shows_iff {j : Json} {text : String} : j.Shows text ↔ JwtAuth.claimText j = text := by
  constructor
  · intro h
    cases h with
    | str => rfl
    | compact hne =>
        cases j with
        | str s => exact absurd rfl (hne s)
        | _ => rfl
  · rintro rfl
    cases j with
    | str s => exact .str s
    | _ => exact .compact fun _ h => nomatch h

namespace JwtAuth

variable {spec : JwtSpec} {auth : JwtAuth} {claims : Claims} {n : HeaderName} {v w : HeaderValue}
  {entry : String × String} {entries : List (String × String)} {header : HeaderName × String}
  {forward : List (HeaderName × String)}

/-- The value that the text of a claim is. -/
def claimValue? (claims : Claims) (claim : String) : Option HeaderValue :=
  (claims.find? claim).bind fun claim => HeaderValue.ofText? (claimText claim)

theorem gives_iff (h : forwarding? entry = some header) :
    JwtSpec.Gives claims entry n v ↔ header.1 = n ∧ claimValue? claims header.2 = some v := by
  obtain ⟨name, hname, rfl⟩ := Option.map_eq_some_iff.1 h
  rw [JwtSpec.Gives, claimValue?]
  refine and_congr ?_ ?_
  · rw [← HeaderName.ofText?_eq_some_iff, hname, Option.some.injEq]
  · simp only [Json.shows_iff, Option.bind_eq_some_iff, HeaderValue.ofText?_eq_some_iff,
      exists_and_left, exists_eq_left']

theorem addClaim_of_some (h : claimValue? claims header.2 = some v) (headers : Headers) :
    addClaim claims headers header = headers.set header.1 v := by
  unfold claimValue? at h
  simp only [addClaim, h]

theorem addClaim_of_none (h : claimValue? claims header.2 = none) (headers : Headers) :
    addClaim claims headers header = headers := by
  unfold claimValue? at h
  simp only [addClaim, h]

/-- An entry that gives a value to a header gives it instead of all before. -/
theorem mem_addClaim_iff (h : forwarding? entry = some header) (headers : Headers) :
    (n, v) ∈ addClaim claims headers header ↔ JwtSpec.Gives claims entry n v ∨
      (∀ w, ¬JwtSpec.Gives claims entry n w) ∧ (n, v) ∈ headers := by
  simp only [gives_iff h]
  cases hvalue : claimValue? claims header.2 with
  | none => simp [addClaim_of_none hvalue]
  | some value =>
      rw [addClaim_of_some hvalue, Headers.mem_set_iff]
      by_cases hname : n = header.1
      · simp [hname, eq_comm]
      · simp [hname, Ne.symm hname]

/-- Of the entries so far, the last that gives a value to a header counts. -/
theorem mem_foldl_addClaim_iff (hforward : entries.map forwarding? = forward.map some)
    (hincreasing : entries.Pairwise fun a b => a.1 < b.1) :
    (n, v) ∈ forward.foldl (addClaim claims) [] ↔ ∃ entry ∈ entries,
      JwtSpec.Gives claims entry n v ∧
      ∀ other ∈ entries, ∀ w, JwtSpec.Gives claims other n w → other.1 ≤ entry.1 := by
  induction entries using List.reverseRecOn generalizing forward v with
  | nil =>
      obtain rfl : forward = [] := by simpa using hforward.symm
      simp
  | append_singleton entries entry ih =>
      rw [List.map_append, List.map_singleton, eq_comm] at hforward
      obtain ⟨earlier, last, rfl, hearlier, hlast⟩ := List.map_eq_append_iff.1 hforward
      obtain ⟨header, rfl, hheader⟩ := List.map_eq_singleton_iff.1 hlast
      rw [List.pairwise_append] at hincreasing
      have hlt : ∀ other ∈ entries, other.1 < entry.1 := fun other hother =>
        hincreasing.2.2 other hother entry (List.mem_singleton_self entry)
      rw [List.foldl_append, List.foldl_cons, List.foldl_nil, mem_addClaim_iff hheader.symm,
        ih hearlier.symm hincreasing.1]
      simp only [List.mem_append, List.mem_singleton]
      -- The last entry has the greatest name: it counts if it gives a value, and no other does then.
      constructor
      · rintro (hv | ⟨hnone, found, hfound, hv, hgreatest⟩)
        · refine ⟨entry, .inr rfl, hv, ?_⟩
          rintro other (hother | rfl) w hw
          · exact Std.le_of_lt (hlt other hother)
          · exact Std.le_refl other.1
        · refine ⟨found, .inl hfound, hv, ?_⟩
          rintro other (hother | rfl) w hw
          · exact hgreatest other hother w hw
          · exact absurd hw (hnone w)
      · rintro ⟨found, hfound | rfl, hv, hgreatest⟩
        · refine .inr ⟨fun w hw => ?_, found, hfound, hv, fun other hother =>
            hgreatest other (.inl hother)⟩
          exact Std.not_lt.2 (hgreatest entry (.inr rfl) w hw) (hlt found hfound)
        · exact .inl hv

theorem nodup_foldl_addClaim (claims : Claims) (forward : List (HeaderName × String)) :
    ((forward.foldl (addClaim claims) []).map (·.1)).Nodup := by
  induction forward using List.reverseRecOn with
  | nil => simp
  | append_singleton earlier header ih =>
      rw [List.foldl_append, List.foldl_cons, List.foldl_nil]
      cases hvalue : claimValue? claims header.2 with
      | none =>
          rw [addClaim_of_none hvalue]
          exact ih
      | some value =>
          rw [addClaim_of_some hvalue]
          exact Headers.nodup_set ih

/-- A header has a value exactly when some entry gives one to it. -/
theorem exists_forwards_iff : (∃ value, spec.Forwards claims n value) ↔
    ∃ entry ∈ spec.forwardHeaders.entries, ∃ value, JwtSpec.Gives claims entry n value := by
  constructor
  · rintro ⟨value, entry, hentry, hgives, -⟩
    exact ⟨entry, hentry, value, hgives⟩
  · intro hsome
    obtain ⟨entry, hentry, ⟨value, hgives⟩, hlast⟩ := Dict.exists_last hsome
    exact ⟨value, entry, hentry, hgives, fun other hother w hw =>
      Utf8.bytes_le_iff.2 (hlast other hother ⟨w, hw⟩)⟩

/-- The headers of a request with a good token are exact. -/
theorem exact_forwarded (h : ofSpec spec = .ok auth) (claims : Claims) :
    (auth.forwarded claims).Exact spec.stripAuthorizationHeader (spec.Forwards claims) := by
  rw [ofSpec_eq, map_eq_ok] at h
  obtain ⟨forward, hforward, rfl⟩ := h
  rw [forward?_eq 0, readAll_eq_ok_iff] at hforward
  refine Headers.exact_of_given (nodup_foldl_addClaim claims forward) fun name value => ?_
  rw [mem_foldl_addClaim_iff hforward spec.forwardHeaders.increasing]
  simp only [JwtSpec.Forwards, Utf8.bytes_le_iff]

/-- A request that may go on has the headers of the claims of its token. -/
theorem exists_claims_of_decide {validate : Validator} {request : Request} {headers : Headers}
    (h : (auth.decide validate request).decision = .allow headers) :
    ∃ token claims, (auth.decide validate request).asked = [token] ∧
      (validate auth.spec token).claims = some claims ∧ headers = auth.forwarded claims := by
  unfold decide at h ⊢
  cases htoken : token? auth.spec request with
  | none =>
      rw [htoken] at h
      cases h
  | some token =>
      simp only [htoken] at h
      cases hclaims : (validate auth.spec token).claims with
      | none =>
          rw [hclaims] at h
          cases h
      | some claims =>
          rw [hclaims] at h
          exact ⟨token, claims, rfl, hclaims, (Decision.allow.inj h).symm⟩

end JwtAuth

/-! ### Users -/

/-- A request carries the name of a user and a password that the policy grants to this user. -/
def BasicAuthSpec.Authenticates (spec : BasicAuthSpec) (request : Request) (user : String) : Prop :=
  ∃ value password, request.headers.first? .authorization = some value ∧
    value.Holds (Utf8.bytes (user ++ ":" ++ password)) ∧ ':' ∉ user.toList ∧
    spec.Grants user password

/-- The value of the header that is configured for the name of a user. -/
def BasicAuthSpec.Forwards (spec : BasicAuthSpec) (user : String) (n : HeaderName)
    (v : HeaderValue) : Prop :=
  spec.forwardUsernameHeader ≠ "" ∧
    n.text.toList = lowerChars spec.forwardUsernameHeader.toList ∧ v.bytes = Utf8.bytes user

namespace BasicAuth

variable {spec : BasicAuthSpec} {auth : BasicAuth} {n : HeaderName} {header : Option HeaderName}

theorem eq_some_iff_of_forwardHeader? (h : forwardHeader? spec.forwardUsernameHeader = .ok header) :
    header = some n ↔ spec.forwardUsernameHeader ≠ "" ∧
      n.text.toList = lowerChars spec.forwardUsernameHeader.toList := by
  rw [forwardHeader?] at h
  by_cases hempty : spec.forwardUsernameHeader = ""
  · rw [if_pos hempty] at h
    cases h
    simp [hempty]
  · rw [if_neg hempty, map_eq_ok] at h
    obtain ⟨name, hname, rfl⟩ := h
    rw [and_iff_right hempty, ← configuredHeader_eq_ok_iff, hname, Option.some.injEq,
      Except.ok.injEq]

/-- The headers of a request that a user has made are exact. -/
theorem exact_forwarded (h : ofSpec spec = .ok auth) (user : String) :
    (auth.forwarded user).Exact spec.stripAuthorizationHeader (spec.Forwards user) := by
  obtain ⟨-, users, -, challenge, -, header, hheader, rfl⟩ := ofSpec_eq_ok_iff.1 h
  have hgiven : ∀ n v, spec.Forwards user n v ↔
      header = some n ∧ HeaderValue.ofText? user = some v := by
    intro n v
    rw [eq_some_iff_of_forwardHeader? hheader, HeaderValue.ofText?_eq_some_iff, and_assoc]
    rfl
  unfold forwarded
  apply Headers.exact_of_given
  · split <;> simp
  · intro n v
    rw [hgiven]
    cases header <;> cases HeaderValue.ofText? user <;> simp [eq_comm]

/-- A request that may go on has the headers of its user. -/
theorem exists_user_of_decide {request : Request} {headers : Headers}
    (h : auth.decide request = .allow headers) :
    ∃ user, auth.user request = some user ∧ headers = auth.forwarded user := by
  unfold decide at h
  cases huser : auth.user request with
  | none =>
      rw [huser] at h
      cases h
  | some user =>
      rw [huser] at h
      exact ⟨user, rfl, (Decision.allow.inj h).symm⟩

end BasicAuth

/-! ### Policies in force -/

namespace PolicySpec

variable {spec : PolicySpec} {validate : Validator} {handler : Handler}

/-- The headers that a policy in force adds to a request are made of the claims of the token alone,
or of the name of the user alone. Under each header stands the claim of the last entry for it that
can stand there, or the name of the user, and stripped credentials are empty. -/
theorem forwarded_exact (h : spec.enforce validate = .ok handler) :
    (∀ jwt, spec.jwt = some jwt → ∃ forwarded : Claims → Headers,
      (∀ claims, (forwarded claims).Exact jwt.stripAuthorizationHeader (jwt.Forwards claims) ∧
        ∀ name, (∃ value, jwt.Forwards claims name value) ↔
          ∃ entry ∈ jwt.forwardHeaders.entries, ∃ value, JwtSpec.Gives claims entry name value) ∧
      ∀ request headers, (handler request).decision = .allow headers →
        ∃ token claims, (handler request).asked = [token] ∧
          (validate jwt token).claims = some claims ∧ headers = forwarded claims) ∧
    ∀ basic, spec.basicAuth = some basic → ∃ forwarded : String → Headers,
      (∀ user, (forwarded user).Exact basic.stripAuthorizationHeader (basic.Forwards user)) ∧
      ∀ request headers, (handler request).decision = .allow headers →
        ∃ user, basic.Authenticates request user ∧ headers = forwarded user := by
  rcases spec with ⟨_ | jwt, _ | basic⟩
  · cases h
  · rw [enforce_basicAuth, map_eq_ok] at h
    obtain ⟨auth, hauth, rfl⟩ := h
    refine ⟨fun _ h => (nomatch h), fun _ h => ?_⟩
    cases h
    refine ⟨auth.forwarded, BasicAuth.exact_forwarded hauth, fun request headers hallow => ?_⟩
    obtain ⟨user, huser, hheaders⟩ := BasicAuth.exists_user_of_decide hallow
    exact ⟨user, (BasicAuth.user_eq_some_iff hauth request).1 huser, hheaders⟩
  · rw [enforce_jwt, map_eq_ok] at h
    obtain ⟨auth, hauth, rfl⟩ := h
    refine ⟨fun _ h => ?_, fun _ h => (nomatch h)⟩
    cases h
    refine ⟨auth.forwarded, fun claims => ⟨JwtAuth.exact_forwarded hauth claims, fun name =>
      JwtAuth.exists_forwards_iff⟩, fun request headers hallow => ?_⟩
    rw [← JwtAuth.spec_of_ofSpec hauth]
    exact JwtAuth.exists_claims_of_decide hallow
  · cases h

/-- Entries that name a header in several cases, and one that names the credentials. -/
def cased : JwtSpec where
  stripAuthorizationHeader := true
  forwardHeaders := .ofList
    [("X-USER", "name"), ("X-User", "roles"), ("authorization", "name"), ("x-user", "sub")]

/-- Claims of which one cannot stand in a header. -/
def claimsOfAnn : Claims :=
  .ofList [("name", .str "ann"), ("roles", .arr [.bool true]), ("sub", .str "a\nb")]

/-- A request with a token. -/
def bearing : Request :=
  ⟨⟨[47], none⟩, [(.authorization, ⟨Utf8.bytes "Bearer t", by decide⟩)]⟩

/-- The headers of a request with those claims. -/
def rolesAlone : Headers :=
  [(⟨"x-user", by decide⟩, ⟨Utf8.bytes "[true]", by decide⟩), (.authorization, .empty)]

theorem forwarded_exact_cased : ∃ handler,
    enforce (.ofTable (.ofList [("t", claimsOfAnn)])) ⟨some cased, none⟩ = .ok handler ∧
      (handler bearing).decision = .allow rolesAlone ∧
      rolesAlone.Exact true (cased.Forwards claimsOfAnn) := by
  obtain ⟨handler, hhandler⟩ : ∃ handler,
      enforce (.ofTable (.ofList [("t", claimsOfAnn)])) ⟨some cased, none⟩ = .ok handler := ⟨_, rfl⟩
  have hallow : (handler bearing).decision = .allow rolesAlone := by
    cases hhandler
    decide +kernel
  have hclaims : (handler bearing).asked = ["t"] := by
    cases hhandler
    decide +kernel
  obtain ⟨forwarded, hexact, hmade⟩ := (forwarded_exact hhandler).1 cased rfl
  obtain ⟨token, claims, hasked, hgood, hheaders⟩ := hmade bearing rolesAlone hallow
  rw [hclaims, List.cons.injEq] at hasked
  obtain ⟨rfl, -⟩ := hasked
  obtain rfl : claimsOfAnn = claims := Option.some.inj hgood
  rw [hheaders]
  exact ⟨handler, hhandler, by rw [hallow, hheaders], (hexact claimsOfAnn).1⟩

end PolicySpec

end EdgeAgent
