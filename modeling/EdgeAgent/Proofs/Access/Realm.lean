import EdgeAgent.Proofs.Access.UserPassword
import EdgeAgent.Proofs.Http.Challenge

/-!
What a client learns from a refusal. The challenge names the realm between quotation marks as it was
configured, and what the configuration may hold is checked as part of a header only. So a client
that reads the challenge by the rules gets the realm back as long as there is no quotation mark and
no backslash in it; each of the two needs a backslash before it, which is not written.
-/

namespace EdgeAgent

namespace BasicAuth

variable {spec : BasicAuthSpec} {auth : BasicAuth}

/-- The challenge of a policy: the scheme, and as the only parameter the realm that is configured,
or `hub`. -/
def namedChallenge (spec : BasicAuthSpec) : Challenge where
  scheme := Utf8.bytes "Basic"
  parameters := [(Utf8.bytes "realm", Utf8.bytes (if spec.realm = "" then "hub" else spec.realm))]

/-- The realm that stands for none has nothing in it that is not plain. -/
theorem mem_realm_iff {c : Char} (hc : c ∉ defaultRealm.toList) :
    c ∈ (realm spec).toList ↔ c ∈ spec.realm.toList := by
  rw [realm]
  split
  · next hempty =>
    rw [hempty]
    exact iff_of_false hc (by simp)
  · rfl

theorem deny_of_refused {request : Request} (h : (auth.decide request).isAllowed = false) :
    auth.decide request = .deny [(.wwwAuthenticate, auth.challenge)] := by
  rw [BasicAuth.decide] at h ⊢
  cases huser : auth.user request with
  | none => rfl
  | some user =>
      rw [huser] at h
      cases h

/-- The challenge is written without a backslash before any character of the realm. -/
theorem bytes_challenge (h : ofSpec spec = .ok auth) :
    auth.challenge.bytes = Challenge.plainBytes (Utf8.bytes "Basic") (Utf8.bytes "realm")
      (Utf8.bytes (realm spec)) := by
  have hscheme : Utf8.encode "Basic realm=\"".toList =
      Utf8.bytes "Basic" ++ 32 :: (Utf8.bytes "realm" ++ [Challenge.equals, Challenge.mark]) := by
    decide
  have hmark : Utf8.encode "\"".toList = [Challenge.mark] := by decide
  have happend : ∀ s t, Utf8.encode (s ++ t) = Utf8.encode s ++ Utf8.encode t :=
    fun s t => List.flatMap_append
  rw [bytes_of_challenge? (ofSpec_eq_ok h).2, Utf8.bytes, String.toList_append,
    String.toList_append, happend, happend, hscheme, hmark]
  simp [Challenge.plainBytes, Utf8.bytes]

/-- Whoever is refused gets one challenge, and by the rules of a quoted text its only parameter is
the realm exactly when no quotation mark and no backslash is configured in the realm. -/
theorem read?_challenge_iff (h : ofSpec spec = .ok auth) {request : Request}
    (hrefused : (auth.decide request).isAllowed = false) :
    ∃ value, auth.decide request = .deny [(.wwwAuthenticate, value)] ∧
      (Challenge.read? value.bytes = some (namedChallenge spec) ↔
        '"' ∉ spec.realm.toList ∧ '\\' ∉ spec.realm.toList) := by
  refine ⟨auth.challenge, deny_of_refused hrefused, ?_⟩
  have hmark : Challenge.mark ∈ Utf8.bytes (realm spec) ↔ '"' ∈ spec.realm.toList :=
    (Utf8.mem_encode_iff (d := '"') (by decide)).trans (mem_realm_iff (by decide))
  have hbackslash : Challenge.backslash ∈ Utf8.bytes (realm spec) ↔ '\\' ∈ spec.realm.toList :=
    (Utf8.mem_encode_iff (d := '\\') (by decide)).trans (mem_realm_iff (by decide))
  have hnamed : namedChallenge spec =
      ⟨Utf8.bytes "Basic", [(Utf8.bytes "realm", Utf8.bytes (realm spec))]⟩ := rfl
  rw [bytes_challenge h, hnamed, Challenge.read?_plainBytes_iff (by decide) (by decide), hmark,
    hbackslash]

/-- A request without credentials. -/
def unauthenticated : Request where
  uri := ⟨[47], none⟩
  headers := []

/-- A realm with letters beyond ASCII, a comma and an equals sign. -/
def localized : BasicAuthSpec where
  users := ["bob:old"]
  realm := "Büro, x=1"

theorem read?_challenge_iff_localized : ∃ auth, ofSpec localized = .ok auth ∧
    ∃ value, auth.decide unauthenticated = .deny [(.wwwAuthenticate, value)] ∧
      Challenge.read? value.bytes = some (namedChallenge localized) := by
  have hspec : ofSpec localized = .ok _ := rfl
  obtain ⟨value, hdeny, hread⟩ := @read?_challenge_iff _ _ hspec unauthenticated rfl
  exact ⟨_, hspec, value, hdeny, hread.2 (by decide)⟩

/-- A realm with a quotation mark. -/
def marked : BasicAuthSpec where
  users := ["alice:pw"]
  realm := "a\"b"

/-- The policy is in force, and its challenge cannot be read. -/
theorem read?_challenge_marked : ∃ auth value, ofSpec marked = .ok auth ∧
    auth.decide unauthenticated = .deny [(.wwwAuthenticate, value)] ∧
    Challenge.read? value.bytes = none ∧
    Challenge.read? (namedChallenge marked).bytes = some (namedChallenge marked) := by
  refine ⟨_, _, rfl, rfl, by decide +kernel, ?_⟩
  decide +kernel

end BasicAuth

end EdgeAgent
