import EdgeAgent.Access.Enforce
import EdgeAgent.Proofs.Access.UserPassword
import EdgeAgent.Proofs.Text.Order

/-!
Which policies can be put into force, and what is reported of the others. The parts of a policy are
looked at in a fixed order, each list from its first element on, and the headers of a policy by
token in the order of their names; what is reported is the first flaw in this order.
-/

namespace EdgeAgent

/-! ### Policies without a flaw -/

/-- An entry of a user has a colon, and does not begin with one. -/
def BasicAuthSpec.IsEntry (entry : String) : Prop :=
  ':' ∈ entry.toList ∧ entry.toList.head? ≠ some ':'

/-- The names of the headers that a policy by token forwards are tokens. -/
def JwtSpec.Fit (spec : JwtSpec) : Prop :=
  ∀ name ∈ spec.forwardHeaders.names, HeaderName.IsToken name

/-- A policy by password has users, each in an entry of a given form, a realm that is text, and a
token or nothing for the header of the user. -/
structure BasicAuthSpec.Fit (form : String → Prop) (spec : BasicAuthSpec) : Prop where
  users : spec.users ≠ []
  entries : ∀ entry ∈ spec.users, form entry
  realm : HeaderValue.IsText (BasicAuth.realm spec)
  header : spec.forwardUsernameHeader = "" ∨ HeaderName.IsToken spec.forwardUsernameHeader

/-- A policy gives one way to authenticate, and the policy of this way is fit. -/
def PolicySpec.Fit (form : String → Prop) (spec : PolicySpec) : Prop :=
  (∃ jwt, spec = ⟨some jwt, none⟩ ∧ jwt.Fit) ∨ ∃ basic, spec = ⟨none, some basic⟩ ∧ basic.Fit form

/-! ### The first flaw of a policy -/

/-- The flaw of a policy by token is the least name that is no token, in the order of bytes. -/
inductive JwtSpec.FirstFlaw (spec : JwtSpec) : PolicyFlaw → Prop
  | header {name : String} (hname : name ∈ spec.forwardHeaders.names) (hbad : ¬HeaderName.IsToken name)
      (hleast : ∀ other ∈ spec.forwardHeaders.names, ¬HeaderName.IsToken other →
        Utf8.bytes name ≤ Utf8.bytes other) :
      FirstFlaw spec (.invalidHeaderName name)

/-- The flaw of a policy by password is that of the first part that is not as it should be. -/
inductive BasicAuthSpec.FirstFlaw (spec : BasicAuthSpec) : PolicyFlaw → Prop
  | noUsers (husers : spec.users = []) : FirstFlaw spec .noUsers
  | user {entry : String} {before after : List String} (husers : spec.users = before ++ entry :: after)
      (hbefore : ∀ earlier ∈ before, IsEntry earlier) (hbad : ¬IsEntry entry) :
      FirstFlaw spec (.invalidUser before.length)
  | realm (husers : spec.users ≠ []) (hentries : ∀ entry ∈ spec.users, IsEntry entry)
      (hbad : ¬HeaderValue.IsText (BasicAuth.realm spec)) :
      FirstFlaw spec (.invalidRealm (BasicAuth.realm spec))
  | header (husers : spec.users ≠ []) (hentries : ∀ entry ∈ spec.users, IsEntry entry)
      (hrealm : HeaderValue.IsText (BasicAuth.realm spec)) (hne : spec.forwardUsernameHeader ≠ "")
      (hbad : ¬HeaderName.IsToken spec.forwardUsernameHeader) :
      FirstFlaw spec (.invalidHeaderName spec.forwardUsernameHeader)

/-- The number of ways to authenticate comes first, and then the flaw of the only way. -/
inductive PolicySpec.FirstFlaw : PolicySpec → PolicyFlaw → Prop
  | noMethod : FirstFlaw ⟨none, none⟩ .noMethod
  | multipleMethods (jwt : JwtSpec) (basic : BasicAuthSpec) :
      FirstFlaw ⟨some jwt, some basic⟩ .multipleMethods
  | jwt {jwt : JwtSpec} {flaw : PolicyFlaw} (h : jwt.FirstFlaw flaw) : FirstFlaw ⟨some jwt, none⟩ flaw
  | basicAuth {basic : BasicAuthSpec} {flaw : PolicyFlaw} (h : basic.FirstFlaw flaw) :
      FirstFlaw ⟨none, some basic⟩ flaw

/-! ### Headers and realms -/

variable {flaw : PolicyFlaw} {name entry : String}

theorem exists_configuredHeader_iff :
    (∃ n, configuredHeader name = .ok n) ↔ HeaderName.IsToken name := by
  rw [← HeaderName.exists_ofText?_iff, configuredHeader]
  cases HeaderName.ofText? name <;> simp

theorem configuredHeader_eq_ok_iff {n : HeaderName} :
    configuredHeader name = .ok n ↔ n.text.toList = lowerChars name.toList := by
  rw [← HeaderName.ofText?_eq_some_iff, configuredHeader]
  cases HeaderName.ofText? name <;> simp

theorem configuredHeader_eq_error_iff : configuredHeader name = .error flaw ↔
    ¬HeaderName.IsToken name ∧ flaw = .invalidHeaderName name := by
  rw [← HeaderName.ofText?_eq_none_iff, configuredHeader]
  cases HeaderName.ofText? name <;> simp [eq_comm]

namespace BasicAuth

variable {spec : BasicAuthSpec}

theorem exists_forwardHeader?_iff :
    (∃ header, forwardHeader? name = .ok header) ↔ name = "" ∨ HeaderName.IsToken name := by
  rw [forwardHeader?, ← exists_configuredHeader_iff]
  by_cases hempty : name = ""
  · simp [hempty]
  · cases configuredHeader name <;> simp [hempty, Except.map]

theorem forwardHeader?_eq_error_iff : forwardHeader? name = .error flaw ↔
    name ≠ "" ∧ ¬HeaderName.IsToken name ∧ flaw = .invalidHeaderName name := by
  rw [forwardHeader?, ← configuredHeader_eq_error_iff]
  by_cases hempty : name = ""
  · simp [hempty]
  · rw [if_neg hempty, map_eq_error]
    exact (and_iff_right hempty).symm

/-- The challenge is text when the realm that it names is. -/
theorem isText_challenge_iff :
    HeaderValue.IsText ("Basic realm=\"" ++ name ++ "\"") ↔ HeaderValue.IsText name := by
  have hbefore : HeaderValue.IsText "Basic realm=\"" := by decide
  have hafter : HeaderValue.IsText "\"" := by decide
  simp only [HeaderValue.IsText, String.toList_append, List.mem_append] at *
  constructor
  · intro h c hc
    exact h c (.inl (.inr hc))
  · rintro h c ((hc | hc) | hc)
    · exact hbefore c hc
    · exact h c hc
    · exact hafter c hc

theorem exists_challenge?_iff :
    (∃ value, challenge? name = .ok value) ↔ HeaderValue.IsText name := by
  rw [← isText_challenge_iff, ← HeaderValue.exists_ofText?_iff, challenge?]
  cases HeaderValue.ofText? ("Basic realm=\"" ++ name ++ "\"") <;> simp

theorem challenge?_eq_error_iff : challenge? name = .error flaw ↔
    ¬HeaderValue.IsText name ∧ flaw = .invalidRealm name := by
  rw [← isText_challenge_iff, ← HeaderValue.ofText?_eq_none_iff, challenge?]
  cases HeaderValue.ofText? ("Basic realm=\"" ++ name ++ "\"") <;> simp [eq_comm]

/-! ### Policies by password -/

theorem user?_ne_none_iff : user? entry ≠ none ↔ BasicAuthSpec.IsEntry entry := by
  rw [user?, BasicAuthSpec.IsEntry]
  cases hcut : cutFirst ':' entry.toList with
  | none => simpa using fun hmem => absurd hmem (cutFirst_eq_none_iff.1 hcut)
  | some parts =>
      obtain ⟨hsplit, habsent⟩ := cutFirst_eq_some hcut
      rw [hsplit]
      cases hname : parts.1 with
      | nil => simp [hname]
      | cons c r =>
          rw [hname, List.mem_cons, not_or] at habsent
          simp [hname, Ne.symm habsent.1]

theorem exists_users?_iff {i : Nat} {entries : List String} :
    (∃ users, users? i entries = .ok users) ↔ ∀ entry ∈ entries, BasicAuthSpec.IsEntry entry := by
  simp only [users?_eq, exists_readAll_eq_ok_iff, user?_ne_none_iff]

theorem users?_eq_error_iff {entries : List String} : users? 0 entries = .error flaw ↔
    ∃ before entry after, entries = before ++ entry :: after ∧
      (∀ earlier ∈ before, BasicAuthSpec.IsEntry earlier) ∧ ¬BasicAuthSpec.IsEntry entry ∧
      flaw = .invalidUser before.length := by
  simp only [users?_eq, readAll_eq_error_iff, ← user?_ne_none_iff, Decidable.not_not, Nat.zero_add]

theorem exists_ofSpec_iff :
    (∃ auth, ofSpec spec = .ok auth) ↔ spec.Fit BasicAuthSpec.IsEntry := by
  constructor
  · rintro ⟨auth, hauth⟩
    obtain ⟨hempty, users, husers, challenge, hchallenge, header, hheader, -⟩ :=
      ofSpec_eq_ok_iff.1 hauth
    exact ⟨hempty, exists_users?_iff.1 ⟨users, husers⟩, exists_challenge?_iff.1 ⟨challenge, hchallenge⟩,
      exists_forwardHeader?_iff.1 ⟨header, hheader⟩⟩
  · intro hfit
    obtain ⟨users, husers⟩ := exists_users?_iff.2 hfit.entries
    obtain ⟨challenge, hchallenge⟩ := exists_challenge?_iff.2 hfit.realm
    obtain ⟨header, hheader⟩ := exists_forwardHeader?_iff.2 hfit.header
    exact ⟨_, ofSpec_eq_ok_iff.2
      ⟨hfit.users, users, husers, challenge, hchallenge, header, hheader, rfl⟩⟩

theorem ofSpec_eq_error_iff : ofSpec spec = .error flaw ↔ spec.FirstFlaw flaw := by
  rw [ofSpec_eq]
  by_cases hempty : spec.users = []
  · rw [if_pos hempty]
    constructor
    · intro h
      cases h
      exact .noUsers hempty
    · intro h
      cases h with
      | noUsers => rfl
      | user husers => simp [hempty] at husers
      | realm husers => exact absurd hempty husers
      | header husers => exact absurd hempty husers
  · rw [if_neg hempty]
    simp only [bind_eq_error, reduceCtorEq, and_false, exists_false, or_false, exists_and_right,
      exists_users?_iff, exists_challenge?_iff]
    rw [users?_eq_error_iff, challenge?_eq_error_iff, forwardHeader?_eq_error_iff]
    constructor
    · rintro (⟨before, entry, after, husers, hbefore, hbad, rfl⟩ | ⟨hentries, ⟨hbad, rfl⟩ |
        ⟨hrealm, hne, hbad, rfl⟩⟩)
      · exact .user husers hbefore hbad
      · exact .realm hempty hentries hbad
      · exact .header hempty hentries hrealm hne hbad
    · intro h
      cases h with
      | noUsers husers => exact absurd husers hempty
      | user husers hbefore hbad => exact .inl ⟨_, _, _, husers, hbefore, hbad, rfl⟩
      | realm _ hentries hbad => exact .inr ⟨hentries, .inl ⟨hbad, rfl⟩⟩
      | header _ hentries hrealm hne hbad =>
          exact .inr ⟨hentries, .inr ⟨hrealm, hne, hbad, rfl⟩⟩

end BasicAuth

namespace JwtAuth

variable {spec : JwtSpec}

/-- The header of an entry with the claim whose text it carries. -/
def forwarding? (entry : String × String) : Option (HeaderName × String) :=
  (HeaderName.ofText? entry.1).map (·, entry.2)

theorem forward?_eq (i : Nat) (entries : List (String × String)) :
    forward? entries = readAll forwarding? (fun _ entry => .invalidHeaderName entry.1) i entries := by
  induction entries generalizing i with
  | nil => rfl
  | cons entry r ih =>
      rw [forward?, readAll, configuredHeader, forwarding?]
      cases HeaderName.ofText? entry.1 with
      | none => rfl
      | some n =>
          change (forward? r >>= fun rest => Except.ok ((n, entry.2) :: rest)) = _
          rw [ih (i + 1)]
          rfl

theorem forwarding?_eq_none_iff {entry : String × String} :
    forwarding? entry = none ↔ ¬HeaderName.IsToken entry.1 := by
  rw [forwarding?, Option.map_eq_none_iff, HeaderName.ofText?_eq_none_iff]

theorem ofSpec_eq (spec : JwtSpec) :
    ofSpec spec = (forward? spec.forwardHeaders.entries).map (⟨spec, ·⟩) := by
  rw [ofSpec]
  cases forward? spec.forwardHeaders.entries <;> rfl

theorem exists_ofSpec_iff : (∃ auth, ofSpec spec = .ok auth) ↔ spec.Fit := by
  have hentries : (∃ forward, forward? spec.forwardHeaders.entries = .ok forward) ↔ spec.Fit := by
    rw [forward?_eq 0, exists_readAll_eq_ok_iff]
    simp only [JwtSpec.Fit, Dict.names, List.forall_mem_map, ne_eq, forwarding?_eq_none_iff,
      Decidable.not_not]
  rw [ofSpec_eq, exists_map_eq_ok_iff, hentries]

/-- The names stand in their order, so that the first one that is no token is the least. -/
theorem ofSpec_eq_error_iff : ofSpec spec = .error flaw ↔ spec.FirstFlaw flaw := by
  rw [ofSpec_eq, map_eq_error, forward?_eq 0, readAll_eq_error_iff]
  have hincreasing := spec.forwardHeaders.increasing
  constructor
  · rintro ⟨before, ⟨name, claim⟩, after, hsplit, hbefore, hbad, rfl⟩
    rw [hsplit, List.pairwise_append, List.pairwise_cons] at hincreasing
    have hname : name ∈ spec.forwardHeaders.names := by
      rw [Dict.names, hsplit]
      simp
    refine .header hname (forwarding?_eq_none_iff.1 hbad) fun other hother hotherBad => ?_
    obtain ⟨entry, hentry, rfl⟩ := List.mem_map.1 hother
    rw [hsplit, List.mem_append, List.mem_cons] at hentry
    rcases hentry with hentry | rfl | hentry
    · exact absurd (forwarding?_eq_none_iff.2 hotherBad) (hbefore entry hentry)
    · exact Utf8.bytes_le_iff.2 (Std.le_refl name)
    · exact Utf8.bytes_le_iff.2 (Std.le_of_lt (hincreasing.2.1.1 entry hentry))
  · rintro ⟨hname, hbad, hleast⟩
    obtain ⟨⟨name, claim⟩, hentry, rfl⟩ := List.mem_map.1 hname
    obtain ⟨before, after, hsplit⟩ := List.append_of_mem hentry
    rw [hsplit, List.pairwise_append] at hincreasing
    refine ⟨before, _, after, hsplit, fun earlier hearlier hnone => ?_,
      forwarding?_eq_none_iff.2 hbad, rfl⟩
    have hlt : earlier.1 < name := hincreasing.2.2 earlier hearlier _ List.mem_cons_self
    have hmem : earlier.1 ∈ spec.forwardHeaders.names := by
      rw [Dict.names, hsplit]
      exact List.mem_map_of_mem (List.mem_append_left _ hearlier)
    have hle := Utf8.bytes_le_iff.1 (hleast _ hmem (forwarding?_eq_none_iff.1 hnone))
    exact Std.not_lt.2 hle hlt

end JwtAuth

/-! ### Policies -/

namespace PolicySpec

theorem enforce_jwt (validate : Validator) (jwt : JwtSpec) :
    enforce validate ⟨some jwt, none⟩ =
      (JwtAuth.ofSpec jwt).map fun auth => auth.decide validate := by
  change (JwtAuth.ofSpec jwt >>= fun auth => pure (auth.decide validate)) = _
  cases JwtAuth.ofSpec jwt <;> rfl

theorem enforce_basicAuth (validate : Validator) (basic : BasicAuthSpec) :
    enforce validate ⟨none, some basic⟩ =
      (BasicAuth.ofSpec basic).map fun auth request => { decision := auth.decide request } := by
  change (BasicAuth.ofSpec basic >>= fun auth =>
    pure (fun request => { decision := auth.decide request } : Handler)) = _
  cases BasicAuth.ofSpec basic <;> rfl

theorem exists_enforce_iff (validate : Validator) (spec : PolicySpec) :
    (∃ handler, spec.enforce validate = .ok handler) ↔ spec.Fit BasicAuthSpec.IsEntry := by
  rcases spec with ⟨_ | jwt, _ | basic⟩
  · exact iff_of_false (fun ⟨_, h⟩ => nomatch h) fun h => by simp [Fit] at h
  · rw [enforce_basicAuth, exists_map_eq_ok_iff, BasicAuth.exists_ofSpec_iff]
    simp [Fit]
  · rw [enforce_jwt, exists_map_eq_ok_iff, JwtAuth.exists_ofSpec_iff]
    simp [Fit]
  · exact iff_of_false (fun ⟨_, h⟩ => nomatch h) fun h => by simp [Fit] at h

theorem enforce_eq_error_iff {flaw : PolicyFlaw} (validate : Validator) (spec : PolicySpec) :
    spec.enforce validate = .error flaw ↔ spec.FirstFlaw flaw := by
  rcases spec with ⟨_ | jwt, _ | basic⟩
  · rw [enforce]
    exact ⟨fun h => by cases h; exact .noMethod, fun h => by cases h; rfl⟩
  · rw [enforce_basicAuth, map_eq_error, BasicAuth.ofSpec_eq_error_iff]
    exact ⟨.basicAuth, fun h => by cases h; assumption⟩
  · rw [enforce_jwt, map_eq_error, JwtAuth.ofSpec_eq_error_iff]
    exact ⟨.jwt, fun h => by cases h; assumption⟩
  · rw [enforce]
    exact ⟨fun h => by cases h; exact .multipleMethods jwt basic, fun h => by cases h; rfl⟩

/-- A policy is put into force exactly when it gives one way to authenticate and the policy of this
way is fit; otherwise what is reported is its first flaw. -/
theorem enforce_exact (validate : Validator) (spec : PolicySpec) :
    ((∃ handler, spec.enforce validate = .ok handler) ↔ spec.Fit BasicAuthSpec.IsEntry) ∧
      ∀ flaw, spec.enforce validate = .error flaw ↔ spec.FirstFlaw flaw :=
  ⟨exists_enforce_iff validate spec, fun _ => enforce_eq_error_iff validate spec⟩

/-- An entry has a colon that is not its first character. -/
def HasLaterColon (entry : String) : Prop :=
  ':' ∈ entry.toList.tail

/-- A policy with an entry that begins with a colon and has another one. -/
def twoColons : PolicySpec where
  basicAuth := some { users := [":a:b"] }

/-- A later colon does not make up for one at the beginning: the name of the user is empty. -/
theorem not_enforced_twoColons :
    twoColons.enforce .rejecting = .error (.invalidUser 0) ∧
      ¬((∃ handler, twoColons.enforce .rejecting = .ok handler) ↔ twoColons.Fit HasLaterColon) := by
  have hflaw : twoColons.enforce .rejecting = .error (.invalidUser 0) := rfl
  have hfit : twoColons.Fit HasLaterColon := by
    refine .inr ⟨_, rfl, by decide, ?_, by decide, .inl rfl⟩
    intro entry hentry
    rw [List.mem_singleton.1 hentry, HasLaterColon]
    decide
  refine ⟨hflaw, fun h => ?_⟩
  obtain ⟨handler, hhandler⟩ := h.2 hfit
  rw [hflaw] at hhandler
  cases hhandler

end PolicySpec

end EdgeAgent
