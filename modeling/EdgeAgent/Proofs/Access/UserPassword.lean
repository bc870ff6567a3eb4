import EdgeAgent.Proofs.Access.Credentials
import EdgeAgent.Proofs.Dict
import EdgeAgent.Proofs.Http.Header
import EdgeAgent.Proofs.Result

/-!
Who is let in by a user name and a password. The entries of a policy and the credentials of a
request are cut at their first colons, so that both name a user in the same way and a password may
have colons of its own; of several entries of one user the last counts. What is not the written
form of a user name and the password of this user is refused, and all refusals are the same.
-/

namespace EdgeAgent

variable {spec : BasicAuthSpec} {auth : BasicAuth} {entries : List String} {entry : String}
  {user password : String} {expected : Password}

/-- Whether the rest of an entry, after the name of a user, is for a password. -/
def Password.For (rest password : String) : Prop :=
  (¬ Password.digestMark.toList <+: rest.toList ∧ rest = password) ∨
    ∃ digest, rest = Password.digestMark ++ digest ∧
      lowerChars digest.toList = (Sha256.hex (Utf8.bytes password)).toList

/-- Whether the last entry of a user is for a password. -/
def BasicAuthSpec.Grants (spec : BasicAuthSpec) (user password : String) : Prop :=
  ∃ before rest after, spec.users = before ++ (user ++ ":" ++ rest) :: after ∧
    (∀ entry ∈ after, ∀ rest, entry ≠ user ++ ":" ++ rest) ∧ Password.For rest password

/-! ### Entries -/

theorem Password.accepts_ofEntry_iff (rest password : String) :
    (Password.ofEntry rest.toList).accepts password = true ↔ Password.For rest password := by
  rw [Password.ofEntry, Password.For]
  cases hmark : dropBeginning Password.digestMark.toList rest.toList with
  | none =>
      have hunmarked : ¬ Password.digestMark.toList <+: rest.toList := by
        rintro ⟨digest, hdigest⟩
        rw [← hdigest, dropBeginning_append] at hmark
        cases hmark
      simp only [Password.accepts, String.ofList_toList, decide_eq_true_eq]
      constructor
      · intro heq
        exact .inl ⟨hunmarked, heq⟩
      · rintro (⟨-, heq⟩ | ⟨digest, rfl, -⟩)
        · exact heq
        · exact absurd ⟨digest.toList, String.toList_append.symm⟩ hunmarked
  | some digest =>
      have hsplit := dropBeginning_eq_some hmark
      simp only [Password.accepts, decide_eq_true_eq]
      constructor
      · intro heq
        refine .inr ⟨String.ofList digest, ?_, ?_⟩
        · rw [← String.toList_inj, hsplit, String.toList_append, String.toList_ofList]
        · rw [← heq, String.toList_ofList, String.toList_ofList]
      · rintro (⟨hunmarked, -⟩ | ⟨digest', rfl, hlower⟩)
        · exact absurd ⟨digest, hsplit.symm⟩ hunmarked
        · rw [String.toList_append, dropBeginning_append] at hmark
          cases hmark
          rw [hlower, String.ofList_toList]

namespace BasicAuth

theorem user?_append (huser : ':' ∉ user.toList) (rest : String) :
    user? (user ++ ":" ++ rest) =
      if user = "" then none else some (user, Password.ofEntry rest.toList) := by
  have hcut : cutFirst ':' (user ++ ":" ++ rest).toList = some (user.toList, rest.toList) := by
    have hlist : (user ++ ":" ++ rest).toList = user.toList ++ ':' :: rest.toList := by simp
    rw [hlist, cutFirst_append _ huser]
  rw [user?, hcut]
  by_cases hempty : user = ""
  · simp [hempty]
  · have hchars : user.toList ≠ [] := fun h => hempty (String.toList_eq_nil_iff.1 h)
    simp [hempty, hchars]

theorem exists_rest_of_user? (h : user? entry = some (user, expected)) :
    ∃ rest, entry = user ++ ":" ++ rest := by
  rw [user?] at h
  cases hcut : cutFirst ':' entry.toList with
  | none =>
      rw [hcut] at h
      cases h
  | some parts =>
      obtain ⟨name, rest⟩ := parts
      rw [hcut] at h
      simp only at h
      split at h
      · cases h
      · cases h
        refine ⟨String.ofList rest, ?_⟩
        rw [← String.toList_inj, (cutFirst_eq_some hcut).1]
        simp

theorem users?_eq (i : Nat) (entries : List String) :
    users? i entries = readAll user? (fun i _ => .invalidUser i) i entries := by
  induction entries generalizing i with
  | nil => rfl
  | cons entry r ih =>
      rw [users?, readAll]
      cases user? entry with
      | none => rfl
      | some user => exact congrArg (Except.map (user :: ·)) (ih (i + 1))

theorem map_user?_of_users? {i : Nat} {users : List (String × Password)}
    (h : users? i entries = .ok users) : entries.map user? = users.map some := by
  rw [users?_eq] at h
  exact readAll_eq_ok_iff.1 h

theorem eq_of_user?_append (huser : ':' ∉ user.toList) {rest : String} {x : String × Password}
    (h : user? (user ++ ":" ++ rest) = some x) : x = (user, Password.ofEntry rest.toList) := by
  rw [user?_append huser] at h
  by_cases hempty : user = ""
  · rw [if_pos hempty] at h
    cases h
  · rw [if_neg hempty] at h
    exact (Option.some.inj h).symm

/-- What is found under the name of a user is the password of the last entry with this name. -/
theorem find?_users_iff {users : List (String × Password)}
    (h : entries.map user? = users.map some) (huser : ':' ∉ user.toList) :
    (Dict.ofList users).find? user = some expected ↔
      ∃ before rest after, entries = before ++ (user ++ ":" ++ rest) :: after ∧
        (∀ entry ∈ after, ∀ rest, entry ≠ user ++ ":" ++ rest) ∧
        expected = Password.ofEntry rest.toList := by
  rw [Dict.find?_ofList, List.findRev?_eq_find?_reverse, Option.map_eq_some_iff]
  constructor
  · rintro ⟨⟨name, _⟩, hfind, rfl⟩
    obtain ⟨hname, later, earlier, hsplit, hlater⟩ := List.find?_eq_some_iff_append.1 hfind
    obtain rfl : name = user := by simpa using hname
    rw [List.reverse_eq_iff] at hsplit
    rw [hsplit, List.reverse_append, List.reverse_cons, List.append_assoc, List.map_append,
      List.singleton_append, List.map_cons] at h
    obtain ⟨before, rest, rfl, -, hrest⟩ := List.map_eq_append_iff.1 h
    obtain ⟨entry, after, rfl, hentry, hafter⟩ := List.map_eq_cons_iff.1 hrest
    obtain ⟨rest, rfl⟩ := exists_rest_of_user? hentry
    cases eq_of_user?_append huser hentry
    refine ⟨before, rest, after, rfl, ?_, rfl⟩
    rintro entry hmem rest' rfl
    -- An entry of the user after this one would have been found first.
    have hparsed := List.mem_map_of_mem (f := user?) hmem
    rw [hafter] at hparsed
    obtain ⟨x, hx, hsome⟩ := List.mem_map.1 hparsed
    cases eq_of_user?_append huser hsome.symm
    simpa using hlater _ (List.mem_reverse.1 hx)
  · rintro ⟨before, rest, after, rfl, hafter, rfl⟩
    rw [List.map_append, List.map_cons, eq_comm] at h
    obtain ⟨earlier, others, rfl, -, hothers⟩ := List.map_eq_append_iff.1 h
    obtain ⟨x, later, rfl, hx, hlater⟩ := List.map_eq_cons_iff.1 hothers
    cases eq_of_user?_append huser hx.symm
    refine ⟨(user, Password.ofEntry rest.toList), ?_, rfl⟩
    rw [List.find?_eq_some_iff_append]
    refine ⟨by simp, later.reverse, earlier.reverse, by simp, ?_⟩
    rintro ⟨name, password⟩ hmem
    have hnamed : some (name, password) ∈ after.map user? := by
      rw [← hlater]
      exact List.mem_map_of_mem (List.mem_reverse.1 hmem)
    obtain ⟨entry, hentry, hparsed⟩ := List.mem_map.1 hnamed
    obtain ⟨rest', rfl⟩ := exists_rest_of_user? hparsed
    have hne : name ≠ user := by
      rintro rfl
      exact hafter _ hentry rest' rfl
    simpa using hne

theorem ofSpec_eq (spec : BasicAuthSpec) : ofSpec spec =
    if spec.users = [] then .error .noUsers
    else users? 0 spec.users >>= fun users => challenge? (realm spec) >>= fun challenge =>
      forwardHeader? spec.forwardUsernameHeader >>= fun header =>
        .ok ⟨Dict.ofList users, challenge, spec.stripAuthorizationHeader, header⟩ := by
  rw [ofSpec]
  split <;> rfl

theorem ofSpec_eq_ok_iff : ofSpec spec = .ok auth ↔ spec.users ≠ [] ∧
    ∃ users, users? 0 spec.users = .ok users ∧ ∃ challenge, challenge? (realm spec) = .ok challenge ∧
      ∃ header, forwardHeader? spec.forwardUsernameHeader = .ok header ∧
        ⟨Dict.ofList users, challenge, spec.stripAuthorizationHeader, header⟩ = auth := by
  rw [ofSpec_eq]
  by_cases hempty : spec.users = []
  · rw [if_pos hempty]
    constructor
    · intro h
      cases h
    · intro h
      exact absurd hempty h.1
  · rw [if_neg hempty, and_iff_right hempty]
    simp only [bind_eq_ok, Except.ok.injEq]

theorem ofSpec_eq_ok (h : ofSpec spec = .ok auth) :
    (∃ users, users? 0 spec.users = .ok users ∧ auth.users = Dict.ofList users) ∧
      challenge? (realm spec) = .ok auth.challenge := by
  obtain ⟨-, users, husers, challenge, hchallenge, header, -, rfl⟩ := ofSpec_eq_ok_iff.1 h
  exact ⟨⟨users, husers, rfl⟩, hchallenge⟩

theorem bytes_of_challenge? {name : String} {value : HeaderValue}
    (h : challenge? name = .ok value) :
    value.bytes = Utf8.bytes ("Basic realm=\"" ++ name ++ "\"") := by
  rw [challenge?] at h
  cases htext : HeaderValue.ofText? ("Basic realm=\"" ++ name ++ "\"") with
  | none =>
      rw [htext] at h
      cases h
  | some found =>
      rw [htext] at h
      cases h
      exact HeaderValue.ofText?_eq_some_iff.1 htext

/-- A user is let in exactly when the request carries the name and a password that the last entry
of the user is for. -/
theorem user_eq_some_iff (h : ofSpec spec = .ok auth) (request : Request) :
    auth.user request = some user ↔
      ∃ value password, request.headers.first? .authorization = some value ∧
        value.Holds (Utf8.bytes (user ++ ":" ++ password)) ∧ ':' ∉ user.toList ∧
        spec.Grants user password := by
  obtain ⟨⟨users, hparsed, husers⟩, -⟩ := ofSpec_eq_ok h
  have hentries := map_user?_of_users? hparsed
  have hgrants : ∀ password, ':' ∉ user.toList → (spec.Grants user password ↔
      ∃ expected, auth.users.find? user = some expected ∧ expected.accepts password = true) := by
    intro password huser
    constructor
    · rintro ⟨before, rest, after, hsplit, hafter, hfor⟩
      refine ⟨Password.ofEntry rest.toList, ?_, (Password.accepts_ofEntry_iff rest password).2 hfor⟩
      rw [husers]
      exact (find?_users_iff hentries huser).2 ⟨before, rest, after, hsplit, hafter, rfl⟩
    · rintro ⟨expected, hfind, haccepts⟩
      rw [husers] at hfind
      obtain ⟨before, rest, after, hsplit, hafter, rfl⟩ := (find?_users_iff hentries huser).1 hfind
      exact ⟨before, rest, after, hsplit, hafter,
        (Password.accepts_ofEntry_iff rest password).1 haccepts⟩
  simp only [BasicAuth.user, Option.bind_eq_bind, Option.bind_eq_some_iff]
  constructor
  · rintro ⟨⟨name, password⟩, hcredentials, expected, hfind, haccepts⟩
    simp only [Option.ite_none_right_eq_some, Option.some.injEq] at haccepts
    obtain ⟨haccepts, rfl⟩ := haccepts
    obtain ⟨value, hfirst, hholds, huser⟩ := credentials?_eq_some_iff.1 hcredentials
    exact ⟨value, password, hfirst, hholds, huser, (hgrants password huser).2
      ⟨expected, hfind, haccepts⟩⟩
  · rintro ⟨value, password, hfirst, hholds, huser, hgranted⟩
    obtain ⟨expected, hfind, haccepts⟩ := (hgrants password huser).1 hgranted
    refine ⟨(user, password), credentials?_eq_some_iff.2 ⟨value, hfirst, hholds, huser⟩, expected,
      hfind, ?_⟩
    rw [if_pos haccepts]

/-- A policy that is in force lets a request on exactly when its first credentials are the word,
blanks, the written form of a user name without a colon, a colon and a password that the last entry
of this user is for, and blanks. Every other request gets the challenge of the realm and nothing
else, so that two refusals cannot be told apart. -/
theorem isAllowed_decide_iff (h : ofSpec spec = .ok auth) :
    (∀ request : Request, (auth.decide request).isAllowed = true ↔
      ∃ (user password : String) (before after : List UInt8) (value : HeaderValue),
        request.headers.first? .authorization = some value ∧
        (∀ b ∈ before ++ after, b = 32 ∨ b = 9) ∧
        value.bytes = Utf8.bytes "Basic " ++ before ++
          Base64.encode (Utf8.bytes (user ++ ":" ++ password)) ++ after ∧
        ':' ∉ user.toList ∧ spec.Grants user password) ∧
    ∃ challenge : HeaderValue,
      challenge.bytes = Utf8.bytes ("Basic realm=\"" ++ realm spec ++ "\"") ∧
      ∀ request : Request, (auth.decide request).isAllowed = false →
        auth.decide request = .deny [(.wwwAuthenticate, challenge)] := by
  refine ⟨fun request => ?_, auth.challenge, bytes_of_challenge? (ofSpec_eq_ok h).2, ?_⟩
  · have hallowed : (auth.decide request).isAllowed = true ↔ ∃ user, auth.user request = some user := by
      rw [BasicAuth.decide]
      cases auth.user request <;> simp [Decision.isAllowed]
    rw [hallowed]
    constructor
    · rintro ⟨user, huser⟩
      obtain ⟨value, password, hfirst, ⟨before, after, hblank, hbytes⟩, hcolon, hgrants⟩ :=
        (user_eq_some_iff h request).1 huser
      exact ⟨user, password, before, after, value, hfirst, hblank, hbytes, hcolon, hgrants⟩
    · rintro ⟨user, password, before, after, value, hfirst, hblank, hbytes, hcolon, hgrants⟩
      exact ⟨user, (user_eq_some_iff h request).2
        ⟨value, password, hfirst, ⟨before, after, hblank, hbytes⟩, hcolon, hgrants⟩⟩
  · intro request hrefused
    rw [BasicAuth.decide] at hrefused ⊢
    cases huser : auth.user request with
    | none => rfl
    | some user =>
        rw [huser] at hrefused
        cases hrefused

/-- A user whose password was changed to one with a colon. -/
def renewed : BasicAuthSpec where
  users := ["bob:old", "bob:a:b"]

def renewedRequest : Request where
  uri := ⟨[47], none⟩
  headers := [(.authorization, ⟨Utf8.bytes "Basic \tYm9iOmE6Yg== ", by decide⟩)]

theorem isAllowed_decide_iff_renewed : ∃ auth, ofSpec renewed = .ok auth ∧
    (auth.decide renewedRequest).isAllowed = true ∧
    ∃ challenge : HeaderValue, challenge.bytes = Utf8.bytes "Basic realm=\"hub\"" ∧
      auth.decide { renewedRequest with headers := [] } = .deny [(.wwwAuthenticate, challenge)] := by
  have hspec : ofSpec renewed = .ok _ := rfl
  obtain ⟨hallowed, challenge, hchallenge, hrefused⟩ := isAllowed_decide_iff hspec
  refine ⟨_, hspec, (hallowed _).2 ?_, challenge, hchallenge, hrefused _ rfl⟩
  refine ⟨"bob", "a:b", [9], [32], _, rfl, by simp, by decide +kernel, by decide, ?_⟩
  refine ⟨["bob:old"], "a:b", [], by decide, by simp, .inl ⟨?_, rfl⟩⟩
  decide

end BasicAuth

end EdgeAgent
