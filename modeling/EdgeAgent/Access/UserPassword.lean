import EdgeAgent.Access.Flaw
import EdgeAgent.Access.Decision
import EdgeAgent.Digest.Sha256
import EdgeAgent.Text.Base64
import EdgeAgent.Text.Blank

/-! Authentication by a user name and a password. A request carries `user:password` in Base64
after the word `Basic`; a refused one is answered with a challenge that names the realm. -/

namespace EdgeAgent

/-- What a password is compared with. -/
inductive Password where
  | plain (password : String)
  /-- The digest of the password, in lower case. -/
  | digest (hex : String)
  deriving DecidableEq

/-- A policy by user name and password that is in force. -/
structure BasicAuth where
  /-- The passwords of the users. -/
  users : Dict Password
  challenge : HeaderValue
  stripAuthorization : Bool
  forwardUsername : Option HeaderName

namespace Password

/-- The word before a password that is given by its digest. -/
def digestMark : String := "\x7bSHA256\x7d"

def ofEntry (s : List Char) : Password :=
  match dropBeginning digestMark.toList s with
  | some hex => .digest (String.ofList (lowerChars hex))
  | none => .plain (String.ofList s)

/-- Whether a password is the expected one. -/
def accepts : Password → String → Bool
  | .plain expected, given => expected = given
  | .digest expected, given => expected = Sha256.hex (Utf8.bytes given)

end Password

namespace BasicAuth

/-- The realm of a policy that names none. -/
def defaultRealm : String := "hub"

/-- The realm of a policy. -/
def realm (spec : BasicAuthSpec) : String :=
  if spec.realm = "" then defaultRealm else spec.realm

def user? (entry : String) : Option (String × Password) :=
  match cutFirst ':' entry.toList with
  | some (user, password) =>
    if user = [] then none else some (String.ofList user, Password.ofEntry password)
  | none => none

/-- The users and the passwords of entries, which are counted from a given index. -/
def users? : Nat → List String → Except PolicyFlaw (List (String × Password))
  | _, [] => .ok []
  | i, entry :: r =>
    match user? entry with
    | none => .error (.invalidUser i)
    | some user => (users? (i + 1) r).map (user :: ·)

/-- The challenge that names a realm. -/
def challenge? (realm : String) : Except PolicyFlaw HeaderValue :=
  match HeaderValue.ofText? ("Basic realm=\"" ++ realm ++ "\"") with
  | some value => .ok value
  | none => .error (.invalidRealm realm)

def forwardHeader? (name : String) : Except PolicyFlaw (Option HeaderName) :=
  if name = "" then .ok none else (configuredHeader name).map some

/-- A policy put into force. -/
def ofSpec (spec : BasicAuthSpec) : Except PolicyFlaw BasicAuth := do
  if spec.users = [] then throw .noUsers
  let users ← users? 0 spec.users
  let challenge ← challenge? (realm spec)
  let forwardUsername ← forwardHeader? spec.forwardUsernameHeader
  return {
    users := Dict.ofList users
    challenge := challenge
    stripAuthorization := spec.stripAuthorizationHeader
    forwardUsername := forwardUsername }

/-- The user name and the password that a request carries. -/
def credentials? (request : Request) : Option (String × String) := do
  let value ← request.headers.first? .authorization
  let text ← value.visible?
  let encoded ← dropBeginning "Basic ".toList text
  let bytes ← Base64.decode? (Utf8.encode (trim encoded))
  let text ← Utf8.decode? bytes
  let (user, password) ← cutFirst ':' text
  return (String.ofList user, String.ofList password)

/-- The user whose name and password a request carries. -/
def user (auth : BasicAuth) (request : Request) : Option String := do
  let (user, given) ← credentials? request
  let expected ← auth.users.find? user
  if expected.accepts given then some user else none

/-- The headers of a request that a user has made. -/
def forwarded (auth : BasicAuth) (user : String) : Headers :=
  let headers : Headers :=
    match auth.forwardUsername, HeaderValue.ofText? user with
    | some name, some value => [(name, value)]
    | _, _ => []
  if auth.stripAuthorization then headers.set .authorization .empty else headers

/-- The decision about a request. -/
def decide (auth : BasicAuth) (request : Request) : Decision :=
  match auth.user request with
  | some user => .allow (auth.forwarded user)
  | none => .deny [(.wwwAuthenticate, auth.challenge)]

end BasicAuth

end EdgeAgent
