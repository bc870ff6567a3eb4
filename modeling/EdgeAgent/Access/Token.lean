import EdgeAgent.Access.Flaw
import EdgeAgent.Access.Decision
import EdgeAgent.Http.Query
import EdgeAgent.Text.Blank

/-! Authentication by a JSON Web Token. The token stands in a header or in the query; whether it
is good is for a validator to say, and claims of a good one are forwarded in headers. -/

namespace EdgeAgent

/-- A policy by token that is in force. -/
structure JwtAuth where
  spec : JwtSpec
  /-- The headers to forward, each with the claim whose text it carries. -/
  forward : List (HeaderName × String)

namespace JwtAuth

/-- The headers of a policy with their claims, in the order of their configured names. -/
def forward? : List (String × String) → Except PolicyFlaw (List (HeaderName × String))
  | [] => .ok []
  | (name, claim) :: r => do
    let name ← configuredHeader name
    let rest ← forward? r
    return (name, claim) :: rest

/-- A policy put into force. -/
def ofSpec (spec : JwtSpec) : Except PolicyFlaw JwtAuth := do
  let forward ← forward? spec.forwardHeaders.entries
  return ⟨spec, forward⟩

/-- The token in the header of a request. -/
def bearer? (request : Request) : Option String := do
  let value ← request.headers.first? .authorization
  let text ← value.visible?
  let rest ← dropBeginning "Bearer ".toList text
  let token := trim rest
  if token = [] then none else some (String.ofList token)

/-- The address that a client asked for: the forwarded one, or else that of the request. -/
def askedUri (request : Request) : Uri :=
  let forwarded := do
    let value ← request.headers.first? .forwardedUri
    let text ← value.visible?
    Uri.ofBytes? (Utf8.encode text)
  forwarded.getD request.uri

/-- The first value under a name in the query of an address, unless it is empty. -/
def queryToken? (name : String) (uri : Uri) : Option String := do
  let query ← uri.query
  let (_, value) ← (Query.decode query).find? fun pair => pair.1 = name
  if value = "" then none else some value

def token? (spec : JwtSpec) (request : Request) : Option String :=
  match bearer? request with
  | some token => some token
  | none =>
    if spec.tokenQueryKey = "" then none
    else queryToken? spec.tokenQueryKey (askedUri request)

/-- The text of a claim: a string as it is, any other value as compact JSON. -/
def claimText : Json → String
  | .str s => s
  | j => j.text

/-- The headers with that of a claim added, if the claim is there and can stand in a header. -/
def addClaim (claims : Claims) (headers : Headers) (entry : HeaderName × String) : Headers :=
  match (claims.find? entry.2).bind fun claim => HeaderValue.ofText? (claimText claim) with
  | some value => headers.set entry.1 value
  | none => headers

/-- The headers of a request with a good token. -/
def forwarded (auth : JwtAuth) (claims : Claims) : Headers :=
  let headers := auth.forward.foldl (addClaim claims) []
  if auth.spec.stripAuthorizationHeader then headers.set .authorization .empty else headers

/-- The verdict about a request. -/
def decide (auth : JwtAuth) (validate : Validator) (request : Request) : Verdict :=
  match token? auth.spec request with
  | none => { decision := .deny [] }
  | some token =>
    let validation := validate auth.spec token
    { decision := match validation.claims with
        | some claims => .allow (auth.forwarded claims)
        | none => .deny []
      asked := [token]
      log := validation.log }

end JwtAuth

end EdgeAgent
