import EdgeAgent.Resource.Fingerprint
import EdgeAgent.Resource.Object

/-! Access control policies: how requests to a service are authenticated, by a JSON Web Token or
by a user name and a password. -/

namespace EdgeAgent

/-- Authentication by a JSON Web Token. -/
structure JwtSpec where
  signingSecret : String := ""
  signingSecretBase64Encoded : Bool := false
  publicKey : String := ""
  jwksFile : String := ""
  jwksUrl : String := ""
  stripAuthorizationHeader : Bool := false
  /-- The claim whose text each forwarded header carries. -/
  forwardHeaders : Dict String := Dict.empty
  /-- The parameter of the query that carries a token when no header does. -/
  tokenQueryKey : String := ""
  claims : String := ""
  deriving DecidableEq

/-- Authentication by a user name and a password. -/
structure BasicAuthSpec where
  /-- Entries `user:password` or `user:{SHA256}digest`. -/
  users : List String := []
  realm : String := ""
  stripAuthorizationHeader : Bool := false
  forwardUsernameHeader : String := ""
  deriving DecidableEq

/-- The spec of a policy. Exactly one way to authenticate should be given. -/
structure PolicySpec where
  jwt : Option JwtSpec := none
  basicAuth : Option BasicAuthSpec := none
  deriving DecidableEq

namespace JwtSpec

def toJson (s : JwtSpec) : Json :=
  Encode.object [
    Encode.text "signingSecret" s.signingSecret,
    Encode.always "signingSecretBase64Encoded" (.bool s.signingSecretBase64Encoded),
    Encode.text "publicKey" s.publicKey,
    Encode.text "jwksFile" s.jwksFile,
    Encode.text "jwksUrl" s.jwksUrl,
    Encode.always "stripAuthorizationHeader" (.bool s.stripAuthorizationHeader),
    if s.forwardHeaders.isEmpty then none
    else Encode.always "forwardHeaders" (.ofDict s.forwardHeaders),
    Encode.text "tokenQueryKey" s.tokenQueryKey,
    Encode.text "claims" s.claims]

def decode : Decoder JwtSpec :=
  Decode.record {} [
    Decode.field "signingSecret" .defaulted Decode.string fun x s => { s with signingSecret := x },
    Decode.field "signingSecretBase64Encoded" .defaulted Decode.bool
      fun x s => { s with signingSecretBase64Encoded := x },
    Decode.field "publicKey" .defaulted Decode.string fun x s => { s with publicKey := x },
    Decode.field "jwksFile" .defaulted Decode.string fun x s => { s with jwksFile := x },
    Decode.field "jwksUrl" .defaulted Decode.string fun x s => { s with jwksUrl := x },
    Decode.field "stripAuthorizationHeader" .defaulted Decode.bool
      fun x s => { s with stripAuthorizationHeader := x },
    Decode.field "forwardHeaders" .defaulted (Decode.dict Decode.string)
      fun x s => { s with forwardHeaders := x },
    Decode.field "tokenQueryKey" .defaulted Decode.string fun x s => { s with tokenQueryKey := x },
    Decode.field "claims" .defaulted Decode.string fun x s => { s with claims := x }]

end JwtSpec

namespace BasicAuthSpec

def toJson (s : BasicAuthSpec) : Json :=
  Encode.object [
    Encode.always "users" (.strs s.users),
    Encode.text "realm" s.realm,
    Encode.always "stripAuthorizationHeader" (.bool s.stripAuthorizationHeader),
    Encode.text "forwardUsernameHeader" s.forwardUsernameHeader]

def decode : Decoder BasicAuthSpec :=
  Decode.record {} [
    Decode.field "users" .defaulted (Decode.list Decode.string) fun x s => { s with users := x },
    Decode.field "realm" .defaulted Decode.string fun x s => { s with realm := x },
    Decode.field "stripAuthorizationHeader" .defaulted Decode.bool
      fun x s => { s with stripAuthorizationHeader := x },
    Decode.field "forwardUsernameHeader" .defaulted Decode.string
      fun x s => { s with forwardUsernameHeader := x }]

end BasicAuthSpec

namespace PolicySpec

def toJson (s : PolicySpec) : Json :=
  Encode.object [
    Encode.present "jwt" JwtSpec.toJson s.jwt,
    Encode.present "basicAuth" BasicAuthSpec.toJson s.basicAuth]

def decode : Decoder PolicySpec :=
  Decode.record {} [
    Decode.field "jwt" .defaulted (Decode.optional JwtSpec.decode)
      fun x s => { s with jwt := x },
    Decode.field "basicAuth" .defaulted (Decode.optional BasicAuthSpec.decode)
      fun x s => { s with basicAuth := x }]

/-- The fingerprint of a spec. -/
def hash (s : PolicySpec) : String :=
  fingerprint s.toJson

end PolicySpec

/-- A policy as it is stored in the cluster. It has no status. -/
abbrev AccessControlPolicy := Object PolicySpec Unit

def AccessControlPolicy.kind : Kind PolicySpec Unit where
  name := "AccessControlPolicy"
  plural := "accesscontrolpolicies"
  namespaced := true
  blank := {}
  encodeSpec := PolicySpec.toJson
  decodeSpec := PolicySpec.decode
  encodeStatus := fun _ => .null
  decodeStatus? := none
  specHash := fun _ => ""

end EdgeAgent
