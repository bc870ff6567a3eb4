import EdgeAgent.Http.Header
import EdgeAgent.Text.Decimal
import EdgeAgent.Text.Quoted

/-! Why a policy cannot be put into force. -/

namespace EdgeAgent

/-- What is wrong with a policy. -/
inductive PolicyFlaw where
  /-- It gives no way to authenticate. -/
  | noMethod
  /-- It gives more than one way to authenticate. -/
  | multipleMethods
  /-- It names no user. -/
  | noUsers
  /-- The entry of a user, given by its index, is not of the form `user:password`. -/
  | invalidUser (index : Nat)
  /-- The realm cannot stand in a header. -/
  | invalidRealm (realm : String)
  /-- A name is not that of a header. -/
  | invalidHeaderName (name : String)
  deriving DecidableEq

/-- The message about what is wrong. -/
def PolicyFlaw.message : PolicyFlaw → String
  | .noMethod => "policy does not configure an authentication method"
  | .multipleMethods => "policy configures more than one authentication method"
  | .noUsers => "basic auth requires at least one user"
  | .invalidUser i => "basic auth user " ++ Decimal.text i ++ " is not of the form user:password"
  | .invalidRealm realm => "invalid realm: " ++ Quoted.text realm
  | .invalidHeaderName name => "invalid header name: " ++ Quoted.text name

/-- The header name that a policy gives. -/
def configuredHeader (name : String) : Except PolicyFlaw HeaderName :=
  match HeaderName.ofText? name with
  | some n => .ok n
  | none => .error (.invalidHeaderName name)

end EdgeAgent
