import EdgeAgent.Access.Token
import EdgeAgent.Access.UserPassword

/-! Putting policies into force: a policy that gives exactly one way to authenticate becomes the
handler that decides about requests by it. -/

namespace EdgeAgent

/-- The handler of a policy, which asks a validator about tokens. -/
def PolicySpec.enforce (validate : Validator) (spec : PolicySpec) : Except PolicyFlaw Handler :=
  match spec.jwt, spec.basicAuth with
  | some jwt, none => do
    let auth ← JwtAuth.ofSpec jwt
    return auth.decide validate
  | none, some basic => do
    let auth ← BasicAuth.ofSpec basic
    return fun request => { decision := auth.decide request }
  | none, none => .error .noMethod
  | some _, some _ => .error .multipleMethods

end EdgeAgent
