import EdgeAgent.Http.Uri
import EdgeAgent.Log
import EdgeAgent.Resource.AccessControlPolicy

/-! Decisions about requests, and the handlers that take them. A handler may ask a validator
whether a token is good; what it asked and what was reported on the way is part of its verdict. -/

namespace EdgeAgent

/-- A decision about a request. -/
inductive Decision where
  /-- The request may go on, with headers that are added to it. -/
  | allow (headers : Headers)
  /-- The request is refused, with headers for the client. -/
  | deny (headers : Headers)
  deriving DecidableEq

namespace Decision

/-- Whether a request may go on. -/
def isAllowed : Decision → Bool
  | .allow _ => true
  | .deny _ => false

def headers : Decision → Headers
  | .allow hs => hs
  | .deny hs => hs

end Decision

/-- A decision, the tokens that were asked about, and what was reported. -/
structure Verdict where
  decision : Decision
  asked : List String := []
  log : Log := []

/-- What decides about requests. -/
abbrev Handler := Request → Verdict

/-- The claims of a token. -/
abbrev Claims := Dict Json

/-- The answer about a token: its claims when it is good. -/
structure Validation where
  claims : Option Claims
  log : Log := []

/-- What decides whether a token is good under a policy. -/
abbrev Validator := JwtSpec → String → Validation

namespace Validator

/-- Finds no token good. -/
def rejecting : Validator := fun _ _ =>
  { claims := none
    log := [⟨.warn, "No token validator is configured; rejecting token", []⟩] }

/-- Finds the tokens of a table good. -/
def ofTable (tokens : Dict Claims) : Validator := fun _ token =>
  { claims := tokens.find? token }

end Validator

end EdgeAgent
