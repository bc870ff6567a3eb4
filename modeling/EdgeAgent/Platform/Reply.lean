import EdgeAgent.Http.Header
import EdgeAgent.Json.Decode
import EdgeAgent.Text.Blank

/-! Asking the platform for its records: the credentials of a request, and what a reply says. Only
a whole list of records in a reply of status 200 counts. -/

namespace EdgeAgent

/-- Why the platform gave no records. -/
inductive PlatformError where
  /-- The address cannot be asked for, or the credentials cannot stand in a header. -/
  | unsendable
  /-- The reply says that the request failed. -/
  | refused (status : Nat) (message : String)
  /-- The reply is cut short, or is no list of records. -/
  | undecodable
  deriving DecidableEq

/-- A reply of the platform, as far as it came. -/
structure PlatformReply where
  status : Nat
  body : List UInt8
  /-- Whether the body has its announced length. -/
  complete : Bool

namespace PlatformError

/-- The message about a reply that says that the request failed. -/
def refusal (status : Nat) (message : String) : String :=
  "platform responded " ++ Decimal.text status ++ ": " ++ message

/-- The message about a failure. -/
def message : PlatformError → String
  | .refused status message => refusal status message
  | .unsendable => "request failed: builder error"
  | .undecodable => "request failed: error decoding response body"

end PlatformError

namespace PlatformReply

/-- The message that a body in JSON form carries. -/
def decodeMessage : Decoder String :=
  Decode.record "" [Decode.field "message" .required Decode.string fun x _ => x]

/-- The message of a reply that says that the request failed: that of its body, or else all of its
text. A body that is cut short has no text. -/
def message (r : PlatformReply) : String :=
  let text := if r.complete then Utf8.lossy r.body else ""
  match Decode.text decodeMessage text with
  | .ok m => m
  | .error _ => String.ofList (trim text.toList)

def records {α : Type} (decode : Decoder α) (r : PlatformReply) : Except PlatformError (List α) :=
  if r.status ≠ 200 then .error (.refused r.status r.message)
  else if !r.complete then .error .undecodable
  else
    match Decode.bytes (Decode.list decode) r.body with
    | .ok rs => .ok rs
    | .error _ => .error .undecodable

end PlatformReply

/-- The credentials of a request with a token. -/
def bearerCredentials (token : String) : Except PlatformError HeaderValue :=
  match HeaderValue.ofText? ("Bearer " ++ token) with
  | some value => .ok value
  | none => .error .unsendable

end EdgeAgent
