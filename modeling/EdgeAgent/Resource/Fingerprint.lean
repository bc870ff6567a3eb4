import EdgeAgent.Digest.Sha256
import EdgeAgent.Json.Basic

/-! Fingerprints of specs: the SHA-256 digest of the compact JSON text, in hexadecimal. Equal texts
have equal fingerprints. -/

namespace EdgeAgent

/-- The fingerprint of an encoded spec. -/
def fingerprint (encoded : Json) : String :=
  Sha256.hex encoded.bytes

/-- The message about a spec that has no JSON text. -/
def unencodable : String := "failed to encode spec"

/-- The fingerprint of a map given by its entries. A map has a JSON text only when its keys are
strings. -/
def fingerprintOfMap (entries : List (Json × Json)) : Except String String :=
  match entries.mapM fun e => e.1.str?.map fun name => (name, e.2) with
  | some fields => .ok (fingerprint (.obj (Dict.ofList fields).entries))
  | none => .error unencodable

end EdgeAgent
