import EdgeAgent.Text.Case
import EdgeAgent.Text.Utf8

/-! Header names, header values and header lists. A name is held in lower case, so that names that
differ in case alone are equal; a value is any bytes without control characters other than the
tab. -/

namespace EdgeAgent

/-- The characters of a header name in lower case. -/
def isHeaderNameChar (c : Char) : Bool :=
  (97 ≤ c.toNat && c.toNat ≤ 122) || (48 ≤ c.toNat && c.toNat ≤ 57) ||
    c ∈ ['!', '#', '$', '%', '&', '\'', '*', '+', '-', '.', '^', '_', '\x60', '|', '~']

/-- Whether characters in lower case are a header name. -/
def isHeaderName (s : List Char) : Bool :=
  1 ≤ s.length && s.length ≤ 65535 && s.all isHeaderNameChar

/-- A header name, in lower case. -/
structure HeaderName where
  text : String
  valid : isHeaderName text.toList = true
  deriving DecidableEq

namespace HeaderName

/-- The header name that a text in either case is. -/
def ofText? (s : String) : Option HeaderName :=
  let t := String.ofList (lowerChars s.toList)
  if h : isHeaderName t.toList = true then some ⟨t, h⟩ else none

/-- The name of the credentials of a request. -/
def authorization : HeaderName := ⟨"authorization", by decide⟩

/-- The name of the challenge of a refusal. -/
def wwwAuthenticate : HeaderName := ⟨"www-authenticate", by decide⟩

/-- The name of the address that was asked for before a request was forwarded. -/
def forwardedUri : HeaderName := ⟨"x-forwarded-uri", by decide⟩

end HeaderName

/-- Whether a byte may stand in a header value. -/
def isHeaderValueByte (b : UInt8) : Bool :=
  (32 ≤ b.toNat && b.toNat ≠ 127) || b.toNat = 9

/-- A header value. -/
structure HeaderValue where
  bytes : List UInt8
  valid : bytes.all isHeaderValueByte = true
  deriving DecidableEq

namespace HeaderValue

def ofBytes? (bs : List UInt8) : Option HeaderValue :=
  if h : bs.all isHeaderValueByte = true then some ⟨bs, h⟩ else none

/-- The header value that the bytes of a text are. -/
def ofText? (s : String) : Option HeaderValue :=
  ofBytes? (Utf8.bytes s)

/-- The value without bytes. -/
def empty : HeaderValue := ⟨[], rfl⟩

/-- Whether a byte is a visible ASCII character, a space or a tab. -/
def isVisible (b : UInt8) : Bool :=
  (32 ≤ b.toNat && b.toNat < 127) || b.toNat = 9

/-- The characters of a value of which all are visible. -/
def visible? (v : HeaderValue) : Option (List Char) :=
  if v.bytes.all isVisible then some (v.bytes.map fun b => Char.ofNat b.toNat) else none

end HeaderValue

/-- Headers in their order. A name may occur more than once. -/
abbrev Headers := List (HeaderName × HeaderValue)

namespace Headers

/-- The first value under a name. -/
def first? (headers : Headers) (name : HeaderName) : Option HeaderValue :=
  (headers.find? fun h => h.1 = name).map (·.2)

/-- The headers with one value under a name instead of all earlier ones. -/
def set (headers : Headers) (name : HeaderName) (value : HeaderValue) : Headers :=
  headers.filter (fun h => h.1 ≠ name) ++ [(name, value)]

end Headers

end EdgeAgent
