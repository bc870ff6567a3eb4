import EdgeAgent.Net.Host

/-! Addresses of the web: `http` or `https`, a host with a port, a path, and maybe a query and a
fragment. A user before the host is passed over, the path is resolved, and characters that may not
stand in their places are percent-encoded. -/

namespace EdgeAgent

/-- An address of the web. -/
structure Url where
  secure : Bool
  host : Host
  /-- The port, if it is not the one that goes without saying. -/
  port : Option Nat
  /-- The parts of the path, each after a slash. -/
  path : List (List UInt8)
  query : Option (List UInt8)
  fragment : Option (List UInt8)
  deriving DecidableEq

namespace Url

/-- The characters that are passed over at the ends of an address. -/
def isMargin (c : Char) : Bool :=
  c.toNat ≤ 0x20

/-- An address without its margins, and without the ends of lines and tabs in it. -/
def clean (s : List Char) : List Char :=
  let inner := ((s.dropWhile isMargin).reverse.dropWhile isMargin).reverse
  inner.filter fun c => !(c = '\t' || c = '\n' || c = '\r')

/-- Whether a character separates the parts of a path. -/
def isSlash (c : Char) : Bool :=
  c = '/' || c = '\\'

/-- Whether a scheme is the secure one, and what follows it. -/
def cutScheme (s : List Char) : Option (Bool × List Char) := do
  let (name, rest) ← cutFirst ':' s
  let rest := rest.dropWhile isSlash
  match String.ofList (lowerChars name) with
  | "http" => some (false, rest)
  | "https" => some (true, rest)
  | _ => none

/-- Whether a character belongs to the user, the host and the port. -/
def inAuthority (c : Char) : Bool :=
  !(isSlash c || c = '?' || c = '#')

/-- What follows the user, if one is named. -/
def withoutUser (s : List Char) : List Char :=
  match cutLast '@' s with
  | some (_, rest) => rest
  | none => s

/-- The parts before and from the first colon that is in no brackets. -/
def cutHost (inBrackets : Bool) : List Char → List Char × List Char
  | [] => ([], [])
  | c :: r =>
    if c = ':' ∧ !inBrackets then ([], c :: r)
    else
      let (host, rest) := cutHost (c = '[' || (inBrackets && c ≠ ']')) r
      (c :: host, rest)

/-- The port that goes without saying. -/
def usualPort (secure : Bool) : Nat :=
  if secure then 443 else 80

/-- The port after a colon. It may be left out, and so may the colon. -/
def port? (secure : Bool) : List Char → Option (Option Nat)
  | [] => some none
  | _ :: ds =>
    if ds.all Decimal.isDigit ∧ Decimal.value ds ≤ 65535 then
      some (if ds = [] ∨ Decimal.value ds = usualPort secure then none
        else some (Decimal.value ds))
    else none

/-- The bytes of a text, with the characters of a class and those beyond ASCII percent-encoded. -/
def encode (special : List Char) (s : List Char) : List UInt8 :=
  s.flatMap fun c =>
    if c.toNat ≤ 0x1F ∨ 0x7F ≤ c.toNat ∨ c ∈ special then
      (Utf8.encodeChar c).flatMap Percent.encodeByte
    else Utf8.encodeChar c

/-- The characters that may not stand in a path. -/
def pathSpecial : List Char := [' ', '"', '<', '>', '`', '^', '\x7b', '\x7d']

/-- The characters that may not stand in a query. -/
def querySpecial : List Char := [' ', '"', '#', '<', '>', '\'']

/-- The characters that may not stand in a fragment. -/
def fragmentSpecial : List Char := [' ', '"', '<', '>', '`']

/-- The points that a part of a path is, written as such or percent-encoded. -/
def points? : List Char → Option Nat
  | [] => some 0
  | '.' :: r => (points? r).map (· + 1)
  | '%' :: '2' :: c :: r => if c = 'e' ∨ c = 'E' then (points? r).map (· + 1) else none
  | _ :: _ => none

/-- The parts of a path after more of them. One point leads nowhere and two lead one part back; at
the end of a path they leave an empty part. -/
def resolve (done : List (List UInt8)) : List (List Char) → List (List UInt8)
  | [] => done
  | part :: rest =>
    let stay := fun (done : List (List UInt8)) => if rest = [] then done ++ [[]] else done
    match points? part with
    | some 1 => resolve (stay done) rest
    | some 2 => resolve (stay done.dropLast) rest
    | _ => resolve (done ++ [encode pathSpecial part]) rest

/-- The parts between slashes. -/
def parts (s : List Char) : List (List Char) :=
  fields '/' (s.map fun c => if isSlash c then '/' else c)

/-- The address that a text gives. -/
def ofText? (s : List Char) : Option Url := do
  let (secure, rest) ← cutScheme (clean s)
  let (authority, rest) := rest.span inAuthority
  let (host, port) := cutHost false (withoutUser authority)
  let host ← Host.ofText? host
  let port ← port? secure port
  let (rest, fragment) := match cutFirst '#' rest with
    | some (rest, fragment) => (rest, some fragment)
    | none => (rest, none)
  let (path, query) := match cutFirst '?' rest with
    | some (path, query) => (path, some query)
    | none => (rest, none)
  return {
    secure := secure
    host := host
    port := port
    path := resolve [] (parts (path.drop 1))
    query := query.map (encode querySpecial)
    fragment := fragment.map (encode fragmentSpecial) }

/-- The bytes of an address. -/
def bytes (u : Url) : List UInt8 :=
  let port := u.port.map fun n => ':' :: Decimal.digits n
  Utf8.bytes (if u.secure then "https://" else "http://") ++
    Utf8.encode (u.host.text ++ port.getD []) ++ u.path.flatMap (47 :: ·) ++
    (u.query.map (63 :: ·)).getD [] ++ (u.fragment.map (35 :: ·)).getD []

end Url

end EdgeAgent
