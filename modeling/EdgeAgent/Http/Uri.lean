import EdgeAgent.Http.Header
import EdgeAgent.Text.Cut
import EdgeAgent.Text.Utf8

/-! The address of a request: a path with an optional query, an absolute address, an authority
alone, or `*`. Only the path and the query of it are held; a fragment is dropped. -/

namespace EdgeAgent

/-- The path and the query of an address. -/
structure Uri where
  path : List UInt8
  query : Option (List UInt8) := none
  deriving DecidableEq

namespace Uri

/-- The greatest number of bytes of an address. -/
def maxLength : Nat := 65534

/-- The greatest number of bytes of a scheme. -/
def maxScheme : Nat := 64

/-- The greatest number of colons of an authority. -/
def maxColons : Nat := 8

/-- Whether a byte is a letter or a digit. -/
def isAlphanumeric (b : UInt8) : Bool :=
  let n := b.toNat
  (48 ≤ n && n ≤ 57) || (65 ≤ n && n ≤ 90) || (97 ≤ n && n ≤ 122)

/-- Whether a byte is one of those of other characters than ASCII. -/
def isBeyondAscii (b : UInt8) : Bool :=
  0x80 ≤ b.toNat

/-- Whether a byte may stand in a path. Characters other than ASCII, quotation marks and braces are
let through as well. -/
def isPathByte (b : UInt8) : Bool :=
  let n := b.toNat
  n = 0x21 || (0x24 ≤ n && n ≤ 0x3B) || n = 0x3D || (0x40 ≤ n && n ≤ 0x5F) ||
    (0x61 ≤ n && n ≤ 0x7A) || (0x7B ≤ n && n ≤ 0x7E) || n = 0x22 || isBeyondAscii b

/-- Whether a byte may stand in a query. -/
def isQueryByte (b : UInt8) : Bool :=
  let n := b.toNat
  n = 0x21 || (0x24 ≤ n && n ≤ 0x3B) || n = 0x3D || (0x3F ≤ n && n ≤ 0x7E) || isBeyondAscii b

/-- The bytes before a fragment. -/
def withoutFragment (bs : List UInt8) : List UInt8 :=
  bs.takeWhile (· ≠ 35)

/-- The path and the query of an address, after its authority. A path without bytes is `/`. -/
def pathAndQuery? (bs : List UInt8) : Option Uri :=
  let bs := withoutFragment bs
  let (path, query) := match cutFirst 63 bs with
    | some (path, query) => (path, some query)
    | none => (bs, none)
  if path.all isPathByte ∧ (query.getD []).all isQueryByte then
    some ⟨if path = [] then [47] else path, query⟩
  else none

/-- Whether a byte may stand in an authority. -/
def isAuthorityByte (b : UInt8) : Bool :=
  isAlphanumeric b || b.toNat ∈ [33, 36, 38, 39, 40, 41, 42, 43, 44, 45, 46, 59, 61, 95, 126]

/-- What has been seen of an authority. -/
structure Authority where
  colons : Nat := 0
  opened : Bool := false
  closed : Bool := false
  percent : Bool := false
  endsWithAt : Bool := false

namespace Authority

/-- An authority after one byte more. A user part and a bracketed address end the count of colons,
and allow the percent signs before their end. -/
def step (a : Authority) (b : UInt8) : Option Authority :=
  let a := { a with endsWithAt := false }
  match b.toNat with
  | 58 => if maxColons ≤ a.colons then none else some { a with colons := a.colons + 1 }
  | 91 => if a.percent || a.opened then none else some { a with opened := true }
  | 93 =>
    if !a.opened || a.closed then none
    else some { a with closed := true, colons := 0, percent := false }
  | 64 => some { a with colons := 0, percent := false, endsWithAt := true }
  | 37 => some { a with percent := true }
  | _ => if isAuthorityByte b then some a else none

/-- Whether an authority may end. -/
def complete (a : Authority) : Bool :=
  a.opened = a.closed && a.colons ≤ 1 && !a.endsWithAt && !a.percent

end Authority

/-- The bytes from the first on that ends an authority. -/
def afterAuthority (bs : List UInt8) : List UInt8 :=
  bs.dropWhile fun b => !(b.toNat = 47 || b.toNat = 63 || b.toNat = 35)

/-- The bytes after a well-formed authority, and whether it had any. -/
def authority? (bs : List UInt8) : Option (Bool × List UInt8) :=
  let rest := afterAuthority bs
  let own := bs.take (bs.length - rest.length)
  match own.foldlM Authority.step {} with
  | some a => if a.complete then some (!own.isEmpty, rest) else none
  | none => none

/-- Whether a byte may stand in a scheme. -/
def isSchemeByte (b : UInt8) : Bool :=
  isAlphanumeric b || b.toNat ∈ [43, 45, 46, 126]

/-- The bytes after `http://` or `https://`, in either case. -/
def afterHttp? (bs : List UInt8) : Option (List UInt8) :=
  let lower := fun (b : UInt8) => if 65 ≤ b.toNat ∧ b.toNat ≤ 90 then b + 32 else b
  let starts := fun (s : String) =>
    if (bs.take s.length).map lower = Utf8.bytes s then some (bs.drop s.length) else none
  (starts "http://").or (starts "https://")

/-- What an address begins with. -/
inductive Scheme where
  | absent
  | tooLong
  /-- A scheme and `://`, with the bytes after them. -/
  | present (rest : List UInt8)

/-- The scheme of an address. -/
def scheme (bs : List UInt8) : Scheme :=
  match afterHttp? bs with
  | some rest => .present rest
  | none =>
    let name := bs.takeWhile isSchemeByte
    match bs.drop name.length with
    | 58 :: 47 :: 47 :: rest => if maxScheme < name.length then .tooLong else .present rest
    | _ => .absent

/-- The address that bytes are. -/
def ofBytes? (bs : List UInt8) : Option Uri :=
  if maxLength < bs.length then none
  else
    match bs with
    | [] => none
    | [42] => some ⟨bs, none⟩
    | 47 :: _ => pathAndQuery? bs
    | _ =>
      match scheme bs with
      | .tooLong => none
      | .absent =>
        match authority? bs with
        | some (true, []) => some ⟨[], none⟩
        | _ => none
      | .present rest =>
        match authority? rest with
        | some (true, rest) => pathAndQuery? rest
        | _ => none

/-- The address that a text is. -/
def ofText? (s : String) : Option Uri :=
  ofBytes? (Utf8.bytes s)

end Uri

/-- What a request says: where it goes, and its headers. -/
structure Request where
  uri : Uri
  headers : Headers := []

end EdgeAgent
