import EdgeAgent.Json.Doc

/-! Decoding a `Doc` as a value of a domain type. A decoder reports the first fault in the order of
the text: a flaw of the text itself, or a value that does not have the expected shape. A scalar is
read whole before its kind is looked at; a list or an object of the wrong kind is not read at
all. -/

namespace EdgeAgent

/-- Why a text does not decode. -/
inductive Fault where
  /-- The text is not JSON. -/
  | malformed
  /-- A value does not have the expected shape. -/
  | mismatched
  deriving DecidableEq

/-- A reader of one value. -/
abbrev Decoder (α : Type) := Doc → Except Fault α

namespace Decode

variable {α β : Type}

/-- The fault of a value that is not of the expected kind. -/
def unexpected : Doc → Fault
  | .broken => .malformed
  | .num none => .malformed
  | .str none => .malformed
  | _ => .mismatched

def string : Decoder String
  | .str (some s) => .ok s
  | d => .error (unexpected d)

/-- A truth value. -/
def bool : Decoder Bool
  | .bool b => .ok b
  | d => .error (unexpected d)

/-- A whole number within bounds. -/
def intWithin (low high : Int) : Decoder Int
  | .num (some (.int n)) => if low ≤ n ∧ n ≤ high then .ok n else .error .mismatched
  | d => .error (unexpected d)

/-- A whole number of 32 bits. -/
def int32 : Decoder Int32 := fun d =>
  (intWithin (-2147483648) 2147483647 d).map Int32.ofInt

/-- A whole number of 64 bits. -/
def int64 : Decoder Int64 := fun d =>
  (intWithin (-9223372036854775808) 9223372036854775807 d).map Int64.ofInt

/-- A string that reads as a value. -/
def readable (read? : String → Option α) : Decoder α := fun d => do
  let s ← string d
  match read? s with
  | some x => .ok x
  | none => .error .mismatched

/-- A value, or null. -/
def optional (decode : Decoder α) : Decoder (Option α)
  | .null => .ok none
  | d => (decode d).map some

/-- The values of items. -/
def items (decode : Decoder α) : Items → Except Fault (List α)
  | .closed => .ok []
  | .cut => .error .malformed
  | .more item rest => do
    let x ← decode item
    let xs ← items decode rest
    return x :: xs
termination_by structural items => items

def list (decode : Decoder α) : Decoder (List α)
  | .arr xs => items decode xs
  | d => .error (unexpected d)

/-- The names and values of fields. -/
def entries (decode : Decoder α) : Fields → Except Fault (List (String × α))
  | .closed => .ok []
  | .cut => .error .malformed
  | .more none _ _ => .error .malformed
  | .more (some name) value rest => do
    let x ← decode value
    let xs ← entries decode rest
    return (name, x) :: xs
termination_by structural fields => fields

/-- A dictionary. Of several values under one name the last counts. -/
def dict (decode : Decoder α) : Decoder (Dict α)
  | .obj fields => (entries decode fields).map Dict.ofList
  | d => .error (unexpected d)

/-- Any value, of a limited depth. -/
def json (depth : Nat) : Decoder Json := fun d =>
  match d.toJson? depth with
  | some j => .ok j
  | none => .error .malformed

/-- What is done about a field that is missing. -/
inductive Need where
  /-- It may not be missing. -/
  | required
  /-- It may be missing from an object, and counts as null there. -/
  | nullable
  /-- It may be missing from an object and from the end of a list. -/
  | defaulted
  deriving DecidableEq

/-- A field of a record, with how its value is put into the record. -/
structure Field (α : Type) where
  name : String
  need : Need
  set : Doc → α → Except Fault α

/-- A field that is read by a decoder. -/
def field (name : String) (need : Need) (decode : Decoder β) (put : β → α → α) : Field α where
  name := name
  need := need
  set := fun d record => (decode d).map fun x => put x record

/-- The record after the fields of an object, and the names seen. A name that the record does not
have is passed over with its value, if that is `passable`; one that was seen before is refused. -/
def objectFields (passable : Doc → Bool) (fields : List (Field α)) :
    Fields → List String → α → Except Fault α
  | .closed, seen, record =>
    if fields.all fun f => f.need ≠ .required ∨ f.name ∈ seen then .ok record
    else .error .mismatched
  | .cut, _, _ => .error .malformed
  | .more none _ _, _, _ => .error .malformed
  | .more (some name) value rest, seen, record =>
    match fields.find? fun f => f.name = name with
    | none =>
      if passable value then objectFields passable fields rest seen record
      else .error .malformed
    | some f =>
      if name ∈ seen then .error .mismatched
      else do
        let record ← f.set value record
        objectFields passable fields rest (name :: seen) record
termination_by structural doc => doc

/-- The record after the items of a list, one for each field. -/
def listFields : List (Field α) → Items → α → Except Fault α
  | [], .closed, record => .ok record
  | [], _, _ => .error .malformed
  | f :: fields, .closed, record =>
    if (f :: fields).all fun f => f.need = .defaulted then .ok record else .error .mismatched
  | _ :: _, .cut, _ => .error .malformed
  | f :: fields, .more item rest, record => do
    let record ← f.set item record
    listFields fields rest record

/-- A record, written as an object or as the list of its fields. The blank record holds what stands
for a field that is missing. -/
def record (blank : α) (fields : List (Field α)) : Decoder α
  | .obj doc => objectFields Doc.sound fields doc [] blank
  | .arr doc => listFields fields doc blank
  | d => .error (unexpected d)

/-- A record written as an object alone, whose other fields are values of a limited depth. -/
def openRecord (depth : Nat) (blank : α) (fields : List (Field α)) : Decoder α
  | .obj doc => objectFields (fun d => (d.toJson? depth).isSome) fields doc [] blank
  | d => .error (unexpected d)

/-- The record after the fields of an object, where a later value replaces an earlier one. -/
def looseFields (fields : List (Field α)) : Fields → α → Except Fault α
  | .closed, record => .ok record
  | .cut, _ => .error .malformed
  | .more none _ _, _ => .error .malformed
  | .more (some name) value rest, record =>
    match fields.find? fun f => f.name = name with
    | none => if value.sound then looseFields fields rest record else .error .malformed
    | some f => do
      let record ← f.set value record
      looseFields fields rest record
termination_by structural doc => doc

/-- A record written as an object alone, in which every field may be missing or null. -/
def looseRecord (blank : α) (fields : List (Field α)) : Decoder α
  | .obj doc => looseFields fields doc blank
  | d => .error (unexpected d)

/-- A field that may be missing or null. -/
def loose (name : String) (decode : Decoder β) (put : Option β → α → α) : Field α :=
  field name .defaulted (optional decode) put

/-- One of some words, written as a string or as the only name of an object, with null under it. -/
def choice (words : List (String × α)) : Decoder α
  | .str (some s) =>
    match words.find? fun w => w.1 = s with
    | some w => .ok w.2
    | none => .error .mismatched
  | .obj (.more (some s) value rest) =>
    match words.find? fun w => w.1 = s with
    | none => .error .mismatched
    | some w =>
      match value, rest with
      | .null, .closed => .ok w.2
      | .null, _ => .error .malformed
      | d, _ => .error (unexpected d)
  | _ => .error .malformed

/-- The value of a whole text. -/
def text (decode : Decoder α) (s : String) : Except Fault α := do
  let (doc, complete) := Doc.ofText s
  let x ← decode doc
  if complete then .ok x else .error .malformed

/-- The value of whole bytes. -/
def bytes (decode : Decoder α) (bs : List UInt8) : Except Fault α := do
  let (doc, complete) := Doc.ofBytes bs
  let x ← decode doc
  if complete then .ok x else .error .malformed

/-- The value of a JSON value. Whatever is wrong with it, it is not of the expected shape. -/
def value (decode : Decoder α) (j : Json) : Except Fault α :=
  (decode (Doc.ofJson j)).mapError fun _ => .mismatched

end Decode

end EdgeAgent
