import EdgeAgent.Dict
import EdgeAgent.Json.Double
import EdgeAgent.Text.Hex
import EdgeAgent.Text.Utf8

/-! JSON values and their compact text: no blanks, the fields of an object in the order in which
they stand, and in a string only those characters escaped that must be. -/

namespace EdgeAgent

/-- A number: whole, within 64 bits, or with a fraction. -/
inductive Number where
  | int (n : Int)
  | float (d : Double)
  deriving DecidableEq

/-- A JSON value. The fields of an object keep their order. -/
inductive Json where
  | null
  | bool (b : Bool)
  | num (n : Number)
  | str (s : String)
  | arr (items : List Json)
  | obj (fields : List (String × Json))

namespace Number

/-- The text of a number. -/
def chars : Number → List Char
  | .int n => Decimal.ofInt n
  | .float d => d.chars

end Number

namespace Json

instance : Inhabited Json := ⟨.null⟩

/-- A whole number. -/
def int (n : Int) : Json := .num (.int n)

/-- A list of strings. -/
def strs (texts : List String) : Json := .arr (texts.map .str)

/-- An object of strings. -/
def ofDict (d : Dict String) : Json := .obj (d.mapValues Json.str).entries

/-- A character within a string. -/
def escape (c : Char) : List Char :=
  if c = '"' then ['\\', '"']
  else if c = '\\' then ['\\', '\\']
  else if c = '\x08' then ['\\', 'b']
  else if c = '\t' then ['\\', 't']
  else if c = '\n' then ['\\', 'n']
  else if c = '\x0c' then ['\\', 'f']
  else if c = '\r' then ['\\', 'r']
  else if c.toNat < 32 then
    ['\\', 'u', '0', '0', Hex.digit (c.toNat / 16), Hex.digit (c.toNat % 16)]
  else [c]

/-- A string between quotation marks. -/
def quoted (s : String) : List Char :=
  '"' :: (s.toList.flatMap escape ++ ['"'])

mutual

/-- The characters of the compact text. -/
def chars : Json → List Char
  | .null => ['n', 'u', 'l', 'l']
  | .bool true => ['t', 'r', 'u', 'e']
  | .bool false => ['f', 'a', 'l', 's', 'e']
  | .num n => n.chars
  | .str s => quoted s
  | .arr [] => ['[', ']']
  | .arr (j :: r) => '[' :: (chars j ++ laterItems r)
  | .obj [] => ['\x7b', '\x7d']
  | .obj ((name, j) :: r) => '\x7b' :: (quoted name ++ ':' :: (chars j ++ laterFields r))
termination_by structural j => j

/-- The items after the first, and the end of the list. -/
def laterItems : List Json → List Char
  | [] => [']']
  | j :: r => ',' :: (chars j ++ laterItems r)
termination_by structural js => js

/-- The fields after the first, and the end of the object. -/
def laterFields : List (String × Json) → List Char
  | [] => ['\x7d']
  | (name, j) :: r => ',' :: (quoted name ++ ':' :: (chars j ++ laterFields r))
termination_by structural fields => fields

end

/-- The compact text. -/
def text (j : Json) : String :=
  String.ofList j.chars

/-- The bytes of the compact text. -/
def bytes (j : Json) : List UInt8 :=
  Utf8.encode j.chars

mutual

/-- The value with the fields of every object in the order of their names, the last of those with
one name. -/
def sorted : Json → Json
  | .arr items => .arr (sortedItems items)
  | .obj fields => .obj (Dict.ofList (sortedFields fields)).entries
  | j => j
termination_by structural j => j

/-- The items, each sorted. -/
def sortedItems : List Json → List Json
  | [] => []
  | j :: r => sorted j :: sortedItems r
termination_by structural js => js

/-- The fields, each value sorted. -/
def sortedFields : List (String × Json) → List (String × Json)
  | [] => []
  | (name, j) :: r => (name, sorted j) :: sortedFields r
termination_by structural fields => fields

end

/-- The value under a name of an object. -/
def get? (j : Json) (name : String) : Option Json :=
  match j with
  | .obj fields => (fields.find? fun f => f.1 = name).map (·.2)
  | _ => none

/-- The string that a value is. -/
def str? : Json → Option String
  | .str s => some s
  | _ => none

/-- The list that a value is. -/
def arr? : Json → Option (List Json)
  | .arr items => some items
  | _ => none

/-- The fields of the object that a value is. -/
def obj? : Json → Option (List (String × Json))
  | .obj fields => some fields
  | _ => none

/-- Whether a value is null. -/
def isNull : Json → Bool
  | .null => true
  | _ => false

end Json

end EdgeAgent
