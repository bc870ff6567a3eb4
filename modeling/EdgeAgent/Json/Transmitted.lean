import EdgeAgent.Json.Doc

/-! JSON values as they arrive after they were sent as text. Only a number with a fraction can
change on its way: its text is the shortest that names it, but reading rounds twice and may end at
a neighbour of it. -/

namespace EdgeAgent

/-- A number as it is read from its own text. -/
def Number.transmitted : Number → Number
  | .int n => .int n
  | .float d =>
    match Doc.numeral (d.chars.map some) with
    | some (t, _) => t.number?.getD (.float d)
    | none => .float d

theorem Number.transmitted_int (n : Int) : (Number.int n).transmitted = .int n := rfl

namespace Json

mutual

/-- A value as it is read from its own text. -/
def transmitted : Json → Json
  | .num n => .num n.transmitted
  | .arr items => .arr (transmittedItems items)
  | .obj fields => .obj (transmittedFields fields)
  | j => j
termination_by structural j => j

/-- The items, each as it is read from its own text. -/
def transmittedItems : List Json → List Json
  | [] => []
  | j :: r => transmitted j :: transmittedItems r
termination_by structural js => js

/-- The fields, each value as it is read from its own text. -/
def transmittedFields : List (String × Json) → List (String × Json)
  | [] => []
  | (name, j) :: r => (name, transmitted j) :: transmittedFields r
termination_by structural fields => fields

end

end Json

end EdgeAgent
