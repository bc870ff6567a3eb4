import EdgeAgent.Json.Basic

/-! Changing parts of JSON values, and merging a patch into a value: the fields of a patch replace
those of the value, null removes a field, objects are merged field by field, and a patch that is no
object replaces the whole. -/

namespace EdgeAgent.Json

/-- The fields with one set, instead of an earlier one of its name or at the end. -/
def setField (name : String) (value : Json) : List (String × Json) → List (String × Json)
  | [] => [(name, value)]
  | f :: r => if f.1 = name then (name, value) :: r else f :: setField name value r

/-- The fields of an object; any other value has none. -/
def fieldsOf : Json → List (String × Json)
  | .obj fields => fields
  | _ => []

/-- An object with a field set. -/
def set (j : Json) (name : String) (value : Json) : Json :=
  .obj (setField name value j.fieldsOf)

/-- An object without a field. -/
def remove (j : Json) (name : String) : Json :=
  .obj (j.fieldsOf.filter fun f => f.1 ≠ name)

/-- An object with a field set or removed. -/
def setOption (j : Json) (name : String) (value : Option Json) : Json :=
  match value with
  | some x => j.set name x
  | none => j.remove name

/-- The value at the end of a path of names. -/
def at? : List String → Json → Option Json
  | [], j => some j
  | name :: names, j => (j.get? name).bind (at? names)

/-- The string at the end of a path of names. -/
def strAt? (path : List String) (j : Json) : Option String :=
  (j.at? path).bind str?

mutual

/-- A value after a patch was merged into it. -/
def merge (target : Json) : Json → Json
  | .obj fields => .obj (mergeFields target.fieldsOf fields)
  | j => j
termination_by structural j => j

/-- The fields of an object after those of a patch were merged into them. -/
def mergeFields (target : List (String × Json)) : List (String × Json) → List (String × Json)
  | [] => target
  | (name, .null) :: r => mergeFields (target.filter fun f => f.1 ≠ name) r
  | (name, j) :: r =>
    let stored := ((target.find? fun f => f.1 = name).map (·.2)).getD .null
    mergeFields (setField name (merge stored j) target) r
termination_by structural fields => fields

end

end EdgeAgent.Json
