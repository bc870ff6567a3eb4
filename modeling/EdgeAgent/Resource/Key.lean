import EdgeAgent.Text.Cut

/-! Keys of objects. The key of an object in a namespace is `name@namespace`, and that of any other
object is its name; an empty namespace is none. The main statement is that the name and the
namespace can be read off a key again when the namespace holds no `@`. -/

namespace EdgeAgent

/-- The key of an object. -/
structure Key where
  text : String
  deriving DecidableEq, Inhabited

namespace Key

/-- The key of a name in a namespace. -/
def of (name : String) (ns : Option String) : Key :=
  match ns with
  | some ns => if ns = "" then ⟨name⟩ else ⟨String.ofList (name.toList ++ '@' :: ns.toList)⟩
  | none => ⟨name⟩

/-- The name that a key gives. -/
def name (k : Key) : String :=
  match cutLast '@' k.text.toList with
  | some (name, _) => String.ofList name
  | none => k.text

/-- The namespace that a key gives. -/
def ns? (k : Key) : Option String :=
  (cutLast '@' k.text.toList).map fun (_, ns) => String.ofList ns

/-- The key cut to a number of characters and set to the right of a number of columns. -/
def aligned (k : Key) (columns limit : Nat) : String :=
  let s := k.text.toList.take limit
  String.ofList (List.replicate (columns - s.length) ' ' ++ s)

instance : LT Key := ⟨fun a b => a.text < b.text⟩

instance (a b : Key) : Decidable (a < b) := inferInstanceAs (Decidable (a.text < b.text))

/-- A key in its place among sorted keys, once. -/
def insert (k : Key) : List Key → List Key
  | [] => [k]
  | x :: r => if k < x then k :: x :: r else if k = x then x :: r else x :: insert k r

/-- Keys in their order, each once. -/
def sorted (keys : List Key) : List Key :=
  keys.foldl (fun ks k => insert k ks) []

theorem name_of {name ns : String} (h : ns ≠ "") (hns : '@' ∉ ns.toList) :
    (of name (some ns)).name = name := by
  simp [of, h, Key.name, cutLast_append _ hns]

theorem ns?_of {name ns : String} (h : ns ≠ "") (hns : '@' ∉ ns.toList) :
    (of name (some ns)).ns? = some ns := by
  simp [of, h, ns?, cutLast_append _ hns]

end Key

end EdgeAgent
