import EdgeAgent.Dict
import EdgeAgent.Resource.Key

/-! The plan of a pass: which writes bring the objects of the cluster into line with the records of
the platform. It depends on the two lists alone, not on how the writes turn out. -/

namespace EdgeAgent

/-- A write to the cluster. -/
inductive Write (R : Type) where
  | create (new : R)
  | update (old new : R)
  | delete (old : R)

/-- A step of a pass. -/
inductive Step (R : Type) where
  /-- A record that does not become an object. -/
  | unbuildable (error : String)
  | write (key : Key) (w : Write R)

namespace Step

variable {R : Type}

/-- The objects that no record has asked for yet, by the text of their keys. Of several with one
key the last counts. -/
abbrev Orphans (R : Type) := Dict R

/-- The objects of a list, before any record has asked for one. -/
def orphansOf (keyOf : R → Key) (existing : List R) : Orphans R :=
  Dict.ofList (existing.map fun r => ((keyOf r).text, r))

/-- The steps for the records, and the objects that are left over. -/
def ofItems (keyOf : R → Key) : List (Except String R) → Orphans R → List (Step R) × Orphans R
  | [], orphans => ([], orphans)
  | .error e :: items, orphans =>
    let (steps, rest) := ofItems keyOf items orphans
    (.unbuildable e :: steps, rest)
  | .ok new :: items, orphans =>
    let key := keyOf new
    let w := match orphans.find? key.text with
      | some old => Write.update old new
      | none => .create new
    let (steps, rest) := ofItems keyOf items (orphans.erase key.text)
    (.write key w :: steps, rest)

/-- The steps for the objects that are left over. -/
def ofOrphans (orphans : Orphans R) : List (Step R) :=
  orphans.entries.map fun (key, old) => .write ⟨key⟩ (.delete old)

/-- The steps of a pass. -/
def plan (keyOf : R → Key) (desired : List (Except String R)) (existing : List R) :
    List (Step R) :=
  let (steps, rest) := ofItems keyOf desired (orphansOf keyOf existing)
  steps ++ ofOrphans rest

end Step

end EdgeAgent
