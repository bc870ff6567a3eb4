import EdgeAgent.Json.Basic
import EdgeAgent.Sync.Loop

/-! A platform and a cluster that act by a script, on a clock of their own. Each call takes no time
and succeeds, unless the script says that it fails, that it never ends, or how long it takes; a
call that does not end within the time limit changes nothing. -/

namespace EdgeAgent

/-- What a script says about a call. -/
inductive Script.Fate where
  | fails
  | stalls
  /-- The call succeeds after a number of milliseconds. -/
  | lasts (milliseconds : Nat)

/-- An object of the scripted cluster. -/
structure Script.Item where
  key : Key
  value : Json

/-- A call that was made, and when. -/
inductive Script.Made where
  | platform (time : Nat)
  | cluster (time : Nat)
  | write (w : Write Script.Item) (time : Nat)

/-- The state of the two parties. -/
structure Script.State where
  clock : Nat := 0
  objects : List Script.Item := []
  /-- The calls that were made, in their order. -/
  made : List Script.Made := []

/-- A script: the records of the platform, and what is said about calls by their names. -/
structure Script where
  records : List (Except String Script.Item) := []
  fates : List (String × Script.Fate) := []
  timeout : Nat

namespace Script

/-- The message about a record that does not become an object. -/
def invalidRecord (name : String) : String :=
  "invalid record " ++ name

def writeName : Write Item → String
  | .create new => "create " ++ new.key.text
  | .update old _ => "update " ++ old.key.text
  | .delete old => "delete " ++ old.key.text

/-- The objects with the first one of a key replaced. -/
def replaceFirst (new : Item) : List Item → List Item
  | [] => []
  | x :: r => if x.key = new.key then new :: r else x :: replaceFirst new r

/-- The objects after a write. -/
def written (objects : List Item) : Write Item → List Item
  | .create new => objects ++ [new]
  | .update _ new => replaceFirst new objects
  | .delete old => objects.filter fun x => x.key ≠ old.key

/-- What a script says about the call of a name. -/
def fate? (s : Script) (name : String) : Option Fate :=
  (s.fates.find? fun f => f.1 = name).map (·.2)

def call {α : Type} (s : Script) (name : String) (made : Nat → Made) (answer : State → α)
    (effect : State → State) : Call State α :=
  .change fun state =>
    let state := { state with made := state.made ++ [made state.clock] }
    let after := fun (ms : Nat) => { state with clock := state.clock + ms }
    match s.fate? name with
    | none => (.ok (answer state), effect state)
    | some .fails => (.error (.failed (name ++ " rejected")), state)
    | some .stalls => (.error .silent, after s.timeout)
    | some (.lasts ms) =>
      if ms ≤ s.timeout then (.ok (answer state), effect (after ms))
      else (.error .silent, after s.timeout)

/-- The two sides of a pass by a script. -/
def sides (kind : String) (s : Script) : Sides State Item where
  kind := kind
  timeout := s.timeout
  keyOf := Item.key
  desired := s.call "platform" .platform (fun _ => s.records) id
  existing := s.call "cluster" .cluster State.objects id
  write := fun w => s.call (writeName w) (.write w) (fun _ => ())
    fun state => { state with objects := written state.objects w }

/-- The clock of the two parties, in milliseconds. -/
def clock : Clock State where
  millisecond := 1
  read := State.clock
  set := fun time state => { state with clock := time }
  read_set := fun _ _ => rfl

/-- A counted world after the passes of a loop, and the moment at which the loop ends. -/
def run (kind : String) (s : Script) (interval stop : Nat) (c : Counted State) :
    Nat × Counted State :=
  (s.sides kind).run clock interval stop c

end Script

end EdgeAgent
