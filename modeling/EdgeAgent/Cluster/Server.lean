import EdgeAgent.Json.Edit

/-! The server that stores the objects of the cluster. Every object lies at a place; each write
gives it a new version, and its first one an identifier of its own. How the server looks into the
objects is given by a `Form`, so that objects may be of any type. -/

namespace EdgeAgent

/-- How a server looks into objects. -/
structure Form (D : Type) where
  label? : String → D → Option String
  version? : D → Option String
  uid? : D → Option String
  /-- The identifiers of the objects that own an object. -/
  owners : D → List String
  /-- An object with a version, and with an identifier or without one. -/
  stamp : String → Option String → D → D
  withoutStatus : D → D
  /-- An object with the status of a stored one. -/
  withStatusOf : (stored : D) → D → D
  /-- An object with a patch merged into its status. -/
  mergeStatus : Json → D → D

/-- Why a server refuses a write. -/
inductive Refusal where
  | absent
  | conflict
  deriving DecidableEq

/-- A server. -/
structure Server (P D : Type) where
  /-- The objects by their places. -/
  objects : List (P × D) := []
  /-- The number of writes. -/
  counter : Nat := 0
  /-- Whether new objects get an identifier. -/
  givesUids : Bool := true

namespace Server

variable {P D : Type} [DecidableEq P]

/-- The object at a place. -/
def find? (s : Server P D) (place : P) : Option D :=
  (s.objects.find? fun x => x.1 = place).map (·.2)

/-- The objects with one at a place, instead of an earlier one or at the end. -/
def putIn (place : P) (object : D) : List (P × D) → List (P × D)
  | [] => [(place, object)]
  | x :: r => if x.1 = place then (place, object) :: r else x :: putIn place object r

/-- A write of an object to a place, with an identifier that is kept or made of the number of the
write. -/
def store (form : Form D) (place : P) (uid : Nat → Option String) (object : D)
    (s : Server P D) : D × Server P D :=
  let counter := s.counter + 1
  let stamped := form.stamp (Decimal.text counter) (uid counter) object
  (stamped, { s with objects := putIn place stamped s.objects, counter := counter })

/-- The identifier of a new object that is written with a given number. -/
def newUid (s : Server P D) (count : Nat) : Option String :=
  if s.givesUids then some ("uid-" ++ Decimal.text count) else none

/-- The objects at some places that carry a label. -/
def list (form : Form D) (within : P → Bool) (label value : String) (s : Server P D) :
    List (P × D) :=
  s.objects.filter fun x => within x.1 && form.label? label x.2 = some value

/-- Stores a new object. Its status is not taken over. -/
def create (form : Form D) (place : P) (object : D) (s : Server P D) :
    Except Refusal D × Server P D :=
  match s.find? place with
  | some _ => (.error .conflict, s)
  | none =>
    let (d, s) := s.store form place s.newUid (form.withoutStatus object)
    (.ok d, s)

/-- Replaces a stored object but for its status. An object of another version than the stored one
is refused. -/
def replace (form : Form D) (place : P) (object : D) (s : Server P D) :
    Except Refusal D × Server P D :=
  match s.find? place with
  | none => (.error .absent, s)
  | some stored =>
    if (form.version? object).isSome ∧ form.version? object ≠ form.version? stored then
      (.error .conflict, s)
    else
      let (d, s) :=
        s.store form place (fun _ => form.uid? stored) (form.withStatusOf stored object)
      (.ok d, s)

/-- Merges a patch into the status of a stored object. -/
def patchStatus (form : Form D) (place : P) (patch : Json) (s : Server P D) :
    Except Refusal D × Server P D :=
  match s.find? place with
  | none => (.error .absent, s)
  | some stored =>
    let (d, s) := s.store form place (fun _ => form.uid? stored) (form.mergeStatus patch stored)
    (.ok d, s)

/-- Stores an object, whether or not there was one. -/
def apply (form : Form D) (place : P) (object : D) (s : Server P D) : D × Server P D :=
  match s.find? place with
  | none => s.store form place s.newUid object
  | some stored => s.store form place (fun _ => form.uid? stored) object

/-- Removes a stored object, and in the foreground also the objects that it owns. -/
def delete (form : Form D) (place : P) (foreground : Bool) (s : Server P D) :
    Except Refusal Unit × Server P D :=
  match s.find? place with
  | none => (.error .absent, s)
  | some stored =>
    let owned := fun (d : D) =>
      match form.uid? stored with
      | some uid => foreground && uid ∈ form.owners d
      | none => false
    let rest := s.objects.filter fun x => x.1 ≠ place && !owned x.2
    (.ok (), { s with objects := rest })

end Server

end EdgeAgent
