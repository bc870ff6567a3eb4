import EdgeAgent.Proofs.Json.Reading
import EdgeAgent.Resource.Metadata

/-!
Records that are read from what was written of them. A field that is left out when it is empty is
read as the empty value that the blank record has in its place, so a record comes back whichever of
its fields were left out. Fields are told apart by their names alone, and are met in the order in
which they are written.
-/

namespace EdgeAgent

variable {α β : Type}

namespace Encode

/-- A field that may be left out is left out with the value that it then counts as. -/
theorem text_cases (name s : String) :
    s = "" ∧ text name s = none ∨ text name s = some (name, .str s) := by
  by_cases hs : s = ""
  · exact .inl ⟨hs, if_pos hs⟩
  · exact .inr (if_neg hs)

theorem list_cases (name : String) (encode : α → Json) (xs : List α) :
    xs = [] ∧ list name encode xs = none ∨
      list name encode xs = some (name, .arr (xs.map encode)) := by
  cases xs with
  | nil => exact .inl ⟨rfl, rfl⟩
  | cons x xs => exact .inr rfl

end Encode

namespace Decode

variable {decode : Decoder β} {encode : β → Json} {name : String} {need : Need}
  {put : β → α → α}

/-! ### Values -/

theorem list_map (hdecode : ∀ x, decode (Doc.ofJson (encode x)) = .ok x) (xs : List β) :
    list decode (.arr (Doc.ofItems (xs.map encode))) = .ok xs := by
  rw [list]
  induction xs with
  | nil => rfl
  | cons x xs ih =>
      rw [List.map_cons, Doc.ofItems, items, hdecode, ih]
      rfl

theorem dict_ofDict (d : Dict String) : dict string (Doc.ofJson (.ofDict d)) = .ok d := by
  have hentries : ∀ es : List (String × String),
      entries string (Doc.ofFields (es.map fun e => (e.1, Json.str e.2))) = .ok es := by
    intro es
    induction es with
    | nil => rfl
    | cons e es ih =>
        rw [List.map_cons, Doc.ofFields, entries, ih]
        rfl
  change (entries string _).map Dict.ofList = _
  rw [Dict.mapValues, hentries, Except.map, Dict.ofList_entries]

theorem int32_toInt (n : Int32) : int32 (.num (some (.int n.toInt))) = .ok n := by
  have hlow := n.le_toInt
  have hhigh := n.toInt_lt
  have hbounds : -2147483648 ≤ n.toInt ∧ n.toInt ≤ 2147483647 := by omega
  rw [int32, intWithin, if_pos hbounds, Except.map, Int32.ofInt_toInt]

/-- An object is not null. -/
theorem optional_object {fields : List FieldOf} {x : β}
    (h : decode (Doc.ofJson (Encode.object fields)) = .ok x) :
    optional decode (Doc.ofJson (Encode.object fields)) = .ok (some x) :=
  congrArg (Except.map some) h

/-! ### Fields -/

/-- Fields as they are written, one for each field of a record or none for it, lead from one record
to another when they are put in. -/
inductive Fills : List (Field α) → List FieldOf → α → α → Prop
  | nil (record : α) : Fills [] [] record record
  | absent {f : Field α} {fields : List (Field α)} {written : List FieldOf} {before after : α}
      (hneed : f.need ≠ .required) (h : Fills fields written before after) :
      Fills (f :: fields) (none :: written) before after
  | put {f : Field α} {fields : List (Field α)} {written : List FieldOf} {value : Json}
      {before between after : α} (hset : f.set (Doc.ofJson value) before = .ok between)
      (h : Fills fields written between after) :
      Fills (f :: fields) (some (f.name, value) :: written) before after

variable {fields : List (Field α)} {written : List FieldOf} {before after : α}

theorem Fills.always {value : Json} {x : β} (hdecode : decode (Doc.ofJson value) = .ok x)
    (h : Fills fields written (put x before) after) :
    Fills (field name need decode put :: fields) (Encode.always name value :: written) before
      after :=
  .put (f := field name need decode put) (by simp [field, hdecode, Except.map]) h

/-- A text is left out only where there was an empty one. -/
theorem Fills.text {put : String → α → α} {s : String} (hblank : put "" before = before)
    (h : Fills fields written (put s before) after) :
    Fills (field name .defaulted string put :: fields) (Encode.text name s :: written) before
      after := by
  rcases Encode.text_cases name s with ⟨rfl, htext⟩ | htext
  · rw [hblank] at h
    rw [htext]
    exact .absent (by simp [field]) h
  · rw [htext]
    exact .always rfl h

theorem Fills.list {put : List β → α → α} {xs : List β}
    (hdecode : ∀ x, decode (Doc.ofJson (encode x)) = .ok x) (hblank : put [] before = before)
    (h : Fills fields written (put xs before) after) :
    Fills (field name .defaulted (Decode.list decode) put :: fields)
      (Encode.list name encode xs :: written) before after := by
  rcases Encode.list_cases name encode xs with ⟨rfl, hlist⟩ | hlist
  · rw [hblank] at h
    rw [hlist]
    exact .absent (by simp [field]) h
  · rw [hlist]
    exact .always (list_map hdecode xs) h

theorem Fills.present {put : Option β → α → α} {x : Option β}
    (hdecode : ∀ x, optional decode (Doc.ofJson (encode x)) = .ok (some x))
    (hblank : put none before = before) (h : Fills fields written (put x before) after) :
    Fills (field name .defaulted (optional decode) put :: fields)
      (Encode.present name encode x :: written) before after := by
  cases x with
  | none =>
      rw [hblank] at h
      exact .absent (by simp [field]) h
  | some x => exact .always (hdecode x) h

theorem Fills.dict {put : Dict String → α → α} {d : Dict String}
    (hblank : put Dict.empty before = before) (h : Fills fields written (put d before) after) :
    Fills (field name .defaulted (Decode.dict string) put :: fields)
      ((if d.isEmpty then none else Encode.always name (.ofDict d)) :: written) before after := by
  cases hempty : d.isEmpty with
  | true =>
      have hd : d = Dict.empty := Dict.ext_entries (List.isEmpty_iff.1 hempty)
      rw [hd, hblank] at h
      exact .absent (by simp [field]) h
  | false => exact .always (dict_ofDict d) h

/-! ### Records -/

/-- The fields that are still to come are put in, if those before them are done with. -/
theorem objectFields_of_fills (passable : Doc → Bool) {earlier : List (Field α)}
    {seen : List String} (h : Fills fields written before after)
    (hnodup : ((earlier ++ fields).map Field.name).Nodup)
    (hseen : ∀ s ∈ seen, s ∈ earlier.map Field.name)
    (hrequired : ∀ f ∈ earlier, f.need ≠ .required ∨ f.name ∈ seen) :
    objectFields passable (earlier ++ fields) (Doc.ofFields (written.filterMap id)) seen before =
      .ok after := by
  induction h generalizing earlier seen with
  | nil record =>
      have hall : (earlier ++ []).all (fun f : Field α =>
          f.need ≠ Need.required ∨ f.name ∈ seen) = true := by simpa using hrequired
      exact if_pos hall
  | @absent f fields written before after hneed h ih =>
      rw [← List.singleton_append, ← List.append_assoc] at hnodup ⊢
      refine ih hnodup (fun s hs => ?_) ?_
      · rw [List.map_append]
        exact List.mem_append_left _ (hseen s hs)
      · rw [List.forall_mem_append, List.forall_mem_singleton]
        exact ⟨hrequired, .inl hneed⟩
  | @put f fields written value before between after hset h ih =>
      have hnew : f.name ∉ earlier.map Field.name := by
        rw [List.map_append, List.map_cons] at hnodup
        exact fun hmem => (List.nodup_append.1 hnodup).2.2 _ hmem _ (by simp) rfl
      have hfind : (earlier ++ f :: fields).find? (fun g => g.name = f.name) = some f := by
        rw [List.find?_append, List.find?_eq_none.2, Option.none_or,
          List.find?_cons_of_pos (by simp)]
        intro g hg heq
        exact hnew (of_decide_eq_true heq ▸ List.mem_map_of_mem hg)
      change objectFields passable (earlier ++ f :: fields)
        (.more (some f.name) (Doc.ofJson value) (Doc.ofFields (written.filterMap id))) seen before = _
      rw [objectFields, hfind]
      simp only [if_neg (mt (hseen f.name) hnew), hset]
      change objectFields passable (earlier ++ f :: fields) _ (f.name :: seen) between = _
      rw [← List.singleton_append, ← List.append_assoc] at hnodup ⊢
      refine ih hnodup ?_ ?_
      · rw [List.forall_mem_cons, List.map_append]
        exact ⟨by simp, fun s hs => List.mem_append_left _ (hseen s hs)⟩
      · rw [List.forall_mem_append, List.forall_mem_singleton]
        exact ⟨fun g hg => (hrequired g hg).imp id (List.mem_cons_of_mem _),
          .inr List.mem_cons_self⟩

theorem record_object {blank : α} (hnodup : (fields.map Field.name).Nodup)
    (h : Fills fields written blank after) :
    record blank fields (Doc.ofJson (Encode.object written)) = .ok after := by
  have hearlier : (([] ++ fields : List (Field α)).map Field.name).Nodup := hnodup
  exact objectFields_of_fills Doc.sound h hearlier (by simp) (by simp)

end Decode

end EdgeAgent
