/-! Dictionaries from names to values. The entries stand in strictly increasing order of their
names, so that a name occurs once and equal dictionaries have equal entries. The order of names is
the order of their code points, which is also that of their UTF-8 bytes. -/

namespace EdgeAgent

/-- Values by name, in the order of the names. -/
structure Dict (α : Type) where
  /-- The names with their values. -/
  entries : List (String × α) := []
  /-- The names increase. -/
  increasing : entries.Pairwise fun a b => a.1 < b.1 := by exact List.Pairwise.nil

namespace Dict

variable {α β : Type}

/-- The dictionary without entries. -/
def empty : Dict α := {}

instance : Inhabited (Dict α) := ⟨empty⟩

theorem ext_entries {d e : Dict α} (h : d.entries = e.entries) : d = e := by
  cases d
  cases e
  cases h
  rfl

instance [DecidableEq α] : DecidableEq (Dict α) := fun d e =>
  decidable_of_iff (d.entries = e.entries) ⟨ext_entries, fun h => h ▸ rfl⟩

/-- The entries with one put in its place, instead of an earlier one of its name. -/
def put (name : String) (value : α) : List (String × α) → List (String × α)
  | [] => [(name, value)]
  | e :: r =>
    if name < e.1 then (name, value) :: e :: r
    else if name = e.1 then (name, value) :: r
    else e :: put name value r

theorem mem_put {name : String} {value : α} {es : List (String × α)} {e : String × α}
    (h : e ∈ put name value es) : e = (name, value) ∨ e ∈ es := by
  induction es with
  | nil => simpa [put] using h
  | cons x r ih =>
    rw [put] at h
    split at h
    · simpa using h
    · split at h
      · rcases List.mem_cons.1 h with h | h
        · exact .inl h
        · exact .inr (List.mem_cons_of_mem _ h)
      · rcases List.mem_cons.1 h with h | h
        · exact .inr (h ▸ List.mem_cons_self)
        · exact (ih h).imp id (List.mem_cons_of_mem _)

theorem increasing_put {name : String} {value : α} {es : List (String × α)}
    (h : es.Pairwise fun a b => a.1 < b.1) :
    (put name value es).Pairwise fun a b => a.1 < b.1 := by
  induction es with
  | nil => simp [put]
  | cons x r ih =>
    rw [List.pairwise_cons] at h
    rw [put]
    split
    · next hlt =>
      refine List.pairwise_cons.2 ⟨fun e he => ?_, List.pairwise_cons.2 h⟩
      rcases List.mem_cons.1 he with he | he
      · exact he ▸ hlt
      · exact String.lt_trans hlt (h.1 e he)
    · next hlt =>
      split
      · next heq =>
        refine List.pairwise_cons.2 ⟨fun e he => ?_, h.2⟩
        exact heq ▸ h.1 e he
      · next hne =>
        refine List.pairwise_cons.2 ⟨fun e he => ?_, ih h.2⟩
        rcases mem_put he with he | he
        · rw [he]
          exact Std.lt_of_le_of_ne (Std.not_lt.1 hlt) (Ne.symm hne)
        · exact h.1 e he

/-- The dictionary with a value under a name, instead of an earlier one. -/
def insert (d : Dict α) (name : String) (value : α) : Dict α where
  entries := put name value d.entries
  increasing := increasing_put d.increasing

/-- The value under a name. -/
def find? (d : Dict α) (name : String) : Option α :=
  (d.entries.find? fun e => e.1 = name).map (·.2)

/-- The entries of a list, a later one instead of an earlier one of the same name. -/
def ofList (es : List (String × α)) : Dict α :=
  es.foldl (fun d e => d.insert e.1 e.2) empty

/-- The entries of a dictionary laid over those of another. -/
def overlay (d above : Dict α) : Dict α :=
  above.entries.foldl (fun d e => d.insert e.1 e.2) d

/-- The dictionary with a function applied to each value. -/
def mapValues (f : α → β) (d : Dict α) : Dict β where
  entries := d.entries.map fun e => (e.1, f e.2)
  increasing := List.pairwise_map.2 d.increasing

/-- Whether there is no entry. -/
def isEmpty (d : Dict α) : Bool :=
  d.entries.isEmpty

/-- The number of entries. -/
def size (d : Dict α) : Nat :=
  d.entries.length

/-- The dictionary without a name. -/
def erase (d : Dict α) (name : String) : Dict α where
  entries := d.entries.filter fun e => e.1 ≠ name
  increasing := d.increasing.filter _

/-- The names in their order. -/
def names (d : Dict α) : List String :=
  d.entries.map (·.1)

theorem put_of_forall_lt {name : String} {value : α} {es : List (String × α)}
    (h : ∀ e ∈ es, e.1 < name) : put name value es = es ++ [(name, value)] := by
  induction es with
  | nil => rfl
  | cons x r ih =>
    have hx := h x (by simp)
    rw [put, if_neg (fun hlt => String.lt_irrefl _ (String.lt_trans hx hlt)),
      if_neg (fun heq => String.lt_irrefl _ (heq ▸ hx)), ih fun e he => h e (by simp [he])]
    rfl

/-- A list in increasing order is the entries of its dictionary. -/
theorem entries_ofList {es : List (String × α)} (h : es.Pairwise fun a b => a.1 < b.1) :
    (ofList es).entries = es := by
  have go : ∀ (es : List (String × α)) (d : Dict α),
      (d.entries ++ es).Pairwise (fun a b => a.1 < b.1) →
      (es.foldl (fun d e => d.insert e.1 e.2) d).entries = d.entries ++ es := by
    intro es
    induction es with
    | nil => simp
    | cons e r ih =>
      intro d hd
      rw [List.pairwise_append] at hd
      have hput : (d.insert e.1 e.2).entries = d.entries ++ [e] :=
        put_of_forall_lt fun x hx => hd.2.2 x hx e (by simp)
      rw [List.foldl_cons, ih, hput, List.append_assoc]
      · rfl
      · rw [hput, List.append_assoc, List.pairwise_append]
        exact hd
  simpa [ofList, empty] using go es empty (by simpa [empty] using h)

theorem ofList_entries (d : Dict α) : ofList d.entries = d :=
  ext_entries (entries_ofList d.increasing)

end Dict

end EdgeAgent
