import EdgeAgent.Proofs.Cluster.Declared
import EdgeAgent.Proofs.Dict

/-! A server that keeps catalogs by their names, and refuses the requests that it is told to. With a
catalog it removes those that this one owns. It does what is relied on of a server. -/

namespace EdgeAgent

/-- A status as it is stored, with the status that it reads as. -/
structure StoredStatus where
  fields : List (String × Json)
  status : CatalogStatus
  reads : Decode.value CatalogStatus.decode (.obj fields) = .ok status

/-- A catalog on the shelf, without its name. -/
structure Shelved where
  uid : Option String := none
  labels : Option (Dict String) := none
  ownerReferences : Option (List OwnerReference) := none
  spec : CatalogSpec
  status : Option StoredStatus := none

namespace Shelved

variable (x : Shelved) (name : String)

/-- The catalog of a name. -/
def catalog : Catalog where
  metadata := {
    name := some name
    uid := x.uid
    labels := x.labels
    ownerReferences := x.ownerReferences }
  spec := x.spec
  status := x.status.map StoredStatus.status

/-- Whether another catalog names this one as its owner. -/
def owns (y : Shelved) : Bool :=
  x.uid.any fun uid => uid ∈ (y.catalog "").metadata.owners

theorem owns_iff {y : Shelved} :
    x.owns y ↔ ∃ uid, x.uid = some uid ∧ uid ∈ (y.catalog name).metadata.owners := by
  rw [owns]
  cases x.uid with
  | none => simp
  | some uid => simp [catalog, Metadata.owners]

/-- The stored status as a JSON value. -/
def statusJson : Json :=
  match x.status with
  | none => .null
  | some status => .obj status.fields

/-- The catalog with a patch merged into its status, if that still reads as one. -/
def patched? : Json → Option Shelved
  | .obj patch =>
    let fields := Json.mergeFields x.statusJson.fieldsOf patch
    match reads : Decode.value CatalogStatus.decode (.obj fields) with
    | .ok status => some { x with status := some ⟨fields, status, reads⟩ }
    | .error _ => none
  | _ => none

theorem stands_statusJson : Catalog.kind.Stands x.statusJson (x.catalog name).status := by
  rw [statusJson, catalog]
  cases x.status with
  | none => rfl
  | some status => exact ⟨_, status.fields, rfl, rfl, status.reads⟩

theorem patched?_eq_some {patch : Json} {y : Shelved} (h : x.patched? patch = some y) :
    y.spec = x.spec ∧ (y.catalog name).metadata = (x.catalog name).metadata ∧
      Catalog.kind.Stands (x.statusJson.merge patch) (y.catalog name).status := by
  cases patch with
  | obj patch =>
      rw [patched?] at h
      split at h
      · next status reads =>
        cases h
        have hmerge : x.statusJson.merge (.obj patch) =
            .obj (Json.mergeFields x.statusJson.fieldsOf patch) := by rw [Json.merge]
        rw [hmerge]
        exact ⟨rfl, rfl, _, _, rfl, rfl, reads⟩
      · cases h
  | _ => cases h

end Shelved

/-- No name of catalogs holds an `@`. -/
def Dict.Unmarked (catalogs : Dict Shelved) : Prop :=
  ∀ e ∈ catalogs.entries, '@' ∉ e.1.toList

instance (catalogs : Dict Shelved) : Decidable catalogs.Unmarked :=
  inferInstanceAs (Decidable (∀ e ∈ catalogs.entries, '@' ∉ e.1.toList))

/-- The catalogs by their names, and for each request to come whether it is refused; later ones are
not. -/
structure Shelf where
  catalogs : Dict Shelved := Dict.empty
  refusals : List Bool := []
  unmarked : catalogs.Unmarked := by decide

namespace Shelf

variable {α : Type}

def placed (catalogs : Dict Shelved) : Store CatalogSpec CatalogStatus
  | ⟨none, name⟩ => (catalogs.find? name).map (Shelved.catalog · name)
  | ⟨some _, _⟩ => none

def stored (s : Shelf) : Store CatalogSpec CatalogStatus :=
  placed s.catalogs

/-- A request that acts on the catalogs, unless it is refused, cannot act or brings up a name with an
`@`. -/
def request (act : Dict Shelved → Option (α × Dict Shelved)) : Call Shelf α :=
  Call.change fun s =>
    let refused := (.error (.failed "refused"), { s with refusals := s.refusals.tail })
    match s.refusals.headD false, act s.catalogs with
    | false, some (x, catalogs) =>
      if unmarked : catalogs.Unmarked then (.ok x, ⟨catalogs, s.refusals.tail, unmarked⟩)
      else refused
    | _, _ => refused

/-- Puts a new catalog on the shelf. -/
def add (scope : Option String) (new : Catalog) (catalogs : Dict Shelved) :
    Option (Catalog × Dict Shelved) :=
  match scope, new.metadata.name with
  | none, some name =>
    let x : Shelved := {
      labels := new.metadata.labels
      ownerReferences := new.metadata.ownerReferences
      spec := new.spec }
    if (catalogs.find? name).isSome then none
    else some (x.catalog name, catalogs.insert name x)
  | _, _ => none

def edit (change : Shelved → Option Shelved) (place : Target) (catalogs : Dict Shelved) :
    Option (Catalog × Dict Shelved) :=
  match place.scope, (catalogs.find? place.name).bind change with
  | none, some x => some (x.catalog place.name, catalogs.insert place.name x)
  | _, _ => none

/-- The catalogs but for one of a name and for those that it owns. -/
def without (name : String) (x : Shelved) (catalogs : Dict Shelved) : Dict Shelved where
  entries := catalogs.entries.filter fun e => e.1 ≠ name && !x.owns e.2
  increasing := catalogs.increasing.filter _

def remove (place : Target) (catalogs : Dict Shelved) : Option (Unit × Dict Shelved) :=
  match place.scope, catalogs.find? place.name with
  | none, some x => some ((), without place.name x catalogs)
  | _, _ => none

/-- The catalogs that carry the label of the agent. -/
def managed (catalogs : Dict Shelved) : Option (List Catalog × Dict Shelved) :=
  some ((catalogs.entries.map fun e => e.2.catalog e.1).filter Object.managed, catalogs)

/-- The requests about the catalogs. -/
def api : Api Shelf CatalogSpec CatalogStatus where
  list := request managed
  create := fun scope new => request (add scope new)
  replace := fun place new => request (edit (fun x =>
    some { x with
      labels := new.metadata.labels
      ownerReferences := new.metadata.ownerReferences
      spec := new.spec }) place)
  patchStatus := fun place patch => request (edit (Shelved.patched? · patch) place)
  delete := fun place => request (remove place)

/-! ### The laws -/

theorem stored_eq_some {s : Shelf} {place : Target} {o : Catalog} (ho : stored s place = some o) :
    ∃ x, place = ⟨none, place.name⟩ ∧ (place.name, x) ∈ s.catalogs.entries ∧
      o = x.catalog place.name := by
  obtain ⟨_ | ns, name⟩ := place
  · obtain ⟨x, hx, rfl⟩ := Option.map_eq_some_iff.1 ho
    exact ⟨x, rfl, Dict.mem_entries_iff.2 hx, rfl⟩
  · cases ho

/-- The objects of the shelf. -/
def census : Census Shelf Target Metadata :=
  .ofStored stored

/-- A change under one name is a change at one place. -/
theorem placed_eq_update {catalogs catalogs' : Dict Shelved} {name : String} {x : Option Shelved}
    (h : ∀ other, catalogs'.find? other = if other = name then x else catalogs.find? other) :
    placed catalogs' =
      Function.update (placed catalogs) ⟨none, name⟩ (x.map (Shelved.catalog · name)) := by
  funext ⟨scope, other⟩
  cases scope with
  | some ns => exact (Function.update_of_ne (by simp) _ _).symm
  | none =>
      rw [placed, h]
      by_cases heq : other = name
      · rw [heq, if_pos rfl, Function.update_self]
      · rw [if_neg heq, Function.update_of_ne (by simpa using heq), placed]

theorem find?_without (name other : String) (x : Shelved) (catalogs : Dict Shelved) :
    (without name x catalogs).find? other =
      (catalogs.find? other).filter fun y => other ≠ name && !x.owns y := by
  ext y
  rw [Option.filter_eq_some_iff, ← Dict.mem_entries_iff, ← Dict.mem_entries_iff, without,
    List.mem_filter]

theorem placed_insert (catalogs : Dict Shelved) (name : String) (x : Shelved) :
    placed (catalogs.insert name x) =
      Function.update (placed catalogs) ⟨none, name⟩ (some (x.catalog name)) :=
  placed_eq_update fun other => Dict.find?_insert catalogs name other x

theorem mem_catalogs_iff {catalogs : Dict Shelved} {o : Catalog} :
    o ∈ catalogs.entries.map (fun e => e.2.catalog e.1) ↔ ∃ place, placed catalogs place = some o := by
  rw [List.mem_map]
  constructor
  · rintro ⟨⟨name, x⟩, hmem, rfl⟩
    refine ⟨⟨none, name⟩, ?_⟩
    rw [placed, Dict.mem_entries_iff.1 hmem]
    rfl
  · rintro ⟨⟨_ | ns, name⟩, hplaced⟩
    · obtain ⟨x, hx, rfl⟩ := Option.map_eq_some_iff.1 hplaced
      exact ⟨(name, x), Dict.mem_entries_iff.2 hx, rfl⟩
    · cases hplaced

/-- A request is refused and changes nothing, or it acts. -/
theorem request_cases (act : Dict Shelved → Option (α × Dict Shelved)) (w : World Shelf) :
    ((request act w).1 = .error (.failed "refused") ∧
        (request act w).2.state.catalogs = w.state.catalogs) ∨
      ∃ x, act w.state.catalogs = some (x, (request act w).2.state.catalogs) ∧
        (request act w).1 = .ok x := by
  simp only [request, Call.change]
  cases hact : act w.state.catalogs with
  | none => cases w.state.refusals.headD false <;> exact .inl ⟨rfl, rfl⟩
  | some result =>
      cases w.state.refusals.headD false with
      | true => exact .inl ⟨rfl, rfl⟩
      | false =>
          obtain ⟨x, catalogs⟩ := result
          by_cases hunmarked : catalogs.Unmarked
          · simp [hunmarked]
          · simp [hunmarked]

/-- A request acts as its action does, or not at all. -/
theorem request_acts {act : Dict Shelved → Option (α × Dict Shelved)}
    {acted : Store CatalogSpec CatalogStatus → Store CatalogSpec CatalogStatus → α → Prop}
    (h : ∀ catalogs x catalogs', act catalogs = some (x, catalogs') →
      acted (placed catalogs) (placed catalogs') x) :
    (request act).Acts stored acted := by
  intro w
  rcases request_cases act w with ⟨heq, hsame⟩ | ⟨x, hact, heq⟩
  · rw [heq]
    exact congrArg placed hsame
  · rw [heq]
    exact h _ _ _ hact

theorem edit_eq_some {change : Shelved → Option Shelved} {place : Target}
    {catalogs catalogs' : Dict Shelved} {o : Catalog}
    (h : edit change place catalogs = some (o, catalogs')) :
    ∃ x y, change x = some y ∧ o = y.catalog place.name ∧
      placed catalogs place = some (x.catalog place.name) ∧
      placed catalogs' = Function.update (placed catalogs) place (some o) := by
  obtain ⟨_ | ns, name⟩ := place
  · rw [edit] at h
    cases hchange : (catalogs.find? name).bind change with
    | none =>
        rw [hchange] at h
        cases h
    | some y =>
        rw [hchange] at h
        cases h
        obtain ⟨x, hx, hy⟩ := Option.bind_eq_some_iff.1 hchange
        refine ⟨x, y, hy, rfl, ?_, placed_insert catalogs name y⟩
        rw [placed, hx]
        rfl
  · cases h

/-- A request that only looks changes nothing, whatever comes of it. -/
theorem kept_of_acts {c : Call Shelf α} {seen : Store CatalogSpec CatalogStatus → α → Prop}
    (h : c.Acts stored fun before after x => after = before ∧ seen before x) (w : World Shelf) :
    stored (c w).2.state = stored w.state ∧
      ∀ x, (c w).1 = .ok x → seen (stored w.state) x := by
  have hdone := h w
  cases hanswer : (c w).1 with
  | ok x =>
      rw [hanswer] at hdone
      refine ⟨hdone.1, ?_⟩
      rintro _ ⟨⟩
      exact hdone.2
  | error stop =>
      rw [hanswer] at hdone
      refine ⟨?_, fun _ h => nomatch h⟩
      rcases hdone.same_or_acted with hsame | ⟨_, hsame, -⟩ <;> exact hsame

theorem managed_acts : (request managed).Acts stored fun before after objects => after = before ∧
    ∀ o, o ∈ objects ↔ o.managed = true ∧ ∃ place, before place = some o := by
  refine request_acts ?_
  rintro catalogs _ _ ⟨⟩
  refine ⟨rfl, fun o => ?_⟩
  rw [List.mem_filter, and_comm, mem_catalogs_iff]

theorem add_acts {new : Catalog} {name : String} (hname : new.metadata.name = some name) :
    (request (add none new)).Acts stored fun before after created =>
      before ⟨none, name⟩ = none ∧ after = Function.update before ⟨none, name⟩ (some created) ∧
      created.spec = new.spec ∧ created.status = none ∧
      created.metadata.labels = new.metadata.labels := by
  refine request_acts ?_
  intro catalogs created catalogs' hact
  simp only [add, hname] at hact
  split at hact
  · cases hact
  · next hfree =>
    cases hact
    rw [Option.not_isSome_iff_eq_none] at hfree
    refine ⟨?_, placed_insert catalogs name _, rfl, rfl, rfl⟩
    rw [placed, hfree]
    rfl

theorem faithful : api.Faithful Catalog.kind stored where
  placed := by
    rintro s ⟨_ | ns, name⟩ o ho
    · obtain ⟨x, -, rfl⟩ := Option.map_eq_some_iff.1 ho
      exact ⟨rfl, rfl, rfl⟩
    · cases ho
  list := kept_of_acts managed_acts
  create := by
    rintro (_ | ns) name new hname
    · exact add_acts hname
    · refine @request_acts _ (add (some ns) new) _ ?_
      rintro catalogs created catalogs' ⟨⟩
  replace := by
    intro place new
    refine @request_acts _ (edit _ place) _ ?_
    intro catalogs replaced catalogs' hact
    obtain ⟨x, _, ⟨⟩, rfl, hold, hnew⟩ := edit_eq_some hact
    exact ⟨_, hold, hnew, rfl, rfl, rfl⟩
  patchStatus := by
    intro place patch
    refine @request_acts _ (edit _ place) _ ?_
    intro catalogs patched catalogs' hact
    obtain ⟨x, y, hpatched, rfl, hold, hnew⟩ := edit_eq_some hact
    obtain ⟨hspec, hmetadata, hstands⟩ := x.patched?_eq_some place.name hpatched
    exact ⟨_, hold, hnew, hspec, congrArg Metadata.labels hmetadata, _,
      x.stands_statusJson place.name, hstands⟩

theorem empties_without {s s' : Shelf} {name : String} {x : Shelved}
    (hx : s.catalogs.find? name = some x) (hafter : s'.catalogs = without name x s.catalogs) :
    Empties stored none (census.Owns id s ⟨none, name⟩) ⟨none, name⟩ s s' := by
  have hfind : ∀ other, s'.catalogs.find? other =
      (s.catalogs.find? other).filter fun y => other ≠ name && !x.owns y := by
    intro other
    rw [hafter, find?_without]
  constructor
  · rw [stored, placed, hfind, hx]
    simp
  · rintro ⟨_ | ns, other⟩ hne
    · have hother : other ≠ name := fun heq => hne (congrArg (Target.mk none) heq)
      rw [stored, stored, placed, placed, hfind]
      cases hy : s.catalogs.find? other with
      | none => exact .inl rfl
      | some y =>
          by_cases howns : x.owns y
          · have hgone : (some y).filter (fun y => other ≠ name && !x.owns y) = none := by
              simp [howns]
            rw [hgone]
            obtain ⟨uid, huid, howned⟩ := (x.owns_iff other).1 howns
            refine .inr ⟨rfl, @Census.owns_ofStored _ _ _ stored s _ _ (x.catalog name)
              (y.catalog other) uid ?_ huid ?_ howned⟩
            · rw [stored, placed, hx]
              rfl
            · rw [stored, placed, hy]
              rfl
          · refine .inl ?_
            simp [hother, howns]
    · exact .inl rfl

/-- With a catalog those go that it owns. -/
theorem collects : api.Collects census id stored := by
  rintro ⟨scope, name⟩ w
  change Outcome _ _ (request (remove ⟨scope, name⟩) w).1
  rcases request_cases (remove ⟨scope, name⟩) w with ⟨heq, hsame⟩ | ⟨_, hact, heq⟩
  · rw [heq]
    exact congrArg placed hsame
  · rw [heq]
    rw [remove] at hact
    split at hact
    · next hscope hx =>
      cases hscope
      exact empties_without hx (congrArg Prod.snd (Option.some.inj hact)).symm
    · cases hact

/-- A request changes one catalog at most, which then names the owners that are sent, or those that it
named. -/
theorem request_endows {act : Dict Shelved → Option (α × Dict Shelved)} {sent : List String}
    (h : ∀ catalogs x catalogs', act catalogs = some (x, catalogs') → ∃ place o,
      placed catalogs' = Function.update (placed catalogs) place (some o) ∧
        (o.metadata.owners = sent ∨ ∃ old, placed catalogs place = some old ∧
          o.metadata.owners = old.metadata.owners)) : (request act).Endows stored sent := by
  intro w place o ho own hown
  rcases request_cases act w with ⟨-, hsame⟩ | ⟨x, hact, -⟩
  · rw [stored, hsame] at ho
    exact .inr ⟨o, ho, hown⟩
  · obtain ⟨changed, new, hafter, howners⟩ := h _ _ _ hact
    rw [stored, hafter] at ho
    by_cases hplace : place = changed
    · rw [hplace, Function.update_self] at ho
      cases ho
      rcases howners with heq | ⟨old, hold, heq⟩
      · exact .inl (heq ▸ hown)
      · exact .inr ⟨old, hplace ▸ hold, heq ▸ hown⟩
    · rw [Function.update_of_ne hplace] at ho
      exact .inr ⟨o, ho, hown⟩

/-- Owners are stored as they are sent. -/
theorem endows : api.Endows census id stored where
  known := Census.known_ofStored
  create := by
    intro scope new
    refine @request_endows _ (add scope new) _ fun catalogs created catalogs' hact => ?_
    rcases scope with _ | ns
    · cases hname : new.metadata.name with
      | none => simp [add, hname] at hact
      | some name =>
          simp only [add, hname] at hact
          split at hact
          · cases hact
          · cases hact
            exact ⟨_, _, placed_insert catalogs name _, .inl rfl⟩
    · cases hact
  replace := by
    intro place new
    refine @request_endows _ (edit _ place) _ fun catalogs replaced catalogs' hact => ?_
    obtain ⟨x, _, ⟨⟩, rfl, -, hnew⟩ := edit_eq_some hact
    exact ⟨place, _, hnew, .inl rfl⟩
  patchStatus := by
    intro place patch
    refine @request_endows _ (edit _ place) _ fun catalogs patched catalogs' hact => ?_
    obtain ⟨x, y, hpatched, rfl, hold, hnew⟩ := edit_eq_some hact
    refine ⟨place, _, hnew, .inr ⟨_, hold, ?_⟩⟩
    rw [(x.patched?_eq_some place.name hpatched).2.1]

/-! ### Runs about one catalog -/

/-- What keeps the catalogs of the shelf. -/
def keeper : Keeper Shelf CatalogRecord CatalogSpec CatalogStatus :=
  .catalogs api

theorem faithful_keeper : keeper.Faithful stored := faithful

theorem collects_keeper : keeper.api.Collects census (keeper.slot census) stored := collects

theorem endows_keeper : keeper.api.Endows census (keeper.slot census) stored := endows

/-- The record of a catalog with a domain of its own. -/
def recordOf (domain : String) : CatalogRecord where
  name := "shop"
  domain := "shop.example.com"
  customDomains := [domain]

def declaring (domain : String) : Round CatalogRecord where
  timeout := 1000
  now := fun _ => .newYear
  answer := .ok [recordOf domain]

/-- An empty shelf that refuses the last of some requests. -/
def refusing (answered : Nat) : World Shelf :=
  ⟨{ refusals := List.replicate answered false ++ [true] }, []⟩

theorem stored_refusing (answered : Nat) (place : Target) :
    stored (refusing answered).state place = none := by
  obtain ⟨_ | ns, name⟩ := place <;> rfl

theorem keyed_declaring {domains : List String} :
    ∀ round ∈ domains.map declaring, keeper.Keyed round := by
  intro round hround
  obtain ⟨domain, -, rfl⟩ := List.mem_map.1 hround
  rintro records ⟨⟩
  have hobjects : (keeper.objects (declaring domain).now [recordOf domain]).map
      (fun new => new.metadata.ns) = [none] := rfl
  obtain ⟨new, hnew, hns⟩ := List.map_eq_singleton_iff.1 hobjects
  rw [hnew]
  refine ⟨List.nodup_singleton _, ?_⟩
  intro x hx ns hx_ns
  rw [List.mem_singleton.1 hx, hns] at hx_ns
  cases hx_ns

theorem declares_iff {domains : List String} {spec : CatalogSpec} :
    (∃ round ∈ domains.map declaring, keeper.Declares round spec) ↔
      ∃ domain ∈ domains, spec = (recordOf domain).spec := by
  constructor
  · rintro ⟨round, hround, hdeclares⟩
    obtain ⟨domain, hdomain, rfl⟩ := List.mem_map.1 hround
    obtain ⟨_, ⟨⟩, record, hrecord, rfl⟩ := hdeclares
    rw [List.mem_singleton.1 hrecord]
    exact ⟨domain, hdomain, rfl⟩
  · rintro ⟨domain, hdomain, rfl⟩
    exact ⟨declaring domain, List.mem_map_of_mem hdomain, _, rfl, _, .head _, rfl⟩

/-- A shelf with two catalogs of the agent, of which the one owns the other. -/
def owning : World Shelf :=
  ⟨{ catalogs := (Dict.empty.insert "old"
      { uid := some "1", labels := some managerLabels, spec := {} }).insert "shop"
      { uid := some "2", labels := some managerLabels, ownerReferences := some [{ uid := "1" }],
        spec := (recordOf "a").spec } }, []⟩

end Shelf

end EdgeAgent
