import EdgeAgent.Proofs.Cluster.Ownerless
import EdgeAgent.Proofs.Cluster.Seat

/-! A server with room for one edge ingress of a given name and for its child ingress. It refuses
every request that it has no room for, and does what is relied on of a server. -/

namespace EdgeAgent

/-- An edge ingress in the slot, without its name and uid. -/
structure Slotted where
  labels : Option (Dict String) := none
  spec : EdgeIngressSpec
  /-- The fields of the stored status, and the status that they read as. -/
  status : Option { s : List (String × Json) × EdgeIngressStatus //
    Decode.value EdgeIngressStatus.decode (.obj s.1) = .ok s.2 } := none

/-- What the server holds. -/
structure Slot where
  edge : Option Slotted := none
  child : Option Child.Stored := none

namespace Slotted

/-- The edge ingress as it is read. -/
def object (x : Slotted) : EdgeIngress where
  metadata := { name := some "shop", ns := some "n", uid := some "1", labels := x.labels }
  spec := x.spec
  status := x.status.map (·.1.2)

def statusJson (x : Slotted) : Json :=
  match x.status with
  | none => .null
  | some status => .obj status.1.1

/-- The edge ingress with a patch merged into its status, if that still reads as one. -/
def patched? (x : Slotted) : Json → Option Slotted
  | .obj patch =>
    let fields := Json.mergeFields x.statusJson.fieldsOf patch
    match reads : Decode.value EdgeIngressStatus.decode (.obj fields) with
    | .ok status => some { x with status := some ⟨(fields, status), reads⟩ }
    | .error _ => none
  | _ => none

theorem stands_statusJson (x : Slotted) : EdgeIngress.kind.Stands x.statusJson x.object.status := by
  rw [statusJson, object]
  cases x.status with
  | none => rfl
  | some status => exact ⟨_, status.1.1, rfl, rfl, status.2⟩

theorem patched?_eq_some {x y : Slotted} {patch : Json} (h : x.patched? patch = some y) :
    y.spec = x.spec ∧ y.labels = x.labels ∧
      EdgeIngress.kind.Stands (x.statusJson.merge patch) y.object.status := by
  cases patch with
  | obj patch =>
      rw [patched?] at h
      split at h
      · next status reads =>
        cases h
        rw [Json.merge]
        exact ⟨rfl, rfl, _, _, rfl, rfl, reads⟩
      · cases h
  | _ => cases h

end Slotted

namespace Slot

variable {α : Type}

/-- The place of the edge ingress. -/
def place : Target := ⟨some "n", "shop"⟩

def stored (s : Slot) (target : Target) : Option EdgeIngress :=
  if target = place then s.edge.map Slotted.object else none

def children (s : Slot) (target : Target) : Option Child.Stored :=
  if target = place then s.child else none

/-- A request that acts on the slot, unless it cannot. -/
def request (act : Slot → Option (α × Slot)) : Call Slot α :=
  Call.change fun s =>
    match act s with
    | some (x, s') => (.ok x, s')
    | none => (.error (.failed "refused"), s)

/-- The edge ingress, if it carries the label of the agent. -/
def managed (s : Slot) : Option (List EdgeIngress × Slot) :=
  some ((s.edge.map Slotted.object).toList.filter Object.managed, s)

def add (scope : Option String) (new : EdgeIngress) (s : Slot) : Option (EdgeIngress × Slot) :=
  if scope = place.scope ∧ new.metadata.name = some place.name ∧ s.edge.isNone then
    let x : Slotted := { labels := new.metadata.labels, spec := new.spec }
    some (x.object, { s with edge := some x })
  else none

def edit (change : Slotted → Option Slotted) (target : Target) (s : Slot) :
    Option (EdgeIngress × Slot) :=
  if target = place then (s.edge.bind change).map fun x => (x.object, { s with edge := some x })
  else none

/-- Removes the edge ingress with the child ingress that it owns. -/
def remove (target : Target) (s : Slot) : Option (Unit × Slot) :=
  if target = place ∧ s.edge.isSome then
    some ((), { edge := none, child := s.child.filter fun child => "1" ∉ child.owners })
  else some ((), s)

def apply (target : Target) (ingress : Ingress) (s : Slot) : Option (Unit × Slot) :=
  if target = place then some ((), { s with child := some (.of ingress) }) else none

/-- The requests to the server. -/
def apis : Child.Apis Slot where
  edges := {
    list := request managed
    create := fun scope new => request (add scope new)
    replace := fun target new => request (edit (fun x =>
      some { x with labels := new.metadata.labels, spec := new.spec }) target)
    patchStatus := fun target patch => request (edit (Slotted.patched? · patch) target)
    delete := fun target => request (remove target) }
  ingresses := fun target ingress => request (apply target ingress)

/-! ### The laws -/

variable {s s' : Slot} {target : Target} {o : EdgeIngress}

theorem stored_eq_some (h : stored s target = some o) :
    target = place ∧ ∃ x, s.edge = some x ∧ o = x.object := by
  rw [stored] at h
  split at h
  · next htarget =>
    obtain ⟨x, hx, rfl⟩ := Option.map_eq_some_iff.1 h
    exact ⟨htarget, x, hx, rfl⟩
  · cases h

theorem stored_eq_update (s : Slot) (x : Option Slotted) (child : Option Child.Stored) :
    stored ⟨x, child⟩ = Function.update (stored s) place (x.map Slotted.object) := by
  funext target
  by_cases htarget : target = place
  · rw [htarget, Function.update_self, stored, if_pos rfl]
  · rw [Function.update_of_ne htarget, stored, stored, if_neg htarget, if_neg htarget]

theorem children_eq_update (s : Slot) (x : Option Slotted) (child : Option Child.Stored) :
    children ⟨x, child⟩ = Function.update (children s) place child := by
  funext target
  by_cases htarget : target = place
  · rw [htarget, Function.update_self, children, if_pos rfl]
  · rw [Function.update_of_ne htarget, children, children, if_neg htarget, if_neg htarget]

theorem request_of_none {act : Slot → Option (α × Slot)} {w : World Slot} (h : act w.state = none) :
    request act w = (.error (.failed "refused"), w) := by
  rw [request, Call.change, h]

theorem request_of_some {act : Slot → Option (α × Slot)} {w : World Slot} {x : α}
    (h : act w.state = some (x, s')) : request act w = (.ok x, { w with state := s' }) := by
  rw [request, Call.change, h]

/-- A request acts as its action does, or not at all. -/
theorem request_outcome {act : Slot → Option (α × Slot)} {same : Slot → Prop}
    {acted : Slot → α → Prop} (w : World Slot) (hsame : same w.state)
    (hacted : ∀ x s', act w.state = some (x, s') → acted s' x) :
    Outcome (same (request act w).2.state) (acted (request act w).2.state)
      (request act w).1 := by
  cases hact : act w.state with
  | none =>
      rw [request_of_none hact]
      exact hsame
  | some result =>
      rw [@request_of_some _ _ act w result.1 hact]
      exact hacted result.1 result.2 hact

theorem request_acts {act : Slot → Option (α × Slot)}
    {acted : Store EdgeIngressSpec EdgeIngressStatus → Store EdgeIngressSpec EdgeIngressStatus →
      α → Prop}
    (h : ∀ s x s', act s = some (x, s') → acted (stored s) (stored s') x) :
    (request act).Acts stored acted := fun w =>
  @request_outcome _ act (fun s' => stored s' = stored w.state)
    (fun s' => acted (stored w.state) (stored s')) w rfl fun x s' hact => h _ x s' hact

/-- A request leaves what its action leaves. -/
theorem request_leaves {act : Slot → Option (α × Slot)} {β : Type} {view : Slot → β}
    (h : ∀ s x s', act s = some (x, s') → view s' = view s) : (request act).Leaves view := by
  intro w
  cases hact : act w.state with
  | none => rw [request_of_none hact]
  | some result =>
      rw [@request_of_some _ _ act w result.1 hact]
      exact h _ result.1 result.2 hact

theorem add_eq_some {scope : Option String} {new : EdgeIngress}
    (h : add scope new s = some (o, s')) :
    scope = place.scope ∧ new.metadata.name = some place.name ∧ s.edge = none ∧
      o = ({ labels := new.metadata.labels, spec := new.spec } : Slotted).object ∧
      s' = { s with edge := some { labels := new.metadata.labels, spec := new.spec } } := by
  rw [add] at h
  split at h
  · next hroom =>
    cases h
    obtain ⟨hscope, hname, hfree⟩ := hroom
    exact ⟨hscope, hname, Option.isNone_iff_eq_none.1 hfree, rfl, rfl⟩
  · cases h

theorem edit_eq_some {change : Slotted → Option Slotted}
    (h : edit change target s = some (o, s')) :
    target = place ∧ ∃ x y, s.edge = some x ∧ change x = some y ∧ o = y.object ∧
      s' = { s with edge := some y } := by
  rw [edit] at h
  split at h
  · next htarget =>
    obtain ⟨y, hy, heq⟩ := Option.map_eq_some_iff.1 h
    obtain ⟨x, hx, hchange⟩ := Option.bind_eq_some_iff.1 hy
    cases heq
    exact ⟨htarget, x, y, hx, hchange, rfl, rfl⟩
  · cases h

theorem faithful_edges : apis.edges.Faithful EdgeIngress.kind stored where
  placed := by
    intro s target o ho
    obtain ⟨rfl, x, -, rfl⟩ := stored_eq_some ho
    exact ⟨⟨"n", by decide, rfl⟩, rfl, rfl⟩
  list := by
    intro w
    refine ⟨rfl, ?_⟩
    rintro _ ⟨⟩ o
    rw [List.mem_filter, Option.mem_toList, and_comm]
    refine and_congr_right fun _ => ⟨fun ho => ⟨place, ?_⟩, ?_⟩
    · rw [stored, if_pos rfl]
      exact ho
    · rintro ⟨target, ho⟩
      obtain ⟨rfl, x, hx, rfl⟩ := stored_eq_some ho
      rw [hx]
      rfl
  create := by
    intro scope name new hname
    refine request_acts fun s o s' hact => ?_
    obtain ⟨rfl, hplace, hfree, rfl, rfl⟩ := add_eq_some hact
    rw [hname] at hplace
    cases hplace
    refine ⟨?_, stored_eq_update s _ _, rfl, rfl, rfl⟩
    rw [stored, hfree]
    exact ite_self _
  replace := by
    intro target new
    refine request_acts fun s o s' hact => ?_
    obtain ⟨rfl, x, y, hx, ⟨⟩, rfl, rfl⟩ := edit_eq_some hact
    refine ⟨x.object, ?_, stored_eq_update s _ _, rfl, rfl, rfl⟩
    rw [stored, if_pos rfl, hx]
    rfl
  patchStatus := by
    intro target patch
    refine request_acts fun s o s' hact => ?_
    obtain ⟨rfl, x, y, hx, hpatched, rfl, rfl⟩ := edit_eq_some hact
    obtain ⟨hspec, hlabels, hstands⟩ := Slotted.patched?_eq_some hpatched
    refine ⟨x.object, ?_, stored_eq_update s _ _, hspec, hlabels, _, x.stands_statusJson, hstands⟩
    rw [stored, if_pos rfl, hx]
    rfl

theorem lasting_edges : apis.edges.Lasting stored where
  unmarked := by
    intro s target o ho
    obtain ⟨rfl, -⟩ := stored_eq_some ho
    refine ⟨by decide, ?_⟩
    rintro _ ⟨⟩
    decide
  uid := by
    intro target patch w patched hanswer old hold
    obtain ⟨rfl, x, -, rfl⟩ := stored_eq_some hold
    cases hact : edit (Slotted.patched? · patch) place w.state with
    | none =>
        have hrefused : (apis.edges.patchStatus place patch w).1 = .error (.failed "refused") :=
          congrArg Prod.fst (request_of_none hact)
        rw [hrefused] at hanswer
        cases hanswer
    | some result =>
        obtain ⟨-, _, y, -, -, hobject, -⟩ := @edit_eq_some w.state result.2 place result.1 _ hact
        have hdone : (apis.edges.patchStatus place patch w).1 = .ok result.1 :=
          congrArg Prod.fst (@request_of_some _ _ _ w result.1 hact)
        rw [hdone] at hanswer
        cases hanswer
        rw [hobject]
        rfl

theorem owning : apis.Owning stored children where
  uid := by
    intro s target o ho
    obtain ⟨-, x, -, rfl⟩ := stored_eq_some ho
    exact ⟨"1", rfl⟩
  list := fun _ => rfl
  create := fun scope new => request_leaves fun s o s' hact => by
    obtain ⟨-, -, -, -, rfl⟩ := add_eq_some hact
    rfl
  replace := fun target new => request_leaves fun s o s' hact => by
    obtain ⟨-, x, y, -, -, -, rfl⟩ := edit_eq_some hact
    rfl
  patchStatus := fun target patch => request_leaves fun s o s' hact => by
    obtain ⟨-, x, y, -, -, -, rfl⟩ := edit_eq_some hact
    rfl
  ingresses := by
    intro target ingress w
    refine @request_outcome _ (apply target ingress) (fun s' => children s' = children w.state)
      (fun s' _ => children s' = Function.update (children w.state) target (some (.of ingress))) w
      rfl ?_
    intro x s' hact
    rw [apply] at hact
    split at hact
    · next htarget =>
      cases hact
      rw [htarget]
      exact children_eq_update w.state _ _
    · cases hact

/-- What keeps the edge ingress of the slot, with its child ingress. -/
def keeper : Keeper Slot EdgeIngressRecord EdgeIngressSpec EdgeIngressStatus :=
  .edgesWithChildren {} apis

theorem lasting : keeper.Lasting stored children where
  faithful := ⟨faithful_edges, fun target ingress => request_leaves fun s _ s' hact => by
    rw [apply] at hact
    split at hact <;> cases hact
    rfl⟩
  api := lasting_edges
  owning := owning

/-- The edge ingress of the slot. -/
def census : Census Slot Target Metadata :=
  .ofStored stored

/-- The edge ingress names no owners. -/
theorem ownerless (s : Slot) : Ownerless stored s := by
  intro target o ho
  obtain ⟨-, x, -, rfl⟩ := stored_eq_some ho
  rfl

theorem delete_cases (target : Target) (w : World Slot) :
    target = place ∧ keeper.api.delete target w = (.ok (), { w with state :=
        ⟨none, w.state.child.filter fun child => "1" ∉ child.owners⟩ }) ∨
      stored w.state target = none ∧ keeper.api.delete target w = (.ok (), w) := by
  by_cases hheld : target = place ∧ w.state.edge.isSome
  · exact .inl ⟨hheld.1, request_of_some (if_pos hheld)⟩
  · refine .inr ⟨?_, request_of_some (if_neg hheld)⟩
    cases ho : stored w.state target with
    | none => rfl
    | some o =>
        obtain ⟨rfl, x, hx, -⟩ := stored_eq_some ho
        exact absurd ⟨rfl, by rw [hx]; rfl⟩ hheld

/-- With the edge ingress goes the child ingress that it owns. -/
theorem collects : keeper.Collects census stored children where
  api := by
    intro target w
    rcases delete_cases target w with ⟨rfl, hdelete⟩ | ⟨hnone, hdelete⟩
    · rw [hdelete]
      have hstored := stored_eq_update w.state none
        (w.state.child.filter fun child => "1" ∉ child.owners)
      refine Empties.mk ?_ fun other hother => .inl ?_
      · rw [hstored, Function.update_self]
        rfl
      · rw [hstored, Function.update_of_ne hother]
    · rw [hdelete]
      exact Empties.mk hnone fun other _ => .inl rfl
  children := by
    intro _ target w q
    rcases delete_cases target w with ⟨-, hdelete⟩ | ⟨-, hdelete⟩
    · rw [hdelete]
      cases hchild : w.state.child.filter fun child => "1" ∉ child.owners with
      | none => exact .inr ⟨ite_self _, fun _ _ _ _ _ _ => ite_self _⟩
      | some child =>
          refine .inl ?_
          rw [children, children, (Option.filter_eq_some_iff.1 hchild).1]
    · rw [hdelete]
      exact .inl rfl

theorem request_endows (c : Call Slot α) (sent : List String) : c.Endows stored sent := by
  intro w target o ho own hown
  rw [ownerless _ target o ho] at hown
  cases hown

theorem endows : keeper.api.Endows census (keeper.slot census) stored where
  known := Census.known_ofStored
  create := fun _ _ => request_endows _ _
  replace := fun _ _ => request_endows _ _
  patchStatus := fun _ _ => request_endows _ _

/-! ### Runs about one edge ingress -/

/-- The record of the edge ingress, with a domain. -/
def recordOf (domain : String) : EdgeIngressRecord where
  name := "shop"
  ns := "n"
  domain := domain
  service := { name := "svc", port := 80 }

def declaring (domain : String) : Round EdgeIngressRecord where
  timeout := 1000
  now := fun _ => .newYear
  answer := .ok [recordOf domain]

/-- The empty slot. -/
def vacant : World Slot := ⟨{}, []⟩

theorem objects_declaring {domain : String} (hdomain : domain ≠ "") :
    keeper.objects (declaring domain).now [recordOf domain] =
      [⟨{ name := some "shop", ns := some "n", labels := some managerLabels },
        (recordOf domain).spec, some ((recordOf domain).status ((declaring domain).now 0))⟩] := by
  rw [Keeper.objects, materialized, List.mapIdx_cons, List.mapIdx_nil, Step.built]
  have hnew := (@Keeper.materialize_edge_iff ((declaring domain).now 0) (recordOf domain) _).2
    ⟨⟨(by decide : "shop" ≠ ""), (by decide : "n" ≠ ""), hdomain⟩, rfl⟩
  change [(EdgeIngressRecord.materialize _ _).mapError _].filterMap _ = _
  rw [hnew]
  rfl

theorem keyed_declaring {domain : String} (hdomain : domain ≠ "") : keeper.Keyed (declaring domain) := by
  rintro records ⟨⟩
  rw [objects_declaring hdomain]
  refine ⟨List.nodup_singleton _, List.forall_mem_singleton.2 ?_⟩
  rintro _ ⟨⟩
  decide

end Slot

end EdgeAgent
