import EdgeAgent.Cluster.Child
import EdgeAgent.Proofs.Cluster.Ownership
import EdgeAgent.Proofs.Resource.Status
import EdgeAgent.Proofs.Sync.Runs

/-! What the agent relies on of the server that stores the objects. A request that is answered has
acted, one that is refused has not, and one that is not answered may have acted or not. Each acts
on one object only: a creation stores a new object without its status, a replacement leaves the
stored status, a patch of the status leaves everything else. A removal is the exception, for the
objects that belong to the removed one may go with it; what is relied on then is said apart from the
rest. Of a stored object only its outline matters here: its spec, the fingerprint that is recorded
of it, and whether it is an object of the agent. -/

namespace EdgeAgent

variable {σ ι D α Spec Status : Type}

/-! ### Noting the requests -/

/-- What a request asks for. -/
inductive Verb where
  | list
  | create
  | replace
  | patchStatus
  | delete
  | apply
  deriving DecidableEq

/-- A request, and whether it was answered. -/
structure Exchange where
  verb : Verb
  answered : Bool
  deriving DecidableEq

namespace Exchange

/-- The note of a request. -/
def note (verb : Verb) (answer : Except Stop α) : List Exchange :=
  [⟨verb, succeeded answer⟩]

/-- Some request was not answered. -/
def Missed (exchanges : List Exchange) : Prop :=
  ∃ e ∈ exchanges, e.answered = false

/-- A stored object was replaced, or may have been, and the writing of its status was not
answered. -/
def Torn (exchanges : List Exchange) : Prop :=
  [⟨.replace, false⟩] <:+: exchanges ∨ [⟨.replace, true⟩, ⟨.patchStatus, false⟩] <:+: exchanges

theorem Missed.mono {es es' : List Exchange} (h : Missed es) (hpart : es <:+: es') :
    Missed es' := by
  obtain ⟨e, hmem, he⟩ := h
  exact ⟨e, hpart.subset hmem, he⟩

theorem Torn.mono {es es' : List Exchange} (h : Torn es) (hpart : es <:+: es') : Torn es' :=
  h.imp (·.trans hpart) (·.trans hpart)

theorem Torn.missed {es : List Exchange} (h : Torn es) : Missed es := by
  rcases h with hpart | hpart
  · exact ⟨_, hpart.subset (.head _), rfl⟩
  · exact ⟨_, hpart.subset (.tail _ (.head _)), rfl⟩

end Exchange

/-- The requests about the objects of one kind, each noted. -/
def Api.noted (api : Api σ Spec Status) : Api (σ × List Exchange) Spec Status where
  list := api.list.noting (Exchange.note .list)
  create := fun scope o => (api.create scope o).noting (Exchange.note .create)
  replace := fun place o => (api.replace place o).noting (Exchange.note .replace)
  patchStatus := fun place patch => (api.patchStatus place patch).noting (Exchange.note .patchStatus)
  delete := fun place => (api.delete place).noting (Exchange.note .delete)

/-- The requests about edge ingresses and their child ingresses, each noted. -/
def Child.Apis.noted (apis : Child.Apis σ) : Child.Apis (σ × List Exchange) where
  edges := apis.edges.noted
  ingresses := fun place ingress => (apis.ingresses place ingress).noting (Exchange.note .apply)

/-! ### The laws -/

/-- Whether an object carries the label of the agent. -/
def Object.managed (o : Object Spec Status) : Bool :=
  o.metadata.labels.bind (·.find? managerLabel) = some managerName

/-- A place at which objects of a kind can lie. -/
def Kind.Holds (kind : Kind Spec Status) (place : Target) : Prop :=
  if kind.namespaced then ∃ ns, ns ≠ "" ∧ place.scope = some ns else place.scope = none

/-- What has come of a request, by its answer. -/
def Outcome (same : Prop) (acted : α → Prop) : Except Stop α → Prop
  | .ok x => acted x
  | .error (.failed _) => same
  | .error .silent => same ∨ ∃ x, acted x

theorem Outcome.same_or_acted {same : Prop} {acted : α → Prop} {stop : Stop}
    (h : Outcome same acted (.error stop)) : same ∨ ∃ x, acted x := by
  cases stop with
  | failed message => exact .inl h
  | silent => exact h

/-- The objects by their places. -/
abbrev Store (Spec Status : Type) := Target → Option (Object Spec Status)

/-- A request acts on the stored objects in a certain way, or not at all when it is refused. -/
def Call.Acts (stored : σ → Store Spec Status) (c : Call σ α)
    (acted : Store Spec Status → Store Spec Status → α → Prop) : Prop :=
  ∀ w, Outcome (stored (c w).2.state = stored w.state)
    (acted (stored w.state) (stored (c w).2.state)) (c w).1

/-- What a server does with the objects of a kind, apart from removing them. -/
structure Api.Faithful (kind : Kind Spec Status) (api : Api σ Spec Status)
    (stored : σ → Store Spec Status) : Prop where
  /-- An object gives its place in its metadata. -/
  placed : ∀ s place o, stored s place = some o →
    kind.Holds place ∧ o.metadata.name = some place.name ∧ o.metadata.ns = place.scope
  /-- The objects that carry the label of the agent are listed. -/
  list : ∀ w, stored (api.list w).2.state = stored w.state ∧
    ∀ objects, (api.list w).1 = .ok objects →
      ∀ o, o ∈ objects ↔ o.managed = true ∧ ∃ place, stored w.state place = some o
  /-- A new object is stored without its status, if there is none of its name. -/
  create : ∀ scope name (new : Object Spec Status), new.metadata.name = some name →
    (api.create scope new).Acts stored fun before after created =>
      before ⟨scope, name⟩ = none ∧
      after = Function.update before ⟨scope, name⟩ (some created) ∧
      created.spec = new.spec ∧ created.status = none ∧
      created.metadata.labels = new.metadata.labels
  /-- A stored object is replaced but for its status. -/
  replace : ∀ place (new : Object Spec Status),
    (api.replace place new).Acts stored fun before after replaced =>
      ∃ old, before place = some old ∧
        after = Function.update before place (some replaced) ∧
        replaced.spec = new.spec ∧ replaced.status = old.status ∧
        replaced.metadata.labels = new.metadata.labels
  /-- A patch is merged into the status of a stored object. -/
  patchStatus : ∀ place patch,
    (api.patchStatus place patch).Acts stored fun before after patched =>
      ∃ old, before place = some old ∧
        after = Function.update before place (some patched) ∧
        patched.spec = old.spec ∧ patched.metadata.labels = old.metadata.labels ∧
        ∃ j, kind.Stands j old.status ∧ kind.Stands (j.merge patch) patched.status

/-- What a server does when it removes an object of a kind: the object is gone, and so may be others
that belong to it. -/
def Api.Collects (census : Census σ ι D) (slot : Target → ι) (api : Api σ Spec Status)
    (stored : σ → Store Spec Status) : Prop :=
  ∀ place w, Outcome (stored (api.delete place w).2.state = stored w.state)
    (fun _ => Empties stored none (census.Owns slot w.state place) place w.state
      (api.delete place w).2.state)
    (api.delete place w).1

/-- A removal has changed nothing only if it was not answered. -/
theorem Api.Collects.cases {census : Census σ ι D} {slot : Target → ι} {api : Api σ Spec Status}
    {stored : σ → Store Spec Status} (h : api.Collects census slot stored) (place : Target)
    (w : World σ) :
    succeeded (api.delete place w).1 = false ∧
        stored (api.delete place w).2.state = stored w.state ∨
      Empties stored none (census.Owns slot w.state place) place w.state
        (api.delete place w).2.state := by
  have hdone := h place w
  cases hanswer : (api.delete place w).1 with
  | ok x =>
      rw [hanswer] at hdone
      exact .inr hdone
  | error stop =>
      rw [hanswer] at hdone
      exact hdone.same_or_acted.imp (⟨rfl, ·⟩) fun ⟨_, hempties⟩ => hempties

/-- After a call a stored object names no owners but those that the one at its place has named, and
those that are sent. -/
def Call.Endows (stored : σ → Store Spec Status) (sent : List String) (c : Call σ α) : Prop :=
  ∀ w place o, stored (c w).2.state place = some o → ∀ own ∈ o.metadata.owners,
    own ∈ sent ∨ ∃ old, stored w.state place = some old ∧ own ∈ old.metadata.owners

/-- The owners of an object are known from its metadata, which name those that are sent. -/
structure Api.Endows (census : Census σ ι D) (slot : Target → ι) (api : Api σ Spec Status)
    (stored : σ → Store Spec Status) : Prop where
  known : ∀ s place d, census.objects s (slot place) = some d → ∀ own ∈ census.form.owners d,
    ∃ o, stored s place = some o ∧ own ∈ o.metadata.owners
  create : ∀ scope new, (api.create scope new).Endows stored new.metadata.owners
  replace : ∀ place new, (api.replace place new).Endows stored new.metadata.owners
  patchStatus : ∀ place patch, (api.patchStatus place patch).Endows stored []

/-! ### Objects of one kind -/

/-- How a server looks into metadata. -/
def Metadata.form : Form Metadata where
  label? name m := m.labels.bind (·.find? name)
  version? m := m.resourceVersion
  uid? m := m.uid
  owners m := m.owners
  stamp version uid m := { m with resourceVersion := some version, uid := uid }
  withoutStatus m := m
  withStatusOf _ m := m
  mergeStatus _ m := m

/-- The stored objects of one kind as the only ones, of which the metadata matter. -/
def Census.ofStored (stored : σ → Store Spec Status) : Census σ Target Metadata where
  form := Metadata.form
  objects s place := (stored s place).map fun o => o.metadata
  edges := id
  catalogs := id

theorem Census.owns_ofStored {stored : σ → Store Spec Status} {s : σ} {place other : Target}
    {owner o : Object Spec Status} {uid : String} (howner : stored s place = some owner)
    (huid : owner.metadata.uid = some uid) (ho : stored s other = some o)
    (howned : uid ∈ o.metadata.owners) : (ofStored stored).Owns id s place other := by
  refine ⟨owner.metadata, uid, o.metadata, ?_, huid, ?_, .owned howned⟩
  · exact Option.map_eq_some_iff.2 ⟨owner, howner, rfl⟩
  · exact Option.map_eq_some_iff.2 ⟨o, ho, rfl⟩

theorem Census.known_ofStored {stored : σ → Store Spec Status} (s : σ) (place : Target)
    (d : Metadata) (hd : (ofStored stored).objects s place = some d) (own : String)
    (hown : own ∈ (ofStored stored).form.owners d) :
    ∃ o, stored s place = some o ∧ own ∈ o.metadata.owners := by
  obtain ⟨o, ho, rfl⟩ := Option.map_eq_some_iff.1 hd
  exact ⟨o, ho, hown⟩

/-! ### Outlines -/

/-- What matters of an object. -/
structure Outline (Spec : Type) where
  spec : Spec
  /-- The fingerprint that its status records. -/
  hash : Option String
  managed : Bool

def Object.outline (kind : Kind Spec Status) (o : Object Spec Status) : Outline Spec :=
  ⟨o.spec, o.recordedHash kind, o.managed⟩

/-- The outlines of stored objects. -/
def Store.outlines (kind : Kind Spec Status) (objects : Store Spec Status) :
    Target → Option (Outline Spec) :=
  Option.map (Object.outline kind) ∘ objects

theorem Store.outlines_update (kind : Kind Spec Status) (objects : Store Spec Status)
    (place : Target) (o : Option (Object Spec Status)) :
    Store.outlines kind (Function.update objects place o) =
      Function.update (objects.outlines kind) place (o.map (Object.outline kind)) :=
  Function.comp_update _ _ _ _

theorem Store.outlines_eq_none {kind : Kind Spec Status} {objects : Store Spec Status}
    {place : Target} (h : objects place = none) : objects.outlines kind place = none := by
  rw [outlines, Function.comp_apply, h]
  rfl

theorem Store.outlines_eq_some {kind : Kind Spec Status} {objects : Store Spec Status}
    {place : Target} {o : Object Spec Status} (h : objects place = some o) :
    objects.outlines kind place = some (o.outline kind) := by
  rw [outlines, Function.comp_apply, h]
  rfl

theorem Object.managed_of_labels {o new : Object Spec Status}
    (h : o.metadata.labels = new.metadata.labels) : o.managed = new.managed := by
  rw [managed, managed, h]

theorem Object.recordedHash_eq (kind : Kind Spec Status) (o : Object Spec Status) :
    o.recordedHash kind = kind.hash? o.status := rfl

end EdgeAgent
