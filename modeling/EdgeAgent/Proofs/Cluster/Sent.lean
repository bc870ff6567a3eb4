import EdgeAgent.Proofs.Cluster.Keeper
import EdgeAgent.Proofs.Resource.Published

/-! What is sent to the server, and what more is relied on of it. Beside the verb of a request it is
noted which child ingress it stores. Names hold no `@`, an object keeps its uid, and a child ingress
is not removed as long as the object that owns it stays. -/

namespace EdgeAgent

variable {σ ι D α Record Spec Status : Type}

/-! ### Noting what is sent -/

/-- A request, with the child ingress that it stores and its place, if it stores one. -/
structure Sent extends Exchange where
  child : Option (Target × Ingress) := none

namespace Sent

/-- The note of a request that stores no child ingress. -/
def note (verb : Verb) (answer : Except Stop α) : List Sent :=
  [{ verb := verb, answered := succeeded answer }]

/-- The note of a request that stores a child ingress. -/
def noteChild (place : Target) (ingress : Ingress) (answer : Except Stop α) : List Sent :=
  [{ verb := .apply, answered := succeeded answer, child := some (place, ingress) }]

/-- Some request was not answered. -/
def Missed (es : List Sent) : Prop :=
  ∃ e ∈ es, e.answered = false

/-- The child ingresses that requests store, with their places. -/
def children (es : List Sent) : List (Target × Ingress) :=
  es.filterMap Sent.child

theorem missed_append {es es' : List Sent} : Missed (es ++ es') ↔ Missed es ∨ Missed es' := by
  simp only [Missed, List.mem_append, or_and_right, exists_or]

theorem not_missed_iff {es : List Sent} : ¬Missed es ↔ ∀ e ∈ es, e.answered = true := by
  simp [Missed]

theorem Missed.of_mem {run : Bool × List Sent} {runs : List (Bool × List Sent)} (h : Missed run.2)
    (hrun : run ∈ runs) : Missed (notesOf runs) := by
  obtain ⟨e, he, hmissed⟩ := h
  exact ⟨e, List.mem_flatMap.2 ⟨run, hrun, he⟩, hmissed⟩

theorem children_append (es es' : List Sent) :
    children (es ++ es') = children es ++ children es' :=
  List.filterMap_append

end Sent

/-- The requests about the objects of one kind, each noted. -/
def Api.traced (api : Api σ Spec Status) : Api (σ × List Sent) Spec Status where
  list := api.list.noting (Sent.note .list)
  create := fun scope o => (api.create scope o).noting (Sent.note .create)
  replace := fun place o => (api.replace place o).noting (Sent.note .replace)
  patchStatus := fun place patch => (api.patchStatus place patch).noting (Sent.note .patchStatus)
  delete := fun place => (api.delete place).noting (Sent.note .delete)

/-- The requests about edge ingresses and their child ingresses, each noted. -/
def Child.Apis.traced (apis : Child.Apis σ) : Child.Apis (σ × List Sent) where
  edges := apis.edges.traced
  ingresses := fun place ingress =>
    (apis.ingresses place ingress).noting (Sent.noteChild place ingress)

/-! ### The laws -/

/-- A call leaves what a state shows. -/
def Call.Leaves {β : Type} (view : σ → β) (c : Call σ α) : Prop :=
  ∀ w, view (c w).2.state = view w.state

/-- A stored child ingress, as far as the agent has a say in it. -/
structure Child.Stored where
  labels : Option (Dict String)
  annotations : Option (Dict String)
  spec : Option IngressSpec
  /-- The uids of its owners. -/
  owners : List String
  deriving DecidableEq

/-- A child ingress as it is stored. -/
def Child.Stored.of (ingress : Ingress) : Child.Stored where
  labels := ingress.metadata.labels
  annotations := ingress.metadata.annotations
  spec := ingress.spec
  owners := (ingress.metadata.ownerReferences.getD []).map OwnerReference.uid

/-- Names and namespaces hold no `@`, and an object keeps its uid when its status is patched. -/
structure Api.Lasting (api : Api σ Spec Status) (stored : σ → Store Spec Status) : Prop where
  unmarked : ∀ s place o, stored s place = some o →
    '@' ∉ place.name.toList ∧ ∀ ns, place.scope = some ns → '@' ∉ ns.toList
  uid : ∀ place patch w patched, (api.patchStatus place patch w).1 = .ok patched →
    ∀ old, stored w.state place = some old → patched.metadata.uid = old.metadata.uid

/-- Child ingresses stay, but for those whose only owner is gone, or that have other owners. -/
def Child.Kept (stored : σ → Store Spec Status) (children : σ → Target → Option Child.Stored)
    (s s' : σ) : Prop :=
  ∀ q, children s' q = children s q ∨ children s' q = none ∧
    ∀ place o child, stored s place = some o → children s q = some child →
      child.owners = o.metadata.uid.toList → stored s' place = none

/-- Edge ingresses have uids. A child ingress is stored when it is asked for; no request
about edge ingresses does anything to it but a removal. -/
structure Child.Apis.Owning (apis : Child.Apis σ)
    (stored : σ → Store EdgeIngressSpec EdgeIngressStatus)
    (children : σ → Target → Option Child.Stored) : Prop where
  uid : ∀ s place o, stored s place = some o → ∃ uid, o.metadata.uid = some uid
  list : apis.edges.list.Leaves children
  create : ∀ scope new, (apis.edges.create scope new).Leaves children
  replace : ∀ place new, (apis.edges.replace place new).Leaves children
  patchStatus : ∀ place patch, (apis.edges.patchStatus place patch).Leaves children
  ingresses : ∀ place ingress w,
    Outcome (children (apis.ingresses place ingress w).2.state = children w.state)
      (fun _ => children (apis.ingresses place ingress w).2.state =
        Function.update (children w.state) place (some (.of ingress)))
      (apis.ingresses place ingress w).1

namespace Keeper

/-- The same with every request noted. -/
def traced : Keeper σ Record Spec Status → Keeper (σ × List Sent) Record Spec Status
  | catalogs api => catalogs api.traced
  | edges api => edges api.traced
  | edgesWithChildren settings apis => edgesWithChildren settings apis.traced

/-- What passes send. -/
def sent (keeper : Keeper σ Record Spec Status) (rounds : List (Round Record)) (w : World σ) :
    List Sent :=
  (keeper.traced.passes rounds (w.noted [])).state.2

/-- Whether objects have child ingresses. -/
def attends : Keeper σ Record Spec Status → Bool
  | catalogs _ => false
  | edges _ => false
  | edgesWithChildren _ _ => true

/-- What is relied on of the server when it removes objects: others that belong to them may go as well,
and so may child ingresses, but not without the objects that own them. -/
structure Collects (census : Census σ ι D) (keeper : Keeper σ Record Spec Status)
    (stored : σ → Store Spec Status) (children : σ → Target → Option Child.Stored) : Prop where
  api : keeper.api.Collects census (keeper.slot census) stored
  children : keeper.attends = true → ∀ place w,
    Child.Kept stored children w.state (keeper.api.delete place w).2.state

/-- What is relied on of the server for what its objects keep. -/
structure Lasting (keeper : Keeper σ Record Spec Status) (stored : σ → Store Spec Status)
    (children : σ → Target → Option Child.Stored) : Prop where
  faithful : keeper.Faithful stored
  api : keeper.api.Lasting stored
  owning : match keeper with
    | catalogs _ => True
    | edges _ => True
    | edgesWithChildren _ apis => apis.Owning stored children

/-- What is read of the status of an object. -/
def reading : Keeper σ Record Spec Status → Option Status → Reading
  | catalogs _ => Catalog.reading
  | edges _ => EdgeIngress.reading
  | edgesWithChildren _ _ => EdgeIngress.reading

end Keeper

end EdgeAgent
