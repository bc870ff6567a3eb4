import EdgeAgent.Proofs.Cluster.Keeper

/-! What is relied on of the server when the agent spares foreign objects: those without its label.
The server may answer a request in any way, whether or not it has done what was asked, but it does
nothing else than that, and it removes with an object only what belongs to it. A call spares foreign
objects when it leaves each as it is, unless that belongs to an object with the label whose removal
was asked for. -/

namespace EdgeAgent

variable {σ α β ι D Record Spec Status : Type}

/-! ### Objects without the label -/

/-- The label of the agent is among the labels. -/
def Metadata.Labelled (metadata : Metadata) : Prop :=
  metadata.labels.bind (·.find? managerLabel) = some managerName

instance (metadata : Metadata) : Decidable metadata.Labelled :=
  inferInstanceAs (Decidable (_ = _))

/-- A stored object carries the label of the agent. -/
def Form.Managed (form : Form D) (d : D) : Prop :=
  form.label? managerLabel d = some managerName

/-- What the agent asks to be done to objects. -/
inductive Deed (ι D : Type) where
  /-- An object is sent to be stored, with this metadata. -/
  | sent (metadata : Metadata)
  /-- The object in a slot is to be removed, when these objects are stored. -/
  | removing (objects : ι → Option D) (i : ι)

def Deed.Labelled : Deed ι D → Prop
  | .sent metadata => metadata.Labelled
  | .removing _ _ => True

/-- An object belongs to one with the label of the agent whose removal was asked for. -/
def Form.Forfeits (form : Form D) (deeds : List (Deed ι D)) (d : D) : Prop :=
  ∃ objects i owner uid, .removing objects i ∈ deeds ∧ objects i = some owner ∧
    form.Managed owner ∧ form.uid? owner = some uid ∧ form.Belongs objects uid d

theorem Form.Forfeits.exists_owner {form : Form D} {deeds : List (Deed ι D)} {d : D}
    (h : form.Forfeits deeds d) : ∃ uid, uid ∈ form.owners d := by
  obtain ⟨objects, i, owner, uid, -, -, -, -, hbelongs⟩ := h
  exact hbelongs.exists_owner

namespace Census

variable (census : Census σ ι D)

/-- A slot of an edge ingress or of a catalog. -/
def Custom (i : ι) : Prop :=
  (∃ place, census.edges place = i) ∨ ∃ place, census.catalogs place = i

/-- No object without the label of the agent is in a slot. -/
def Clear (i : ι) (objects : ι → Option D) : Prop :=
  ∀ d, objects i = some d → census.form.Managed d

/-- Edge ingresses and catalogs without the label are left as they are, unless they are forfeited, and
none comes up where there was none. All that was sent has the label. -/
structure Spared (deeds : List (Deed ι D)) (before after : ι → Option D) : Prop where
  kept : ∀ i d, census.Custom i → before i = some d → ¬census.form.Managed d →
    after i = some d ∨ census.form.Forfeits deeds d
  clear : ∀ i, census.Custom i → census.Clear i before → census.Clear i after
  labelled : ∀ deed ∈ deeds, deed.Labelled

variable {census} {deeds first rest : List (Deed ι D)} {before mid after : ι → Option D} {i : ι}

theorem Spared.refl (hdeeds : ∀ deed ∈ deeds, deed.Labelled) :
    census.Spared deeds before before where
  kept := fun _ _ _ hd _ => .inl hd
  clear := fun _ _ hclear => hclear
  labelled := hdeeds

theorem Spared.nil : census.Spared [] before before :=
  .refl (List.forall_mem_nil _)

theorem Spared.trans (h : census.Spared first before mid) (h' : census.Spared rest mid after) :
    census.Spared (first ++ rest) before after where
  kept := by
    intro i d hcustom hd hforeign
    rcases h.kept i d hcustom hd hforeign with hmid | hgone
    · refine (h'.kept i d hcustom hmid hforeign).imp id ?_
      rintro ⟨objects, j, owner, uid, hmem, howner⟩
      exact ⟨objects, j, owner, uid, List.mem_append_right _ hmem, howner⟩
    · obtain ⟨objects, j, owner, uid, hmem, howner⟩ := hgone
      exact .inr ⟨objects, j, owner, uid, List.mem_append_left _ hmem, howner⟩
  clear := fun i hcustom hclear => h'.clear i hcustom (h.clear i hcustom hclear)
  labelled := List.forall_mem_append.2 ⟨h.labelled, h'.labelled⟩

/-- An object with the label is put where no foreign one is. -/
theorem Spared.of_update [DecidableEq ι] {d : D}
    (hdeeds : ∀ deed ∈ deeds, deed.Labelled) (hclear : census.Clear i before)
    (hd : census.form.Managed d) :
    census.Spared deeds before (Function.update before i (some d)) where
  kept := by
    intro j x _ hx hforeign
    by_cases hj : j = i
    · rw [hj] at hx
      exact absurd (hclear x hx) hforeign
    · rw [Function.update_of_ne hj]
      exact .inl hx
  clear := by
    intro j _ hj_clear x hx
    by_cases hj : j = i
    · rw [hj, Function.update_self] at hx
      cases hx
      exact hd
    · rw [Function.update_of_ne hj] at hx
      exact hj_clear x hx
  labelled := hdeeds

end Census

/-! ### The laws -/

/-- An object gives its place. -/
def Object.Names (o : Object Spec Status) (place : Target) : Prop :=
  o.metadata.anyName = place.name ∧ o.metadata.ns = place.scope

/-- Whatever a request answers, what is stored has changed in a certain way or not at all. An answer
says something about what was stored. -/
def Call.Does (census : Census σ ι D) (c : Call σ α)
    (done : (ι → Option D) → (ι → Option D) → Prop) (tells : (ι → Option D) → α → Prop) : Prop :=
  ∀ w, (census.objects (c w).2.state = census.objects w.state ∨
      done (census.objects w.state) (census.objects (c w).2.state)) ∧
    ∀ x, (c w).1 = .ok x → tells (census.objects w.state) x

/-- What a server does about the objects of a kind, which lie in certain slots. -/
structure Api.Orderly [DecidableEq ι] (census : Census σ ι D) (kind : Kind Spec Status)
    (slot : Target → ι) (api : Api σ Spec Status) : Prop where
  custom : ∀ place, census.Custom (slot place)
  /-- Only objects with the label of the agent are listed. -/
  list : api.list.Does census (fun _ _ => False) fun objects listed =>
    ∀ o ∈ listed, ∃ place d, kind.Holds place ∧ o.Names place ∧
      objects (slot place) = some d ∧ census.form.Managed d
  /-- A new object is stored with its labels, and refused if there is one of its name. -/
  create : ∀ scope (new : Object Spec Status),
    (api.create scope new).Does census
      (fun before after => before (slot ⟨scope, new.metadata.anyName⟩) = none ∧
        ∃ d, (new.metadata.Labelled → census.form.Managed d) ∧
          after = Function.update before (slot ⟨scope, new.metadata.anyName⟩) (some d))
      fun before created => before (slot ⟨scope, new.metadata.anyName⟩) = none ∧
        created.Names ⟨scope, new.metadata.anyName⟩
  /-- An object is replaced by one with the labels that are sent. -/
  replace : ∀ place (new : Object Spec Status),
    (api.replace place new).Does census
      (fun before after => ∃ d, (new.metadata.Labelled → census.form.Managed d) ∧
        after = Function.update before (slot place) (some d))
      fun _ replaced => replaced.Names place
  /-- A patch of the status leaves the labels of a stored object. -/
  patchStatus : ∀ place patch,
    (api.patchStatus place patch).Does census
      (fun before after => ∃ old d, before (slot place) = some old ∧
        (census.form.Managed old → census.form.Managed d) ∧
        after = Function.update before (slot place) (some d))
      fun _ patched => patched.Names place
  /-- A stored object is removed, or marked for removal, and so may be those that belong to it. None
  loses its label meanwhile. -/
  delete : ∀ place, (api.delete place).Does census
    (fun before after => ∃ old, before (slot place) = some old ∧ ∀ i, after i = before i ∨
      (census.Clear i before → census.Clear i after) ∧
        (i = slot place ∨ ∃ uid d, census.form.uid? old = some uid ∧ before i = some d ∧
          census.form.Belongs before uid d))
    fun _ _ => True

/-- The requests about the objects of one kind, with what they ask to be done. -/
def Api.watched (census : Census σ ι D) (slot : Target → ι) (api : Api σ Spec Status) :
    Api (σ × List (Deed ι D)) Spec Status where
  list := api.list.noting fun _ => []
  create := fun scope new => (api.create scope new).noting fun _ => [.sent new.metadata]
  replace := fun place new => (api.replace place new).noting fun _ => [.sent new.metadata]
  patchStatus := fun place patch => (api.patchStatus place patch).noting fun _ => []
  delete := fun place w =>
    (api.delete place).noting (fun _ => [.removing (census.objects w.state.1) (slot place)]) w

/-- What a server does about edge ingresses, and that storing a child ingress leaves the edge
ingresses and catalogs alone. -/
structure Child.Apis.Orderly [DecidableEq ι] (census : Census σ ι D) (apis : Child.Apis σ) :
    Prop where
  edges : apis.edges.Orderly census EdgeIngress.kind census.edges
  ingresses : ∀ place ingress, (apis.ingresses place ingress).Does census
    (fun before after => ∀ i, census.Custom i → after i = before i) fun _ _ => True

/-- The requests about edge ingresses and their child ingresses, with what they ask to be done. -/
def Child.Apis.watched (census : Census σ ι D) (apis : Child.Apis σ) :
    Child.Apis (σ × List (Deed ι D)) where
  edges := apis.edges.watched census census.edges
  ingresses := fun place ingress =>
    (apis.ingresses place ingress).noting fun _ => [.sent ingress.metadata]

namespace Keeper

/-- The same with what the requests ask to be done. -/
def watched (census : Census σ ι D) :
    Keeper σ Record Spec Status → Keeper (σ × List (Deed ι D)) Record Spec Status
  | catalogs api => catalogs (api.watched census census.catalogs)
  | edges api => edges (api.watched census census.edges)
  | edgesWithChildren settings apis => edgesWithChildren settings (apis.watched census)

variable (keeper : Keeper σ Record Spec Status) (census : Census σ ι D)

theorem api_watched :
    (keeper.watched census).api = keeper.api.watched census (keeper.slot census) := by
  cases keeper <;> rfl

theorem kind_watched : (keeper.watched census).kind = keeper.kind := by
  cases keeper <;> rfl

theorem materialize_watched : (keeper.watched census).materialize = keeper.materialize := by
  cases keeper <;> rfl

end Keeper

/-! ### Calls that spare foreign objects -/

/-- A call spares the foreign objects when something holds of what is stored, and an answer says
something about what is stored then. -/
def Call.Spares (census : Census σ ι D) (c' : Call (σ × List (Deed ι D)) α) (c : Call σ α)
    (pre : (ι → Option D) → Prop) (post : α → (ι → Option D) → Prop) : Prop :=
  c'.Traces c
    (fun s x deeds s' => pre (census.objects s) →
      census.Spared deeds (census.objects s) (census.objects s') ∧ post x (census.objects s'))
    fun s deeds s' => pre (census.objects s) →
      census.Spared deeds (census.objects s) (census.objects s')

namespace Call.Spares

variable {census : Census σ ι D} {c' : Call (σ × List (Deed ι D)) α} {c : Call σ α}
  {next' : α → Call (σ × List (Deed ι D)) β} {next : α → Call σ β}
  {pre : (ι → Option D) → Prop} {post : α → (ι → Option D) → Prop}
  {later : β → (ι → Option D) → Prop} {i : ι}

/-- A request spares the foreign objects when what it does spares them. -/
theorem of_does {done : (ι → Option D) → (ι → Option D) → Prop}
    {tells : (ι → Option D) → α → Prop} (h : c.Does census done tells)
    (deeds : (ι → Option D) → List (Deed ι D))
    (hc' : ∀ w notes, c' (w.noted notes) =
      ((c w).1, (c w).2.noted (notes ++ deeds (census.objects w.state))))
    (hdeeds : ∀ before, ∀ deed ∈ deeds before, deed.Labelled)
    (hdone : ∀ before after, pre before → done before after →
      census.Spared (deeds before) before after)
    (htells : ∀ before after x, pre before → tells before x →
      census.Spared (deeds before) before after → post x after) :
    Spares census c' c pre post := by
  intro w notes
  obtain ⟨hchanged, hanswer⟩ := h w
  refine ⟨deeds (census.objects w.state), hc' w notes, ?_⟩
  have hspared : pre (census.objects w.state) → census.Spared (deeds (census.objects w.state))
      (census.objects w.state) (census.objects (c w).2.state) := by
    intro hpre
    rcases hchanged with hsame | hacted
    · rw [hsame]
      exact .refl (hdeeds _)
    · exact hdone _ _ hpre hacted
  cases hx : (c w).1 with
  | ok x => exact fun hpre => ⟨hspared hpre, htells _ _ x hpre (hanswer x hx) (hspared hpre)⟩
  | error stop => exact hspared

theorem imp (h : Spares census c' c pre post) {pre' : (ι → Option D) → Prop}
    {post' : α → (ι → Option D) → Prop} (himp : ∀ before, pre' before →
      pre before ∧ ∀ x after, post x after → post' x after) :
    Spares census c' c pre' post' := by
  refine Call.Traces.imp h ?_ ?_
  · intro s x deeds s' hdone hs
    obtain ⟨hpre, hpost⟩ := himp _ hs
    obtain ⟨hspared, hx⟩ := hdone hpre
    exact ⟨hspared, hpost x _ hx⟩
  · intro s deeds s' hdone hs
    exact hdone (himp _ hs).1

theorem ignore (h : Spares census c' c pre post) :
    Spares census c' c pre fun _ _ => True :=
  h.imp fun _ hbefore => ⟨hbefore, fun _ _ _ => trivial⟩

theorem bind (h : Spares census c' c pre post)
    (hnext : ∀ x, Spares census (next' x) (next x) (post x) later) :
    Spares census (c'.bind next') (c.bind next) pre later := by
  refine Call.Traces.imp (Call.Traces.bind h hnext) ?_ ?_
  · rintro s y _ s' ⟨x, mid, first, rest, rfl, hfirst, hrest⟩ hs
    -- what the first answer says is what the rest starts from
    obtain ⟨hspared, hx⟩ := hfirst hs
    obtain ⟨hspared', hy⟩ := hrest hx
    exact ⟨hspared.trans hspared', hy⟩
  · rintro s deeds s' (hstopped | ⟨x, mid, first, rest, rfl, hfirst, hrest⟩) hs
    · exact hstopped hs
    · obtain ⟨hspared, hx⟩ := hfirst hs
      exact hspared.trans (hrest hx)

theorem pure (x : α) :
    Spares census (Call.pure x) (Call.pure x) pre fun y objects => y = x ∧ pre objects := by
  refine Call.Traces.imp (.pure x) ?_ fun _ _ _ h => h.elim
  rintro s y _ s' ⟨rfl, rfl, rfl⟩ hs
  exact ⟨.nil, rfl, hs⟩

theorem fail (message : String) : Spares census (Call.fail message) (Call.fail message) pre post := by
  refine Call.Traces.imp (.fail message) (fun _ _ _ _ h => h.elim) ?_
  rintro s _ s' ⟨rfl, rfl⟩ _
  exact .nil

theorem report (entry : LogEntry) :
    Spares census (Call.report entry) (Call.report entry) pre fun _ => pre := by
  refine Call.Traces.imp (.report entry) ?_ fun _ _ _ h => h.elim
  rintro s _ _ s' ⟨rfl, rfl⟩ hs
  exact ⟨.nil, hs⟩

theorem context (h : Spares census c' c pre post) (message : String) :
    Spares census (c'.context message) (c.context message) pre post :=
  Call.Traces.context h message

/-- However an attempt ends, a slot without a foreign object stays one. -/
theorem attempt (h : Spares census c' c (census.Clear i) post) (hcustom : census.Custom i) :
    Spares census c'.attempt c.attempt (census.Clear i) fun _ => census.Clear i := by
  refine Call.Traces.imp (Call.Traces.attempt h) ?_ fun _ _ _ h => h
  intro s x deeds s' hdone hs
  have hspared : census.Spared deeds (census.objects s) (census.objects s') := by
    cases x with
    | ok x => exact (hdone hs).1
    | error message => exact hdone hs
  exact ⟨hspared, hspared.clear i hcustom hs⟩

end Call.Spares

end EdgeAgent
