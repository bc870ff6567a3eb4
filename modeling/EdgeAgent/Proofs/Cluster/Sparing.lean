import EdgeAgent.Proofs.Cluster.Attended
import EdgeAgent.Proofs.Cluster.Census
import EdgeAgent.Proofs.Cluster.Pass
import EdgeAgent.Proofs.Sync.Runs

/-! The requests, the writes and the passes of the agent spare foreign objects. A write that replaces
or removes goes to an object that was listed, in whose slot no foreign object comes up meanwhile. A
write that creates goes anywhere; it goes on to the status only when the object was stored, and then
nothing was in its slot. -/

namespace EdgeAgent

variable {σ ι D Record Spec Status : Type} {census : Census σ ι D}

/-- An object that gives its place, which is one of its kind. -/
def Object.Placed (kind : Kind Spec Status) (o : Object Spec Status) : Prop :=
  kind.Holds (Upkeep.target kind o) ∧ o.Names (Upkeep.target kind o)

theorem Object.placed_of_names {kind : Kind Spec Status} {o : Object Spec Status} {place : Target}
    (hholds : kind.Holds place) (hnames : o.Names place) :
    Upkeep.target kind o = place ∧ o.Placed kind := by
  have htarget := Upkeep.target_eq hholds hnames.1 hnames.2
  rw [Placed, htarget]
  exact ⟨rfl, hholds, hnames⟩

theorem Object.labelled_of_managed {o : Object Spec Status} (h : o.managed = true) :
    o.metadata.Labelled :=
  of_decide_eq_true h

/-! ### What is written -/

/-- What a write asks for can be asked for, and what it replaces gives its place. -/
def Write.Sound (kind : Kind Spec Status) : Write (Object Spec Status) → Prop
  | .create new => new.Wanted kind
  | .update old new => old.Placed kind ∧ new.Wanted kind
  | .delete _ => True

/-- No foreign object is in the slot of what a write replaces or removes. -/
def Write.Clear (census : Census σ ι D) (kind : Kind Spec Status) (slot : Target → ι) :
    Write (Object Spec Status) → (ι → Option D) → Prop
  | .create _ => fun _ => True
  | .update old _ => census.Clear (slot (Upkeep.target kind old))
  | .delete old => census.Clear (slot (Upkeep.target kind old))

/-- A write spares the foreign objects if its slot is clear. -/
def Write.Sparing (census : Census σ ι D) (kind : Kind Spec Status) (slot : Target → ι)
    (x : Write (Object Spec Status)) (_ : Bool) (deeds : List (Deed ι D)) (s s' : σ) : Prop :=
  x.Clear census kind slot (census.objects s) →
    census.Spared deeds (census.objects s) (census.objects s')

theorem Write.Clear.mono {kind : Kind Spec Status} {slot : Target → ι}
    {x : Write (Object Spec Status)} {deeds : List (Deed ι D)} {before after : ι → Option D}
    (h : x.Clear census kind slot before) (hspared : census.Spared deeds before after)
    (hcustom : ∀ place, census.Custom (slot place)) : x.Clear census kind slot after := by
  cases x with
  | create new => trivial
  | update old new => exact hspared.clear _ (hcustom _) h
  | delete old => exact hspared.clear _ (hcustom _) h

/-- Writes of which each spares the foreign objects spare them together, since a clear slot stays
clear until its write comes. -/
theorem Census.spared_of_runs {slot : Target → ι} (hcustom : ∀ place, census.Custom (slot place))
    {kind : Kind Spec Status} {writes : List (Write (Object Spec Status))}
    {runs : List (Bool × List (Deed ι D))} {s s' : σ}
    (hruns : Runs (Write.Sparing census kind slot) writes runs s s')
    (hclear : ∀ x ∈ writes, x.Clear census kind slot (census.objects s)) :
    census.Spared (notesOf runs) (census.objects s) (census.objects s') := by
  induction hruns with
  | nil s => exact .nil
  | cons hmoves _ ih =>
      -- the slots of the later writes are still clear after this one
      have hspared := hmoves (hclear _ (.head _))
      rw [notesOf_cons]
      exact hspared.trans (ih fun y hy => (hclear y (.tail _ hy)).mono hspared hcustom)

/-- What is written is what records become, and what it goes to was listed and is still clear. -/
theorem Keeper.sound_of_mem {keeper : Keeper σ Record Spec Status}
    {records : List Record} {listed : List (Object Spec Status)} {now : Nat → Timestamp}
    {objects : ι → Option D}
    (hlisted : ∀ o ∈ listed, o.Placed keeper.kind ∧
      census.Clear (keeper.slot census (Upkeep.target keeper.kind o)) objects)
    {x : Write (Object Spec Status)}
    (hx : x ∈ (keeper.steps now records listed).filterMap Step.write?) :
    x.Sound keeper.kind ∧ x.Clear census keeper.kind (keeper.slot census) objects := by
  rcases cases_of_mem hx with ⟨new, hnew, hx⟩ | ⟨old, hold, rfl⟩
  · obtain ⟨hwanted, -⟩ := wanted_of_mem hnew
    rcases hx with rfl | ⟨old, hold, rfl⟩
    · exact ⟨hwanted, trivial⟩
    · obtain ⟨hplaced, hclear⟩ := hlisted old hold
      exact ⟨⟨hplaced, hwanted⟩, hclear⟩
  · exact ⟨trivial, (hlisted old hold).2⟩

/-! ### Requests -/

variable [DecidableEq ι]

namespace Api.Orderly

variable {kind : Kind Spec Status} {slot : Target → ι} {api : Api σ Spec Status}

theorem spares_list (horderly : api.Orderly census kind slot) :
    Call.Spares census (api.watched census slot).list api.list (fun _ => True)
      fun listed objects => ∀ o ∈ listed, o.Placed kind ∧
        census.Clear (slot (Upkeep.target kind o)) objects := by
  refine .of_does horderly.list (fun _ => []) (fun _ _ => rfl) (fun _ => List.forall_mem_nil _)
    (fun _ _ _ h => h.elim) ?_
  intro before after listed _ hlisted hspared o ho
  obtain ⟨place, d, hholds, hnames, hd, hmanaged⟩ := hlisted o ho
  obtain ⟨htarget, hplaced⟩ := Object.placed_of_names hholds hnames
  refine ⟨hplaced, hspared.clear _ (horderly.custom _) ?_⟩
  intro x hx
  rw [htarget, hd] at hx
  cases hx
  exact hmanaged

/-- Nothing was in the slot of an object that is created, so nothing foreign is there afterwards. -/
theorem spares_create (horderly : api.Orderly census kind slot) (scope : Option String)
    {new : Object Spec Status} (hnew : new.metadata.Labelled) :
    Call.Spares census ((api.watched census slot).create scope new) (api.create scope new)
      (fun _ => True) fun created objects => created.Names ⟨scope, new.metadata.anyName⟩ ∧
        census.Clear (slot ⟨scope, new.metadata.anyName⟩) objects := by
  have hclear : ∀ before : ι → Option D, before (slot ⟨scope, new.metadata.anyName⟩) = none →
      census.Clear (slot ⟨scope, new.metadata.anyName⟩) before := by
    intro before hfree d hd
    rw [hfree] at hd
    cases hd
  refine .of_does (horderly.create scope new) (fun _ => [.sent new.metadata]) (fun _ _ => rfl)
    (fun _ => List.forall_mem_singleton.2 hnew) ?_ ?_
  · rintro before _ - ⟨hfree, d, hd, rfl⟩
    exact .of_update (List.forall_mem_singleton.2 hnew) (hclear before hfree) (hd hnew)
  · intro before after created _ ⟨hfree, hnames⟩ hspared
    exact ⟨hnames, hspared.clear _ (horderly.custom _) (hclear before hfree)⟩

theorem spares_replace (horderly : api.Orderly census kind slot) (place : Target)
    {new : Object Spec Status} (hnew : new.metadata.Labelled) :
    Call.Spares census ((api.watched census slot).replace place new) (api.replace place new)
      (census.Clear (slot place)) fun replaced objects => replaced.Names place ∧
        census.Clear (slot place) objects := by
  refine .of_does (horderly.replace place new) (fun _ => [.sent new.metadata]) (fun _ _ => rfl)
    (fun _ => List.forall_mem_singleton.2 hnew) ?_ ?_
  · rintro before _ hclear ⟨d, hd, rfl⟩
    exact .of_update (List.forall_mem_singleton.2 hnew) hclear (hd hnew)
  · intro before after replaced hclear hnames hspared
    exact ⟨hnames, hspared.clear _ (horderly.custom _) hclear⟩

theorem spares_patchStatus (horderly : api.Orderly census kind slot) (place : Target)
    (patch : Json) :
    Call.Spares census ((api.watched census slot).patchStatus place patch)
      (api.patchStatus place patch) (census.Clear (slot place))
      fun patched objects => patched.Names place ∧ census.Clear (slot place) objects := by
  refine .of_does (horderly.patchStatus place patch) (fun _ => []) (fun _ _ => rfl)
    (fun _ => List.forall_mem_nil _) ?_ ?_
  · rintro before _ hclear ⟨old, d, hold, hd, rfl⟩
    exact .of_update (List.forall_mem_nil _) hclear (hd (hclear old hold))
  · intro before after patched hclear hnames hspared
    exact ⟨hnames, hspared.clear _ (horderly.custom _) hclear⟩

/-- A foreign object that goes with a removed one belongs to that one. -/
theorem spares_delete (horderly : api.Orderly census kind slot) (place : Target) :
    Call.Spares census ((api.watched census slot).delete place) (api.delete place)
      (census.Clear (slot place)) fun _ _ => True := by
  refine .of_does (horderly.delete place) (fun objects => [.removing objects (slot place)])
    (fun _ _ => rfl) (fun _ => List.forall_mem_singleton.2 trivial) ?_
    fun _ _ _ _ _ _ => trivial
  intro before after hclear ⟨old, hold, hafter⟩
  refine ⟨?_, ?_, List.forall_mem_singleton.2 trivial⟩
  · intro i d _ hd hforeign
    rcases hafter i with hsame | ⟨-, hself | ⟨uid, x, huid, hx, hbelongs⟩⟩
    · rw [hsame]
      exact .inl hd
    · -- the object that was asked for is not foreign, since its slot is clear
      rw [hself] at hd
      exact absurd (hclear d hd) hforeign
    · rw [hd] at hx
      cases hx
      exact .inr ⟨before, slot place, old, uid, .head _, hold, hclear old hold, huid, hbelongs⟩
  · intro i _ hi d hd
    rcases hafter i with hsame | ⟨hkept, -⟩
    · rw [hsame] at hd
      exact hi d hd
    · exact hkept hi d hd

/-! ### Writes of objects -/

theorem spares_writeStatus (horderly : api.Orderly census kind slot) (place : Target)
    (stored : Object Spec Status) (status : Option Status) :
    Call.Spares census
      (Upkeep.writeStatus kind (api.watched census slot) place.scope stored status)
      (Upkeep.writeStatus kind api place.scope stored status)
      (fun objects => stored.Names place ∧ census.Clear (slot place) objects)
      fun written objects => written.Names place ∧ census.Clear (slot place) objects := by
  cases status with
  | none =>
      refine .imp (.pure stored) fun before hbefore => ⟨hbefore, ?_⟩
      rintro _ after ⟨rfl, hafter⟩
      exact hafter
  | some status =>
      have hpatch := horderly.spares_patchStatus ⟨place.scope, stored.metadata.anyName⟩
        (kind.encodeStatus status).sorted
      refine .imp (hpatch.context _) ?_
      rintro before ⟨hnames, hclear⟩
      rw [hnames.1]
      exact ⟨hclear, fun _ _ h => h⟩

/-- Only an object that was stored gets a status. -/
theorem spares_created (horderly : api.Orderly census kind slot) {new : Object Spec Status}
    (hnew : new.Wanted kind) :
    Call.Spares census (Upkeep.create kind (api.watched census slot) new)
      (Upkeep.create kind api new) (fun _ => True) fun created objects =>
        created.Names (Upkeep.target kind new) ∧
        census.Clear (slot (Upkeep.target kind new)) objects := by
  have hstore := horderly.spares_create (kind.scope new.metadata.ns)
    (Object.labelled_of_managed hnew.managed)
  exact (hstore.context _).bind fun created =>
    horderly.spares_writeStatus (Upkeep.target kind new) created new.status

theorem spares_updated (horderly : api.Orderly census kind slot) {old new : Object Spec Status}
    (hold : old.Placed kind) (hnew : new.Wanted kind) :
    Call.Spares census (Upkeep.update kind (api.watched census slot) old new)
      (Upkeep.update kind api old new) (census.Clear (slot (Upkeep.target kind old)))
      fun updated objects => updated.Names (Upkeep.target kind old) ∧
        census.Clear (slot (Upkeep.target kind old)) objects := by
  rw [Upkeep.update, Upkeep.update]
  by_cases hunchanged : Upkeep.unchanged kind old new = true
  · rw [if_pos hunchanged, if_pos hunchanged]
    refine .imp (.pure old) fun before hclear => ⟨hclear, ?_⟩
    rintro _ after ⟨rfl, hafter⟩
    exact ⟨hold.2, hafter⟩
  · rw [if_neg hunchanged, if_neg hunchanged]
    have hrenewed : (Upkeep.renewed old new).metadata.Labelled :=
      Object.labelled_of_managed (Upkeep.managed_renewed hnew)
    have hstore := horderly.spares_replace (Upkeep.target kind old) hrenewed
    exact (hstore.context _).bind fun replaced =>
      horderly.spares_writeStatus (Upkeep.target kind old) replaced new.status

theorem spares_deleted (horderly : api.Orderly census kind slot) (old : Object Spec Status) :
    Call.Spares census (Upkeep.delete kind (api.watched census slot) old)
      (Upkeep.delete kind api old) (census.Clear (slot (Upkeep.target kind old)))
      fun _ _ => True :=
  (horderly.spares_delete (Upkeep.target kind old)).context _

end Api.Orderly

theorem Api.Orderly.spares_write {kind : Kind Spec Status} {slot : Target → ι}
    {api : Api σ Spec Status} (horderly : api.Orderly census kind slot)
    {x : Write (Object Spec Status)} (hx : x.Sound kind) :
    Call.Spares census (Upkeep.write kind (api.watched census slot) x) (Upkeep.write kind api x)
      (x.Clear census kind slot) fun _ _ => True := by
  cases x with
  | create new =>
      exact (horderly.spares_created hx).bind fun _ => (Call.Spares.pure ()).ignore
  | update old new =>
      exact (horderly.spares_updated hx.1 hx.2).bind fun _ => (Call.Spares.pure ()).ignore
  | delete old => exact horderly.spares_deleted old

namespace Child.Apis.Orderly

variable {apis : Child.Apis σ}

theorem spares_ingress (horderly : apis.Orderly census) (place : Target) {ingress : Ingress}
    (hlabels : ingress.metadata.Labelled) (i : ι) :
    Call.Spares census ((apis.watched census).ingresses place ingress)
      (apis.ingresses place ingress) (census.Clear i) fun _ _ => True := by
  refine .of_does (horderly.ingresses place ingress) (fun _ => [.sent ingress.metadata])
    (fun _ _ => rfl) (fun _ => List.forall_mem_singleton.2 hlabels) ?_ fun _ _ _ _ _ _ => trivial
  intro before after _ hsame
  refine ⟨?_, ?_, List.forall_mem_singleton.2 hlabels⟩
  · intro j d hcustom hd _
    rw [hsame j hcustom]
    exact .inl hd
  · intro j hcustom hj d hd
    rw [hsame j hcustom] at hd
    exact hj d hd

theorem spares_storeIngress (horderly : apis.Orderly census) (settings : ChildSettings)
    (edge : EdgeIngress) (i : ι) :
    Call.Spares census (storeIngress settings (apis.watched census) edge)
      (storeIngress settings apis edge) (census.Clear i) fun _ _ => True := by
  rw [storeIngress, storeIngress]
  cases hbuilt : ofEdge settings edge with
  | error e => exact .fail _
  | ok ingress =>
      have hlabels : ingress.metadata.Labelled := by
        obtain ⟨owner, domain, -, -, rfl⟩ := ofEdge_eq_ok hbuilt
        rfl
      exact (horderly.spares_ingress _ hlabels i).context _

/-- The connection is recorded with the edge ingress itself. -/
theorem spares_recordConnection (horderly : apis.Orderly census) (edge : EdgeIngress)
    (connection : Connection) :
    Call.Spares census (recordConnection (apis.watched census) edge connection)
      (recordConnection apis edge connection) (census.Clear (census.edges (placeOf edge)))
      fun _ _ => True := by
  rw [recordConnection, recordConnection]
  by_cases hrecorded : edge.status.bind EdgeIngressStatus.connection = some connection
  · rw [if_pos hrecorded, if_pos hrecorded]
    exact (Call.Spares.pure ()).ignore
  · rw [if_neg hrecorded, if_neg hrecorded]
    have hpatch := horderly.edges.spares_patchStatus (placeOf edge) (connectionPatch connection)
    refine (hpatch.attempt (horderly.edges.custom _)).bind ?_
    rintro (_ | _)
    · exact (Call.Spares.report _).ignore
    · exact (Call.Spares.pure ()).ignore

theorem placeOf_of_names {edge : EdgeIngress} {place : Target} {ns : String}
    (hnames : edge.Names place) (hscope : place.scope = some ns) : placeOf edge = place := by
  rw [placeOf, hnames.1, hnames.2, hscope, Option.getD_some, ← hscope]

theorem spares_renew (horderly : apis.Orderly census) (settings : ChildSettings)
    (edge : EdgeIngress) {place : Target} {ns : String} (hscope : place.scope = some ns) :
    Call.Spares census (renew settings (apis.watched census) edge) (renew settings apis edge)
      (fun objects => edge.Names place ∧ census.Clear (census.edges place) objects)
      fun _ _ => True := by
  have hstore := (horderly.spares_storeIngress settings edge
    (census.edges (placeOf edge))).attempt (horderly.edges.custom _)
  have hrenew : Call.Spares census (renew settings (apis.watched census) edge)
      (renew settings apis edge) (census.Clear (census.edges (placeOf edge)))
      fun _ _ => True := by
    refine hstore.bind fun result => ?_
    refine (horderly.spares_recordConnection edge _).bind fun _ => ?_
    cases result with
    | ok x => exact (Call.Spares.pure x).ignore
    | error message => exact .fail message
  refine hrenew.imp ?_
  rintro before ⟨hnames, hclear⟩
  rw [placeOf_of_names hnames hscope]
  exact ⟨hclear, fun _ _ h => h⟩

theorem spares_write (horderly : apis.Orderly census) (settings : ChildSettings)
    {x : Write EdgeIngress} (hx : x.Sound EdgeIngress.kind) :
    Call.Spares census (write settings (apis.watched census) x) (write settings apis x)
      (x.Clear census EdgeIngress.kind census.edges) fun _ _ => True := by
  cases x with
  | create new =>
      exact (horderly.edges.spares_created hx).bind fun edge =>
        horderly.spares_renew settings edge rfl
  | update old new =>
      exact (horderly.edges.spares_updated hx.1 hx.2).bind fun edge =>
        horderly.spares_renew settings edge rfl
  | delete old => exact horderly.edges.spares_deleted old

end Child.Apis.Orderly

/-! ### Passes -/

namespace Keeper

/-- The server does about the objects what it is relied on to do, and nothing else. -/
def Orderly (census : Census σ ι D) : Keeper σ Record Spec Status → Prop
  | catalogs api => api.Orderly census Catalog.kind census.catalogs
  | edges api => api.Orderly census EdgeIngress.kind census.edges
  | edgesWithChildren _ apis => apis.Orderly census

variable {keeper : Keeper σ Record Spec Status} {round : Round Record} {records : List Record}
  {listed : List (Object Spec Status)}

theorem Orderly.api (horderly : keeper.Orderly census) :
    keeper.api.Orderly census keeper.kind (keeper.slot census) := by
  cases keeper with
  | catalogs api => exact horderly
  | edges api => exact horderly
  | edgesWithChildren settings apis => exact horderly.edges

theorem spares_write (horderly : keeper.Orderly census) (round : Round Record)
    {x : Write (Object Spec Status)} (hx : x.Sound keeper.kind) :
    Call.Spares census (((keeper.watched census).sidesOf round).write x)
      ((keeper.sidesOf round).write x) (x.Clear census keeper.kind (keeper.slot census))
      fun _ _ => True := by
  cases keeper with
  | catalogs api => exact Api.Orderly.spares_write horderly hx
  | edges api => exact Api.Orderly.spares_write horderly hx
  | edgesWithChildren settings apis => exact Child.Apis.Orderly.spares_write horderly settings hx

theorem spares_listed (horderly : keeper.Orderly census) :
    Call.Spares census (Upkeep.list keeper.kind (keeper.watched census).api)
      (Upkeep.list keeper.kind keeper.api) (fun _ => True) fun listed objects =>
        ∀ o ∈ listed, o.Placed keeper.kind ∧
          census.Clear (keeper.slot census (Upkeep.target keeper.kind o)) objects := by
  rw [api_watched]
  exact horderly.api.spares_list.context _

/-- The writes of a pass spare the foreign objects. -/
theorem performAll_spares (horderly : keeper.Orderly census) (round : Round Record) {w : World σ}
    (hlisted : ∀ o ∈ listed, o.Placed keeper.kind ∧
      census.Clear (keeper.slot census (Upkeep.target keeper.kind o)) (census.objects w.state))
    (records : List Record) (notes : List (Deed ι D)) :
    let steps := keeper.steps round.now records listed
    ∃ deeds, (((keeper.watched census).sidesOf round).performAll (w.noted notes) steps).2 =
        ((keeper.sidesOf round).performAll w steps).2.noted (notes ++ deeds) ∧
      census.Spared deeds (census.objects w.state)
        (census.objects ((keeper.sidesOf round).performAll w steps).2.state) := by
  intro steps
  have hkind : ((keeper.watched census).sidesOf round).kind = (keeper.sidesOf round).kind := by
    rw [kind_sides, kind_sides, kind_watched]
  have htimeout :
      ((keeper.watched census).sidesOf round).timeout = (keeper.sidesOf round).timeout := by
    rw [timeout_sides, timeout_sides]
  have hwrite : ∀ x ∈ steps.filterMap Step.write?, Call.Traces
      (((keeper.watched census).sidesOf round).write x) ((keeper.sidesOf round).write x)
      (fun s _ deeds s' => x.Sparing census keeper.kind (keeper.slot census) true deeds s s')
      fun s deeds s' => x.Sparing census keeper.kind (keeper.slot census) false deeds s s' :=
    fun x hx => Call.Traces.imp (spares_write horderly round (sound_of_mem hlisted hx).1)
      (fun _ _ _ _ h hs => (h hs).1) fun _ _ _ h => h
  obtain ⟨runs, heq, hruns, -⟩ := Sides.performAll_runs hkind htimeout steps hwrite w notes
  have hmoves := hruns.imp fun _ _ _ _ _ _ h => h.1
  exact ⟨notesOf runs, congrArg Prod.snd heq, Census.spared_of_runs horderly.api.custom hmoves
    fun x hx => (sound_of_mem hlisted hx).2⟩

/-- A pass spares the foreign objects. -/
theorem pass_spares (keeper : Keeper σ Record Spec Status) (horderly : keeper.Orderly census)
    (round : Round Record) (w : World σ) (notes : List (Deed ι D)) :
    ∃ deeds, (keeper.watched census).pass round (w.noted notes) =
        (keeper.pass round w).noted (notes ++ deeds) ∧
      census.Spared deeds (census.objects w.state)
        (census.objects (keeper.pass round w).state) := by
  cases hanswer : round.answer with
  | error stop =>
      have hdesired := keeper.desired_sides round.timeout round.now (.error stop) w
      have hdesired' := (keeper.watched census).desired_sides round.timeout round.now (.error stop)
        (w.noted notes)
      rw [pass, pass, hanswer, Sides.pass_of_platform_error hdesired,
        Sides.pass_of_platform_error hdesired', kind_sides, kind_sides, timeout_sides,
        timeout_sides, kind_watched]
      refine ⟨[], ?_, .nil⟩
      rw [List.append_nil]
      rfl
  | ok records =>
      obtain ⟨first, hlist, hdone⟩ := keeper.spares_listed horderly w notes
      cases hcall : Upkeep.list keeper.kind keeper.api w with
      | mk answer mid =>
      rw [hcall] at hlist hdone
      rw [← keeper.kind_watched census] at hlist
      cases answer with
      | error stop =>
          rw [pass_of_unlisted hanswer hcall, pass_of_unlisted hanswer hlist, kind_watched]
          exact ⟨first, rfl, hdone trivial⟩
      | ok listed =>
          obtain ⟨hspared, hlisted⟩ := hdone trivial
          obtain ⟨rest, heq, hspared'⟩ :=
            performAll_spares horderly round hlisted records (notes ++ first)
          rw [pass_of_listed hanswer hcall, pass_of_listed hanswer hlist, steps,
            materialize_watched]
          refine ⟨first ++ rest, ?_, hspared.trans hspared'⟩
          rw [← List.append_assoc]
          exact heq

end Keeper

end EdgeAgent
