import EdgeAgent.Proofs.Cluster.Fulfilled
import EdgeAgent.Proofs.Cluster.Slot
import EdgeAgent.Proofs.Dict

/-! What a pass repairs. However the child ingresses lay before it, when everything succeeds each
wanted edge ingress that is stored in the end has had its child ingress stored once, made of it as it
is stored in the end, and its connection is up. A deletion may take other edge ingresses along; those
that stay keep the child ingresses that they own. -/

namespace EdgeAgent

open Sent (Missed)

variable {σ ι D : Type}

/-! ### Deletions -/

namespace Child

/-- Edge ingresses that differ only in what the server says of them. -/
structure Alike (o old : EdgeIngress) : Prop where
  uid : o.metadata.uid = old.metadata.uid
  labels : o.metadata.labels = old.metadata.labels
  spec : o.spec = old.spec
  status : o.status = old.status

/-- The edge ingresses of a later state are those of an earlier one, and still have the child ingresses
that they own. -/
def Remain (stored : σ → Store EdgeIngressSpec EdgeIngressStatus)
    (children : σ → Target → Option Stored) (s s' : σ) : Prop :=
  ∀ place o, stored s' place = some o → ∃ old, stored s place = some old ∧ Alike o old ∧
    ∀ child, children s place = some child → child.owners = old.metadata.uid.toList →
      children s' place = some child

/-- What is relied on of a server that removes other objects along with a deleted one. -/
structure Apis.Cascading (apis : Apis σ) (stored : σ → Store EdgeIngressSpec EdgeIngressStatus)
    (children : σ → Target → Option Stored) : Prop where
  faithful : apis.Faithful stored
  lasting : apis.edges.Lasting stored
  owning : apis.Owning stored children
  delete : ∀ place w, succeeded (apis.edges.delete place w).1 = true →
    Remain stored children w.state (apis.edges.delete place w).2.state

variable {stored : σ → Store EdgeIngressSpec EdgeIngressStatus} {children : σ → Target → Option Stored}
  {apis : Apis σ} {settings : ChildSettings} {s mid s' : σ} {place : Target}
  {o old edge : EdgeIngress} {ingress : Ingress}

theorem Alike.face_eq (h : Alike o old) :
    o.face EdgeIngress.reading = old.face EdgeIngress.reading := by
  rw [Object.face, Object.face, Object.managed, Object.managed, h.uid, h.labels, h.spec, h.status]

theorem Remain.refl (s : σ) : Remain stored children s s :=
  fun _ o ho => ⟨o, ho, ⟨rfl, rfl, rfl, rfl⟩, fun _ hchild _ => hchild⟩

theorem Remain.trans (h : Remain stored children s mid) (h' : Remain stored children mid s') :
    Remain stored children s s' := by
  intro place o ho
  obtain ⟨between, hbetween, ⟨huid, hlabels, hspec, hstatus⟩, hkept⟩ := h' place o ho
  obtain ⟨old, hold, ⟨huid', hlabels', hspec', hstatus'⟩, hkept'⟩ := h place between hbetween
  refine ⟨old, hold, ⟨huid.trans huid', hlabels.trans hlabels', hspec.trans hspec',
    hstatus.trans hstatus'⟩, fun child hchild howners => ?_⟩
  apply hkept child (hkept' child hchild howners)
  rw [howners, huid']

/-- Only what stays is left of the objects, and it stays as it is. -/
theorem remain_of_empties {along : Target → Prop} (hkept : Kept stored children s s')
    (h : Empties stored none along place s s') : Remain stored children s s' := by
  intro q o ho
  have hbefore : stored s q = some o := by
    have hleft : stored s' q ≠ none := by
      rw [ho]
      exact Option.some_ne_none o
    exact (h.eq_of_ne hleft).symm.trans ho
  refine ⟨o, hbefore, ⟨rfl, rfl, rfl, rfl⟩, fun child hchild howners => ?_⟩
  rcases hkept q with hsame | ⟨-, howner⟩
  · rw [hsame, hchild]
  · rw [howner q o child hbefore hchild howners] at ho
    cases ho

/-- What is relied on elsewhere is enough. -/
theorem Apis.cascading_of_collects {census : Census σ ι D}
    (hlasting : (Keeper.edgesWithChildren settings apis).Lasting stored children)
    (hcollects : (Keeper.edgesWithChildren settings apis).Collects census stored children) :
    apis.Cascading stored children := by
  obtain ⟨hfaithful, hlasting, howning⟩ := hlasting
  refine ⟨hfaithful, hlasting, howning, fun place w hok => ?_⟩
  have hdeleted := hcollects.api place w
  change Outcome _ _ (apis.edges.delete place w).1 at hdeleted
  cases hanswer : (apis.edges.delete place w).1 with
  | ok x =>
      rw [hanswer] at hdeleted
      exact remain_of_empties (hcollects.children rfl place w) hdeleted
  | error stop =>
      rw [hanswer] at hok
      cases hok

/-! ### What a child ingress says -/

/-- A child ingress says where its edge ingress lies, which policy that names, and which uid it has. -/
structure Mirrors (edge : EdgeIngress) (ingress : Ingress) : Prop where
  name : ingress.metadata.name = edge.metadata.name
  ns : ingress.metadata.ns = edge.metadata.ns
  policy : (ingress.metadata.annotations.bind fun annotations =>
    annotations.find? policyAnnotation) = edge.spec.acp.map (·.name)
  owner : ∃ owner, ingress.metadata.ownerReferences = some [owner] ∧
    edge.metadata.uid = some owner.uid

theorem find?_policyAnnotation (settings : ChildSettings) (spec : EdgeIngressSpec) :
    (annotations settings spec).find? policyAnnotation = spec.acp.map (·.name) := by
  have hbase : ((Dict.empty.insert tlsAnnotation "true").insert entryPointsAnnotation
      settings.entryPoint).find? policyAnnotation = none := by
    rw [Dict.find?_insert, if_neg (by decide), Dict.find?_insert, if_neg (by decide),
      Dict.find?_empty]
  rw [annotations]
  cases spec.acp with
  | none => exact hbase
  | some acp => exact (Dict.find?_insert _ _ _ _).trans (if_pos rfl)

theorem mirrors_of_ofEdge (hname : edge.metadata.name = some edge.metadata.anyName)
    (h : ofEdge settings edge = .ok ingress) : Mirrors edge ingress := by
  obtain ⟨owner, domain, howner, -, rfl⟩ := ofEdge_eq_ok h
  refine ⟨hname.symm, rfl, find?_policyAnnotation settings edge.spec, owner, rfl, ?_⟩
  rw [owner?, hname] at howner
  cases huid : edge.metadata.uid with
  | none =>
      rw [huid] at howner
      cases howner
  | some uid =>
      rw [huid] at howner
      cases howner
      rfl

end Child

/-! ### Passes -/

namespace Keeper

section

variable {Record Spec Status : Type} {keeper : Keeper σ Record Spec Status}
  {stored : σ → Store Spec Status} {children : σ → Target → Option Child.Stored} {s s' : σ}
  {listed news : List (Object Spec Status)} {runs : List (Bool × List Sent)}

/-- Of the child ingresses that are made of objects, those of one place are made of what lies there. -/
theorem filter_childrenAt (objects : Store Spec Status) {places : List Target}
    (hplaces : places.Nodup) {place : Target} (hplace : place ∈ places) :
    (keeper.childrenAt objects places).filter (fun c => c.1 = place) =
      ((objects place).bind (keeper.childAt place)).toList := by
  have hfirst : ∀ other, ∀ c ∈ ((objects other).bind (keeper.childAt other)).toList, c.1 = other := by
    intro other c hc
    obtain ⟨o, -, hchild⟩ := Option.bind_eq_some_iff.1 (Option.mem_toList.1 hc)
    rw [childAt] at hchild
    split at hchild <;> cases hchild
    rfl
  induction places with
  | nil => cases hplace
  | cons other places ih =>
      rw [List.nodup_cons] at hplaces
      rw [childrenAt, List.flatMap_cons, List.filter_append, ← childrenAt]
      by_cases hother : other = place
      · rw [hother] at hplaces ⊢
        have hrest : (keeper.childrenAt objects places).filter (fun c => c.1 = place) = [] := by
          refine List.filter_eq_nil_iff.2 fun c hc heq => hplaces.1 ?_
          obtain ⟨q, hq, hc⟩ := List.mem_flatMap.1 hc
          rw [← of_decide_eq_true heq, hfirst q c hc]
          exact hq
        rw [hrest, List.append_nil, List.filter_eq_self.2]
        exact fun c hc => decide_eq_true (hfirst place c hc)
      · rw [ih hplaces.2 ((List.mem_cons.1 hplace).resolve_left (Ne.symm hother)),
          List.filter_eq_nil_iff.2, List.nil_append]
        intro c hc heq
        exact hother ((hfirst other c hc).symm.trans (of_decide_eq_true heq))

end

variable {settings : ChildSettings} {apis : Child.Apis σ}
  {stored : σ → Store EdgeIngressSpec EdgeIngressStatus}
  {children : σ → Target → Option Child.Stored} {round : Round EdgeIngressRecord}
  {records : List EdgeIngressRecord} {s s' : σ} {w : World σ}

theorem childAt_of_ofEdge {place : Target} {o : EdgeIngress} {ingress : Ingress}
    (h : Child.ofEdge settings o = .ok ingress) :
    (edgesWithChildren settings apis).childAt place o = some (place, ingress) := by
  have hchild : (edgesWithChildren settings apis).child? o = some (.ok ingress) := congrArg some h
  rw [childAt, hchild]

theorem lasting_of_cascading (h : apis.Cascading stored children) :
    (edgesWithChildren settings apis).Lasting stored children :=
  ⟨h.faithful, h.lasting, h.owning⟩

/-- What a deletion does where it may take others along: it is not answered, or all that is left is
what stays. -/
def Spares (stored : σ → Store EdgeIngressSpec EdgeIngressStatus)
    (children : σ → Target → Option Child.Stored) (_ : EdgeIngress) (es : List Sent) (s s' : σ) :
    Prop :=
  Missed es ∨ Child.Remain stored children s s'

theorem spares_of_cascading (h : apis.Cascading stored children) (old : EdgeIngress) (w : World σ) :
    Spares stored children old
      (Sent.note .delete (apis.edges.delete (Upkeep.target EdgeIngress.kind old) w).1) w.state
      (apis.edges.delete (Upkeep.target EdgeIngress.kind old) w).2.state := by
  have hdeleted := h.delete (Upkeep.target EdgeIngress.kind old) w
  cases hanswer : (apis.edges.delete (Upkeep.target EdgeIngress.kind old) w).1 with
  | ok x =>
      rw [hanswer] at hdeleted
      exact .inr (hdeleted rfl)
  | error stop => exact .inl ⟨_, .head _, rfl⟩

/-- Answered deletions keep the child ingresses of the edge ingresses that stay. -/
theorem remain_of_deletions {deletions : List EdgeIngress} {runs : List (Bool × List Sent)}
    (hruns : Runs ((edgesWithChildren settings apis).Does stored children (Spares stored children))
      (deletions.map .delete) runs s s') (hanswered : ¬Missed (notesOf runs)) :
    Child.Remain stored children s s' := by
  induction deletions generalizing s runs with
  | nil =>
      cases hruns
      exact .refl _
  | cons old deletions ih =>
      cases hruns with
      | @cons _ _ run runs _ mid _ hdoes hlater =>
          rw [notesOf_cons, Sent.missed_append, not_or] at hanswered
          exact (hdoes.2.resolve_left hanswered.1).trans (ih hlater hanswered.2)

/-- The wanted edge ingresses are written before the deletions, each with its child ingress. -/
theorem Course.written {listed : List EdgeIngress} {mid : σ} {runs : List (Bool × List Sent)}
    (h : (edgesWithChildren settings apis).Course stored children
      ((edgesWithChildren settings apis).Does stored children (Spares stored children)) round records w
      listed mid runs)
    (hcascading : apis.Cascading stored children) (hanswered : ¬Missed (notesOf runs))
    (hok : ∀ run ∈ runs, run.1 = true) :
    ∃ between, Child.Remain stored children between
        ((edgesWithChildren settings apis).pass round w).state ∧
      (((edgesWithChildren settings apis).pass round w).state = between ∨
        ∃ e ∈ notesOf runs, e.verb = .delete) ∧
      Asked EdgeIngress.kind ((edgesWithChildren settings apis).objects round.now records) ∧
      Sent.children (notesOf runs) = (edgesWithChildren settings apis).childrenAt (stored between)
        (((edgesWithChildren settings apis).objects round.now records).map
          (Upkeep.target EdgeIngress.kind)) ∧
      ∀ new ∈ (edgesWithChildren settings apis).objects round.now records, ∃ o ingress,
        stored between (Upkeep.target EdgeIngress.kind new) = some o ∧ o.managed = true ∧
        Child.ofEdge settings o = .ok ingress ∧
        children between (Upkeep.target EdgeIngress.kind new) = some (.of ingress) ∧
        (EdgeIngress.reading o.status).connection = some .up := by
  obtain ⟨deletions, between, first, rest, rfl, hparts⟩ := h.parts
  have hdeletes := hparts.deletes.imp fun _ _ _ _ _ _ h => h.1
  rw [notesOf_append, Sent.missed_append, not_or] at hanswered
  rw [List.forall_mem_append] at hok
  obtain ⟨hnone, hsent⟩ := sent_of_deletions hdeletes
  obtain ⟨hasked, hchildren, hattended⟩ := attended_of_requests (lasting_of_cascading hcascading)
    h.lists_mid (fun new => wanted_of_mem) hparts.writes hanswered.1 hok.1
  refine ⟨between, remain_of_deletions hdeletes hanswered.2, hsent.imp_right ?_, hasked, ?_,
    fun new hnew => ?_⟩
  · rintro ⟨e, he, hdelete⟩
    rw [notesOf_append]
    exact ⟨e, List.mem_append_right _ he, hdelete⟩
  · rw [notesOf_append, Sent.children_append, hnone, List.append_nil]
    exact hchildren
  · obtain ⟨o, child, sent, hseat, hmanaged, -, hattended⟩ := hattended new hnew
    cases hattended with
    | alone hnone => cases hnone
    | @linked ingress hingress hup =>
        have hchild : Object.owned (stored between (Upkeep.target EdgeIngress.kind new))
          (children between (Upkeep.target EdgeIngress.kind new)) = some (.of ingress) :=
            congrArg Seat.child hseat
        exact ⟨o, ingress, congrArg Seat.object hseat, hmanaged, Option.some.inj hingress,
          Object.owned_eq_some hchild, hup⟩

/-- A pass in which everything succeeds gives each wanted edge ingress that is stored after it its
child ingress, whatever was stored before it; and each is stored after it unless something was
deleted. -/
theorem repaired_pass (hcascading : apis.Cascading stored children)
    (hanswer : round.answer = .ok records)
    (hsucceeded : (((edgesWithChildren settings apis).sidesOf round).pass w).1.Succeeded)
    (hanswered : ∀ e ∈ (edgesWithChildren settings apis).sent [round] w, e.answered = true)
    {new : EdgeIngress}
    (hnew : new ∈ (edgesWithChildren settings apis).objects round.now records) :
    ((∃ place o, stored ((edgesWithChildren settings apis).pass round w).state place = some o ∧
        o.key = new.key) ∨
      ∃ e ∈ (edgesWithChildren settings apis).sent [round] w, e.verb = .delete) ∧
    ∀ place o, stored ((edgesWithChildren settings apis).pass round w).state place = some o →
      o.key = new.key → o.managed = true ∧ ∃ ingress, Child.ofEdge settings o = .ok ingress ∧
        Child.Mirrors o ingress ∧
        (Sent.children ((edgesWithChildren settings apis).sent [round] w)).filter
          (fun c => c.1 = place) = [(place, ingress)] ∧
        children ((edgesWithChildren settings apis).pass round w).state place =
          some (.of ingress) ∧
        o.status.bind EdgeIngressStatus.connection = some .up := by
  have hlasting : (edgesWithChildren settings apis).Lasting stored children :=
    lasting_of_cascading hcascading
  have hfaithful : apis.edges.Faithful EdgeIngress.kind stored := hcascading.faithful.edges
  obtain ⟨listed, mid, runs, hsent, hmissed, hcourse⟩ :=
    course_of_answered hlasting (spares_of_cascading hcascading) hanswer hanswered
  obtain ⟨between, hremain, hdeletes, hasked, hchildren, hwritten⟩ :=
    hcourse.written hcascading hmissed (hcourse.succeeded hsucceeded)
  obtain ⟨old, ingress, hold, hmanaged, hingress, hchild, hup⟩ := hwritten new hnew
  rw [hsent]
  refine ⟨?_, fun place o ho hkey => ?_⟩
  · rcases hdeletes with hsame | ⟨e, he, hdelete⟩
    · rw [← hsame] at hold
      refine .inl ⟨_, old, hold, ?_⟩
      rw [hfaithful.key_eq hold, hasked.key new hnew]
    · exact .inr ⟨e, .tail _ he, hdelete⟩
  obtain ⟨was, hwas, halike, hkept⟩ := hremain place o ho
  -- The object lies where the wanted one was written, since both places are plain.
  have hplace : Upkeep.target EdgeIngress.kind new = place := by
    apply (hasked.plain new hnew).eq_of_key (hlasting.plain between place was hwas)
    rw [← hasked.key new hnew, ← hkey, hfaithful.key_eq ho]
  rw [hplace] at hold hchild
  obtain rfl : was = old := Option.some.inj (hwas.symm.trans hold)
  have hsame : Child.ofEdge settings o = .ok ingress := by
    rw [Child.ofEdge_eq_of_face hfaithful ho hwas halike.face_eq, hingress]
  refine ⟨?_, ingress, hsame, Child.mirrors_of_ofEdge ?_ hsame, ?_, ?_, ?_⟩
  · rw [← hmanaged]
    exact congrArg Face.managed halike.face_eq
  · rw [hfaithful.anyName_eq ho]
    exact (hfaithful.placed _ _ _ ho).2.1
  · have hmem : place ∈ ((edgesWithChildren settings apis).objects round.now records).map
        (Upkeep.target EdgeIngress.kind) := List.mem_map.2 ⟨new, hnew, hplace⟩
    change (Sent.children (notesOf runs)).filter _ = _
    rw [hchildren, filter_childrenAt _ hasked.map_place hmem, hwas, Option.bind_some,
      childAt_of_ofEdge hingress, Option.toList_some]
  · exact hkept (.of ingress) hchild (Child.owners_of_ofEdge hingress)
  · rw [halike.status, ← EdgeIngress.connection_reading, hup]

end Keeper

namespace Slot

/-- A slot with the edge ingress of a record, as a pass has left it but for its connection, which is
down, and for its child ingress, which was edited. -/
def neglected : World Slot :=
  let left := (keeper.pass (declaring "a.example.com") vacant).state
  ⟨{ edge := left.edge.bind fun x => x.patched? (Child.connectionPatch .down)
     child := left.child.map fun child => { child with annotations := none, owners := [] } }, []⟩

/-- The edge ingress is not replaced, but its child ingress and its connection are repaired. -/
theorem repaired_pass_neglected :
    ((stored neglected.state place).bind fun o => o.status.bind EdgeIngressStatus.connection) =
      some .down ∧
    ((keeper.sidesOf (declaring "a.example.com")).pass neglected).1.Succeeded ∧
    (∀ e ∈ keeper.sent [declaring "a.example.com"] neglected,
      e.answered = true ∧ e.verb ≠ .replace ∧ e.verb ≠ .delete) ∧
    ∃ o ingress, stored (keeper.pass (declaring "a.example.com") neglected).state place = some o ∧
      Child.ofEdge {} o = .ok ingress ∧
      children neglected.state place ≠ some (.of ingress) ∧
      children (keeper.pass (declaring "a.example.com") neglected).state place =
        some (.of ingress) ∧
      o.status.bind EdgeIngressStatus.connection = some .up := by
  have hsucceeded : ((keeper.sidesOf (declaring "a.example.com")).pass neglected).1.Succeeded := by
    decide +kernel
  have hsent : ∀ e ∈ keeper.sent [declaring "a.example.com"] neglected,
      e.answered = true ∧ e.verb ≠ .replace ∧ e.verb ≠ .delete := by decide +kernel
  have hedited : (children neglected.state place).map Child.Stored.owners = some [] := by
    decide +kernel
  obtain ⟨new, hnew⟩ : ∃ new, new ∈ keeper.objects (declaring "a.example.com").now
      [recordOf "a.example.com"] := by
    rw [objects_declaring (by decide)]
    exact ⟨_, .head _⟩
  have hcascading := Child.Apis.cascading_of_collects lasting collects
  obtain ⟨hstored, hrepaired⟩ := Keeper.repaired_pass hcascading rfl hsucceeded
    (fun e he => (hsent e he).1) hnew
  obtain ⟨target, o, ho, hkey⟩ : ∃ target o, stored (keeper.pass (declaring "a.example.com")
      neglected).state target = some o ∧ o.key = new.key := by
    refine hstored.resolve_right ?_
    rintro ⟨e, he, hdelete⟩
    exact (hsent e he).2.2 hdelete
  obtain ⟨-, ingress, hingress, -, -, hchild, hup⟩ := hrepaired target o ho hkey
  obtain ⟨rfl, x, -, rfl⟩ := stored_eq_some ho
  refine ⟨by decide +kernel, hsucceeded, hsent, x.object, ingress, ho, hingress, fun hsame => ?_,
    hchild, hup⟩
  rw [hsame, Option.map_some, Child.owners_of_ofEdge hingress] at hedited
  cases hedited

end Slot

end EdgeAgent
