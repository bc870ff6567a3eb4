import EdgeAgent.Proofs.Cluster.Fulfilled
import EdgeAgent.Proofs.Cluster.Shelf
import EdgeAgent.Proofs.Cluster.Slot

/-! A second pass over the same records. Where what is wanted is fulfilled, every wanted object has its
fingerprint recorded, so no object is written. The child ingresses are stored again as they are, and
their connections are recorded already. Only an object that the first pass has lost with a deleted one
is written by the second pass. -/

namespace EdgeAgent

open Sent (Missed)

variable {σ ι D Record Spec Status : Type}

namespace Sent

/-- The request that stores a child ingress at a place, answered. -/
def applied (c : Target × Ingress) : Sent :=
  { verb := .apply, answered := true, child := some c }

end Sent

/-- What an object is but for its status. -/
def Object.declared (o : Object Spec Status) : Metadata × Spec :=
  (o.metadata, o.spec)

/-! ### Storing a child ingress again -/

namespace Child

variable {stored : σ → Store EdgeIngressSpec EdgeIngressStatus} {children : σ → Target → Option Stored}
  {apis : Apis σ} {settings : ChildSettings} {edge : EdgeIngress} {ingress : Ingress}

/-- A connection is recorded by patches of the status alone. -/
theorem verbs_recordConnection (apis : Apis σ) (edge : EdgeIngress) (connection : Connection) :
    Call.Traces (recordConnection apis.traced edge connection)
      (recordConnection apis edge connection)
      (fun _ _ es _ => ∀ e ∈ es, e.verb = .patchStatus ∧ e.child = none)
      fun _ es _ => ∀ e ∈ es, e.verb = .patchStatus ∧ e.child = none := by
  rw [recordConnection, recordConnection]
  split
  · refine Call.Traces.imp (.pure ()) ?_ fun _ _ _ h => h.elim
    rintro s _ es s' ⟨-, rfl, -⟩
    exact List.forall_mem_nil _
  · have hpatch : Call.Traces
        (apis.traced.edges.patchStatus (placeOf edge) (connectionPatch connection))
        (apis.edges.patchStatus (placeOf edge) (connectionPatch connection))
        (fun _ _ es _ => ∀ e ∈ es, e.verb = .patchStatus ∧ e.child = none)
        fun _ es _ => ∀ e ∈ es, e.verb = .patchStatus ∧ e.child = none :=
      Call.Traces.of_noting _ (fun _ _ _ => List.forall_mem_singleton.2 ⟨rfl, rfl⟩)
        fun _ _ _ => List.forall_mem_singleton.2 ⟨rfl, rfl⟩
    refine Call.Traces.imp (hpatch.attempt.bind (traces_reported edge)) ?_ ?_
    · rintro s _ es s' ⟨result, mid, first, rest, rfl, hfirst, rfl, rfl⟩
      rw [List.append_nil]
      cases result <;> exact hfirst
    · rintro s es s' (hfirst | ⟨_, _, _, _, _, _, hnever⟩)
      · exact hfirst
      · exact hnever.elim

/-- The child ingress of a connected edge ingress is stored again by one request; there are others
only if that is not answered. -/
theorem traces_renew_again (hfaithful : apis.Faithful stored) (howning : apis.Owning stored children)
    (hingress : ofEdge settings edge = .ok ingress)
    (hup : (EdgeIngress.reading edge.status).connection = some .up) :
    Call.Traces (renew settings apis.traced edge) (renew settings apis edge)
      (fun s _ es s' => es = [Sent.applied (placeOf edge, ingress)] ∧ stored s' = stored s ∧
        children s' = Function.update (children s) (placeOf edge) (some (.of ingress)))
      fun _ es _ => Missed es ∧ Sent.children es = [(placeOf edge, ingress)] ∧
        ∀ e ∈ es, e.verb = .apply ∨ e.verb = .patchStatus := by
  have hrecorded : edge.status.bind EdgeIngressStatus.connection = some .up := by
    rw [← EdgeIngress.connection_reading, hup]
  have hconclude : ∀ result : Except String Unit, Call.Traces
      ((recordConnection apis.traced edge (connectionOf result)).bind fun _ => Call.ofExcept result)
      ((recordConnection apis edge (connectionOf result)).bind fun _ => Call.ofExcept result)
      (fun s _ es s' => succeeded result = true ∧ es = [] ∧ s' = s)
      fun _ es _ => succeeded result = false ∧ ∀ e ∈ es, e.verb = .patchStatus ∧ e.child = none := by
    rintro (message | x)
    · refine Call.Traces.imp ((verbs_recordConnection apis edge .down).bind
        fun _ => Call.Traces.fail message) ?_ ?_
      · rintro s _ es s' ⟨_, _, _, _, _, _, hnever⟩
        exact hnever.elim
      · rintro s es s' (hes | ⟨_, mid, first, rest, rfl, hfirst, rfl, rfl⟩)
        · exact ⟨rfl, hes⟩
        · rw [List.append_nil]
          exact ⟨rfl, hfirst⟩
    · have hpure : ∀ {τ : Type} (apis : Apis τ),
          recordConnection apis edge .up = Call.pure () := fun _ => if_pos hrecorded
      rw [connectionOf, hpure, hpure]
      refine Call.Traces.imp ((Call.Traces.pure ()).bind fun _ => Call.Traces.pure x) ?_ ?_
      · rintro s _ es s' ⟨_, mid, first, rest, rfl, ⟨-, rfl, rfl⟩, -, rfl, rfl⟩
        exact ⟨rfl, rfl, rfl⟩
      · rintro s es s' (hnever | ⟨_, _, _, _, _, _, hnever⟩) <;> exact hnever.elim
  refine Call.Traces.imp
    ((traces_storeIngress hfaithful howning hingress).attempt.bind hconclude) ?_ ?_
  · rintro s _ es s' ⟨result, mid, first, rest, rfl, hfirst, hok, rfl, rfl⟩
    cases result with
    | error message => cases hok
    | ok x =>
        obtain ⟨hsame, rfl, hchildren⟩ := hfirst
        exact ⟨rfl, hsame, hchildren⟩
  · rintro s es s' (⟨-, ⟨stop, rfl⟩, -⟩ |
      ⟨result, mid, first, rest, rfl, hfirst, hfailed, hrest⟩)
    · exact ⟨⟨_, .head _, rfl⟩, rfl, List.forall_mem_singleton.2 (.inl rfl)⟩
    · cases result with
      | ok x => cases hfailed
      | error message =>
          obtain ⟨-, ⟨stop, rfl⟩, -⟩ := hfirst
          have hnone : Sent.children rest = [] :=
            List.filterMap_eq_nil_iff.2 fun e he => (hrest e he).2
          refine ⟨⟨_, .head _, rfl⟩, ?_, List.forall_mem_append.2 ⟨?_, fun e he => ?_⟩⟩
          · rw [Sent.children_append, hnone]
            rfl
          · exact List.forall_mem_singleton.2 (.inl rfl)
          · exact .inr (hrest e he).1

end Child

namespace Keeper

/-- The child ingresses that a write stores again. -/
def supplied (keeper : Keeper σ Record Spec Status) :
    Write (Object Spec Status) → List (Target × Ingress)
  | .update old _ => (keeper.childAt (Upkeep.target keeper.kind old) old).toList
  | _ => []

/-- A write that leaves its object as it is, which is connected if it has a child ingress. -/
def Idle (keeper : Keeper σ Record Spec Status) : Write (Object Spec Status) → Prop
  | .update old new => Upkeep.unchanged keeper.kind old new = true ∧
    keeper.kind.Holds ⟨old.metadata.ns, old.metadata.anyName⟩ ∧
    ∃ sent child, keeper.Attended (Upkeep.target keeper.kind old) old true sent child
  | _ => False

/-- The child ingresses that a write stores again are stored. -/
def Supplies (keeper : Keeper σ Record Spec Status)
    (children : σ → Target → Option Child.Stored) (s : σ) (x : Write (Object Spec Status)) : Prop :=
  keeper.attends = true → ∀ c ∈ keeper.supplied x, children s c.1 = some (.of c.2)

/-- What an idle write does: no object is written, and nothing is changed unless a request is not
answered. -/
structure Repeats (keeper : Keeper σ Record Spec Status) (stored : σ → Store Spec Status)
    (children : σ → Target → Option Child.Stored) (x : Write (Object Spec Status)) (es : List Sent)
    (s s' : σ) : Prop where
  sent : Sent.children es = keeper.supplied x
  verbs : ∀ e ∈ es, e.verb = .apply ∨ e.verb = .patchStatus
  done : keeper.Supplies children s x → Missed es ∨
    es = (keeper.supplied x).map Sent.applied ∧ keeper.Stays stored children s s'

variable {keeper : Keeper σ Record Spec Status} {stored : σ → Store Spec Status}
  {children : σ → Target → Option Child.Stored} {census : Census σ ι D} {round again : Round Record}
  {records : List Record} {s s' : σ} {w : World σ} {listed news : List (Object Spec Status)}
  {writes : List (Write (Object Spec Status))} {runs : List (Bool × List Sent)}
  {old new : Object Spec Status}

/-! ### Idle writes -/

theorem update_of_unchanged {τ : Type} {kind : Kind Spec Status}
    (h : Upkeep.unchanged kind old new = true) (api : Api τ Spec Status) :
    Upkeep.update kind api old new = Call.pure old :=
  if_pos h

theorem traces_write_idle_alone (hattends : keeper.attends = false) (timeout : Nat)
    (now : Nat → Timestamp) (platform : Call σ (List Record))
    (platform' : Call (σ × List Sent) (List Record)) (hidle : keeper.Idle (.update old new)) :
    Call.Traces ((keeper.traced.sides timeout now platform').write (.update old new))
      ((keeper.sides timeout now platform).write (.update old new))
      (fun s _ es s' => keeper.Repeats stored children (.update old new) es s s')
      fun s es s' => keeper.Repeats stored children (.update old new) es s s' := by
  have hattends' : keeper.traced.attends = false := by rw [attends_traced, hattends]
  have hnone : keeper.supplied (.update old new) = [] := by
    rw [supplied, childAt, child?_of_alone hattends]
    rfl
  rw [write_of_alone hattends, write_of_alone hattends', kind_traced, api_traced, Upkeep.write,
    Upkeep.write, update_of_unchanged hidle.1, update_of_unchanged hidle.1]
  refine Call.Traces.imp ((Call.Traces.pure old).bind fun _ => Call.Traces.pure ()) ?_ ?_
  · rintro s _ es s' ⟨_, mid, first, rest, rfl, ⟨-, rfl, rfl⟩, -, rfl, rfl⟩
    refine ⟨hnone.symm, List.forall_mem_nil _, fun _ => .inr ⟨?_, rfl, fun _ => rfl⟩⟩
    rw [hnone]
    rfl
  · rintro s es s' (hnever | ⟨_, _, _, _, _, _, hnever⟩) <;> exact hnever.elim

theorem traces_write_idle_children {settings : ChildSettings} {apis : Child.Apis σ}
    {stored : σ → Store EdgeIngressSpec EdgeIngressStatus} {old new : EdgeIngress}
    (hlasting : (edgesWithChildren settings apis).Lasting stored children)
    (hidle : (edgesWithChildren settings apis).Idle (.update old new)) :
    Call.Traces (Child.write settings apis.traced (.update old new))
      (Child.write settings apis (.update old new))
      (fun s _ es s' => (edgesWithChildren settings apis).Repeats stored children (.update old new) es
        s s')
      fun s es s' => (edgesWithChildren settings apis).Repeats stored children (.update old new) es
        s s' := by
  obtain ⟨hunchanged, hholds, sent, child, hattended⟩ := hidle
  obtain ⟨ingress, hingress, hup⟩ : ∃ ingress, Child.ofEdge settings old = .ok ingress ∧
      (EdgeIngress.reading old.status).connection = some .up := by
    cases hattended with
    | alone hnone => cases hnone
    | @linked ingress hingress hup => exact ⟨ingress, Option.some.inj hingress, hup⟩
  have hplace : Child.placeOf old = Upkeep.target EdgeIngress.kind old :=
    Child.placeOf_eq_target hholds
  have hsupplied : (edgesWithChildren settings apis).supplied (.update old new) =
      [(Child.placeOf old, ingress)] := by
    rw [supplied, childAt, child?, hingress, hplace]
    rfl
  have hsame : ∀ {τ : Type} (apis : Child.Apis τ),
      Upkeep.update EdgeIngress.kind apis.edges old new = Call.pure old := fun apis =>
    update_of_unchanged hunchanged apis.edges
  rw [Child.write, Child.write, hsame, hsame]
  change Call.Traces (Child.renew settings apis.traced old) (Child.renew settings apis old) _ _
  refine Call.Traces.imp (Child.traces_renew_again hlasting.faithful hlasting.owning hingress hup)
    ?_ ?_
  · rintro s _ es s' ⟨rfl, hstored, hchildren⟩
    refine ⟨hsupplied.symm, List.forall_mem_singleton.2 (.inl rfl), fun hsupplies => .inr ?_⟩
    have hbefore := hsupplies rfl
    rw [hsupplied, List.forall_mem_singleton] at hbefore
    refine ⟨hsupplied ▸ rfl, hstored, fun _ => ?_⟩
    rw [hchildren]
    exact Function.update_eq_self_iff.2 hbefore.symm
  · rintro s es s' ⟨hmissed, hsent, hverbs⟩
    exact ⟨hsent.trans hsupplied.symm, hverbs, fun _ => .inl hmissed⟩

theorem traces_write_idle (hlasting : keeper.Lasting stored children) (timeout : Nat)
    (now : Nat → Timestamp) (platform : Call σ (List Record))
    (platform' : Call (σ × List Sent) (List Record)) {x : Write (Object Spec Status)}
    (hidle : keeper.Idle x) :
    Call.Traces ((keeper.traced.sides timeout now platform').write x)
      ((keeper.sides timeout now platform).write x)
      (fun s _ es s' => keeper.Repeats stored children x es s s')
      fun s es s' => keeper.Repeats stored children x es s s' := by
  cases x with
  | create new => exact hidle.elim
  | delete old => exact hidle.elim
  | update old new =>
      cases keeper with
      | catalogs api => exact traces_write_idle_alone rfl timeout now platform platform' hidle
      | edges api => exact traces_write_idle_alone rfl timeout now platform platform' hidle
      | edgesWithChildren settings apis => exact traces_write_idle_children hlasting hidle

/-! ### A run of idle writes -/

theorem repeats_of_runs
    (hruns : Runs (fun x _ => keeper.Repeats stored children x) writes runs s s') :
    Sent.children (notesOf runs) = writes.flatMap keeper.supplied ∧
      (∀ e ∈ notesOf runs, e.verb = .apply ∨ e.verb = .patchStatus) ∧
      (¬Missed (notesOf runs) → (∀ x ∈ writes, keeper.Supplies children s x) →
        notesOf runs = (writes.flatMap keeper.supplied).map Sent.applied ∧
          keeper.Stays stored children s s') := by
  induction hruns with
  | nil s => exact ⟨rfl, List.forall_mem_nil _, fun _ _ => ⟨rfl, rfl, fun _ => rfl⟩⟩
  | @cons x writes run runs s mid s' hrepeats _ ih =>
      obtain ⟨hsent, hverbs, hlater⟩ := ih
      rw [notesOf_cons, List.flatMap_cons]
      refine ⟨?_, List.forall_mem_append.2 ⟨hrepeats.verbs, hverbs⟩, fun hanswered hsupplies => ?_⟩
      · rw [Sent.children_append, hrepeats.sent, hsent]
      · rw [Sent.missed_append, not_or] at hanswered
        rw [List.forall_mem_cons] at hsupplies
        obtain ⟨hnotes, hstays⟩ := (hrepeats.done hsupplies.1).resolve_left hanswered.1
        have hkept : ∀ y ∈ writes, keeper.Supplies children mid y := by
          intro y hy hattends
          rw [hstays.2 hattends]
          exact hsupplies.2 y hy hattends
        obtain ⟨hnotes', hstays'⟩ := hlater hanswered.2 hkept
        rw [hnotes, hnotes', List.map_append]
        exact ⟨rfl, hstays.trans hstays'⟩

/-! ### The same records again -/

theorem objects_cons (now : Nat → Timestamp) (record : Record) (records : List Record) :
    keeper.objects now (record :: records) =
      (keeper.materialize (now 0) record).toOption.toList ++
        keeper.objects (fun i => now (i + 1)) records := by
  rw [objects, materialized, List.mapIdx_cons, objects, materialized, Step.built, Step.built]
  cases keeper.materialize (now 0) record <;> rfl

/-- What records become at other moments differs in the status alone. -/
theorem declared_objects (now now' : Nat → Timestamp) (records : List Record) :
    (keeper.objects now records).map Object.declared =
      (keeper.objects now' records).map Object.declared := by
  induction records generalizing now now' with
  | nil => rfl
  | cons record records ih =>
      rw [objects_cons, objects_cons, List.map_append, List.map_append,
        ih _ fun i => now' (i + 1)]
      congr 1
      cases hnew : keeper.materialize (now 0) record with
      | ok new =>
          obtain ⟨new', hnew', hmetadata⟩ := materialize_at hnew (now' 0)
          have hspec := (wanted_of_materialize hnew).2.2
          have hspec' := (wanted_of_materialize hnew').2.2
          simp [hnew', hmetadata, hspec, hspec', Except.toOption, Object.declared]
      | error e =>
          cases hnew' : keeper.materialize (now' 0) record with
          | ok new' =>
              obtain ⟨new, hok, -⟩ := materialize_at hnew' (now 0)
              rw [hnew] at hok
              cases hok
          | error e' => rfl

/-- Objects that differ in the status alone are fulfilled together. -/
theorem Fulfills.of_declared {news' : List (Object Spec Status)}
    (h : keeper.Fulfills stored children news s)
    (hwanted : ∀ new ∈ news', new.Wanted keeper.kind)
    (hsame : news.map Object.declared = news'.map Object.declared) :
    keeper.Fulfills stored children news' s := by
  have hmem : ∀ new' ∈ news', ∃ new ∈ news, new.metadata = new'.metadata ∧ new.spec = new'.spec := by
    intro new' hnew'
    have hpair : new'.declared ∈ news'.map Object.declared := List.mem_map_of_mem hnew'
    rw [← hsame] at hpair
    obtain ⟨new, hnew, heq⟩ := List.mem_map.1 hpair
    exact ⟨new, hnew, (Prod.mk.inj heq).1, (Prod.mk.inj heq).2⟩
  have htarget : ∀ {new new' : Object Spec Status}, new.metadata = new'.metadata →
      Upkeep.target keeper.kind new = Upkeep.target keeper.kind new' := by
    intro new new' heq
    rw [Upkeep.target, Upkeep.target, heq]
  have hkeys := congrArg (List.map fun p : Metadata × Spec => p.1.key) hsame
  rw [List.map_map, List.map_map] at hkeys
  refine ⟨⟨hwanted, ?_, ?_, hkeys ▸ h.asked.keys⟩, ?_, ?_⟩
  · intro new' hnew'
    obtain ⟨new, hnew, hmetadata, -⟩ := hmem new' hnew'
    exact htarget hmetadata ▸ h.asked.plain new hnew
  · intro new' hnew'
    obtain ⟨new, hnew, hmetadata, -⟩ := hmem new' hnew'
    rw [← htarget hmetadata, ← h.asked.key new hnew, Object.key, Object.key, hmetadata]
  · intro new' hnew'
    obtain ⟨new, hnew, hmetadata, hspec⟩ := hmem new' hnew'
    rw [← htarget hmetadata, ← hspec]
    exact h.each new hnew
  · intro place o ho hmanaged
    obtain ⟨new, hnew, rfl⟩ := h.only place o ho hmanaged
    have hpair : new.declared ∈ news.map Object.declared := List.mem_map_of_mem hnew
    rw [hsame] at hpair
    obtain ⟨new', hnew', heq⟩ := List.mem_map.1 hpair
    exact ⟨new', hnew', htarget (Prod.mk.inj heq).1⟩

/-- Where a wanted object is fulfilled, it asks for an idle update. -/
theorem Fulfills.request_eq (h : keeper.Fulfills stored children news s)
    (hlasting : keeper.Lasting stored children) (hlisted : Listed (stored s) listed)
    (hnew : new ∈ news) :
    ∃ o, stored s (Upkeep.target keeper.kind new) = some o ∧
      Step.request Object.key listed [] new = .update o new ∧ keeper.Idle (.update o new) ∧
      keeper.Supplies children s (.update o new) := by
  have hfaithful := hlasting.faithful.api
  obtain ⟨o, child, sent, hseat, hmanaged, hhash, hattended⟩ := h.each new hnew
  have ho : stored s (Upkeep.target keeper.kind new) = some o := congrArg Seat.object hseat
  have htarget : Upkeep.target keeper.kind o = Upkeep.target keeper.kind new :=
    hfaithful.target_eq ho
  have hfound : Step.listed? Object.key listed new.key = some o := by
    rw [h.asked.key new hnew]
    exact (hfaithful.listed?_iff hlisted (hlasting.plain s) (h.asked.plain new hnew)).2
      ⟨ho, hmanaged⟩
  obtain ⟨hholds, -, hns⟩ := hfaithful.placed _ _ _ ho
  refine ⟨o, ho, ?_, ⟨?_, ?_, sent, child, ?_⟩, ?_⟩
  · rw [Step.request, hfound]
    rfl
  · exact (Upkeep.unchanged_iff (h.asked.wanted new hnew)).2 hhash
  · rw [hns, hfaithful.anyName_eq ho]
    exact hholds
  · rw [htarget]
    exact hattended
  · intro hattends
    have hchild : Object.owned (some o) (children s (Upkeep.target keeper.kind new)) = child := by
      have hchild := congrArg Seat.child hseat
      rwa [seat, ho, hattends] at hchild
    rw [supplied, htarget, childAt]
    cases hattended with
    | alone hnone =>
        rw [hnone]
        exact List.forall_mem_nil _
    | linked hingress _ =>
        rw [hingress]
        exact List.forall_mem_singleton.2 (Object.owned_eq_some hchild)

/-- Where what is wanted is fulfilled, a plan has idle updates alone. -/
theorem Fulfills.idle_of_planned (h : keeper.Fulfills stored children news s)
    (hlasting : keeper.Lasting stored children) (hlisted : Listed (stored s) listed)
    {deletions : List (Object Spec Status)} (hplanned : Planned listed news deletions writes) :
    (∀ x ∈ writes, keeper.Idle x ∧ keeper.Supplies children s x) ∧
      writes.flatMap keeper.supplied =
        keeper.childrenAt (stored s) (news.map (Upkeep.target keeper.kind)) := by
  have hfaithful := hlasting.faithful.api
  have hnone : deletions = [] := by
    rw [List.eq_nil_iff_forall_not_mem]
    intro old hold
    obtain ⟨hmanaged, hstored⟩ := hplanned.stored_of_mem hfaithful hlisted hold
    obtain ⟨new, hnew, htarget⟩ := h.only _ old hstored hmanaged
    refine ((hplanned.mem old).1 hold).2 (List.mem_map.2 ⟨new, hnew, ?_⟩)
    rw [h.asked.key new hnew, htarget, hfaithful.key_eq hstored]
  have hwrites : writes = news.map (Step.request Object.key listed []) := by
    rw [hplanned.eq, hnone, List.map_nil, List.append_nil]
  rw [hwrites]
  constructor
  · intro x hx
    obtain ⟨new, hnew, rfl⟩ := List.mem_map.1 hx
    obtain ⟨o, -, hrequest, hidle, hsupplies⟩ := h.request_eq hlasting hlisted hnew
    rw [hrequest]
    exact ⟨hidle, hsupplies⟩
  · rw [childrenAt, List.flatMap_map, List.flatMap_map]
    refine List.flatMap_congr fun new hnew => ?_
    obtain ⟨o, ho, hrequest, -, -⟩ := h.request_eq hlasting hlisted hnew
    rw [hrequest, supplied, hfaithful.target_eq ho, ho, Option.bind_some]

/-- The child ingresses of fulfilled objects lie at the places of these, one at each. -/
theorem Fulfills.places_children (h : keeper.Fulfills stored children news s) :
    (keeper.childrenAt (stored s) (news.map (Upkeep.target keeper.kind))).map Prod.fst =
      if keeper.attends then news.map (Upkeep.target keeper.kind) else [] := by
  rw [childrenAt, List.flatMap_map, List.map_flatMap]
  split
  · next hattends =>
    rw [List.map_eq_flatMap]
    refine List.flatMap_congr fun new hnew => ?_
    obtain ⟨o, child, sent, hseat, -, -, hattended⟩ := h.each new hnew
    have ho : stored s (Upkeep.target keeper.kind new) = some o := congrArg Seat.object hseat
    rw [ho, Option.bind_some, childAt]
    cases hattended with
    | alone hnone =>
        cases keeper with
        | catalogs api => cases hattends
        | edges api => cases hattends
        | edgesWithChildren settings apis => cases hnone
    | linked hingress _ =>
        rw [hingress]
        rfl
  · next halone =>
    rw [List.flatMap_eq_nil_iff]
    intro new _
    cases stored s (Upkeep.target keeper.kind new) with
    | none => rfl
    | some o =>
        rw [Option.bind_some, childAt, child?_of_alone (Bool.eq_false_iff.2 halone)]
        rfl

/-- A pass over records whose objects are fulfilled writes no object, and stores the child ingresses
again as they are. -/
theorem pass_of_fulfills (hlasting : keeper.Lasting stored children)
    (hanswer : again.answer = .ok records)
    (h : keeper.Fulfills stored children (keeper.objects again.now records) w.state) :
    (∀ e ∈ keeper.sent [again] w, e.verb = .list ∨ e.verb = .apply ∨ e.verb = .patchStatus) ∧
    ((∀ e ∈ keeper.sent [again] w, e.answered = true) →
      keeper.sent [again] w = { verb := .list, answered := true } ::
        (keeper.childrenAt (stored w.state) ((keeper.objects again.now records).map
          (Upkeep.target keeper.kind))).map Sent.applied ∧
      keeper.Stays stored children w.state (keeper.pass again w).state) := by
  have hidle : ∀ listed, Listed (stored w.state) listed →
      (∀ x ∈ (keeper.steps again.now records listed).filterMap Step.write?,
        keeper.Idle x ∧ keeper.Supplies children w.state x) ∧
      ((keeper.steps again.now records listed).filterMap Step.write?).flatMap keeper.supplied =
        keeper.childrenAt (stored w.state)
          ((keeper.objects again.now records).map (Upkeep.target keeper.kind)) := by
    intro listed hlisted
    obtain ⟨deletions, hplanned⟩ := exists_planned h.asked listed
    exact h.idle_of_planned hlasting hlisted hplanned
  obtain ⟨es, hpass, hcourse⟩ := pass_course
    (fun x _ => keeper.Repeats stored children x) hlasting.lists hanswer w
    (fun listed hlisted x hx =>
      traces_write_idle hlasting _ _ _ _ ((hidle listed hlisted).1 x hx).1) []
  have hsent : keeper.sent [again] w = es := congrArg (fun w => w.state.2) hpass
  rw [hsent]
  rcases hcourse with ⟨rfl, hstays⟩ | ⟨listed, mid, runs, rfl, hcourse⟩
  · refine ⟨List.forall_mem_singleton.2 (.inl rfl), fun hanswered => ?_⟩
    cases hanswered _ (.head _)
  · obtain ⟨hsupplied, hverbs, hdone⟩ :=
      repeats_of_runs (hcourse.writes.imp fun _ _ _ _ _ _ h => h.1)
    obtain ⟨hwrites, hchildren⟩ := hidle listed hcourse.lists
    refine ⟨List.forall_mem_cons.2 ⟨.inl rfl, fun e he => .inr (hverbs e he)⟩, fun hanswered => ?_⟩
    have hmissed : ¬Missed (notesOf runs) :=
      Sent.not_missed_iff.2 fun e he => hanswered e (.tail _ he)
    obtain ⟨hnotes, hstays⟩ := hdone hmissed fun x hx hattends => by
      rw [hcourse.stays.2 hattends]
      exact (hwrites x hx).2 hattends
    rw [hnotes, hchildren]
    exact ⟨rfl, hcourse.stays.trans hstays⟩

/-- A second pass over the same records, after one in which everything succeeded and no wanted object
was lost: it writes no object, stores every child ingress again as it was stored last, and changes
nothing. -/
theorem repeated_pass (hlasting : keeper.Lasting stored children)
    (hcollects : keeper.Collects census stored children)
    (hanswer : round.answer = .ok records) (hagain : again.answer = .ok records)
    (hsucceeded : ((keeper.sidesOf round).pass w).1.Succeeded)
    (hanswered : ∀ e ∈ keeper.sent [round] w, e.answered = true)
    (hkept : ∀ new ∈ keeper.objects round.now records,
      ¬keeper.Lost census stored round w (Upkeep.target keeper.kind new)) :
    (∀ e ∈ keeper.sent [again] (keeper.pass round w),
      e.verb = .list ∨ e.verb = .apply ∨ e.verb = .patchStatus) ∧
    ((∀ e ∈ keeper.sent [again] (keeper.pass round w), e.answered = true) →
      keeper.sent [again] (keeper.pass round w) = { verb := .list, answered := true } ::
        (Sent.children (keeper.sent [round] w)).map Sent.applied ∧
      keeper.Stays stored children (keeper.pass round w).state
        (keeper.pass again (keeper.pass round w)).state) ∧
    ((Sent.children (keeper.sent [round] w)).map Prod.fst).Nodup ∧
    ∀ place, place ∈ (Sent.children (keeper.sent [round] w)).map Prod.fst ↔
      keeper.attends = true ∧
        ∃ o, stored (keeper.pass round w).state place = some o ∧ o.managed = true := by
  obtain ⟨listed, mid, runs, hsent, hmissed, hcourse⟩ :=
    course_of_answered hlasting hcollects.removes hanswer hanswered
  rw [hsent]
  obtain ⟨hfulfills, hchildren⟩ := fulfills_of_course hlasting hcourse hmissed
    (hcourse.succeeded hsucceeded) hkept
  have hsame := keeper.declared_objects round.now again.now records
  have hagain' := hfulfills.of_declared (fun new hnew => by
    obtain ⟨record, -, moment, hmaterialize⟩ := exists_record hnew
    exact (wanted_of_materialize hmaterialize).1) hsame
  have htargets : (keeper.objects again.now records).map (Upkeep.target keeper.kind) =
      (keeper.objects round.now records).map (Upkeep.target keeper.kind) := by
    have hplaces := congrArg (List.map fun p : Metadata × Spec =>
      (⟨keeper.kind.scope p.1.ns, p.1.anyName⟩ : Target)) hsame
    rw [List.map_map, List.map_map] at hplaces
    exact hplaces.symm
  obtain ⟨hverbs, hdone⟩ := pass_of_fulfills hlasting hagain hagain'
  have hes : Sent.children ({ verb := .list, answered := true } :: notesOf runs) =
      keeper.childrenAt (stored (keeper.pass round w).state)
        ((keeper.objects round.now records).map (Upkeep.target keeper.kind)) := hchildren
  rw [hes, ← htargets]
  refine ⟨hverbs, hdone, ?_, fun place => ?_⟩
  · rw [hagain'.places_children]
    split
    · exact hagain'.asked.map_place
    · exact List.nodup_nil
  · rw [hagain'.places_children]
    split
    · next hattends =>
      rw [List.mem_map, and_iff_right hattends]
      constructor
      · rintro ⟨new, hnew, rfl⟩
        obtain ⟨o, _, _, hseat, hmanaged, -⟩ := hagain'.each new hnew
        exact ⟨o, congrArg Seat.object hseat, hmanaged⟩
      · rintro ⟨o, ho, hmanaged⟩
        exact hagain'.only place o ho hmanaged
    · next halone =>
      exact ⟨fun h => (List.not_mem_nil h).elim, fun h => absurd h.1 halone⟩

end Keeper

namespace Slot

/-- A slot with an edge ingress whose status was never stored. -/
def unfinished : World Slot :=
  ⟨{ edge := some { labels := some managerLabels, spec := {} } }, []⟩

/-- The edge ingress is replaced and connected, and then its child ingress alone is stored again. -/
theorem repeated_pass_unfinishedCreation :
    ((keeper.sidesOf (declaring "a.example.com")).pass unfinished).1.Succeeded ∧
    (∀ e ∈ keeper.sent [declaring "a.example.com"] unfinished, e.answered = true) ∧
    keeper.sent [declaring "a.example.com"] (keeper.pass (declaring "a.example.com") unfinished) =
      { verb := .list, answered := true } ::
        (Sent.children (keeper.sent [declaring "a.example.com"] unfinished)).map Sent.applied ∧
    stored (keeper.passes [declaring "a.example.com", declaring "a.example.com"] unfinished).state =
      stored (keeper.passes [declaring "a.example.com"] unfinished).state ∧
    (Sent.children (keeper.sent [declaring "a.example.com"] unfinished)).map Prod.fst = [place] := by
  have hsucceeded : ((keeper.sidesOf (declaring "a.example.com")).pass unfinished).1.Succeeded := by
    decide +kernel
  have hanswered : ∀ e ∈ keeper.sent [declaring "a.example.com"] unfinished,
      e.answered = true := by decide +kernel
  have hagain : ∀ e ∈ keeper.sent [declaring "a.example.com"]
      (keeper.pass (declaring "a.example.com") unfinished), e.answered = true := by decide +kernel
  have hanswer : (declaring "a.example.com").answer = .ok [recordOf "a.example.com"] := rfl
  have hkept : ∀ new ∈ keeper.objects (declaring "a.example.com").now [recordOf "a.example.com"],
      ¬keeper.Lost census stored (declaring "a.example.com") unfinished
        (Upkeep.target keeper.kind new) := by
    rintro new - ⟨-, htaken⟩
    exact Keeper.not_taken_of_ownerless lasting.faithful collects.api endows (ownerless _) _ htaken
  obtain ⟨-, hdone, -, -⟩ :=
    Keeper.repeated_pass lasting collects hanswer hanswer hsucceeded hanswered hkept
  obtain ⟨hsent, hstays⟩ := hdone hagain
  exact ⟨hsucceeded, hanswered, hsent, hstays.1, by decide +kernel⟩

end Slot

namespace Shelf

theorem lasting : api.Lasting stored where
  unmarked := by
    intro s place o ho
    obtain ⟨x, hplace, hmem, -⟩ := stored_eq_some ho
    refine ⟨s.unmarked _ hmem, fun ns hns => ?_⟩
    rw [hplace] at hns
    cases hns
  uid := by
    intro place patch w patched hanswer old hold
    change (request (edit (Shelved.patched? · patch) place) w).1 = _ at hanswer
    rcases request_cases (edit (Shelved.patched? · patch) place) w with ⟨heq, -⟩ | ⟨o, hact, heq⟩
    · rw [heq] at hanswer
      cases hanswer
    · rw [heq] at hanswer
      cases hanswer
      obtain ⟨x, y, hpatched, rfl, hbefore, -⟩ := edit_eq_some hact
      obtain rfl : old = x.catalog place.name := Option.some.inj (hold.symm.trans hbefore)
      exact congrArg Metadata.uid (x.patched?_eq_some place.name hpatched).2.1

theorem lasting_keeper : keeper.Lasting stored (fun _ _ => none) where
  faithful := faithful_keeper
  api := lasting
  owning := trivial

/-- The catalog that is declared is lost with the one that is not, and the next pass writes it. -/
theorem not_repeated_owned :
    keeper.Lasting stored (fun _ _ => none) ∧ keeper.Collects census stored (fun _ _ => none) ∧
    ((keeper.sidesOf (declaring "a")).pass owning).1.Succeeded ∧
    (∀ e ∈ keeper.sent [declaring "a"] owning, e.answered = true) ∧
    ¬∀ e ∈ keeper.sent [declaring "a"] (keeper.pass (declaring "a") owning),
      e.verb = .list ∨ e.verb = .apply ∨ e.verb = .patchStatus := by
  refine ⟨lasting_keeper, ⟨collects_keeper, fun h => nomatch h⟩, by decide +kernel,
    by decide +kernel, by decide +kernel⟩

end Shelf

end EdgeAgent
