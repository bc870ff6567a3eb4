import EdgeAgent.Proofs.Cluster.Planned
import EdgeAgent.Proofs.Cluster.Served

/-! The child ingress of an edge ingress that was written. It is made of the edge ingress as that is
stored, and once it is stored the connection is recorded. What a child ingress is made of does not
change with the connection, so that it would be made the same again. -/

namespace EdgeAgent

open Sent (Missed)

namespace Child

variable {σ : Type} {stored : σ → Store EdgeIngressSpec EdgeIngressStatus}
  {children : σ → Target → Option Stored} {apis : Apis σ} {settings : ChildSettings}
  {edge o : EdgeIngress} {ingress : Ingress} {place : Target} {connection : Connection}

/-- Where the child ingress of an edge ingress lies, and the edge ingress itself. -/
def placeOf (edge : EdgeIngress) : Target :=
  ⟨some (edge.metadata.ns.getD ""), edge.metadata.anyName⟩

theorem placeOf_eq (hfaithful : apis.edges.Faithful EdgeIngress.kind stored) {s : σ}
    (h : stored s place = some edge) : placeOf edge = place := by
  obtain ⟨hholds, -, hns⟩ := hfaithful.placed s place edge h
  obtain ⟨ns, -, hscope⟩ : ∃ ns, ns ≠ "" ∧ place.scope = some ns := hholds
  rw [placeOf, hns, hscope, hfaithful.anyName_eq h, Option.getD_some, ← hscope]

theorem placeOf_eq_target
    (h : EdgeIngress.kind.Holds ⟨edge.metadata.ns, edge.metadata.anyName⟩) :
    placeOf edge = Upkeep.target EdgeIngress.kind edge := by
  have htarget : Upkeep.target EdgeIngress.kind edge = ⟨edge.metadata.ns, edge.metadata.anyName⟩ :=
    Upkeep.target_eq h rfl rfl
  have hscope : ∃ ns, ns ≠ "" ∧ edge.metadata.ns = some ns := h
  obtain ⟨ns, -, hns⟩ := hscope
  rw [htarget, placeOf, hns, Option.getD_some]

theorem domain?_eq (edge : EdgeIngress) :
    domain? edge = (EdgeIngress.reading edge.status).domains.head?.filter (· ≠ "") := by
  rw [domain?, EdgeIngress.reading]
  cases edge.status with
  | none => rfl
  | some status =>
      by_cases hdomain : status.domain = ""
      · simp [Option.filter, hdomain]
      · simp [Option.filter, hdomain]

/-- What a child ingress is made of: the name, the namespace and what is seen of the edge ingress. -/
theorem ofEdge_eq (settings : ChildSettings) (hname : o.metadata.name = edge.metadata.name)
    (hany : o.metadata.anyName = edge.metadata.anyName) (hns : o.metadata.ns = edge.metadata.ns)
    (hface : o.face EdgeIngress.reading = edge.face EdgeIngress.reading) :
    ofEdge settings o = ofEdge settings edge := by
  have huid : o.metadata.uid = edge.metadata.uid := congrArg Face.uid hface
  have hspec : o.spec = edge.spec := congrArg Face.spec hface
  have hdomains : (EdgeIngress.reading o.status).domains =
      (EdgeIngress.reading edge.status).domains := congrArg Face.domains hface
  have howner : owner? o = owner? edge := by rw [owner?, owner?, hname, huid]
  have hdomain : domain? o = domain? edge := by rw [domain?_eq, domain?_eq, hdomains]
  simp only [ofEdge, howner, hdomain, hspec, hany, hns]

theorem ofEdge_eq_of_face (hfaithful : apis.edges.Faithful EdgeIngress.kind stored) {s s' : σ}
    (ho : stored s' place = some o) (hedge : stored s place = some edge)
    (hface : o.face EdgeIngress.reading = edge.face EdgeIngress.reading) :
    ofEdge settings o = ofEdge settings edge := by
  obtain ⟨-, hname, hns⟩ := hfaithful.placed _ _ _ ho
  obtain ⟨-, hname', hns'⟩ := hfaithful.placed _ _ _ hedge
  exact ofEdge_eq settings (hname.trans hname'.symm)
    ((hfaithful.anyName_eq ho).trans (hfaithful.anyName_eq hedge).symm) (hns.trans hns'.symm) hface

theorem ofEdge_eq_ok (h : ofEdge settings edge = .ok ingress) :
    ∃ owner domain, owner? edge = some owner ∧ domain? edge = some domain ∧
      ingress = {
        metadata := {
          name := some edge.metadata.anyName
          ns := edge.metadata.ns
          labels := some managerLabels
          annotations := some (annotations settings edge.spec)
          ownerReferences := some [owner] }
        spec := some (specOf settings domain edge.spec.service) } := by
  rw [ofEdge] at h
  cases howner : owner? edge with
  | none =>
      rw [howner] at h
      cases h
  | some owner =>
      cases hdomain : domain? edge with
      | none =>
          rw [howner, hdomain] at h
          cases h
      | some domain =>
          rw [howner, hdomain] at h
          cases h
          exact ⟨owner, domain, rfl, rfl, rfl⟩

/-- The child ingress of an edge ingress lies where the edge ingress does. -/
theorem place_of_ofEdge (h : ofEdge settings edge = .ok ingress) :
    (⟨some (ingress.metadata.ns.getD ""), ingress.metadata.anyName⟩ : Target) = placeOf edge := by
  obtain ⟨owner, domain, -, -, rfl⟩ := ofEdge_eq_ok h
  rfl

/-- A child ingress names its owner alone. -/
theorem owners_of_ofEdge (h : ofEdge settings edge = .ok ingress) :
    (Stored.of ingress).owners = edge.metadata.uid.toList := by
  obtain ⟨owner, domain, howner, -, rfl⟩ := ofEdge_eq_ok h
  rw [owner?] at howner
  cases hname : edge.metadata.name with
  | none =>
      rw [hname] at howner
      cases howner
  | some name =>
      cases huid : edge.metadata.uid with
      | none =>
          rw [hname, huid] at howner
          cases howner
      | some uid =>
          rw [hname, huid] at howner
          cases howner
          rfl

/-! ### Storing the child ingress -/

theorem traces_storeIngress (hfaithful : apis.Faithful stored) (howning : apis.Owning stored children)
    (hingress : ofEdge settings edge = .ok ingress) :
    Call.Traces (storeIngress settings apis.traced edge) (storeIngress settings apis edge)
      (fun s _ es s' => stored s' = stored s ∧
        es = Sent.noteChild (placeOf edge) ingress (.ok ()) ∧
        children s' = Function.update (children s) (placeOf edge) (some (.of ingress)))
      fun s es s' => stored s' = stored s ∧
        (∃ stop, es = Sent.noteChild (placeOf edge) ingress (.error stop : Except Stop Unit)) ∧
        Located children (placeOf edge) s s' := by
  rw [storeIngress, storeIngress, hingress]
  refine Call.Traces.context (Call.Traces.of_noting _ ?_ ?_) _
  · intro w x hanswer
    have hdone := howning.ingresses
      ⟨some (ingress.metadata.ns.getD ""), ingress.metadata.anyName⟩ ingress w
    rw [hanswer, place_of_ofEdge hingress] at hdone
    rw [place_of_ofEdge hingress]
    exact ⟨hfaithful.ingresses _ _ w, rfl, hdone⟩
  · intro w stop hanswer
    have hdone := howning.ingresses
      ⟨some (ingress.metadata.ns.getD ""), ingress.metadata.anyName⟩ ingress w
    rw [hanswer, place_of_ofEdge hingress] at hdone
    rw [place_of_ofEdge hingress]
    refine ⟨hfaithful.ingresses _ _ w, ⟨stop, rfl⟩, ?_⟩
    rcases hdone.same_or_acted with hsame | ⟨_, hacted⟩
    · exact .of_eq hsame
    · exact ⟨_, hacted⟩

/-- An edge ingress as it is seen, with a connection recorded. -/
def Connects (stored : σ → Store EdgeIngressSpec EdgeIngressStatus) (edge : EdgeIngress)
    (connection : Connection) (s' : σ) : Prop :=
  ∃ o, stored s' (placeOf edge) = some o ∧
    o.face EdgeIngress.reading = edge.face EdgeIngress.reading ∧
    (EdgeIngress.reading o.status).connection = some connection

/-- What comes of recording a connection. -/
structure Records (stored : σ → Store EdgeIngressSpec EdgeIngressStatus)
    (children : σ → Target → Option Stored) (edge : EdgeIngress) (connection : Connection)
    (es : List Sent) (s s' : σ) : Prop where
  located : Located stored (placeOf edge) s s'
  unsent : Sent.children es = []
  done : stored s (placeOf edge) = some edge → Missed es ∨ Connects stored edge connection s'
  left : children s' = children s

/-- That a connection could not be recorded is reported, and nothing is sent. -/
theorem traces_reported (edge : EdgeIngress) (result : Except String EdgeIngress) :
    Call.Traces
      (match result with
        | .ok _ => Call.pure ()
        | .error _ => Call.report (connectionEntry edge.metadata.anyName) :
        Call (σ × List Sent) Unit)
      (match result with
        | .ok _ => Call.pure ()
        | .error _ => Call.report (connectionEntry edge.metadata.anyName))
      (fun s _ es s' => es = [] ∧ s' = s) fun _ _ _ => False := by
  cases result with
  | error message => exact Call.Traces.report _
  | ok o =>
      refine Call.Traces.imp (.pure ()) ?_ fun _ _ _ h => h
      rintro s _ es s' ⟨-, rfl, rfl⟩
      exact ⟨rfl, rfl⟩

theorem traces_recordConnection (hfaithful : apis.edges.Faithful EdgeIngress.kind stored)
    (hlasting : apis.edges.Lasting stored) (howning : apis.Owning stored children)
    (edge : EdgeIngress) (connection : Connection) :
    Call.Traces (recordConnection apis.traced edge connection)
      (recordConnection apis edge connection)
      (fun s _ es s' => Records stored children edge connection es s s')
      fun s es s' => Records stored children edge connection es s s' ∧ Missed es := by
  have hleaves : (recordConnection apis edge connection).Leaves children :=
    Call.leaves_iff.2 fun _ => preserves_recordConnection
      (fun place patch => Call.leaves_iff.1 (howning.patchStatus place patch) _) edge connection
  suffices h : Call.Traces (recordConnection apis.traced edge connection)
      (recordConnection apis edge connection)
      (fun s _ es s' => Located stored (placeOf edge) s s' ∧ Sent.children es = [] ∧
        (stored s (placeOf edge) = some edge → Missed es ∨ Connects stored edge connection s'))
      fun s es s' => Located stored (placeOf edge) s s' ∧ Sent.children es = [] ∧ Missed es by
    refine Call.Traces.imp (h.and_state (fun s s' => children s' = children s) hleaves) ?_ ?_
    · rintro s _ es s' ⟨⟨hlocated, hnone, hdone⟩, hsame⟩
      exact ⟨hlocated, hnone, hdone, hsame⟩
    · rintro s es s' ⟨⟨hlocated, hnone, hmissed⟩, hsame⟩
      exact ⟨⟨hlocated, hnone, fun _ => .inl hmissed, hsame⟩, hmissed⟩
  rw [recordConnection, recordConnection]
  by_cases hrecorded : edge.status.bind EdgeIngressStatus.connection = some connection
  · rw [if_pos hrecorded, if_pos hrecorded]
    refine Call.Traces.imp (.pure ()) ?_ fun _ _ _ h => h.elim
    rintro s _ es s' ⟨-, rfl, rfl⟩
    refine ⟨.of_eq rfl, rfl, fun hedge => .inr ⟨edge, hedge, rfl, ?_⟩⟩
    cases hstatus : edge.status with
    | none =>
        rw [hstatus] at hrecorded
        cases hrecorded
    | some status =>
        rw [hstatus] at hrecorded
        exact hrecorded
  · rw [if_neg hrecorded, if_neg hrecorded]
    have hpatch := Call.Traces.attempt
      (hfaithful.traces_patchStatus hlasting (placeOf edge) (connectionPatch connection))
    refine Call.Traces.imp (hpatch.bind (traces_reported edge)) ?_ ?_
    · rintro s _ es s' ⟨x, mid, first, rest, rfl, hfirst, rfl, rfl⟩
      rw [List.append_nil]
      cases x with
      | error message =>
          obtain ⟨hmissed, hnone, hlocated⟩ := hfirst
          exact ⟨hlocated, hnone, fun _ => .inl hmissed⟩
      | ok x =>
          obtain ⟨hnone, old, hold, hstored, hspec, hmanaged, huid, j, hj, hmerged⟩ := hfirst
          refine ⟨⟨some x, hstored⟩, hnone, fun hedge => .inr ⟨x, ?_, ?_, ?_⟩⟩
          · rw [hstored, Function.update_self]
          · rw [hold] at hedge
            cases hedge
            rw [Object.face, Object.face, hspec, hmanaged, huid,
              EdgeIngress.reading_connectionPatch hj hmerged]
          · rw [EdgeIngress.reading_connectionPatch hj hmerged]
    · rintro s es s' (⟨hmissed, hnone, hlocated⟩ | ⟨_, _, _, _, _, _, hnever⟩)
      · exact ⟨hlocated, hnone, hmissed⟩
      · exact hnever.elim

/-! ### After a write -/

/-- What comes of a stored edge ingress, by whether its write succeeds: its child ingress is stored
and the connection recorded. -/
structure Renews (settings : ChildSettings) (stored : σ → Store EdgeIngressSpec EdgeIngressStatus)
    (children : σ → Target → Option Stored) (edge : EdgeIngress) (ok : Bool) (es : List Sent)
    (s s' : σ) : Prop where
  object : Located stored (placeOf edge) s s'
  child : Located children (placeOf edge) s s'
  done : stored s (placeOf edge) = some edge → Missed es ∨
    match ofEdge settings edge with
    | .ok ingress => ok = true ∧ Connects stored edge .up s' ∧
        Sent.children es = [(placeOf edge, ingress)] ∧
        children s' (placeOf edge) = some (.of ingress)
    | .error _ => ok = false ∧ Connects stored edge .down s'

theorem Renews.of_missed {ok : Bool} {es : List Sent} {s s' : σ}
    (hobject : Located stored (placeOf edge) s s') (hchild : Located children (placeOf edge) s s')
    (hmissed : Missed es) : Renews settings stored children edge ok es s s' :=
  ⟨hobject, hchild, fun _ => .inl hmissed⟩

/-- The connection is recorded after the child ingress was stored, or was not. -/
theorem traces_conclude (hfaithful : apis.edges.Faithful EdgeIngress.kind stored)
    (hlasting : apis.edges.Lasting stored) (howning : apis.Owning stored children)
    (edge : EdgeIngress) (connection : Connection) (result : Except String Unit) :
    Call.Traces ((recordConnection apis.traced edge connection).bind fun _ => Call.ofExcept result)
      ((recordConnection apis edge connection).bind fun _ => Call.ofExcept result)
      (fun s _ es s' => succeeded result = true ∧ Records stored children edge connection es s s')
      fun s es s' => Records stored children edge connection es s s' ∧
        (Missed es ∨ succeeded result = false) := by
  have hresult : Call.Traces (Call.ofExcept result : Call (σ × List Sent) Unit)
      (Call.ofExcept result) (fun s _ es s' => succeeded result = true ∧ es = [] ∧ s' = s)
      fun s es s' => succeeded result = false ∧ es = [] ∧ s' = s := by
    cases result with
    | ok x =>
        refine Call.Traces.imp (.pure x) ?_ fun _ _ _ h => h.elim
        rintro s _ es s' ⟨-, hes, hsame⟩
        exact ⟨rfl, hes, hsame⟩
    | error message =>
        refine Call.Traces.imp (.fail message) (fun _ _ _ _ h => h.elim) ?_
        rintro s es s' ⟨hes, hsame⟩
        exact ⟨rfl, hes, hsame⟩
  refine Call.Traces.imp ((traces_recordConnection hfaithful hlasting howning edge connection).bind
    fun _ => hresult) ?_ ?_
  · rintro s _ es s' ⟨_, mid, first, rest, rfl, hrecords, hok, rfl, rfl⟩
    rw [List.append_nil]
    exact ⟨hok, hrecords⟩
  · rintro s es s' (⟨hrecords, hmissed⟩ | ⟨_, mid, first, rest, rfl, hrecords, hfailed, rfl, rfl⟩)
    · exact ⟨hrecords, .inl hmissed⟩
    · rw [List.append_nil]
      exact ⟨hrecords, .inr hfailed⟩

/-- The connection that is recorded after the child ingress was stored, or was not. -/
def connectionOf : Except String Unit → Connection
  | .ok _ => .up
  | .error _ => .down

theorem traces_renew (hfaithful : apis.Faithful stored) (hlasting : apis.edges.Lasting stored)
    (howning : apis.Owning stored children) (settings : ChildSettings) (edge : EdgeIngress) :
    Call.Traces (renew settings apis.traced edge) (renew settings apis edge)
      (fun s _ es s' => Renews settings stored children edge true es s s')
      fun s es s' => Renews settings stored children edge false es s s' := by
  have hconclude := fun result : Except String Unit =>
    traces_conclude hfaithful.edges hlasting howning edge (connectionOf result) result
  cases hingress : ofEdge settings edge with
  | error error =>
      have hfailed : ∀ {τ : Type} (apis : Apis τ), (storeIngress settings apis edge).attempt =
          Call.pure (.error error.message) := by
        intro τ apis
        rw [storeIngress, hingress]
        rfl
      have hwhole := Call.Traces.bind (.pure (.error error.message)) hconclude
      rw [← hfailed apis, ← hfailed apis.traced] at hwhole
      refine Call.Traces.imp hwhole ?_ ?_
      · rintro s _ es s' ⟨_, mid, first, rest, rfl, ⟨rfl, rfl, rfl⟩, hok, -⟩
        cases hok
      · rintro s es s' (hnever | ⟨_, mid, first, rest, rfl, ⟨rfl, rfl, rfl⟩, hrecords, -⟩)
        · exact hnever.elim
        · refine ⟨hrecords.located, .of_eq hrecords.left, fun hedge => ?_⟩
          rw [hingress]
          exact (hrecords.done hedge).imp_right fun hconnects => ⟨rfl, hconnects⟩
  | ok ingress =>
      have hstore := (traces_storeIngress hfaithful howning hingress).attempt
      refine Call.Traces.imp (hstore.bind hconclude) ?_ ?_
      · rintro s _ es s' ⟨result, mid, first, rest, rfl, hfirst, hok, hrecords⟩
        cases result with
        | error message => cases hok
        | ok x =>
            obtain ⟨hmid, rfl, hchildren⟩ := hfirst
            refine ⟨(Located.of_eq hmid).trans hrecords.located,
              ⟨_, hrecords.left.trans hchildren⟩, fun hedge => ?_⟩
            rw [← hmid] at hedge
            rcases hrecords.done hedge with hmissed | hconnects
            · exact .inl (Sent.missed_append.2 (.inr hmissed))
            · rw [hingress, Sent.children_append, hrecords.unsent, hrecords.left, hchildren,
                Function.update_self]
              exact .inr ⟨rfl, hconnects, rfl, rfl⟩
      · have hmissed : ∀ stop, Missed
            (Sent.noteChild (placeOf edge) ingress (.error stop : Except Stop Unit)) :=
          fun stop => ⟨_, .head _, rfl⟩
        rintro s es s' (⟨hmid, ⟨stop, rfl⟩, hchild⟩ |
          ⟨result, mid, first, rest, rfl, hfirst, hrecords, hstopped⟩)
        · exact .of_missed (.of_eq hmid) hchild (hmissed stop)
        · cases result with
          | ok x =>
              obtain ⟨hmid, -, hchildren⟩ := hfirst
              refine .of_missed ((Located.of_eq hmid).trans hrecords.located)
                ⟨_, hrecords.left.trans hchildren⟩ ?_
              exact Sent.missed_append.2 (.inr (hstopped.resolve_right (by simp [succeeded])))
          | error message =>
              obtain ⟨hmid, ⟨stop, rfl⟩, hchild⟩ := hfirst
              refine .of_missed ((Located.of_eq hmid).trans hrecords.located)
                (hchild.trans (.of_eq hrecords.left))
                (Sent.missed_append.2 (.inl (hmissed stop)))

end Child

end EdgeAgent
