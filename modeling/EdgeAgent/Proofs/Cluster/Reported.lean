import EdgeAgent.Proofs.Cluster.Connected
import EdgeAgent.Proofs.Cluster.Slot
import Mathlib.Data.List.Destutter

/-! What the connection of an edge ingress reports. After one write it is up if the child ingress was
stored and down if not, unless it could not be recorded, and nothing else of the edge ingress has
changed. Over any run of updates it is therefore what the latest attempt to store the child ingress
came to, and it is written just when that changes. -/

namespace EdgeAgent

namespace Child

variable {σ : Type} {stored : σ → Store EdgeIngressSpec EdgeIngressStatus} {apis : Apis σ}
  {settings : ChildSettings} {edge : EdgeIngress} {place : Target} {v u : Upshot Unit}
  {before after : Store EdgeIngressSpec EdgeIngressStatus}
  {ds rest : List (Dealing EdgeIngressSpec EdgeIngressStatus)}

/-- The connection after an attempt to store the child ingress, if that was answered. -/
def answered? : Upshot Unit → Option Connection
  | .granted _ => some .up
  | .refused => some .down
  | .unanswered => none

/-- The connections that are sent when one is to be recorded, if any: that one, unless it is recorded
already. -/
def toRecord (recorded : Option Connection) : Option Connection → List Connection
  | none => []
  | some connection => if recorded = some connection then [] else [connection]

theorem answered?_eq (hv : v ≠ .unanswered) : answered? v = some v.connection := by
  cases v with
  | granted _ => rfl
  | refused => rfl
  | unanswered => exact absurd rfl hv

/-- What comes of a stored edge ingress after a write, when the storing of its child ingress comes to
`v` and the whole to `u`; `o` is how the edge ingress is stored then. -/
structure Renewed (settings : ChildSettings) (place : Target) (edge : EdgeIngress)
    (v u : Upshot Unit) (ds : List (Dealing EdgeIngressSpec EdgeIngressStatus)) (o : EdgeIngress) :
    Prop where
  /-- The child ingress is asked for if it can be made. -/
  applications : ds.filterMap Dealing.application? =
    match ofEdge settings edge with
    | .ok ingress => [(place, ingress)]
    | .error _ => []
  /-- It is stored if it can be made and the request for it is granted. -/
  stores : v = .granted () ↔ ∃ ingress, ofEdge settings edge = .ok ingress ∧
    ⟨.apply place ingress, .granted ()⟩ ∈ ds
  /-- The whole waits for an answer as long as one of its requests does. -/
  pending : u = .unanswered ↔ ∃ d ∈ ds, d.upshot = .unanswered
  /-- Whatever comes of the connection, the whole succeeds if the child ingress is stored. -/
  succeeds : u ≠ .unanswered → (u = .granted () ↔ v = .granted ())
  /-- The connection is sent that the child ingress has now, if another one is recorded. -/
  recordings : ds.filterMap Dealing.recording? =
    toRecord (edge.status.bind EdgeIngressStatus.connection) (answered? v)
  spec : o.spec = edge.spec
  metadata : o.metadata.Resembles edge.metadata
  /-- Nothing else of the status changes. -/
  status : o.status = edge.status ∨
    o.status = some { edge.status.getD {} with connection := some v.connection }
  recorded : v ≠ .unanswered → (∀ d ∈ ds, d.recording?.isSome → d.upshot = .granted ()) →
    o.status.bind EdgeIngressStatus.connection = some v.connection
  unrecorded : (∀ d ∈ ds, d.recording?.isSome → d.upshot = .refused) → o.status = edge.status

theorem recording?_recording (edge : EdgeIngress) (connection : Connection)
    (p : Upshot EdgeIngress) : (recording edge connection p).recording? = some connection := by
  cases connection <;> rfl

/-! ### The storing of the child ingress -/

theorem Attempts.cases (h : Attempts settings edge v ds) :
    (∃ ingress, ofEdge settings edge = .ok ingress ∧ ds = [⟨.apply (placeOf edge) ingress, v⟩]) ∨
    (∃ e, ofEdge settings edge = .error e ∧ v = .refused ∧ ds = []) := by
  rw [Attempts] at h
  cases hingress : ofEdge settings edge with
  | ok ingress =>
      rw [hingress] at h
      exact .inl ⟨ingress, rfl, h⟩
  | error e =>
      rw [hingress] at h
      exact .inr ⟨e, rfl, h⟩

theorem Attempts.recording?_eq_none (h : Attempts settings edge v ds) :
    ∀ d ∈ ds, d.recording? = none := by
  rcases h.cases with ⟨ingress, -, rfl⟩ | ⟨-, -, -, rfl⟩
  · exact List.forall_mem_singleton.2 rfl
  · exact List.forall_mem_nil _

theorem Attempts.pending (h : Attempts settings edge v ds) :
    v = .unanswered ↔ ∃ d ∈ ds, d.upshot = .unanswered := by
  rcases h.cases with ⟨ingress, -, rfl⟩ | ⟨-, -, rfl, rfl⟩
  · simp
  · simp

theorem Attempts.stores (h : Attempts settings edge v ds) :
    v = .granted () ↔ ∃ ingress, ofEdge settings edge = .ok ingress ∧
      ⟨.apply (placeOf edge) ingress, .granted ()⟩ ∈ ds := by
  rcases h.cases with ⟨ingress, hingress, rfl⟩ | ⟨e, hingress, rfl, rfl⟩
  · simp [hingress, eq_comm]
  · simp

theorem Attempts.applications (h : Attempts settings edge v ds) :
    ds.filterMap Dealing.application? =
      match ofEdge settings edge with
      | .ok ingress => [(placeOf edge, ingress)]
      | .error _ => [] := by
  rcases h.cases with ⟨ingress, hingress, rfl⟩ | ⟨e, hingress, rfl, rfl⟩
  · rw [hingress]
    rfl
  · rw [hingress]
    rfl

/-! ### The recording of the connection -/

theorem Concluded.cases (h : Concluded edge v before after u rest) :
    (edge.status.bind EdgeIngressStatus.connection = some v.connection ∧ u = v ∧ rest = [] ∧
      after = before) ∨
    (edge.status.bind EdgeIngressStatus.connection ≠ some v.connection ∧
      ∃ p : Upshot EdgeIngress, u = v.hold p ∧ rest = [recording edge v.connection p] ∧
        p.Done (after = before)
          (before.Patched EdgeIngress.kind after (placeOf edge) (connectionPatch v.connection)) ∧
        before.Frames after (placeOf edge)) := by
  cases h with
  | recorded hrecorded hsame => exact .inl ⟨hrecorded, rfl, rfl, hsame⟩
  | patched p hother hdone hframe => exact .inr ⟨hother, p, rfl, rfl, hdone, hframe⟩

theorem Concluded.application?_eq_none (h : Concluded edge v before after u rest) :
    ∀ d ∈ rest, d.application? = none := by
  rcases h.cases with ⟨-, -, rfl, -⟩ | ⟨-, p, -, rfl, -⟩
  · exact List.forall_mem_nil _
  · exact List.forall_mem_singleton.2 rfl

theorem Concluded.recordings (h : Concluded edge v before after u rest) :
    rest.filterMap Dealing.recording? =
      if edge.status.bind EdgeIngressStatus.connection = some v.connection then []
      else [v.connection] := by
  rcases h.cases with ⟨hrecorded, -, rfl, -⟩ | ⟨hother, p, -, rfl, -⟩
  · rw [if_pos hrecorded]
    rfl
  · rw [if_neg hother, List.filterMap_cons, recording?_recording]
    rfl

theorem Concluded.pending (h : Concluded edge v before after u rest) (hv : v ≠ .unanswered) :
    (u = .unanswered ↔ ∃ d ∈ rest, d.upshot = .unanswered) ∧ (u ≠ .unanswered → u = v) := by
  rcases h.cases with ⟨-, rfl, rfl, -⟩ | ⟨-, p, rfl, rfl, -⟩
  · simp [hv]
  · cases p <;> simp [Upshot.hold, recording, Upshot.forget, hv]

/-- What a patch that gives the connection leaves of an edge ingress. -/
theorem Concluded.exists_object (h : Concluded edge v before after u rest)
    (hedge : before (placeOf edge) = some edge) :
    ∃ o, after = Function.update before (placeOf edge) (some o) ∧ o.spec = edge.spec ∧
      o.metadata.Resembles edge.metadata ∧
      (o.status = edge.status ∨
        o.status = some { edge.status.getD {} with connection := some v.connection }) ∧
      ((∀ d ∈ rest, d.recording?.isSome → d.upshot = .granted ()) →
        o.status.bind EdgeIngressStatus.connection = some v.connection) ∧
      ((∀ d ∈ rest, d.recording?.isSome → d.upshot = .refused) → o.status = edge.status) := by
  have hsame : after = before → after = Function.update before (placeOf edge) (some edge) := by
    rintro rfl
    exact (Function.update_eq_self_iff.2 hedge.symm).symm
  rcases h.cases with ⟨hrecorded, -, -, hafter⟩ | ⟨hother, p, -, rfl, hdone, hframe⟩
  · exact ⟨edge, hsame hafter, rfl, .refl _, .inl rfl, fun _ => hrecorded, fun _ => rfl⟩
  · have hpatched : ∀ x, before.Patched EdgeIngress.kind after (placeOf edge)
        (connectionPatch v.connection) x → after = Function.update before (placeOf edge) (some x) ∧
          x.spec = edge.spec ∧ x.metadata.Resembles edge.metadata ∧
          x.status = some { edge.status.getD {} with connection := some v.connection } := by
      intro x hx
      have hat := Store.Patched.at_place hx
      obtain ⟨old, hold, hafter, hspec, -, j, hj, hmerged⟩ := hx
      rw [hedge] at hold
      cases hold
      exact ⟨hafter, hspec, hframe edge x hedge hat,
        EdgeIngress.eq_of_stands_connectionPatch hj hmerged⟩
    have hrecording := recording?_recording edge v.connection p
    have hsent : (∀ w, (∀ d ∈ [recording edge v.connection p], d.recording?.isSome →
        d.upshot = w) → p.forget = w) := by
      intro w hall
      exact hall _ (List.mem_singleton_self _) (by rw [hrecording]; rfl)
    cases p with
    | granted x =>
        obtain ⟨hafter, hspec, hmetadata, hstatus⟩ := hpatched x hdone
        refine ⟨x, hafter, hspec, hmetadata, .inr hstatus, fun _ => ?_, fun hall => ?_⟩
        · rw [hstatus]
          rfl
        · exact (nomatch hsent _ hall)
    | refused =>
        exact ⟨edge, hsame hdone, rfl, .refl _, .inl rfl, fun hall => (nomatch hsent _ hall),
          fun _ => rfl⟩
    | unanswered =>
        rcases hdone with hafter | ⟨x, hx⟩
        · exact ⟨edge, hsame hafter, rfl, .refl _, .inl rfl, fun hall => (nomatch hsent _ hall),
            fun _ => rfl⟩
        · obtain ⟨hafter, hspec, hmetadata, hstatus⟩ := hpatched x hx
          exact ⟨x, hafter, hspec, hmetadata, .inr hstatus, fun hall => (nomatch hsent _ hall),
            fun hall => (nomatch hsent _ hall)⟩

/-! ### After a write -/

theorem Renewal.exists_renewed (h : Renewal settings edge v before after u ds)
    (hplace : placeOf edge = place) (hedge : before place = some edge) :
    ∃ o, after = Function.update before place (some o) ∧
      Renewed settings place edge v u ds o := by
  subst hplace
  cases h with
  | pending hv hattempts hafter =>
      refine ⟨edge, ?_, hattempts.applications, hattempts.stores, ?_, fun h => absurd rfl h, ?_,
        rfl, .refl _, .inl rfl, fun h => absurd hv h, fun _ => rfl⟩
      · rw [hafter, Function.update_eq_self_iff.2 hedge.symm]
      · exact iff_of_true rfl (hattempts.pending.1 hv)
      · rw [List.filterMap_eq_nil_iff.2 hattempts.recording?_eq_none, hv]
        rfl
  | @concluded _ first rest hv hattempts hconcluded =>
      obtain ⟨o, hafter, hspec, hmetadata, hstatus, hrecorded, hunrecorded⟩ :=
        hconcluded.exists_object hedge
      obtain ⟨hpending, hu⟩ := hconcluded.pending hv
      have hfirst : ¬∃ d ∈ first, d.upshot = .unanswered := mt hattempts.pending.2 hv
      refine ⟨o, hafter, ?_, ?_, ?_, fun h => by rw [hu h], ?_, hspec, hmetadata, hstatus,
        fun _ hall => hrecorded fun d hd => hall d (List.mem_append_right _ hd),
        fun hall => hunrecorded fun d hd => hall d (List.mem_append_right _ hd)⟩
      · rw [List.filterMap_append, hattempts.applications,
          List.filterMap_eq_nil_iff.2 hconcluded.application?_eq_none, List.append_nil]
      · rw [hattempts.stores]
        refine exists_congr fun ingress => and_congr_right fun _ => ?_
        rw [List.mem_append, or_iff_left]
        exact fun hmem => nomatch hconcluded.application?_eq_none _ hmem
      · rw [hpending]
        simp only [List.mem_append, or_and_right, exists_or, hfirst, false_or]
      · rw [List.filterMap_append, List.filterMap_eq_nil_iff.2 hattempts.recording?_eq_none,
          List.nil_append, hconcluded.recordings, answered?_eq hv]
        rfl

theorem exists_renewed (hfaithful : apis.Faithful stored) (hframing : apis.edges.Framing stored)
    (settings : ChildSettings) {w : World σ} (hedge : stored w.state place = some edge) :
    ∃ o, stored (renew settings apis edge w).2.state =
        Function.update (stored w.state) place (some o) ∧
      Renewed settings place edge (.of (storeIngress settings apis edge w).1)
        (.of (renew settings apis edge w).1) (dealings settings apis edge w) o := by
  obtain ⟨ds, hends, hrenewal⟩ := renewal hfaithful hframing settings edge w []
  have hds : dealings settings apis edge w = ds := congrArg (fun r => r.2.state.2) hends
  rw [hds]
  exact hrenewal.exists_renewed (placeOf_eq hfaithful.edges hedge) hedge

/-! ### Runs of updates -/

/-- The connection that is recorded at a place. -/
def connectionAt (objects : Store EdgeIngressSpec EdgeIngressStatus) (place : Target) :
    Option Connection :=
  (objects place).bind fun o => o.status.bind EdgeIngressStatus.connection

/-- What the attempt to store the child ingress came to that follows an update, if there was one. -/
def outcome? (settings : ChildSettings) (apis : Apis σ) (old new : EdgeIngress) (w : World σ) :
    Option Connection :=
  match Upkeep.update EdgeIngress.kind apis.edges old new w with
  | (.ok edge, mid) => answered? (.of (storeIngress settings apis edge mid).1)
  | (.error _, _) => none

/-- What an update asks for, together with what follows it. -/
def updateDealings (settings : ChildSettings) (apis : Apis σ) (old new : EdgeIngress)
    (w : World σ) : List (Dealing EdgeIngressSpec EdgeIngressStatus) :=
  (write settings apis.dealing (.update old new) (w.noted [])).2.state.2

/-- Updates of the edge ingress at a place, one after the other, with what the attempts to store its
child ingress came to and with all that was asked for. Each starts from the edge ingress as it is
stored, and wants one whose status gives no connection. Between them anything may happen that leaves
the recorded connection. -/
inductive Updates (settings : ChildSettings) (apis : Apis σ)
    (stored : σ → Store EdgeIngressSpec EdgeIngressStatus) (place : Target) :
    World σ → List Connection → List (Dealing EdgeIngressSpec EdgeIngressStatus) → World σ →
      Prop where
  | nil (w : World σ) : Updates settings apis stored place w [] [] w
  | cons {w mid w' : World σ} {old new : EdgeIngress} {outcomes : List Connection}
      {ds : List (Dealing EdgeIngressSpec EdgeIngressStatus)} :
      connectionAt (stored mid.state) place = connectionAt (stored w.state) place →
      stored mid.state place = some old →
      new.status.bind EdgeIngressStatus.connection = none →
      Updates settings apis stored place (write settings apis (.update old new) mid).2 outcomes ds
        w' →
      Updates settings apis stored place w
        ((outcome? settings apis old new mid).toList ++ outcomes)
        (updateDealings settings apis old new mid ++ ds) w'

/-- Every patch of the connection was granted. -/
def Recorded (ds : List (Dealing EdgeIngressSpec EdgeIngressStatus)) : Prop :=
  ∀ d ∈ ds, d.recording?.isSome → d.upshot = .granted ()

theorem recording?_of_status {status : EdgeIngressStatus} (h : status.connection = none)
    (place : Target) (w : Upshot Unit) :
    (⟨.patchStatus place (EdgeIngress.kind.encodeStatus status).sorted, w⟩ :
      Dealing EdgeIngressSpec EdgeIngressStatus).recording? = none := by
  have hnone : (Json.obj (Encode.sortedObject status.fields)).get? "connection" = none := by
    rw [Json.get?_obj, Option.map_eq_none_iff, List.find?_eq_none]
    intro f hf hname
    exact status.connection_not_mem h (List.mem_map.2 ⟨f, hf, by simpa using hname⟩)
  exact congrArg (Option.bind · fun j => (Decode.value Connection.decode j).toOption) hnone

theorem connectionAt_of_some {objects : Store EdgeIngressSpec EdgeIngressStatus} {o : EdgeIngress}
    (h : objects place = some o) :
    connectionAt objects place = o.status.bind EdgeIngressStatus.connection := by
  rw [connectionAt, h]
  rfl

/-- An update leaves the connection, and gives the edge ingress as it is stored. -/
theorem updated_keeps (hfaithful : apis.edges.Faithful EdgeIngress.kind stored) {s s' : σ}
    {old new : EdgeIngress} {p : Upshot EdgeIngress} (hold : stored s place = some old)
    (hnew : new.status.bind EdgeIngressStatus.connection = none)
    (h : Upkeep.UpdatedIn stored EdgeIngress.kind old new s p ds s') :
    connectionAt (stored s') place = connectionAt (stored s) place ∧
      (∀ d ∈ ds, d.recording? = none) ∧ ∀ edge, p = .granted edge → stored s' place = some edge := by
  have htarget : Upkeep.target EdgeIngress.kind old = place := hfaithful.target_eq hold
  have hreplaced : ∀ s' x, (stored s).Replaced (stored s') (Upkeep.target EdgeIngress.kind old)
      (Upkeep.renewed old new) x → stored s' place = some x ∧
        connectionAt (stored s') place = connectionAt (stored s) place := by
    intro s' x hx
    have hat := Store.Replaced.at_place hx
    obtain ⟨current, hcurrent, -, -, hstatus, -⟩ := hx
    rw [htarget] at hat hcurrent
    refine ⟨hat, ?_⟩
    rw [connectionAt_of_some hat, connectionAt_of_some hcurrent, hstatus]
  cases h with
  | suppressed hunchanged =>
      refine ⟨rfl, List.forall_mem_nil _, ?_⟩
      rintro _ ⟨⟩
      exact hold
  | halted _ hdone hhalted =>
      refine ⟨?_, List.forall_mem_singleton.2 rfl, fun edge he => absurd he (hhalted edge)⟩
      exact hdone.elim (fun hsame => by rw [hsame]) fun x hx => (hreplaced s' x hx).2
  | bare _ _ hdone =>
      refine ⟨(hreplaced s' _ hdone).2, List.forall_mem_singleton.2 rfl, ?_⟩
      rintro _ ⟨⟩
      exact (hreplaced s' _ hdone).1
  | @patched x mid _ status _ _ hstatus hdone hpatch =>
      obtain ⟨hmid, hkept⟩ := hreplaced mid x hdone
      have hnone : status.connection = none := by
        rw [hstatus] at hnew
        exact hnew
      have hscope : (⟨(Upkeep.target EdgeIngress.kind old).scope, x.metadata.anyName⟩ : Target) =
          place := by
        rw [htarget, Upkeep.place_of_replaced hfaithful hmid]
      rw [hscope] at hpatch ⊢
      have hpatched : ∀ y, (stored mid).Patched EdgeIngress.kind (stored s') place
          (EdgeIngress.kind.encodeStatus status).sorted y → stored s' place = some y ∧
            connectionAt (stored s') place = connectionAt (stored s) place := by
        intro y hy
        have hat := Store.Patched.at_place hy
        obtain ⟨current, hcurrent, -, -, -, j, hj, hmerged⟩ := hy
        have hread := EdgeIngress.reads_connection.kept (status.connection_not_mem hnone) hj hmerged
        refine ⟨hat, ?_⟩
        rw [← hkept, connectionAt_of_some hat, connectionAt_of_some hcurrent,
          ← EdgeIngress.connection_reading, ← EdgeIngress.connection_reading]
        exact hread
      refine ⟨?_, ?_, ?_⟩
      · exact hpatch.elim (fun hsame => by rw [hsame, hkept]) fun y hy => (hpatched y hy).2
      · rw [List.forall_mem_cons, List.forall_mem_singleton]
        exact ⟨rfl, recording?_of_status hnone _ _⟩
      · rintro y rfl
        exact (hpatched y hpatch).1

/-- One update records what its attempt came to, if that is not recorded already. -/
theorem update_records (hfaithful : apis.Faithful stored) (hframing : apis.edges.Framing stored)
    (settings : ChildSettings) {w : World σ} {old new : EdgeIngress}
    (hold : stored w.state place = some old)
    (hnew : new.status.bind EdgeIngressStatus.connection = none)
    (hrecorded : Recorded (updateDealings settings apis old new w)) :
    connectionAt (stored (write settings apis (.update old new) w).2.state) place =
        (outcome? settings apis old new w).or (connectionAt (stored w.state) place) ∧
      (updateDealings settings apis old new w).filterMap Dealing.recording? =
        toRecord (connectionAt (stored w.state) place) (outcome? settings apis old new w) := by
  obtain ⟨first, hends, hupdated⟩ :=
    Upkeep.ends_update_faithful hfaithful.edges old new w []
  obtain ⟨hkept, hnone, hstored⟩ := updated_keeps hfaithful.edges hold hnew hupdated
  have hwrite : ∀ {τ : Type} (apis : Apis τ), write settings apis (.update old new) =
      (Upkeep.update EdgeIngress.kind apis.edges old new).bind (renew settings apis) := fun _ => rfl
  rw [updateDealings] at hrecorded ⊢
  change Upkeep.update EdgeIngress.kind apis.dealing.edges old new (w.noted []) = _ at hends
  simp only [hwrite, Call.bind, outcome?, hends] at hrecorded ⊢
  rcases hupdate : Upkeep.update EdgeIngress.kind apis.edges old new w with ⟨stop | edge, mid⟩
  · rw [hupdate] at hkept
    exact ⟨hkept, List.filterMap_eq_nil_iff.2 hnone⟩
  · rw [hupdate] at hkept hstored hrecorded
    have hedge := hstored edge rfl
    obtain ⟨rest, hrest, hrenewal⟩ := renewal hfaithful hframing settings edge mid ([] ++ first)
    obtain ⟨o, hafter, hrenewed⟩ :=
      hrenewal.exists_renewed (placeOf_eq hfaithful.edges hedge) hedge
    have hbefore := (connectionAt_of_some hedge).symm.trans hkept
    have hafterwards : stored (renew settings apis edge mid).2.state place = some o := by
      rw [hafter, Function.update_self]
    simp only [hrest] at hrecorded ⊢
    constructor
    · rw [connectionAt_of_some hafterwards]
      generalize hv : Upshot.of (storeIngress settings apis edge mid).1 = v at hrenewed
      by_cases hanswered : v = .unanswered
      · -- Nothing is recorded, and the status stays.
        subst hanswered
        have hsent := List.filterMap_eq_nil_iff.1 hrenewed.recordings
        rw [hrenewed.unrecorded fun d hd hsome => by rw [hsent d hd] at hsome; cases hsome]
        exact hbefore
      · rw [answered?_eq hanswered, Option.some_or]
        exact hrenewed.recorded hanswered fun d hd => hrecorded d (by simp [World.noted, hd])
    · change ([] ++ first ++ rest).filterMap Dealing.recording? = _
      rw [List.nil_append, List.filterMap_append, List.filterMap_eq_nil_iff.2 hnone,
        List.nil_append, hrenewed.recordings, hbefore]

/-- What is recorded after a first outcome and what is sent for it. -/
theorem destutter_outcome (recorded : Option Connection) (outcome : Option Connection)
    (outcomes : List Connection) {sent : List Connection}
    (h : (outcome.or recorded :: outcomes.map some).destutter (· ≠ ·) =
      outcome.or recorded :: sent.map some) :
    (recorded :: (outcome.toList ++ outcomes).map some).destutter (· ≠ ·) =
      recorded :: (toRecord recorded outcome ++ sent).map some := by
  cases outcome with
  | none => exact h
  | some connection =>
      rw [Option.toList_some, List.singleton_append, List.map_cons, List.destutter_cons']
      by_cases hsame : recorded = some connection
      · rw [List.destutter'_cons_neg _ (not_not.2 hsame), toRecord, if_pos hsame, hsame]
        exact h
      · rw [List.destutter'_cons_pos _ hsame, toRecord, if_neg hsame]
        exact congrArg (recorded :: ·) h

/-- Over a run of updates whose patches of the connection were all granted, the latest outcome is
recorded, and a connection was sent just when the outcome had changed. -/
theorem Updates.records (hfaithful : apis.Faithful stored) (hframing : apis.edges.Framing stored)
    {w w' : World σ} {outcomes : List Connection}
    (h : Updates settings apis stored place w outcomes ds w') (hrecorded : Recorded ds) :
    connectionAt (stored w'.state) place =
        outcomes.getLast?.or (connectionAt (stored w.state) place) ∧
      (connectionAt (stored w.state) place :: outcomes.map some).destutter (· ≠ ·) =
        connectionAt (stored w.state) place :: (ds.filterMap Dealing.recording?).map some := by
  induction h with
  | nil w => exact ⟨rfl, rfl⟩
  | @cons w mid w' old new outcomes ds hsame hold hnew _ ih =>
      obtain ⟨hafter, hsent⟩ := update_records hfaithful hframing settings hold hnew
        fun d hd => hrecorded d (List.mem_append_left _ hd)
      obtain ⟨hlast, hchanges⟩ := ih fun d hd => hrecorded d (List.mem_append_right _ hd)
      rw [hafter, hsame] at hlast hchanges
      rw [hsame] at hsent
      constructor
      · rw [hlast, List.getLast?_append, Option.or_assoc]
        cases outcome? settings apis old new mid <;> rfl
      · rw [List.filterMap_append, hsent]
        exact destutter_outcome _ _ _ hchanges

/-- The connection follows the child ingress. After a write of a stored edge ingress it says how the
storing of the child ingress went, unless that could not be recorded, which does not matter to the
write; nothing else changes. Over any run of updates whose patches of the connection were all granted,
it is what the latest attempt came to, and it was sent just when that had changed. -/
theorem connection_follows (hfaithful : apis.Faithful stored)
    (hframing : apis.edges.Framing stored) (settings : ChildSettings) (place : Target) :
    (∀ edge w, stored w.state place = some edge →
      ∃ o, stored (renew settings apis edge w).2.state =
          Function.update (stored w.state) place (some o) ∧
        Renewed settings place edge (.of (storeIngress settings apis edge w).1)
          (.of (renew settings apis edge w).1) (dealings settings apis edge w) o) ∧
    ∀ w outcomes ds w', Updates settings apis stored place w outcomes ds w' → Recorded ds →
      connectionAt (stored w'.state) place =
          outcomes.getLast?.or (connectionAt (stored w.state) place) ∧
        (connectionAt (stored w.state) place :: outcomes.map some).destutter (· ≠ ·) =
          connectionAt (stored w.state) place ::
            (ds.filterMap Dealing.recording?).map some :=
  ⟨fun _ _ hedge => exists_renewed hfaithful hframing settings hedge,
    fun _ _ _ _ hupdates hrecorded => hupdates.records hfaithful hframing hrecorded⟩

end Child

namespace Slot

/-- The metadata in the slot has nothing but labels that can change, and a patch leaves them. -/
theorem framing_edges : apis.edges.Framing stored := by
  intro target patch w old o hold ho
  obtain ⟨rfl, x, hx, rfl⟩ := stored_eq_some hold
  cases hact : edit (Slotted.patched? · patch) place w.state with
  | none =>
      have hrefused : (apis.edges.patchStatus place patch w).2 = w :=
        congrArg Prod.snd (request_of_none hact)
      rw [hrefused, hold] at ho
      cases ho
      exact .refl _
  | some result =>
      obtain ⟨-, y, z, hy, hpatched, -, hstate⟩ :=
        @edit_eq_some w.state result.2 place result.1 _ hact
      have hdone : (apis.edges.patchStatus place patch w).2.state = result.2 :=
        congrArg (fun r => r.2.state) (@request_of_some _ _ _ w result.1 hact)
      rw [hx] at hy
      cases hy
      rw [hdone, hstate, stored, if_pos rfl] at ho
      cases ho
      obtain ⟨-, hlabels, -⟩ := Slotted.patched?_eq_some hpatched
      rw [Slotted.object, Slotted.object, hlabels]
      exact .refl _

/-- A slot with the edge ingress of a record, as a pass has left it but for its connection, which is
down. -/
def disconnected : World Slot :=
  let left := (keeper.pass (declaring "a.example.com") vacant).state
  ⟨{ left with edge := left.edge.bind fun x => x.patched? (Child.connectionPatch .down) }, []⟩

/-- The edge ingress that the record becomes again. -/
def redeclared : EdgeIngress where
  spec := (recordOf "a.example.com").spec
  status := some ((recordOf "a.example.com").status .newYear)

theorem connection_follows_disconnected :
    ∃ edge o : EdgeIngress, stored disconnected.state place = some edge ∧
      edge.status.bind EdgeIngressStatus.connection = some .down ∧
      stored (Child.renew {} apis edge disconnected).2.state place = some o ∧
      o.status.bind EdgeIngressStatus.connection = some .up ∧ o.spec = edge.spec ∧
      Child.connectionAt
        (stored (Child.write {} apis (.update edge redeclared) disconnected).2.state) place =
          some .up := by
  have hcomputed : (stored disconnected.state place).map (fun edge =>
      (edge.status.bind EdgeIngressStatus.connection,
        Upshot.of (Child.storeIngress {} apis edge disconnected).1,
        (Child.dealings {} apis edge disconnected).all (·.upshot = .granted ()),
        Child.outcome? {} apis edge redeclared disconnected,
        (Child.updateDealings {} apis edge redeclared disconnected).all
          (·.upshot = .granted ()))) =
      some (some .down, .granted (), true, some .up, true) := by decide +kernel
  obtain ⟨edge, hedge, heq⟩ := Option.map_eq_some_iff.1 hcomputed
  simp only [Prod.mk.injEq, List.all_eq_true, decide_eq_true_eq] at heq
  obtain ⟨hdown, hstored, hgranted, houtcome, hupdate⟩ := heq
  obtain ⟨hrenews, hruns⟩ := Child.connection_follows lasting.faithful framing_edges {} place
  obtain ⟨o, hafter, hrenewed⟩ := hrenews edge disconnected hedge
  have hup := hrenewed.recorded (by rw [hstored]; exact fun h => nomatch h)
    fun d hd _ => hgranted d hd
  rw [hstored] at hup
  obtain ⟨hlast, -⟩ := hruns disconnected _ _ _ (.cons rfl hedge rfl (.nil _)) fun d hd _ => by
    rw [List.append_nil] at hd
    exact hupdate d hd
  rw [houtcome] at hlast
  refine ⟨edge, o, hedge, hdown, ?_, hup, hrenewed.spec, hlast⟩
  rw [hafter, Function.update_self]

end Slot

end EdgeAgent
