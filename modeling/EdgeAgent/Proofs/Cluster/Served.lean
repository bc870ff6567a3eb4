import EdgeAgent.Proofs.Cluster.Preserved
import EdgeAgent.Proofs.Cluster.Sent
import EdgeAgent.Proofs.Sync.Runs

/-! What one write does to the stored objects as a whole. An object that is stored anew is read as it
is wanted; one that is left alone stays as it is. Its child ingress is stored after it, made of the
object as it is stored, and the connection is recorded. -/

namespace EdgeAgent

open Sent (Missed)

variable {σ α β Spec Status : Type}

/-! ### What is looked at -/

/-- What is seen of an object, but for the connection that its status records. -/
structure Face (Spec : Type) where
  spec : Spec
  managed : Bool
  uid : Option String
  hash : Option String
  domains : List String
  urls : List String

namespace Object

variable (reading : Option Status → Reading)

def face (o : Object Spec Status) : Face Spec where
  spec := o.spec
  managed := o.managed
  uid := o.metadata.uid
  hash := (reading o.status).hash
  domains := (reading o.status).domains
  urls := (reading o.status).urls

/-- A stored object is seen as a wanted one, but for the uid. -/
def Shows (o new : Object Spec Status) : Prop :=
  o.face reading = { new.face reading with uid := o.metadata.uid }

end Object

/-! ### Single requests -/

section

variable {kind : Kind Spec Status} {stored : σ → Store Spec Status} {api : Api σ Spec Status}
  {reading : Option Status → Reading} {c : Call σ α} {c' : Call (σ × List Sent) α}

/-- A call leaves what a state shows when it preserves whatever may be shown. -/
theorem Call.leaves_iff {view : σ → β} :
    c.Leaves view ↔ ∀ shown, c.Preserves fun s => view s = shown :=
  ⟨fun h _ w hw => (h w).trans hw, fun h w => h _ w rfl⟩

/-- What a call does to every state can be told beside what it is known to do. -/
theorem Call.Traces.and_state {answered : σ → α → List Sent → σ → Prop}
    {stopped : σ → List Sent → σ → Prop} (h : c'.Traces c answered stopped)
    (related : σ → σ → Prop) (hstate : ∀ w, related w.state (c w).2.state) :
    c'.Traces c (fun s x es s' => answered s x es s' ∧ related s s')
      fun s es s' => stopped s es s' ∧ related s s' := by
  intro w notes
  obtain ⟨more, heq, hdone⟩ := h w notes
  refine ⟨more, heq, ?_⟩
  cases hanswer : (c w).1 with
  | ok x =>
      rw [hanswer] at hdone
      exact ⟨hdone, hstate w⟩
  | error stop =>
      rw [hanswer] at hdone
      exact ⟨hdone, hstate w⟩

/-- A request acts when it is answered, and may have acted when it is not. -/
theorem Call.Acts.traces {acted : Store Spec Status → Store Spec Status → α → Prop}
    (hlaw : c.Acts stored acted) (verb : Verb) {place : Target}
    (hplace : ∀ before after x, acted before after x → ∃ o, after = Function.update before place o) :
    Call.Traces (c.noting (Sent.note verb)) c
      (fun s x es s' => Sent.children es = [] ∧ acted (stored s) (stored s') x)
      fun s es s' => Missed es ∧ Sent.children es = [] ∧ Located stored place s s' := by
  apply Call.Traces.of_noting
  · intro w x hanswer
    have hdone := hlaw w
    rw [hanswer] at hdone
    exact ⟨rfl, hdone⟩
  · intro w stop hanswer
    have hdone := hlaw w
    rw [hanswer] at hdone
    refine ⟨⟨_, .head _, rfl⟩, rfl, ?_⟩
    rcases hdone.same_or_acted with hsame | ⟨x, hacted⟩
    · exact .of_eq hsame
    · exact hplace _ _ _ hacted

/-- A patch of the status keeps what is not in the status. -/
theorem Api.Faithful.traces_patchStatus (hfaithful : api.Faithful kind stored)
    (hlasting : api.Lasting stored) (place : Target) (patch : Json) :
    Call.Traces (api.traced.patchStatus place patch) (api.patchStatus place patch)
      (fun s x es s' => Sent.children es = [] ∧ ∃ old, stored s place = some old ∧
        stored s' = Function.update (stored s) place (some x) ∧ x.spec = old.spec ∧
        x.managed = old.managed ∧ x.metadata.uid = old.metadata.uid ∧
        ∃ j, kind.Stands j old.status ∧ kind.Stands (j.merge patch) x.status)
      fun s es s' => Missed es ∧ Sent.children es = [] ∧ Located stored place s s' := by
  apply Call.Traces.of_noting
  · intro w x hanswer
    have hdone := hfaithful.patchStatus place patch w
    have huid := hlasting.uid place patch w x hanswer
    rw [hanswer] at hdone
    obtain ⟨old, hold, hstored, hspec, hlabels, hstatus⟩ := hdone
    exact ⟨rfl, old, hold, hstored, hspec, Object.managed_of_labels hlabels, huid old hold, hstatus⟩
  · intro w stop hanswer
    have hdone := hfaithful.patchStatus place patch w
    rw [hanswer] at hdone
    refine ⟨⟨_, .head _, rfl⟩, rfl, ?_⟩
    rcases hdone.same_or_acted with hsame | ⟨x, old, -, hstored, -⟩
    · exact .of_eq hsame
    · exact ⟨some x, hstored⟩

/-! ### Writes of objects -/

theorem Upkeep.traces_writeStatus (hfaithful : api.Faithful kind stored)
    (hlasting : api.Lasting stored) {new : Object Spec Status} {status : Status}
    (hstatus : new.status = some status) (hwrites : kind.Writes reading status)
    (scope : Option String) (o : Object Spec Status) :
    Call.Traces (writeStatus kind api.traced scope o new.status)
      (writeStatus kind api scope o new.status)
      (fun s x es s' => Sent.children es = [] ∧ ∃ old, stored s ⟨scope, o.metadata.anyName⟩ = some old ∧
        stored s' = Function.update (stored s) ⟨scope, o.metadata.anyName⟩ (some x) ∧
        x.spec = old.spec ∧ x.managed = old.managed ∧
        reading x.status = { reading new.status with connection := (reading old.status).connection })
      fun s es s' => Missed es ∧ Sent.children es = [] ∧
        Located stored ⟨scope, o.metadata.anyName⟩ s s' := by
  rw [hstatus]
  refine Call.Traces.context (Call.Traces.imp
    (hfaithful.traces_patchStatus hlasting _ _) ?_ fun _ _ _ h => h) _
  rintro s x es s' ⟨hnone, old, hold, hstored, hspec, hmanaged, -, j, hj, hmerged⟩
  exact ⟨hnone, old, hold, hstored, hspec, hmanaged, hwrites j _ _ hj hmerged⟩

/-- An object that is stored with its status is seen as it is wanted. -/
theorem Object.shows_of {x new : Object Spec Status} {connection : Option Connection}
    (hspec : x.spec = new.spec) (hmanaged : x.managed = new.managed)
    (hreading : reading x.status = { reading new.status with connection := connection }) :
    x.Shows reading new := by
  rw [Shows, face, face, hspec, hmanaged, hreading]

theorem Upkeep.traces_create (hfaithful : api.Faithful kind stored) (hlasting : api.Lasting stored)
    {new : Object Spec Status} {name : String} (hname : new.metadata.name = some name)
    {status : Status} (hstatus : new.status = some status) (hwrites : kind.Writes reading status) :
    Call.Traces (create kind api.traced new) (create kind api new)
      (fun s x es s' => Sent.children es = [] ∧ stored s (target kind new) = none ∧
        stored s' = Function.update (stored s) (target kind new) (some x) ∧ x.Shows reading new)
      fun s es s' => Missed es ∧ Sent.children es = [] ∧ Located stored (target kind new) s s' := by
  have hplace : target kind new = ⟨kind.scope new.metadata.ns, name⟩ := by
    rw [target, Metadata.anyName_eq hname]
  have hstore := Call.Traces.context ((hfaithful.create (kind.scope new.metadata.ns) name new
    hname).traces .create fun _ _ created h => ⟨some created, h.2.1⟩)
    ("failed to create " ++ new.metadata.anyName)
  have hwhole := hstore.bind fun created =>
    traces_writeStatus hfaithful hlasting hstatus hwrites (kind.scope new.metadata.ns) created
  have hcreated : ∀ {s mid : σ} {created : Object Spec Status},
      stored mid = Function.update (stored s) ⟨kind.scope new.metadata.ns, name⟩ (some created) →
      (⟨kind.scope new.metadata.ns, created.metadata.anyName⟩ : Target) = target kind new := by
    intro s mid created hmid
    have hat : stored mid ⟨kind.scope new.metadata.ns, name⟩ = some created := by
      rw [hmid, Function.update_self]
    rw [hfaithful.anyName_eq hat, hplace]
  refine Call.Traces.imp hwhole ?_ ?_
  · rintro s x es s' ⟨created, mid, first, rest, rfl, ⟨hfirst, hfree, hmid, hspec, -, hlabels⟩,
      hrest, old, hold, hstored, hsame, hmanaged, hreading⟩
    rw [hcreated hmid] at hold hstored
    rw [← hplace] at hfree hmid
    rw [hmid, Function.update_self] at hold
    cases hold
    refine ⟨by rw [Sent.children_append, hfirst, hrest]; rfl, hfree, ?_, ?_⟩
    · rw [hstored, hmid, Function.update_idem]
    · exact Object.shows_of (hsame.trans hspec)
        (hmanaged.trans (Object.managed_of_labels hlabels)) hreading
  · rintro s es s' (⟨hmissed, hnone, hlocated⟩ | ⟨created, mid, first, rest, rfl,
      ⟨hfirst, -, hmid, -⟩, hmissed, hrest, hlocated⟩)
    · rw [hplace]
      exact ⟨hmissed, hnone, hlocated⟩
    · rw [hcreated hmid] at hlocated
      refine ⟨Sent.missed_append.2 (.inr hmissed), by rw [Sent.children_append, hfirst, hrest]; rfl,
        Located.trans ⟨some created, ?_⟩ hlocated⟩
      rw [hplace]
      exact hmid

theorem Upkeep.traces_update (hfaithful : api.Faithful kind stored) (hlasting : api.Lasting stored)
    {old new : Object Spec Status} (hnew : new.Wanted kind) {status : Status}
    (hstatus : new.status = some status) (hwrites : kind.Writes reading status) :
    Call.Traces (update kind api.traced old new) (update kind api old new)
      (fun s x es s' => Sent.children es = [] ∧
        if unchanged kind old new then x = old ∧ s' = s
        else stored s' = Function.update (stored s) (target kind old) (some x) ∧
          x.Shows reading new)
      fun s es s' => Missed es ∧ Sent.children es = [] ∧ Located stored (target kind old) s s' := by
  rw [update, update]
  by_cases hunchanged : unchanged kind old new = true
  · rw [if_pos hunchanged, if_pos hunchanged]
    refine Call.Traces.imp (.pure old) ?_ fun _ _ _ h => h.elim
    rintro s x es s' ⟨rfl, rfl, rfl⟩
    rw [if_pos hunchanged]
    exact ⟨rfl, rfl, rfl⟩
  · rw [if_neg hunchanged, if_neg hunchanged]
    have hstore := Call.Traces.context ((hfaithful.replace (target kind old)
      (renewed old new)).traces .replace fun _ _ replaced h => ⟨some replaced, h.choose_spec.2.1⟩)
      ("failed to replace " ++ (target kind old).name)
    have hwhole := hstore.bind fun replaced =>
      traces_writeStatus hfaithful hlasting hstatus hwrites (target kind old).scope replaced
    have hreplaced : ∀ {s mid : σ} {replaced : Object Spec Status},
        stored mid = Function.update (stored s) (target kind old) (some replaced) →
        (⟨(target kind old).scope, replaced.metadata.anyName⟩ : Target) = target kind old := by
      intro s mid replaced hmid
      have hat : stored mid (target kind old) = some replaced := by
        rw [hmid, Function.update_self]
      rw [hfaithful.anyName_eq hat]
    refine Call.Traces.imp hwhole ?_ ?_
    · rintro s x es s' ⟨replaced, mid, first, rest, rfl, ⟨hfirst, _, -, hmid, hspec, -, hlabels⟩,
        hrest, before, hbefore, hstored, hsame, hmanaged, hreading⟩
      rw [hreplaced hmid] at hbefore hstored
      rw [hmid, Function.update_self] at hbefore
      cases hbefore
      rw [if_neg hunchanged]
      refine ⟨by rw [Sent.children_append, hfirst, hrest]; rfl, ?_, ?_⟩
      · rw [hstored, hmid, Function.update_idem]
      · refine Object.shows_of (hsame.trans hspec) ?_ hreading
        rw [hmanaged, Object.managed_of_labels hlabels, managed_renewed hnew, hnew.managed]
    · rintro s es s' (⟨hmissed, hnone, hlocated⟩ | ⟨replaced, mid, first, rest, rfl,
        ⟨hfirst, _, -, hmid, -⟩, hmissed, hrest, hlocated⟩)
      · exact ⟨hmissed, hnone, hlocated⟩
      · rw [hreplaced hmid] at hlocated
        exact ⟨Sent.missed_append.2 (.inr hmissed), by rw [Sent.children_append, hfirst, hrest]; rfl,
          Located.trans ⟨some replaced, hmid⟩ hlocated⟩

/-! ### Writes that leave what a state shows -/

variable {view : σ → β}

theorem Upkeep.leaves_create (hcreate : ∀ scope new, (api.create scope new).Leaves view)
    (hpatch : ∀ place patch, (api.patchStatus place patch).Leaves view) (new : Object Spec Status) :
    (create kind api new).Leaves view :=
  Call.leaves_iff.2 fun _ =>
    preserves_create (fun place patch => Call.leaves_iff.1 (hpatch place patch) _)
      fun scope => Call.leaves_iff.1 (hcreate scope new) _

theorem Upkeep.leaves_update (hreplace : ∀ place new, (api.replace place new).Leaves view)
    (hpatch : ∀ place patch, (api.patchStatus place patch).Leaves view)
    (old new : Object Spec Status) : (update kind api old new).Leaves view :=
  Call.leaves_iff.2 fun _ =>
    preserves_update (fun place patch => Call.leaves_iff.1 (hpatch place patch) _)
      fun place => Call.leaves_iff.1 (hreplace place _) _

end

end EdgeAgent
