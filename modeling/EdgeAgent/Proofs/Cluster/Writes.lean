import EdgeAgent.Proofs.Cluster.Requests
import EdgeAgent.Proofs.Cluster.Turn
import EdgeAgent.Proofs.Resource.Fingerprint
import EdgeAgent.Sync.Plan

/-! What one write of the agent does to the store. A creation or an update changes the outline of the
object at its own place and no other one, and there it comes to one of a few turns, whichever of its
requests are answered. A removal empties its place, and maybe others whose objects belong to the
removed one. -/

namespace EdgeAgent

open Exchange (Missed Torn)

variable {σ ι D α β Spec Status : Type}

/-- The fingerprint of a spec of a kind. -/
def Kind.hashOf (kind : Kind Spec Status) (spec : Spec) : String :=
  fingerprint (kind.encodeSpec spec)

/-- An object that the agent asks for gives its place, carries the label of the agent, and its
status records the fingerprint of its spec. -/
structure Object.Wanted (kind : Kind Spec Status) (new : Object Spec Status) : Prop where
  named : ∃ name, new.metadata.name = some name
  labels : new.metadata.labels = some managerLabels
  recorded : ∃ status, new.status = some status ∧ kind.specHash status = kind.hashOf new.spec

namespace Write

/-- The spec that a write asks for. -/
def spec? : Write (Object Spec Status) → Option Spec
  | .create new => some new.spec
  | .update _ new => some new.spec
  | .delete _ => none

def place (kind : Kind Spec Status) : Write (Object Spec Status) → Target
  | .create new => Upkeep.target kind new
  | .update old _ => Upkeep.target kind old
  | .delete old => Upkeep.target kind old

theorem map_place_delete (kind : Kind Spec Status) (deletions : List (Object Spec Status)) :
    (deletions.map delete).map (place kind) = deletions.map (Upkeep.target kind) :=
  List.map_map

/-- What a write asks for can be asked for. -/
def Wanted (kind : Kind Spec Status) : Write (Object Spec Status) → Prop
  | .create new => new.Wanted kind
  | .update _ new => new.Wanted kind
  | .delete _ => True

/-- A write is meant for what lies at its place. -/
def Fits (kind : Kind Spec Status) :
    Write (Object Spec Status) → Option (Outline Spec) → Prop
  | .create _, o => ∀ x, o = some x → x.managed = false
  | .update old _, o => o = some (old.outline kind) ∧ old.managed = true
  | .delete old, o => o = some (old.outline kind) ∧ old.managed = true

/-- The outline at the place of a write is changed alone, and there comes to a turn. -/
def Turns (kind : Kind Spec Status) (x : Write (Object Spec Status)) (es : List Exchange)
    (before after : Target → Option (Outline Spec)) : Prop :=
  ∃ o, after = Function.update before (x.place kind) o ∧
    (x.Fits kind (before (x.place kind)) →
      Turn kind.hashOf es x.spec? (before (x.place kind)) o)

variable {kind : Kind Spec Status} {x : Write (Object Spec Status)} {es es' : List Exchange}
  {before after : Target → Option (Outline Spec)}

theorem Turns.mono (h : x.Turns kind es before after) (hpart : es <:+: es') :
    x.Turns kind es' before after := by
  obtain ⟨o, hafter, hturn⟩ := h
  exact ⟨o, hafter, fun hfits => (hturn hfits).mono hpart⟩

theorem Turns.of_missed (h : Missed es) : x.Turns kind es before before :=
  ⟨_, (Function.update_eq_self _ _).symm, fun _ => .missed _ _ h⟩

/-- What a write does, where objects may own each other. -/
def Does (kind : Kind Spec Status) (stored : σ → Store Spec Status)
    (owns : σ → Target → Target → Prop) :
    Write (Object Spec Status) → List Exchange → σ → σ → Prop
  | .delete old, es, s, s' =>
    Missed es ∧ seenIn kind stored s' = seenIn kind stored s ∨
      Empties (seenIn kind stored) none (owns s (Upkeep.target kind old))
        (Upkeep.target kind old) s s'
  | x, es, s, s' => x.Turns kind es (seenIn kind stored s) (seenIn kind stored s')

end Write

/-! ### Writes of objects -/

section

variable {kind : Kind Spec Status} {stored : σ → Store Spec Status} {api : Api σ Spec Status}
  {c : Call σ α} {c' : Call (σ × List Exchange) α}

/-- A call changes the outlines in a certain way, whether or not it is answered. -/
def Call.Changes (kind : Kind Spec Status) (stored : σ → Store Spec Status)
    (c' : Call (σ × List Exchange) α) (c : Call σ α)
    (changed : List Exchange → (Target → Option (Outline Spec)) →
      (Target → Option (Outline Spec)) → Prop) : Prop :=
  c'.Traces c
    (fun s _ es s' => changed es (seenIn kind stored s) (seenIn kind stored s'))
    fun s es s' => changed es (seenIn kind stored s) (seenIn kind stored s')

theorem Kind.hashOf_ne_empty (kind : Kind Spec Status) (spec : Spec) : kind.hashOf spec ≠ "" :=
  Sha256.hex_ne_empty _

theorem Object.Wanted.managed {new : Object Spec Status} (hnew : new.Wanted kind) :
    new.managed = true := by
  rw [Object.managed, hnew.labels]
  rfl

theorem Object.Wanted.recordedHash {new : Object Spec Status} (hnew : new.Wanted kind) :
    new.recordedHash kind = some (kind.hashOf new.spec) := by
  obtain ⟨status, hstatus, hhash⟩ := hnew.recorded
  rw [Object.recordedHash_eq, hstatus, Kind.hash?, Option.bind_some, hhash,
    if_neg (kind.hashOf_ne_empty _)]

/-- The status of a wanted object, once it is written, records the fingerprint of the spec. -/
theorem Api.Faithful.requests_writeStatus (hfaithful : api.Faithful kind stored)
    (hrecording : kind.Recording) {new : Object Spec Status} (hnew : new.Wanted kind)
    (scope : Option String) (o : Object Spec Status) :
    Call.Requests kind stored .patchStatus
      (Upkeep.writeStatus kind api.noted scope o new.status)
      (Upkeep.writeStatus kind api scope o new.status)
      fun _ before after => ∃ x, before ⟨scope, o.metadata.anyName⟩ = some x ∧
        after = Function.update before ⟨scope, o.metadata.anyName⟩
          (some ⟨x.spec, some (kind.hashOf new.spec), x.managed⟩) := by
  obtain ⟨status, hstatus, hhash⟩ := hnew.recorded
  rw [hstatus]
  refine Call.Traces.context (hfaithful.requests_patchStatus _ _ (fun _ => _) ?_) _
  intro j before after _ hmerged
  rw [← hhash]
  refine Kind.hash_of_stands_merge_status hrecording ?_ hmerged
  rw [hhash]
  exact kind.hashOf_ne_empty _

/-- An object is stored, and then its status. -/
theorem Write.Turns.of_created {es : List Exchange} {new : Object Spec Status}
    (hnew : new.Wanted kind) {before mid after : Target → Option (Outline Spec)} {place : Target}
    (hplace : (Write.create new).place kind = place) (hfree : before place = none)
    (hmid : mid = Function.update before place (some ⟨new.spec, none, new.managed⟩))
    (hafter : mid = after ∧ Missed es ∨ ∃ x, mid place = some x ∧
      after = Function.update mid place (some ⟨x.spec, some (kind.hashOf new.spec), x.managed⟩)) :
    (Write.create new).Turns kind es before after := by
  subst hplace
  rw [hnew.managed] at hmid
  rcases hafter with ⟨rfl, hmissed⟩ | ⟨x, hx, hafter⟩
  · refine ⟨_, hmid, fun _ => ?_⟩
    rw [hfree]
    exact .begun new.spec hmissed
  · rw [hmid, Function.update_self] at hx
    cases hx
    rw [hmid, Function.update_idem] at hafter
    refine ⟨_, hafter, fun _ => ?_⟩
    rw [hfree]
    exact .created new.spec

theorem Upkeep.changes_create (hfaithful : api.Faithful kind stored) (hrecording : kind.Recording)
    {new : Object Spec Status} (hnew : new.Wanted kind) :
    Call.Changes kind stored (create kind api.noted new) (create kind api new)
      ((Write.create new).Turns kind) := by
  obtain ⟨name, hname⟩ := hnew.named
  have hplace : (Write.create new).place kind = ⟨kind.scope new.metadata.ns, name⟩ := by
    rw [Write.place, target, Metadata.anyName_eq hname]
  have hstore := Call.Traces.context
    (hfaithful.requests_create (kind.scope new.metadata.ns) hname)
    ("failed to create " ++ new.metadata.anyName)
  refine Call.Traces.imp (hstore.bind
    (hfaithful.requests_writeStatus hrecording hnew (kind.scope new.metadata.ns))) ?_ ?_
  · rintro s _ es s' ⟨created, mid, first, rest, rfl, ⟨rfl, hcreated, hfree, hmid⟩, rfl, hafter⟩
    rw [hcreated] at hafter
    exact .of_created hnew hplace hfree hmid (.inr hafter)
  · rintro s es s' (⟨rfl, hsame | ⟨created, hcreated, hfree, hmid⟩⟩ |
      ⟨created, mid, first, rest, rfl, ⟨rfl, hcreated, hfree, hmid⟩, rfl, hafter⟩)
    · rw [hsame]
      exact .of_missed ⟨_, .head _, rfl⟩
    · exact .of_created hnew hplace hfree hmid (.inl ⟨rfl, _, .head _, rfl⟩)
    · rw [hcreated] at hafter
      refine .of_created hnew hplace hfree hmid ?_
      rcases hafter with hsame | ⟨_, hafter⟩
      · exact .inl ⟨hsame.symm, _, .tail _ (.head _), rfl⟩
      · exact .inr hafter

/-- The labels that are wanted are laid over those of the object. -/
theorem Upkeep.managed_renewed {old new : Object Spec Status} (hnew : new.Wanted kind) :
    (renewed old new).managed = true := by
  rw [Object.managed, renewed, hnew.labels]
  change decide ((((old.metadata.labels.getD Dict.empty).insert managerLabel managerName).find?
    managerLabel) = some managerName) = true
  rw [Dict.find?_insert, if_pos rfl]
  exact decide_eq_true rfl

theorem Upkeep.unchanged_iff {old new : Object Spec Status} (hnew : new.Wanted kind) :
    unchanged kind old new = true ↔ old.recordedHash kind = some (kind.hashOf new.spec) := by
  rw [unchanged, hnew.recordedHash, Bool.and_eq_true, decide_eq_true_eq]
  constructor
  · exact And.right
  · intro h
    exact ⟨by rw [h]; rfl, h⟩

/-- An object is replaced, and then its status. -/
theorem Write.Turns.of_replaced {es : List Exchange} {old new : Object Spec Status}
    (hnew : new.Wanted kind) (hchanged : ¬Upkeep.unchanged kind old new = true)
    {before mid after : Target → Option (Outline Spec)} {x : Outline Spec}
    (hx : before (Upkeep.target kind old) = some x)
    (hmid : mid = Function.update before (Upkeep.target kind old) (some ⟨new.spec, x.hash, true⟩))
    (hafter : mid = after ∧ Torn es ∨ ∃ y, mid (Upkeep.target kind old) = some y ∧
      after = Function.update mid (Upkeep.target kind old)
        (some ⟨y.spec, some (kind.hashOf new.spec), y.managed⟩)) :
    (Write.update old new).Turns kind es before after := by
  have hturn : ∀ o, (x.managed = true → x.hash ≠ some (kind.hashOf new.spec) →
      Turn kind.hashOf es (some new.spec) (some x) (some o)) →
      (Write.update old new).Fits kind (before (Upkeep.target kind old)) →
      Turn kind.hashOf es (some new.spec) (before (Upkeep.target kind old)) (some o) := by
    rintro o ho ⟨hfits, hmanaged⟩
    rw [hx] at hfits ⊢
    cases hfits
    exact ho hmanaged fun hhash => hchanged ((Upkeep.unchanged_iff hnew).2 hhash)
  rcases hafter with ⟨rfl, htorn⟩ | ⟨y, hy, hafter⟩
  · exact ⟨_, hmid, hturn _ fun hmanaged hhash => .torn new.spec x htorn hmanaged hhash⟩
  · rw [hmid, Function.update_self] at hy
    cases hy
    rw [hmid, Function.update_idem] at hafter
    exact ⟨_, hafter, hturn _ fun hmanaged hhash => .renewed new.spec x hmanaged hhash⟩

theorem Upkeep.changes_update (hfaithful : api.Faithful kind stored) (hrecording : kind.Recording)
    {old new : Object Spec Status} (hnew : new.Wanted kind) :
    Call.Changes kind stored (update kind api.noted old new) (update kind api old new)
      ((Write.update old new).Turns kind) := by
  rw [update, update]
  by_cases hunchanged : unchanged kind old new = true
  · rw [if_pos hunchanged, if_pos hunchanged]
    refine Call.Traces.imp (.pure old) ?_ fun _ _ _ h => h.elim
    rintro s _ _ s' ⟨-, rfl, rfl⟩
    refine ⟨_, (Function.update_eq_self _ _).symm, fun ⟨hfits, hmanaged⟩ => ?_⟩
    rw [hfits]
    exact .suppressed new.spec _ hmanaged ((unchanged_iff hnew).1 hunchanged)
  · rw [if_neg hunchanged, if_neg hunchanged]
    have hstore := Call.Traces.context
      (hfaithful.requests_replace (target kind old) (renewed old new))
      ("failed to replace " ++ (target kind old).name)
    rw [managed_renewed hnew] at hstore
    refine Call.Traces.imp (hstore.bind
      (hfaithful.requests_writeStatus hrecording hnew (target kind old).scope)) ?_ ?_
    · rintro s _ es s' ⟨replaced, mid, first, rest, rfl, ⟨rfl, hreplaced, x, hx, hmid⟩, rfl, hafter⟩
      rw [hreplaced] at hafter
      exact .of_replaced hnew hunchanged hx hmid (.inr hafter)
    · rintro s es s' (⟨rfl, hsame | ⟨replaced, hreplaced, x, hx, hmid⟩⟩ |
        ⟨replaced, mid, first, rest, rfl, ⟨rfl, hreplaced, x, hx, hmid⟩, rfl, hafter⟩)
      · rw [hsame]
        exact .of_missed ⟨_, .head _, rfl⟩
      · exact .of_replaced hnew hunchanged hx hmid (.inl ⟨rfl, .inl List.infix_rfl⟩)
      · rw [hreplaced] at hafter
        refine .of_replaced hnew hunchanged hx hmid ?_
        rcases hafter with hsame | ⟨_, hafter⟩
        · exact .inl ⟨hsame.symm, .inr List.infix_rfl⟩
        · exact .inr hafter

theorem Upkeep.does_delete {census : Census σ ι D} {slot : Target → ι}
    (hcollects : api.Collects census slot stored) (old : Object Spec Status) :
    Call.Traces (delete kind api.noted old) (delete kind api old)
      (fun s _ es s' => (Write.delete old).Does kind stored (census.Owns slot) es s s')
      fun s es s' => (Write.delete old).Does kind stored (census.Owns slot) es s s' := by
  refine Call.Traces.context (Call.Traces.of_forall _ fun w => ?_) _
  rcases hcollects.cases (target kind old) w with ⟨hmissed, hsame⟩ | hempties
  · exact .inl ⟨⟨_, .head _, hmissed⟩, congrArg (Store.outlines kind) hsame⟩
  · exact .inr (hempties.map _)

/-! ### Calls that change no outline -/

/-- A call changes no outline. -/
abbrev Call.Keeps (kind : Kind Spec Status) (stored : σ → Store Spec Status)
    (c' : Call (σ × List Exchange) α) (c : Call σ α) : Prop :=
  Call.Changes kind stored c' c fun _ before after => after = before

/-- What follows a write and changes no outline leaves its turn. -/
theorem Call.Changes.bind {x : Write (Object Spec Status)} {next : α → Call σ β}
    {next' : α → Call (σ × List Exchange) β}
    (hc : Call.Changes kind stored c' c (x.Turns kind))
    (hnext : ∀ y, Call.Keeps kind stored (next' y) (next y)) :
    Call.Changes kind stored (c'.bind next') (c.bind next) (x.Turns kind) := by
  have hgrow : ∀ (first rest : List Exchange) (before mid after : Target → Option (Outline Spec)),
      x.Turns kind first before mid → after = mid → x.Turns kind (first ++ rest) before after := by
    rintro first rest before mid after hturns rfl
    exact hturns.mono (List.prefix_append first rest).isInfix
  refine Call.Traces.imp (Call.Traces.bind hc hnext) ?_ ?_
  · rintro s _ es s' ⟨y, mid, first, rest, rfl, hturns, hsame⟩
    exact hgrow _ _ _ _ _ hturns hsame
  · rintro s es s' (hturns | ⟨y, mid, first, rest, rfl, hturns, hsame⟩)
    · exact hturns
    · exact hgrow _ _ _ _ _ hturns hsame

theorem Call.Keeps.bind {next : α → Call σ β} {next' : α → Call (σ × List Exchange) β}
    (hc : Call.Keeps kind stored c' c) (hnext : ∀ y, Call.Keeps kind stored (next' y) (next y)) :
    Call.Keeps kind stored (c'.bind next') (c.bind next) := by
  refine Call.Traces.imp (Call.Traces.bind hc hnext) ?_ ?_
  · rintro s _ es s' ⟨y, mid, first, rest, rfl, hmid, hafter⟩
    exact hafter.trans hmid
  · rintro s es s' (hsame | ⟨y, mid, first, rest, rfl, hmid, hafter⟩)
    · exact hsame
    · exact hafter.trans hmid

theorem Call.Keeps.attempt (hc : Call.Keeps kind stored c' c) :
    Call.Keeps kind stored c'.attempt c.attempt := by
  refine Call.Traces.imp (Call.Traces.attempt hc) ?_ fun _ _ _ h => h
  rintro s (_ | _) es s' hsame <;> exact hsame

theorem Call.keeps_pure (y : α) : Call.Keeps kind stored (Call.pure y) (Call.pure y) := by
  refine Call.Traces.imp (.pure y) ?_ fun _ _ _ h => h.elim
  rintro s _ _ s' ⟨-, -, rfl⟩
  rfl

theorem Call.keeps_fail (message : String) :
    Call.Keeps kind stored (Call.fail message : Call _ α) (Call.fail message) := by
  refine Call.Traces.imp (.fail message) (fun _ _ _ _ h => h.elim) ?_
  rintro s _ s' ⟨-, rfl⟩
  rfl

theorem Call.keeps_report (entry : LogEntry) :
    Call.Keeps kind stored (Call.report entry) (Call.report entry) := by
  refine Call.Traces.imp (.report entry) ?_ fun _ _ _ h => h.elim
  rintro s _ _ s' ⟨-, rfl⟩
  rfl

/-- What a write of the agent does. -/
theorem Upkeep.does_write {census : Census σ ι D} {slot : Target → ι}
    (hfaithful : api.Faithful kind stored) (hcollects : api.Collects census slot stored)
    (hrecording : kind.Recording) {x : Write (Object Spec Status)} (hx : x.Wanted kind) :
    Call.Traces (write kind api.noted x) (write kind api x)
      (fun s _ es s' => x.Does kind stored (census.Owns slot) es s s')
      fun s es s' => x.Does kind stored (census.Owns slot) es s s' := by
  cases x with
  | create new => exact (changes_create hfaithful hrecording hx).bind fun _ => Call.keeps_pure ()
  | update old new =>
      exact (changes_update hfaithful hrecording hx).bind fun _ => Call.keeps_pure ()
  | delete old => exact does_delete hcollects old

end

end EdgeAgent
