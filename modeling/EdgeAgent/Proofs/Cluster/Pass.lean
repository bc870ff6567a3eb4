import EdgeAgent.Proofs.Cluster.Keeper
import EdgeAgent.Proofs.Cluster.Planned
import EdgeAgent.Proofs.Sync.Made

/-! What a pass does to the store. Its creations and updates have places of their own, so that each
place sees its own one only and comes to the turn of it. Then come the removals. The places at which
nothing is written are left alone; but an object that belongs to a removed one may be taken along. -/

namespace EdgeAgent

open Exchange (Missed)

variable {σ ι D Record Spec Status : Type}

/-! ### The writes of a pass, one after the other -/

section

variable {kind : Kind Spec Status} {stored : σ → Store Spec Status} {api : Api σ Spec Status}
  {s s' : σ} {taken : Target → Prop} {listed news deletions : List (Object Spec Status)}
  {writes : List (Write (Object Spec Status))} {runs : List (Bool × List Exchange)}

theorem Write.Does.imp {owns owns' : σ → Target → Target → Prop} {x : Write (Object Spec Status)}
    {es : List Exchange} (h : x.Does kind stored owns es s s')
    (himp : ∀ old, x = .delete old → ∀ other, owns s (Upkeep.target kind old) other →
      owns' s (Upkeep.target kind old) other) : x.Does kind stored owns' es s s' := by
  cases x with
  | create new => exact h
  | update old new => exact h
  | delete old => exact Or.imp_right (Empties.imp · (himp old rfl)) h

theorem Write.Does.turns {owns : σ → Target → Target → Prop} {x : Write (Object Spec Status)}
    {es : List Exchange} {spec : Spec} (h : x.Does kind stored owns es s s')
    (hspec : x.spec? = some spec) :
    x.Turns kind es (seenIn kind stored s) (seenIn kind stored s') := by
  cases x with
  | create new => exact h
  | update old new => exact h
  | delete old => cases hspec

/-- Creations and updates with places of their own bring these to their turns, and leave the others
alone. -/
theorem turns_of_requests (hasks : ∀ x ∈ writes, ∃ spec, x.spec? = some spec)
    (hplaces : (writes.map (Write.place kind)).Nodup)
    (hruns : Runs (fun x _ => x.Does kind stored fun _ _ => taken) writes runs s s') :
    (∀ place ∉ writes.map (Write.place kind),
      seenIn kind stored s' place = seenIn kind stored s place) ∧
    ∀ x ∈ writes, x.Fits kind (seenIn kind stored s (x.place kind)) →
      Turn kind.hashOf (notesOf runs) x.spec? (seenIn kind stored s (x.place kind))
        (seenIn kind stored s' (x.place kind)) := by
  let comes (x : Write (Object Spec Status)) (_ : Bool) (es : List Exchange)
      (before after : Option (Outline Spec)) : Prop :=
    x.Fits kind before → Turn kind.hashOf es x.spec? before after
  have hturns : Runs (fun x _ es s s' =>
      x.Turns kind es (seenIn kind stored s) (seenIn kind stored s')) writes runs s s' :=
    hruns.imp fun x hx _ _ _ _ hdoes => hdoes.turns (hasks x hx).choose_spec
  have hmoves : ∀ (x : Write (Object Spec Status)) ok es s s',
      x.Turns kind es (seenIn kind stored s) (seenIn kind stored s') →
      Located (seenIn kind stored) (x.place kind) s s' ∧
        comes x ok es (seenIn kind stored s (x.place kind)) (seenIn kind stored s' (x.place kind)) := by
    rintro x ok es s s' ⟨o, hafter, hturn⟩
    refine ⟨⟨o, hafter⟩, fun hfits => ?_⟩
    rw [hafter, Function.update_self]
    exact hturn hfits
  obtain ⟨hframe, hcomes⟩ := hturns.forall₂ hmoves hplaces
  refine ⟨hframe, fun x hx hfits => ?_⟩
  obtain ⟨run, hrun, hcame⟩ := exists_of_forall₂ hcomes hx
  exact (hcame hfits).mono (infix_notesOf hrun)

/-- Removals leave what is at a place, or nothing: at their own places, or where an object is taken
along. -/
theorem outlines_of_deletions
    (hruns : Runs (fun x _ => x.Does kind stored fun _ _ => taken) (deletions.map .delete) runs s s')
    (place : Target) :
    seenIn kind stored s' place = seenIn kind stored s place ∧
        (place ∈ deletions.map (Upkeep.target kind) → Missed (notesOf runs)) ∨
      seenIn kind stored s' place = none ∧
        (place ∈ deletions.map (Upkeep.target kind) ∨ taken place) := by
  have hremoves : Runs (fun x _ es s s' =>
      Missed es ∧ seenIn kind stored s' = seenIn kind stored s ∨
        Empties (seenIn kind stored) none taken (x.place kind) s s')
      (deletions.map .delete) runs s s' := by
    refine hruns.imp fun x hx _ _ _ _ hdoes => ?_
    obtain ⟨old, -, rfl⟩ := List.mem_map.1 hx
    exact hdoes
  rw [← Write.map_place_delete]
  refine (hremoves.emptied (fun _ _ _ _ _ h => h) place).imp_left (.imp_right fun h hmem => ?_)
  obtain ⟨run, hrun, hmissed⟩ := h hmem
  exact hmissed.mono (infix_notesOf hrun)

/-- The writes of a plan bring every place to the turn of what is wanted there, unless its object is
taken along with another one. -/
theorem Planned.turns (hplanned : Planned listed news deletions writes)
    (hfaithful : api.Faithful kind stored) (hlisted : Listed (stored s) listed)
    (hplain : (stored s).Plain kind) (hnews : Asked kind news)
    (hruns : Runs (fun x _ => x.Does kind stored fun _ _ => taken) writes runs s s')
    (place : Target) :
    Turn kind.hashOf (notesOf runs) (wantedAt kind news place) (seenIn kind stored s place)
        (seenIn kind stored s' place) ∨
      seenIn kind stored s' place = none ∧ taken place := by
  have hplaces := hplanned.nodup_places hfaithful hlisted hplain hnews
  have hspec : ∀ x ∈ news.map (Step.request Object.key listed []), ∃ spec, x.spec? = some spec := by
    refine List.forall_mem_map.2 fun new hnew => ⟨new.spec, ?_⟩
    exact (hfaithful.request_fits hlisted hplain hnews hnew).2.2.1
  obtain rfl := hplanned.eq
  have hfits := hplanned.fits hfaithful hlisted hplain hnews place
  obtain ⟨mid, first, rest, rfl, hfirst, hrest⟩ := hruns.of_append
  rw [List.map_append, List.nodup_append] at hplaces
  obtain ⟨hframe, hturns⟩ := turns_of_requests hspec hplaces.1 hfirst
  have hlater := outlines_of_deletions hrest place
  rw [Write.map_place_delete] at hplaces
  rw [notesOf_append]
  rcases hfits with ⟨x, hx, rfl, hwanted, hfits⟩ | ⟨hnone, hwanted, hforeign⟩
  · rw [← hwanted]
    rcases List.mem_append.1 hx with hrequest | hdelete
    · have hturn := (hturns x hrequest hfits).mono (List.prefix_append _ (notesOf rest)).isInfix
      have hkept : x.place kind ∉ deletions.map (Upkeep.target kind) := fun hmem =>
        hplaces.2.2 _ (List.mem_map_of_mem hrequest) _ hmem rfl
      rcases hlater with ⟨hsame, -⟩ | ⟨hgone, hwhere⟩
      · rw [hsame]
        exact .inl hturn
      · exact .inr ⟨hgone, hwhere.resolve_left hkept⟩
    · obtain ⟨old, hold, rfl⟩ := List.mem_map.1 hdelete
      have hmem : Upkeep.target kind old ∈ deletions.map (Upkeep.target kind) :=
        List.mem_map_of_mem hold
      have hmid : seenIn kind stored mid (Upkeep.target kind old) =
          seenIn kind stored s (Upkeep.target kind old) :=
        hframe _ fun hrequest => hplaces.2.2 _ hrequest _ hmem rfl
      rcases hlater with ⟨hsame, hmissed⟩ | ⟨hgone, -⟩
      · rw [hsame, Write.place, hmid]
        exact .inl (.missed _ _ ((hmissed hmem).mono (List.suffix_append _ _).isInfix))
      · rw [hgone, hfits.1]
        exact .inl (.removed _ hfits.2)
  · rw [List.map_append, Write.map_place_delete, List.mem_append, not_or] at hnone
    rw [hwanted]
    rcases hlater with ⟨hsame, -⟩ | ⟨hgone, hwhere⟩
    · rw [hsame, hframe place hnone.1]
      exact .inl (.foreign _ hforeign)
    · exact .inr ⟨hgone, hwhere.resolve_left hnone.2⟩

end

/-! ### A whole pass -/

namespace Keeper

variable {keeper : Keeper σ Record Spec Status} {stored : σ → Store Spec Status}
  {census : Census σ ι D} {round : Round Record} {records : List Record}

/-- The records of a round become objects with keys of their own, in namespaces without `@`. -/
def Keyed (keeper : Keeper σ Record Spec Status) (round : Round Record) : Prop :=
  ∀ records, round.answer = .ok records →
    ((keeper.objects round.now records).map Object.key).Nodup ∧
    ∀ new ∈ keeper.objects round.now records, ∀ ns, new.metadata.ns = some ns → '@' ∉ ns.toList

theorem Keyed.asked (hkeyed : keeper.Keyed round) (hanswer : round.answer = .ok records) :
    Asked keeper.kind (keeper.objects round.now records) := by
  obtain ⟨hkeys, hplain⟩ := hkeyed records hanswer
  have htarget : ∀ new ∈ keeper.objects round.now records,
      new.Wanted keeper.kind ∧ keeper.kind.Holds ⟨new.metadata.ns, new.metadata.anyName⟩ :=
    fun new => wanted_of_mem
  refine ⟨fun new hnew => (htarget new hnew).1, ?_, ?_, hkeys⟩
  · intro new hnew
    rw [Upkeep.target_eq (htarget new hnew).2 rfl rfl]
    exact ⟨(htarget new hnew).2, hplain new hnew⟩
  · intro new hnew
    obtain ⟨hwanted, hholds⟩ := htarget new hnew
    obtain ⟨name, hname⟩ := hwanted.named
    exact Object.key_eq hname hholds

/-- The objects are listed without a change. -/
theorem traces_list (hfaithful : keeper.Faithful stored) :
    Call.Traces (Upkeep.list keeper.kind keeper.api.noted) (Upkeep.list keeper.kind keeper.api)
      (fun s listed _ s' => stored s' = stored s ∧ Listed (stored s) listed)
      fun s es s' => stored s' = stored s ∧ Missed es := by
  refine Call.Traces.context (Call.Traces.of_noting _ ?_ ?_) _
  · intro w listed hanswer
    obtain ⟨hsame, hlisted⟩ := hfaithful.api.list w
    exact ⟨hsame, hlisted listed hanswer⟩
  · intro w stop _
    exact ⟨(hfaithful.api.list w).1, _, .head _, rfl⟩

abbrev sidesOf (keeper : Keeper σ Record Spec Status) (round : Round Record) :
    Sides σ (Object Spec Status) :=
  keeper.sides round.timeout round.now (Call.given round.answer)

/-- The steps of the pass of a round, by what is listed. -/
abbrev steps (keeper : Keeper σ Record Spec Status) (now : Nat → Timestamp)
    (records : List Record) (listed : List (Object Spec Status)) :
    List (Step (Object Spec Status)) :=
  Step.plan Object.key (materialized keeper.materialize now records) listed

/-- What a write of a plan asks for is what a record becomes, and what it replaces or removes is
listed. -/
theorem cases_of_mem {now : Nat → Timestamp} {listed : List (Object Spec Status)}
    {x : Write (Object Spec Status)}
    (hx : x ∈ (keeper.steps now records listed).filterMap Step.write?) :
    (∃ new ∈ keeper.objects now records,
      x = .create new ∨ ∃ old ∈ listed, x = .update old new) ∨
    ∃ old ∈ listed, x = .delete old := by
  obtain ⟨deletions, hwrites, -, hmem⟩ :=
    Step.writes_plan Object.key (materialized keeper.materialize now records) listed
  rw [hwrites, List.mem_append] at hx
  rcases hx with hrequest | hdelete
  · obtain ⟨i, hi, rfl⟩ := List.mem_mapIdx.1 hrequest
    refine .inl ⟨_, List.getElem_mem hi, ?_⟩
    rw [Step.request]
    split
    · next old hold =>
      split
      · exact .inl rfl
      · exact .inr ⟨old, Step.mem_of_listed? hold, rfl⟩
    · exact .inl rfl
  · obtain ⟨old, hold, rfl⟩ := List.mem_map.1 hdelete
    exact .inr ⟨old, Step.mem_of_listed? ((hmem old).1 hold).1, rfl⟩

theorem pass_of_unlisted (hanswer : round.answer = .ok records) {w mid : World σ} {stop : Stop}
    (hlist : Upkeep.list keeper.kind keeper.api w = (.error stop, mid)) :
    keeper.pass round w = Sides.reported mid
      [Side.cluster.entry keeper.kind.name (stop.message round.timeout)] := by
  have hdesired := keeper.desired_sides round.timeout round.now (.ok records) w
  rw [← keeper.existing_sides round.timeout round.now (Call.given (.ok records))] at hlist
  rw [pass, hanswer, Sides.pass_of_cluster_error hdesired hlist, kind_sides, timeout_sides]

theorem pass_of_listed (hanswer : round.answer = .ok records) {w mid : World σ}
    {listed : List (Object Spec Status)}
    (hlist : Upkeep.list keeper.kind keeper.api w = (.ok listed, mid)) :
    keeper.pass round w =
      ((keeper.sidesOf round).performAll mid (keeper.steps round.now records listed)).2 := by
  have hdesired := keeper.desired_sides round.timeout round.now (.ok records) w
  rw [← keeper.existing_sides round.timeout round.now (Call.given (.ok records))] at hlist
  rw [pass, sidesOf, hanswer, Sides.pass_of_lists hdesired hlist, keyOf_sides]

/-- The plan of a pass makes the writes that each place is to get. -/
theorem exists_planned {now : Nat → Timestamp} (hasked : Asked keeper.kind (keeper.objects now records))
    (listed : List (Object Spec Status)) :
    ∃ deletions, Planned listed (keeper.objects now records) deletions
      ((keeper.steps now records listed).filterMap Step.write?) := by
  obtain ⟨deletions, hwrites, hnodup, hmem⟩ :=
    Step.writes_plan Object.key (materialized keeper.materialize now records) listed
  change _ = Step.requests _ _ (keeper.objects now records) ++ _ at hwrites
  rw [Step.requests_eq_map hasked.keys] at hwrites
  exact ⟨deletions, hwrites, hnodup, hmem⟩

/-- In the pass of a round an object is removed that owns the one at a place. -/
def Taken (census : Census σ ι D) (keeper : Keeper σ Record Spec Status) (round : Round Record)
    (w : World σ) (place : Target) : Prop :=
  ∃ s old, (s, .delete old) ∈ (keeper.sidesOf round).moments w ∧
    census.Owns (keeper.slot census) s (Upkeep.target keeper.kind old) place

/-- An object is gone after the pass of a round, with one that it belonged to. -/
def Lost (census : Census σ ι D) (stored : σ → Store Spec Status)
    (keeper : Keeper σ Record Spec Status) (round : Round Record) (w : World σ) (place : Target) :
    Prop :=
  stored (keeper.pass round w).state place = none ∧ keeper.Taken census round w place

theorem moments_of_listed (hanswer : round.answer = .ok records) {w mid : World σ}
    {listed : List (Object Spec Status)}
    (hlist : Upkeep.list keeper.kind keeper.api w = (.ok listed, mid)) :
    (keeper.sidesOf round).moments w =
      (keeper.sidesOf round).momentsOf mid (keeper.steps round.now records listed) := by
  have hdesired := keeper.desired_sides round.timeout round.now (.ok records) w
  rw [← keeper.existing_sides round.timeout round.now (Call.given (.ok records))] at hlist
  rw [sidesOf, hanswer, Sides.moments_of_lists hdesired hlist, keyOf_sides]

/-- The writes of a pass bring every place to the turn of what is wanted there, unless its object is
taken along with a removed one. -/
theorem performAll_turns (hfaithful : keeper.Faithful stored)
    (hcollects : keeper.api.Collects census (keeper.slot census) stored)
    (hkeyed : keeper.Keyed round) (hanswer : round.answer = .ok records) {w mid : World σ}
    {listed : List (Object Spec Status)}
    (hlist : Upkeep.list keeper.kind keeper.api w = (.ok listed, mid))
    (hlisted : Listed (stored mid.state) listed) (hplain : (stored mid.state).Plain keeper.kind)
    (notes : List Exchange) :
    let steps := keeper.steps round.now records listed
    ∃ es, ((keeper.noted.sidesOf round).performAll (mid.noted notes) steps).2 =
        ((keeper.sidesOf round).performAll mid steps).2.noted (notes ++ es) ∧
      ∀ place, Turn keeper.kind.hashOf es
          (wantedAt keeper.kind (keeper.objects round.now records) place)
          (seenIn keeper.kind stored mid.state place)
          (seenIn keeper.kind stored ((keeper.sidesOf round).performAll mid steps).2.state place) ∨
        seenIn keeper.kind stored ((keeper.sidesOf round).performAll mid steps).2.state place = none ∧
          keeper.Taken census round w place := by
  intro steps
  have hasked := hkeyed.asked hanswer
  obtain ⟨deletions, hplanned⟩ := exists_planned hasked listed
  have hkind : (keeper.noted.sidesOf round).kind = (keeper.sidesOf round).kind := by
    rw [kind_sides, kind_sides, kind_noted]
  have htimeout : (keeper.noted.sidesOf round).timeout = (keeper.sidesOf round).timeout := by
    rw [timeout_sides, timeout_sides]
  let moves (x : Write (Object Spec Status)) (_ : Bool) (es : List Exchange) (s s' : σ) : Prop :=
    x.Does keeper.kind stored (census.Owns (keeper.slot census)) es s s'
  have hwrite : ∀ x ∈ steps.filterMap Step.write?,
      Call.Traces ((keeper.noted.sidesOf round).write x) ((keeper.sidesOf round).write x)
        (fun s _ es s' => moves x true es s s') fun s es s' => moves x false es s s' :=
    fun x hx => does_write hfaithful hcollects _ _ _ _
      (hplanned.wanted hfaithful.api hlisted hplain hasked x hx)
  obtain ⟨runs, heq, hruns, -⟩ :=
    Sides.performAll_runs hkind htimeout steps hwrite mid notes
  refine ⟨notesOf runs, congrArg Prod.snd heq, ?_⟩
  refine hplanned.turns hfaithful.api hlisted hplain hasked (hruns.imp ?_)
  rintro x - _ es before after ⟨hdoes, hmoment⟩
  refine hdoes.imp ?_
  rintro old rfl other howns
  refine ⟨before, old, ?_, howns⟩
  rw [moments_of_listed hanswer hlist]
  exact hmoment

/-- A pass to which the platform answers with records brings every place to the turn of what is
wanted there, unless its object is taken along with a removed one. -/
theorem pass_turns (hfaithful : keeper.Faithful stored)
    (hcollects : keeper.api.Collects census (keeper.slot census) stored)
    (hkeyed : keeper.Keyed round) (hanswer : round.answer = .ok records) {w : World σ}
    (hplain : (stored w.state).Plain keeper.kind) (notes : List Exchange) :
    ∃ es, keeper.noted.pass round (w.noted notes) = (keeper.pass round w).noted (notes ++ es) ∧
      ∀ place, Turn keeper.kind.hashOf es
          (wantedAt keeper.kind (keeper.objects round.now records) place)
          (seenIn keeper.kind stored w.state place)
          (seenIn keeper.kind stored (keeper.pass round w).state place) ∨
        seenIn keeper.kind stored (keeper.pass round w).state place = none ∧
          keeper.Taken census round w place := by
  obtain ⟨first, hlist, hlisted⟩ := keeper.traces_list hfaithful w notes
  cases hcall : Upkeep.list keeper.kind keeper.api w with
  | mk answer mid =>
  rw [hcall] at hlist hlisted
  rw [← kind_noted, ← api_noted] at hlist
  cases answer with
  | error stop =>
      obtain ⟨hsame, hmissed⟩ := hlisted
      rw [pass_of_unlisted hanswer hcall, pass_of_unlisted hanswer hlist, kind_noted]
      refine ⟨first, rfl, fun place => .inl ?_⟩
      change Turn _ _ _ _ (seenIn keeper.kind stored mid.state place)
      rw [seenIn, seenIn, hsame]
      exact .missed _ _ hmissed
  | ok listed =>
      obtain ⟨hsame, hlisted⟩ := hlisted
      change stored mid.state = stored w.state at hsame
      rw [← hsame] at hlisted hplain
      obtain ⟨rest, heq, hturns⟩ :=
        performAll_turns hfaithful hcollects hkeyed hanswer hcall hlisted hplain (notes ++ first)
      rw [pass_of_listed hanswer hcall, pass_of_listed hanswer hlist, steps,
        materialize_noted, seenIn, ← hsame]
      refine ⟨first ++ rest, ?_, fun place => (hturns place).imp_left fun hturn => ?_⟩
      · rw [← List.append_assoc]
        exact heq
      · exact hturn.mono (List.suffix_append first rest).isInfix

/-- A pass to which the platform does not answer changes nothing and requests nothing. -/
theorem pass_of_no_answer {stop : Stop} (hanswer : round.answer = .error stop) (w : World σ)
    (notes : List Exchange) :
    keeper.noted.pass round (w.noted notes) = (keeper.pass round w).noted notes ∧
      (keeper.pass round w).state = w.state := by
  have hdesired := keeper.desired_sides round.timeout round.now (.error stop) w
  have hdesired' := keeper.noted.desired_sides round.timeout round.now (.error stop) (w.noted notes)
  rw [pass, pass, hanswer, Sides.pass_of_platform_error hdesired,
    Sides.pass_of_platform_error hdesired', kind_sides, kind_sides, timeout_sides, timeout_sides,
    kind_noted]
  exact ⟨rfl, rfl⟩

end Keeper

end EdgeAgent
