import EdgeAgent.Proofs.Cluster.Pass
import EdgeAgent.Proofs.Cluster.Seat

/-! The course of a pass: the objects are listed, what is wanted is written, and then the rest is
deleted. When the wanted objects have keys of their own and every request is answered, what lies at the
place of one in the end is what its own write makes of what lay there, unless it is lost with a deleted
object that it belonged to. -/

namespace EdgeAgent

open Sent (Missed)

variable {σ ι D Record Spec Status : Type}

theorem Asked.map_place {kind : Kind Spec Status} {news : List (Object Spec Status)}
    (h : Asked kind news) : (news.map (Upkeep.target kind)).Nodup := by
  have hkeys : (news.map (Upkeep.target kind)).map Target.key = news.map Object.key := by
    rw [List.map_map]
    exact List.map_congr_left fun new hnew => (h.key new hnew).symm
  apply List.Nodup.of_map Target.key
  rw [hkeys]
  exact h.keys

namespace Keeper

/-- The stored objects, and their child ingresses if they have any, are left alone. -/
def Stays (keeper : Keeper σ Record Spec Status) (stored : σ → Store Spec Status)
    (children : σ → Target → Option Child.Stored) (s s' : σ) : Prop :=
  stored s' = stored s ∧ (keeper.attends = true → children s' = children s)

/-- The course of a pass whose objects were listed. -/
structure Course (keeper : Keeper σ Record Spec Status) (stored : σ → Store Spec Status)
    (children : σ → Target → Option Child.Stored)
    (moves : Write (Object Spec Status) → Bool → List Sent → σ → σ → Prop) (round : Round Record)
    (records : List Record) (w : World σ) (listed : List (Object Spec Status)) (mid : σ)
    (runs : List (Bool × List Sent)) : Prop where
  lists : Listed (stored w.state) listed
  stays : keeper.Stays stored children w.state mid
  writes : Runs (fun x ok es before after =>
      moves x ok es before after ∧ (before, x) ∈ (keeper.sidesOf round).moments w)
    ((keeper.steps round.now records listed).filterMap Step.write?) runs mid
    (keeper.pass round w).state
  succeeded : ((keeper.sidesOf round).pass w).1.Succeeded → ∀ run ∈ runs, run.1 = true

/-- The parts of the course of a pass: the wanted objects are written, and then others are deleted. -/
structure Parts (keeper : Keeper σ Record Spec Status) (stored : σ → Store Spec Status)
    (children : σ → Target → Option Child.Stored)
    (removes : Object Spec Status → List Sent → σ → σ → Prop) (round : Round Record)
    (records : List Record) (w : World σ) (listed deletions : List (Object Spec Status))
    (mid between : σ) (first rest : List (Bool × List Sent)) : Prop where
  nodup : (deletions.map Object.key).Nodup
  mem : ∀ old, old ∈ deletions ↔ Step.listed? Object.key listed old.key = some old ∧
    old.key ∉ (keeper.objects round.now records).map Object.key
  writes : Runs (keeper.Moves stored children)
    (Step.requests Object.key listed (keeper.objects round.now records)) first mid between
  deletes : Runs (fun x ok es before after => keeper.Does stored children removes x ok es before after ∧
      (before, x) ∈ (keeper.sidesOf round).moments w)
    (deletions.map .delete) rest between (keeper.pass round w).state

variable {keeper : Keeper σ Record Spec Status} {stored : σ → Store Spec Status}
  {children : σ → Target → Option Child.Stored} {round : Round Record} {records : List Record}
  {census : Census σ ι D} {removes : Object Spec Status → List Sent → σ → σ → Prop} {s s' : σ}
  {w : World σ} {listed news deletions : List (Object Spec Status)} {runs : List (Bool × List Sent)}
  {mid between : σ} {first rest : List (Bool × List Sent)} {new o : Object Spec Status}
  {place : Target}

theorem Stays.trans {mid : σ} (h : keeper.Stays stored children s mid)
    (h' : keeper.Stays stored children mid s') : keeper.Stays stored children s s' :=
  ⟨h'.1.trans h.1, fun hattends => (h'.2 hattends).trans (h.2 hattends)⟩

theorem Stays.seat_eq (h : keeper.Stays stored children s s') :
    keeper.seat stored children s' = keeper.seat stored children s := by
  funext place
  rw [seat, seat, h.1]
  split
  · next hattends => rw [h.2 hattends]
  · rfl

theorem materialize_traced : keeper.traced.materialize = keeper.materialize := by
  cases keeper <;> rfl

theorem hash_face (o : Object Spec Status) :
    (o.face keeper.reading).hash = o.recordedHash keeper.kind := by
  cases keeper <;> rfl

/-- An object that is seen as a wanted one is one of the agent, with the fingerprint of its spec. -/
theorem recorded_of_shows {o new : Object Spec Status} (hnew : new.Wanted keeper.kind)
    (h : o.Shows keeper.reading new) :
    o.managed = true ∧ o.recordedHash keeper.kind = some (keeper.kind.hashOf new.spec) := by
  rw [Object.Shows] at h
  have hmanaged : o.managed = new.managed := congrArg Face.managed h
  have hrecorded := congrArg Face.hash h
  change (o.face keeper.reading).hash = (new.face keeper.reading).hash at hrecorded
  rw [hash_face, hash_face, hnew.recordedHash] at hrecorded
  exact ⟨hmanaged.trans hnew.managed, hrecorded⟩

/-- Where names and namespaces hold no `@`, places are plain. -/
theorem Lasting.plain (hlasting : keeper.Lasting stored children) (s : σ) :
    (stored s).Plain keeper.kind := fun place o ho =>
  ⟨(hlasting.faithful.api.placed s place o ho).1, (hlasting.api.unmarked s place o ho).2⟩

/-! ### Listing -/

/-- The objects are listed as they are stored, and listing them changes nothing. -/
def Lists (keeper : Keeper σ Record Spec Status) (stored : σ → Store Spec Status)
    (children : σ → Target → Option Child.Stored) : Prop :=
  ∀ w, keeper.Stays stored children w.state (keeper.api.list w).2.state ∧
    ∀ listed, (keeper.api.list w).1 = .ok listed → Listed (stored w.state) listed

theorem Lasting.lists (hlasting : keeper.Lasting stored children) : keeper.Lists stored children := by
  intro w
  obtain ⟨hstored, hlisted⟩ := hlasting.faithful.api.list w
  refine ⟨⟨hstored, fun hattends => ?_⟩, hlisted⟩
  cases keeper with
  | catalogs api => cases hattends
  | edges api => cases hattends
  | edgesWithChildren settings apis => exact hlasting.owning.list w

/-- The objects are listed by one request, which changes nothing. -/
theorem traces_listed (hlists : keeper.Lists stored children) :
    Call.Traces (Upkeep.list keeper.kind keeper.api.traced) (Upkeep.list keeper.kind keeper.api)
      (fun s listed es s' => (keeper.Stays stored children s s' ∧ Listed (stored s) listed) ∧
        es = [{ verb := .list, answered := true }])
      fun s es s' => keeper.Stays stored children s s' ∧
        es = [{ verb := .list, answered := false }] := by
  refine Call.Traces.context (Call.Traces.of_noting _ ?_ ?_) _
  · intro w listed hanswer
    obtain ⟨hstays, hlisted⟩ := hlists w
    exact ⟨⟨hstays, hlisted listed hanswer⟩, rfl⟩
  · intro w stop _
    exact ⟨(hlists w).1, rfl⟩

/-- A pass to which the platform does not answer changes nothing and sends nothing. -/
theorem unsent_of_no_answer {stop : Stop} (hanswer : round.answer = .error stop) (w : World σ)
    (notes : List Sent) :
    keeper.traced.pass round (w.noted notes) = (keeper.pass round w).noted notes ∧
      (keeper.pass round w).state = w.state := by
  have hdesired := keeper.desired_sides round.timeout round.now (.error stop) w
  have hdesired' := keeper.traced.desired_sides round.timeout round.now (.error stop) (w.noted notes)
  rw [pass, pass, hanswer, Sides.pass_of_platform_error hdesired,
    Sides.pass_of_platform_error hdesired', kind_sides, kind_sides, timeout_sides, timeout_sides,
    kind_traced]
  exact ⟨rfl, rfl⟩

theorem outcome_of_listed (hanswer : round.answer = .ok records) {mid : World σ}
    (hlist : Upkeep.list keeper.kind keeper.api w = (.ok listed, mid)) :
    ((keeper.sidesOf round).pass w).1 = .completed
      ((keeper.sidesOf round).performAll mid (keeper.steps round.now records listed)).1 := by
  have hdesired := keeper.desired_sides round.timeout round.now (.ok records) w
  rw [← keeper.existing_sides round.timeout round.now (Call.given (.ok records))] at hlist
  rw [sidesOf, hanswer, Sides.pass_of_lists hdesired hlist, keyOf_sides]

/-- A pass either fails to list the objects and changes nothing, or runs its writes. -/
theorem pass_course (moves : Write (Object Spec Status) → Bool → List Sent → σ → σ → Prop)
    (hlists : keeper.Lists stored children) (hanswer : round.answer = .ok records) (w : World σ)
    (hwrite : ∀ listed, Listed (stored w.state) listed →
      ∀ x ∈ (keeper.steps round.now records listed).filterMap Step.write?,
        Call.Traces ((keeper.traced.sidesOf round).write x) ((keeper.sidesOf round).write x)
          (fun s _ es s' => moves x true es s s') fun s es s' => moves x false es s s')
    (notes : List Sent) :
    ∃ es, keeper.traced.pass round (w.noted notes) = (keeper.pass round w).noted (notes ++ es) ∧
      ((es = [{ verb := .list, answered := false }] ∧
          keeper.Stays stored children w.state (keeper.pass round w).state) ∨
        ∃ listed mid runs, es = { verb := .list, answered := true } :: notesOf runs ∧
          keeper.Course stored children moves round records w listed mid runs) := by
  obtain ⟨first, hlist, hdone⟩ := keeper.traces_listed hlists w notes
  cases hcall : Upkeep.list keeper.kind keeper.api w with
  | mk answer mid =>
  rw [hcall] at hlist hdone
  rw [← kind_traced, ← api_traced] at hlist
  cases answer with
  | error stop =>
      obtain ⟨hstays, rfl⟩ := hdone
      rw [pass_of_unlisted hanswer hcall, pass_of_unlisted hanswer hlist, kind_traced]
      exact ⟨_, rfl, .inl ⟨rfl, hstays⟩⟩
  | ok listed =>
      obtain ⟨⟨hstays, hlisted⟩, rfl⟩ := hdone
      have hkind : (keeper.traced.sidesOf round).kind = (keeper.sidesOf round).kind := by
        rw [kind_sides, kind_sides, kind_traced]
      have htimeout : (keeper.traced.sidesOf round).timeout = (keeper.sidesOf round).timeout := by
        rw [timeout_sides, timeout_sides]
      obtain ⟨runs, heq, hruns, hsucceeded⟩ := Sides.performAll_runs hkind htimeout
        (keeper.steps round.now records listed) (hwrite listed hlisted) mid
        (notes ++ [{ verb := .list, answered := true }])
      have hpass := pass_of_listed hanswer hcall
      refine ⟨{ verb := .list, answered := true } :: notesOf runs, ?_,
        .inr ⟨listed, mid.state, runs, rfl, hlisted, hstays, ?_, ?_⟩⟩
      · rw [hpass, pass_of_listed hanswer hlist, steps, materialize_traced, heq]
        simp
      · rw [moments_of_listed hanswer hcall, hpass]
        exact hruns
      · rw [outcome_of_listed hanswer hcall]
        exact hsucceeded

/-! ### The writes of a plan -/

/-- What a write that asks for an object leaves: an object that is seen as that one, or the old one as
it was, when the fingerprint is the same. -/
theorem Comes.shown {x : Write (Object Spec Status)} {ok : Bool} {sent : List (Target × Ingress)}
    {before after : Seat Spec Status} {new : Object Spec Status}
    (h : keeper.Comes x ok sent before after) (hnew : x.new? = some new) :
    ∃ o child, after = ⟨some o, child⟩ ∧ keeper.Attended (x.place keeper.kind) o ok sent child ∧
      (o.Shows keeper.reading new ∧ (∀ old, before.object = some old →
          Upkeep.unchanged keeper.kind old new = false) ∨
        ∃ old, x = .update old new ∧ before.object = some old ∧
          Upkeep.unchanged keeper.kind old new = true ∧
          o.face keeper.reading = old.face keeper.reading) := by
  cases h with
  | created hshows hattended =>
      cases hnew
      refine ⟨_, _, rfl, hattended, .inl ⟨hshows, ?_⟩⟩
      rintro _ ⟨⟩
  | rested hunchanged hface hattended =>
      cases hnew
      exact ⟨_, _, rfl, hattended, .inr ⟨_, rfl, rfl, hunchanged, hface⟩⟩
  | renewed hchanged hshows hattended =>
      cases hnew
      refine ⟨_, _, rfl, hattended, .inl ⟨hshows, ?_⟩⟩
      rintro _ ⟨⟩
      exact hchanged

theorem new?_request (listed before : List (Object Spec Status)) (new : Object Spec Status) :
    (Step.request Object.key listed before new).new? = some new := by
  rw [Step.request]
  split
  · split <;> rfl
  · rfl

/-- What a write of a plan replaces is listed, and what it asks for is what a record becomes. -/
theorem permits_of_mem (hlasting : keeper.Lasting stored children)
    (hlisted : Listed (stored s) listed) {now : Nat → Timestamp} {x : Write (Object Spec Status)}
    (hx : x ∈ (keeper.steps now records listed).filterMap Step.write?) : keeper.Permits x := by
  rcases cases_of_mem hx with ⟨new, hnew, hx⟩ | ⟨old, -, rfl⟩
  · obtain ⟨record, -, moment, hmaterialize⟩ := exists_record hnew
    have hready := ready_of_materialize hmaterialize
    rcases hx with rfl | ⟨old, hold, rfl⟩
    · exact hready
    · obtain ⟨-, hstored⟩ := hlasting.faithful.api.of_listed hlisted hold
      obtain ⟨hholds, hname, hns⟩ := hlasting.faithful.api.placed _ _ _ hstored
      refine ⟨?_, hready⟩
      rw [hns, hlasting.faithful.api.anyName_eq hstored]
      exact hholds
  · trivial

theorem suits_request (hfaithful : keeper.Faithful stored) (hlisted : Listed (stored s) listed)
    (new : Object Spec Status) : (Step.request Object.key listed [] new).Suits
      (stored s ((Step.request Object.key listed [] new).place keeper.kind)) := by
  rw [Step.request]
  cases hold : Step.listed? Object.key listed new.key with
  | none => trivial
  | some old =>
      obtain ⟨hmanaged, hstored⟩ := hfaithful.api.of_listed hlisted (Step.mem_of_listed? hold)
      exact ⟨hstored, hmanaged⟩

/-- What comes of writes with places of their own, when every request is answered. -/
theorem comes_of_runs {writes : List (Write (Object Spec Status))} {runs : List (Bool × List Sent)}
    (hruns : Runs (keeper.Moves stored children) writes runs s s')
    (hplaces : (writes.map (Write.place keeper.kind)).Nodup)
    (hsuits : ∀ x ∈ writes, x.Suits (stored s (x.place keeper.kind)))
    (hanswered : ¬Missed (notesOf runs)) :
    (∀ place ∉ writes.map (Write.place keeper.kind),
      keeper.seat stored children s' place = keeper.seat stored children s place) ∧
    List.Forall₂ (fun x run => keeper.Comes x run.1 (Sent.children run.2)
      (keeper.seat stored children s (x.place keeper.kind))
      (keeper.seat stored children s' (x.place keeper.kind))) writes runs := by
  have hmoves : ∀ (x : Write (Object Spec Status)) ok es s s',
      keeper.Moves stored children x ok es s s' →
      Located (keeper.seat stored children) (x.place keeper.kind) s s' ∧
        keeper.Came x ok es (keeper.seat stored children s (x.place keeper.kind))
          (keeper.seat stored children s' (x.place keeper.kind)) :=
    fun x ok es s s' h => ⟨h.located, h.comes⟩
  obtain ⟨hframe, hcomes⟩ := hruns.forall₂ hmoves hplaces
  refine ⟨hframe, List.forall₂_iff_get.2 ⟨hcomes.length_eq, fun i hi hi' => ?_⟩⟩
  have hcame := (List.forall₂_iff_get.1 hcomes).2 i hi hi'
  refine (hcame (hsuits _ (List.get_mem writes ⟨i, hi⟩))).resolve_left fun hmissed => ?_
  exact hanswered (hmissed.of_mem (List.get_mem runs ⟨i, hi'⟩))

/-- What comes of the requests for objects with keys of their own. -/
theorem comes_of_requests (hlasting : keeper.Lasting stored children)
    (hlisted : Listed (stored s) listed) (hnews : Asked keeper.kind news)
    (hruns : Runs (keeper.Moves stored children) (Step.requests Object.key listed news) runs s s')
    (hanswered : ¬Missed (notesOf runs)) :
    (∀ place ∉ news.map (Upkeep.target keeper.kind),
      keeper.seat stored children s' place = keeper.seat stored children s place) ∧
    List.Forall₂ (fun new run => ∃ x, x.new? = some new ∧
      x.place keeper.kind = Upkeep.target keeper.kind new ∧
      x.Suits (stored s (Upkeep.target keeper.kind new)) ∧
      keeper.Comes x run.1 (Sent.children run.2)
        (keeper.seat stored children s (Upkeep.target keeper.kind new))
        (keeper.seat stored children s' (Upkeep.target keeper.kind new))) news runs := by
  have hplace : ∀ new ∈ news, (Step.request Object.key listed [] new).place keeper.kind =
      Upkeep.target keeper.kind new := fun new hnew =>
    (hlasting.faithful.api.request_fits hlisted (hlasting.plain s) hnews hnew).1
  have hplaces : (news.map (Step.request Object.key listed [])).map (Write.place keeper.kind) =
      news.map (Upkeep.target keeper.kind) := by
    rw [List.map_map]
    exact List.map_congr_left hplace
  have hsuits : ∀ new, (Step.request Object.key listed [] new).Suits
      (stored s ((Step.request Object.key listed [] new).place keeper.kind)) :=
    suits_request hlasting.faithful hlisted
  rw [Step.requests_eq_map hnews.keys] at hruns
  obtain ⟨hframe, hcomes⟩ := comes_of_runs hruns (hplaces ▸ hnews.map_place)
    (List.forall_mem_map.2 fun new _ => hsuits new) hanswered
  refine ⟨hplaces ▸ hframe, ?_⟩
  rw [List.forall₂_map_left_iff] at hcomes
  refine List.forall₂_iff_get.2 ⟨hcomes.length_eq, fun i hi hi' => ?_⟩
  have hcame := (List.forall₂_iff_get.1 hcomes).2 i hi hi'
  have hat := hplace _ (List.get_mem news ⟨i, hi⟩)
  rw [hat] at hcame
  exact ⟨_, new?_request listed [] _, hat, hat ▸ hsuits _, hcame⟩

/-! ### The deletions of a plan -/

/-- Deletions store no child ingress. -/
theorem sent_of_deletions
    (hruns : Runs (keeper.Does stored children removes) (deletions.map .delete) runs s s') :
    Sent.children (notesOf runs) = [] ∧ (s' = s ∨ ∃ e ∈ notesOf runs, e.verb = .delete) := by
  induction deletions generalizing s runs with
  | nil =>
      cases hruns
      exact ⟨rfl, .inl rfl⟩
  | cons old deletions ih =>
      cases hruns with
      | @cons _ _ run runs _ mid _ hdoes hlater =>
          obtain ⟨⟨answered, hdelete⟩, -⟩ := hdoes
          rw [notesOf_cons, Sent.children_append, hdelete, (ih hlater).1]
          exact ⟨rfl, .inr ⟨_, .head _, rfl⟩⟩

/-- Answered deletions leave what lies at a place, or nothing: at their own places, and where something
is taken along. -/
theorem seats_of_deletions {taken : Target → Prop}
    (hruns : Runs (keeper.Does stored children (keeper.Removes stored children fun _ _ => taken))
      (deletions.map .delete) runs s s') (hanswered : ¬Missed (notesOf runs)) (place : Target) :
    keeper.seat stored children s' place = keeper.seat stored children s place ∧
        place ∉ deletions.map (Upkeep.target keeper.kind) ∨
      keeper.seat stored children s' place = ⟨none, none⟩ ∧
        (place ∈ deletions.map (Upkeep.target keeper.kind) ∨ taken place) := by
  have hremoves : Runs (fun x _ es s s' =>
      Missed es ∧ keeper.seat stored children s' = keeper.seat stored children s ∨
        Empties (keeper.seat stored children) ⟨none, none⟩ taken (x.place keeper.kind) s s')
      (deletions.map .delete) runs s s' := by
    refine hruns.imp fun x hx _ _ _ _ hdoes => ?_
    obtain ⟨old, -, rfl⟩ := List.mem_map.1 hx
    exact hdoes.2
  rw [← Write.map_place_delete]
  refine (hremoves.emptied (fun _ _ _ _ _ h => h) place).imp_left (.imp_right fun h hmem => ?_)
  obtain ⟨run, hrun, hmissed⟩ := h hmem
  exact hanswered (hmissed.of_mem hrun)

/-! ### The parts of a pass -/

theorem Does.moves {x : Write (Object Spec Status)} {ok : Bool} {es : List Sent}
    (h : keeper.Does stored children removes x ok es s s') (hnew : x.new? = some new) :
    keeper.Moves stored children x ok es s s' := by
  cases x with
  | create new => exact h
  | update old new => exact h
  | delete old => cases hnew

theorem Course.lists_mid {moves : Write (Object Spec Status) → Bool → List Sent → σ → σ → Prop}
    (h : keeper.Course stored children moves round records w listed mid runs) :
    Listed (stored mid) listed := by
  rw [h.stays.1]
  exact h.lists

theorem Course.parts
    (h : keeper.Course stored children (keeper.Does stored children removes) round records w listed mid
      runs) :
    ∃ deletions between first rest, runs = first ++ rest ∧
      keeper.Parts stored children removes round records w listed deletions mid between first rest := by
  obtain ⟨deletions, hwrites, hnodup, hmem⟩ :=
    Step.writes_plan Object.key (materialized keeper.materialize round.now records) listed
  have hruns := h.writes
  rw [hwrites] at hruns
  obtain ⟨between, first, rest, rfl, hfirst, hrest⟩ := hruns.of_append
  refine ⟨deletions, between, first, rest, rfl, hnodup, hmem, hfirst.imp ?_, hrest⟩
  intro x hx ok es s s' hdoes
  obtain ⟨i, hi, rfl⟩ := List.mem_mapIdx.1 hx
  exact hdoes.1.moves (new?_request listed _ _)

theorem Parts.planned
    (h : keeper.Parts stored children removes round records w listed deletions mid between first rest) :
    Planned listed (keeper.objects round.now records) deletions
      ((keeper.objects round.now records).map (Step.request Object.key listed []) ++
        deletions.map .delete) :=
  ⟨rfl, h.nodup, h.mem⟩

/-- What lies at a place after the deletions of a pass, all of which are answered. -/
theorem Parts.seat_eq
    (h : keeper.Parts stored children
      (keeper.Removes stored children (census.Owns (keeper.slot census))) round records w listed
      deletions mid between first rest) (hanswered : ¬Missed (notesOf rest)) (place : Target) :
    keeper.seat stored children (keeper.pass round w).state place =
        keeper.seat stored children between place ∧
      place ∉ deletions.map (Upkeep.target keeper.kind) ∨
    keeper.seat stored children (keeper.pass round w).state place = ⟨none, none⟩ ∧
      (place ∈ deletions.map (Upkeep.target keeper.kind) ∨ keeper.Taken census round w place) := by
  refine seats_of_deletions (h.deletes.imp ?_) hanswered place
  rintro x hx ok es before after ⟨hdoes, hmoment⟩
  obtain ⟨old, -, rfl⟩ := List.mem_map.1 hx
  exact hdoes.imp_right <| .imp_right fun hempties =>
    hempties.imp fun _ howns => ⟨before, old, hmoment, howns⟩

/-- What was written for a wanted object is left by the deletions, unless it is lost. -/
theorem Parts.seat_of_wanted
    (h : keeper.Parts stored children
      (keeper.Removes stored children (census.Owns (keeper.slot census))) round records w listed
      deletions mid between first rest) (hlasting : keeper.Lasting stored children)
    (hlisted : Listed (stored mid) listed)
    (hasked : Asked keeper.kind (keeper.objects round.now records))
    (hanswered : ¬Missed (notesOf rest)) (hnew : new ∈ keeper.objects round.now records)
    (hkept : ¬keeper.Lost census stored round w (Upkeep.target keeper.kind new)) :
    keeper.seat stored children (keeper.pass round w).state (Upkeep.target keeper.kind new) =
      keeper.seat stored children between (Upkeep.target keeper.kind new) := by
  rcases h.seat_eq hanswered (Upkeep.target keeper.kind new) with ⟨hsame, -⟩ | ⟨hgone, hwhere⟩
  · exact hsame
  · have hfaithful := hlasting.faithful.api
    have hplaces := h.planned.nodup_places hfaithful hlisted (hlasting.plain mid) hasked
    rw [h.planned.places hfaithful hlisted (hlasting.plain mid) hasked, List.nodup_append] at hplaces
    refine absurd ⟨congrArg Seat.object hgone, hwhere.resolve_left fun hmem => ?_⟩ hkept
    exact hplaces.2.2 _ (List.mem_map_of_mem hnew) _ hmem rfl

/-- What a pass makes of the place of a wanted object, unless it is lost. -/
theorem Course.comes_request
    (h : keeper.Course stored children (keeper.Does stored children
      (keeper.Removes stored children (census.Owns (keeper.slot census)))) round records w listed mid
      runs) (hlasting : keeper.Lasting stored children)
    (hasked : Asked keeper.kind (keeper.objects round.now records))
    (hanswered : ¬Missed (notesOf runs)) (hnew : new ∈ keeper.objects round.now records)
    (hkept : ¬keeper.Lost census stored round w (Upkeep.target keeper.kind new)) :
    ∃ x, x.new? = some new ∧ x.place keeper.kind = Upkeep.target keeper.kind new ∧
      x.Suits (stored w.state (Upkeep.target keeper.kind new)) ∧
      ∃ run ∈ runs, keeper.Comes x run.1 (Sent.children run.2)
        (keeper.seat stored children w.state (Upkeep.target keeper.kind new))
        (keeper.seat stored children (keeper.pass round w).state (Upkeep.target keeper.kind new)) := by
  obtain ⟨deletions, between, first, rest, rfl, hparts⟩ := h.parts
  rw [notesOf_append, Sent.missed_append, not_or] at hanswered
  have hlisted := h.lists_mid
  obtain ⟨-, hcomes⟩ := comes_of_requests hlasting hlisted hasked hparts.writes hanswered.1
  obtain ⟨run, hrun, x, hx, hplace, hsuits, hcame⟩ := exists_of_forall₂ hcomes hnew
  rw [h.stays.1] at hsuits
  rw [h.stays.seat_eq, ← hparts.seat_of_wanted hlasting hlisted hasked hanswered.2 hnew hkept] at hcame
  exact ⟨x, hx, hplace, hsuits, run, List.mem_append_left _ hrun, hcame⟩

/-- An object of the agent that is there after a pass is wanted. -/
theorem Course.wanted_of_managed
    (h : keeper.Course stored children (keeper.Does stored children
      (keeper.Removes stored children (census.Owns (keeper.slot census)))) round records w listed mid
      runs) (hlasting : keeper.Lasting stored children)
    (hasked : Asked keeper.kind (keeper.objects round.now records))
    (hanswered : ¬Missed (notesOf runs)) (ho : stored (keeper.pass round w).state place = some o)
    (hmanaged : o.managed = true) :
    ∃ new ∈ keeper.objects round.now records, Upkeep.target keeper.kind new = place := by
  have hfaithful := hlasting.faithful.api
  obtain ⟨deletions, between, first, rest, rfl, hparts⟩ := h.parts
  rw [notesOf_append, Sent.missed_append, not_or] at hanswered
  have hlisted := h.lists_mid
  obtain ⟨hframe, -⟩ := comes_of_requests hlasting hlisted hasked hparts.writes hanswered.1
  by_contra hnone
  have hfree : ∀ new ∈ keeper.objects round.now records, Upkeep.target keeper.kind new ≠ place :=
    fun new hnew heq => hnone ⟨new, hnew, heq⟩
  rcases hparts.seat_eq hanswered.2 place with ⟨hsame, hdeleted⟩ | ⟨hgone, -⟩
  · rw [hframe place fun hmem => hnone (List.mem_map.1 hmem)] at hsame
    have hbefore : stored mid place = some o := by
      rw [← ho]
      exact (congrArg Seat.object hsame).symm
    have hmem := hparts.planned.mem_deletions hfaithful hlisted (hlasting.plain mid) hasked hbefore
      hmanaged hfree
    exact hdeleted (List.mem_map.2 ⟨o, hmem, hfaithful.target_eq hbefore⟩)
  · have hnothing : stored (keeper.pass round w).state place = none := congrArg Seat.object hgone
    rw [hnothing] at ho
    cases ho

/-- A pass either fails to list the objects and changes nothing, or each of its writes does what is
known of it. -/
theorem pass_does (hlasting : keeper.Lasting stored children)
    (hremoves : ∀ old w, removes old
      (Sent.note .delete (keeper.api.delete (Upkeep.target keeper.kind old) w).1) w.state
      (keeper.api.delete (Upkeep.target keeper.kind old) w).2.state)
    (hanswer : round.answer = .ok records) (w : World σ) (notes : List Sent) :
    ∃ es, keeper.traced.pass round (w.noted notes) = (keeper.pass round w).noted (notes ++ es) ∧
      ((es = [{ verb := .list, answered := false }] ∧
          keeper.Stays stored children w.state (keeper.pass round w).state) ∨
        ∃ listed mid runs, es = { verb := .list, answered := true } :: notesOf runs ∧
          keeper.Course stored children (keeper.Does stored children removes) round records w listed
            mid runs) :=
  pass_course (keeper.Does stored children removes) hlasting.lists hanswer w
    (fun _ hlisted _ hx =>
      traces_write hlasting hremoves _ _ _ _ (permits_of_mem hlasting hlisted hx)) notes

/-- The course of a pass over listed records all of whose requests are answered. -/
theorem course_of_answered (hlasting : keeper.Lasting stored children)
    (hremoves : ∀ old w, removes old
      (Sent.note .delete (keeper.api.delete (Upkeep.target keeper.kind old) w).1) w.state
      (keeper.api.delete (Upkeep.target keeper.kind old) w).2.state)
    (hanswer : round.answer = .ok records)
    (hanswered : ∀ e ∈ keeper.sent [round] w, e.answered = true) :
    ∃ listed mid runs,
      keeper.sent [round] w = { verb := .list, answered := true } :: notesOf runs ∧
      ¬Missed (notesOf runs) ∧
      keeper.Course stored children (keeper.Does stored children removes) round records w listed mid
        runs := by
  obtain ⟨es, hpass, hcourse⟩ := pass_does hlasting hremoves hanswer w []
  have hsent : keeper.sent [round] w = es := congrArg (fun w => w.state.2) hpass
  rw [hsent] at hanswered ⊢
  rcases hcourse with ⟨rfl, -⟩ | ⟨listed, mid, runs, rfl, hcourse⟩
  · cases hanswered _ (.head _)
  · exact ⟨listed, mid, runs, rfl, Sent.not_missed_iff.2 fun e he => hanswered e (.tail _ he), hcourse⟩

end Keeper

end EdgeAgent
