import EdgeAgent.Proofs.Cluster.Course
import EdgeAgent.Proofs.Cluster.Slot

/-! Which domains are published. The domain of a record is not part of its spec, and an object is
replaced only when the fingerprint of its spec changes; so the record that was in effect stays in
effect as long as the ones that follow it declare the same spec. What is published of an object, in
its status and in its child ingress, is what the record in effect declares. -/

namespace EdgeAgent

open Sent (Missed)

variable {σ ι D Record Spec Status : Type}

/-- A child ingress routes one domain, for which it takes encrypted traffic. -/
def Child.Stored.Routes (child : Child.Stored) (domain : String) : Prop :=
  ∃ spec, child.spec = some spec ∧
    (spec.rules.getD []).map IngressRule.host = [some domain] ∧
    (spec.tls.getD []).map IngressTls.hosts = [some [domain]]

namespace Keeper

/-- Of the object in effect and one that is declared, the one in effect then: it changes when the spec
has another fingerprint. -/
def prevailing (keeper : Keeper σ Record Spec Status) (before : Option (Object Spec Status))
    (new : Object Spec Status) : Object Spec Status :=
  match before with
  | none => new
  | some old => if keeper.kind.hashOf old.spec = keeper.kind.hashOf new.spec then old else new

/-- The object in effect for a key after a round, by the one before it. None is in effect where none
is declared. -/
def takeEffect (keeper : Keeper σ Record Spec Status) (key : Key)
    (before : Option (Object Spec Status)) (round : Round Record) : Option (Object Spec Status) :=
  match round.answer with
  | .error _ => before
  | .ok records => ((keeper.objects round.now records).find? fun new => new.key = key).map
      (keeper.prevailing before)

/-- The object in effect for a key after rounds. -/
def inEffect (keeper : Keeper σ Record Spec Status) (rounds : List (Round Record)) (key : Key) :
    Option (Object Spec Status) :=
  rounds.foldl (keeper.takeEffect key) none

/-- What lies at a place where an object is in effect, or none is. -/
def Publishes (keeper : Keeper σ Record Spec Status) (place : Target) (seat : Seat Spec Status) :
    Option (Object Spec Status) → Prop
  | none => ∀ o, seat.object = some o → o.managed = false
  | some new => (∃ moment record, keeper.materialize moment record = .ok new) ∧
    ∃ o child sent, seat = ⟨some o, child⟩ ∧ o.Shows keeper.reading new ∧
      keeper.Attended place o true sent child

/-- An object and its child ingress publish the domains and the addresses of another object. -/
def Follows (keeper : Keeper σ Record Spec Status) (child : Option Child.Stored)
    (o new : Object Spec Status) : Prop :=
  (keeper.reading o.status).domains = (keeper.reading new.status).domains ∧
  (keeper.reading o.status).urls = (keeper.reading new.status).urls ∧
  (keeper.attends = true → ∃ stored domain, child = some stored ∧
    (keeper.reading new.status).domains = [domain] ∧ stored.Routes domain)

variable {keeper : Keeper σ Record Spec Status} {stored : σ → Store Spec Status}
  {children : σ → Target → Option Child.Stored} {census : Census σ ι D} {round : Round Record}
  {records : List Record} {rounds : List (Round Record)} {s s' : σ} {w : World σ} {place : Target}
  {o new : Object Spec Status}

/-! ### The child ingress of a published domain -/

/-- An edge ingress with a name, a uid and a domain has a child ingress, which routes the domain. -/
theorem ofEdge_of_domain {edge : EdgeIngress} {name uid domain : String}
    (settings : ChildSettings) (hname : edge.metadata.name = some name)
    (huid : edge.metadata.uid = some uid) (hne : domain ≠ "")
    (hdomain : (EdgeIngress.reading edge.status).domains = [domain]) :
    ∃ ingress, Child.ofEdge settings edge = .ok ingress ∧
      (Child.Stored.of ingress).Routes domain := by
  have howner : ∃ owner, Child.owner? edge = some owner := by
    rw [Child.owner?, hname, huid]
    exact ⟨_, rfl⟩
  obtain ⟨owner, howner⟩ := howner
  have hfound : Child.domain? edge = some domain := by
    rw [Child.domain?_eq, hdomain, List.head?_cons, Option.filter_some, if_pos (by simpa using hne)]
  rw [Child.ofEdge, howner, hfound]
  exact ⟨_, rfl, _, rfl, rfl, rfl⟩

/-- The domains that a shown object publishes are those of the wanted one. -/
theorem published_of_shows (h : o.Shows keeper.reading new) :
    (keeper.reading o.status).domains = (keeper.reading new.status).domains ∧
      (keeper.reading o.status).urls = (keeper.reading new.status).urls := by
  rw [Object.Shows] at h
  exact ⟨congrArg Face.domains h, congrArg Face.urls h⟩

/-- The child ingress of an object that a record has become is stored, and routes its domain. -/
theorem attended_of_shows (hlasting : keeper.Lasting stored children) {moment : Timestamp}
    {record : Record} (hnew : keeper.materialize moment record = .ok new)
    (ho : stored s place = some o) (hshows : o.Shows keeper.reading new) {ok : Bool}
    {sent : List (Target × Ingress)} {child : Option Child.Stored}
    (h : keeper.Attended place o ok sent child) :
    ok = true ∧ (keeper.attends = true → ∃ stored domain, child = some stored ∧
      (keeper.reading new.status).domains = [domain] ∧ stored.Routes domain) := by
  cases keeper with
  | catalogs api =>
      cases h with
      | alone _ => exact ⟨rfl, fun h => nomatch h⟩
      | linked hchild _ => cases hchild
      | unlinked hchild => cases hchild
  | edges api =>
      cases h with
      | alone _ => exact ⟨rfl, fun h => nomatch h⟩
      | linked hchild _ => cases hchild
      | unlinked hchild => cases hchild
  | edgesWithChildren settings apis =>
      obtain ⟨⟨-, -, hne⟩, rfl⟩ := materialize_edge_iff.1 hnew
      obtain ⟨uid, huid⟩ := hlasting.owning.uid s place o ho
      obtain ⟨-, hname, -⟩ := hlasting.faithful.edges.placed s place o ho
      have hdomains : (EdgeIngress.reading o.status).domains = [record.domain] :=
        (published_of_shows hshows).1
      obtain ⟨ingress, hingress, hroutes⟩ := ofEdge_of_domain settings hname huid hne hdomains
      cases h with
      | alone hchild => cases hchild
      | linked hchild _ =>
          rw [child?, hingress] at hchild
          cases hchild
          exact ⟨rfl, fun _ => ⟨_, record.domain, rfl, rfl, hroutes⟩⟩
      | unlinked hchild =>
          rw [child?, hingress] at hchild
          cases hchild

/-! ### One pass -/

theorem publishes_of_shows (hlasting : keeper.Lasting stored children)
    (hnew : ∃ moment record, keeper.materialize moment record = .ok new) {ok : Bool}
    {sent : List (Target × Ingress)} {child : Option Child.Stored}
    (hseat : keeper.seat stored children s place = ⟨some o, child⟩)
    (hshows : o.Shows keeper.reading new) (h : keeper.Attended place o ok sent child) :
    keeper.Publishes place (keeper.seat stored children s place) (some new) := by
  obtain ⟨moment, record, hmaterialize⟩ := hnew
  obtain ⟨rfl, -⟩ := attended_of_shows hlasting hmaterialize (congrArg Seat.object hseat) hshows h
  exact ⟨⟨moment, record, hmaterialize⟩, o, child, sent, hseat, hshows, h⟩

/-- At the place of a declared object, its write brings about what is in effect then. -/
theorem publishes_of_declared (hlasting : keeper.Lasting stored children)
    (hnew : ∃ moment record, keeper.materialize moment record = .ok new)
    {before : Option (Object Spec Status)} {x : Write (Object Spec Status)} {ok : Bool}
    {sent : List (Target × Ingress)} (hx : x.new? = some new) (hplace : x.place keeper.kind = place)
    (hsuits : x.Suits (stored s place))
    (hbefore : keeper.Publishes place (keeper.seat stored children s place) before)
    (hcame : keeper.Comes x ok sent (keeper.seat stored children s place)
      (keeper.seat stored children s' place)) :
    keeper.Publishes place (keeper.seat stored children s' place)
      (some (keeper.prevailing before new)) := by
  obtain ⟨moment, record, hmaterialize⟩ := hnew
  have hwanted := (wanted_of_materialize hmaterialize).1
  obtain ⟨o, child, hafter, hattended, hdone⟩ := hcame.shown hx
  rw [hplace] at hattended
  cases before with
  | none =>
      rcases hdone with ⟨hshows, -⟩ | ⟨old, rfl, hold, -, -⟩
      · exact publishes_of_shows hlasting ⟨moment, record, hmaterialize⟩ hafter hshows hattended
      · have hforeign := hbefore old hold
        rw [hsuits.2] at hforeign
        cases hforeign
  | some prev =>
      obtain ⟨⟨moment', record', hprev⟩, old, child', sent', hseat, hshown, -⟩ := hbefore
      have hstored : (keeper.seat stored children s place).object = some old :=
        congrArg Seat.object hseat
      have hhash := (recorded_of_shows (wanted_of_materialize hprev).1 hshown).2
      rcases hdone with ⟨hshows, hchanged⟩ | ⟨old', -, hold, hunchanged, hface⟩
      · have hdiffer : keeper.kind.hashOf prev.spec ≠ keeper.kind.hashOf new.spec := by
          intro heq
          rw [heq] at hhash
          have hfalse := hchanged old hstored
          rw [(Upkeep.unchanged_iff hwanted).2 hhash] at hfalse
          cases hfalse
        rw [prevailing, if_neg hdiffer]
        exact publishes_of_shows hlasting ⟨moment, record, hmaterialize⟩ hafter hshows hattended
      · obtain rfl : old = old' := Option.some.inj (hstored.symm.trans hold)
        rw [(Upkeep.unchanged_iff hwanted).1 hunchanged] at hhash
        rw [prevailing, if_pos (Option.some.inj hhash).symm]
        exact publishes_of_shows hlasting ⟨moment', record', hprev⟩ hafter (hshown.of_face_eq hface)
          hattended

theorem takeEffect_of_answer (hanswer : round.answer = .ok records) (key : Key)
    (before : Option (Object Spec Status)) : keeper.takeEffect key before round =
      ((keeper.objects round.now records).find? fun new => new.key = key).map
        (keeper.prevailing before) := by
  rw [takeEffect, hanswer]

/-- What a pass makes of a place, by what was in effect there, if nothing is lost. -/
theorem publishes_of_course (hlasting : keeper.Lasting stored children)
    (hkeyed : keeper.Keyed round) (hanswer : round.answer = .ok records)
    {listed : List (Object Spec Status)} {mid : σ} {runs : List (Bool × List Sent)}
    (h : keeper.Course stored children (keeper.Does stored children
      (keeper.Removes stored children (census.Owns (keeper.slot census)))) round records w listed mid
      runs) (hanswered : ¬Missed (notesOf runs)) (hplace : place.Plain keeper.kind)
    (hkept : ¬keeper.Lost census stored round w place) {before : Option (Object Spec Status)}
    (hbefore : keeper.Publishes place (keeper.seat stored children w.state place) before) :
    keeper.Publishes place (keeper.seat stored children (keeper.pass round w).state place)
      (keeper.takeEffect place.key before round) := by
  have hasked := hkeyed.asked hanswer
  rw [takeEffect_of_answer hanswer]
  cases hfound : (keeper.objects round.now records).find? fun new => new.key = place.key with
  | some new =>
      have hnew := List.mem_of_find?_eq_some hfound
      have hkey : new.key = place.key := by simpa using List.find?_some hfound
      have htarget : Upkeep.target keeper.kind new = place := by
        apply (hasked.plain new hnew).eq_of_key hplace
        rw [← hasked.key new hnew, hkey]
      obtain ⟨record, -, moment, hmaterialize⟩ := exists_record hnew
      obtain ⟨x, hx, hat, hsuits, run, -, hcame⟩ :=
        h.comes_request hlasting hasked hanswered hnew (htarget.symm ▸ hkept)
      rw [htarget] at hat hsuits hcame
      exact publishes_of_declared hlasting ⟨moment, record, hmaterialize⟩ hx hat hsuits hbefore hcame
  | none =>
      intro o ho
      by_contra hmanaged
      rw [Bool.not_eq_false] at hmanaged
      obtain ⟨new, hnew, htarget⟩ := h.wanted_of_managed hlasting hasked hanswered ho hmanaged
      refine List.find?_eq_none.1 hfound new hnew ?_
      rw [hasked.key new hnew, htarget]
      exact decide_eq_true rfl

/-- What a pass makes of a place, by what was in effect there, where no object has owners. -/
theorem publishes_pass (hlasting : keeper.Lasting stored children)
    (hcollects : keeper.Collects census stored children)
    (hendows : keeper.api.Endows census (keeper.slot census) stored) (hkeyed : keeper.Keyed round)
    (hownerless : Ownerless stored w.state) (notes : List Sent) :
    ∃ es, keeper.traced.pass round (w.noted notes) = (keeper.pass round w).noted (notes ++ es) ∧
      (¬Missed es → ∀ place before, place.Plain keeper.kind →
        keeper.Publishes place (keeper.seat stored children w.state place) before →
        keeper.Publishes place (keeper.seat stored children (keeper.pass round w).state place)
          (keeper.takeEffect place.key before round)) := by
  cases hanswer : round.answer with
  | error stop =>
      have hunsent : keeper.traced.pass round (w.noted notes) = (keeper.pass round w).noted notes ∧
          (keeper.pass round w).state = w.state := unsent_of_no_answer hanswer w notes
      refine ⟨[], ?_, fun _ place before _ hbefore => ?_⟩
      · rw [hunsent.1, List.append_nil]
      · rw [hunsent.2, takeEffect, hanswer]
        exact hbefore
  | ok records =>
      obtain ⟨es, hpass, hcourse⟩ := pass_does hlasting hcollects.removes hanswer w notes
      refine ⟨es, hpass, fun hanswered place before hplace hbefore => ?_⟩
      rcases hcourse with ⟨rfl, -⟩ | ⟨listed, mid, runs, rfl, hcourse⟩
      · exact absurd ⟨_, .head _, rfl⟩ hanswered
      · have hmissed : ¬Missed (notesOf runs) := by
          rintro ⟨e, he, hmissed⟩
          exact hanswered ⟨e, .tail _ he, hmissed⟩
        refine publishes_of_course hlasting hkeyed hanswer hcourse hmissed hplace ?_ hbefore
        rintro ⟨-, htaken⟩
        exact not_taken_of_ownerless hlasting.faithful hcollects.api hendows hownerless place htaken

/-! ### A run of passes -/

theorem publishes_passes (hlasting : keeper.Lasting stored children)
    (hcollects : keeper.Collects census stored children)
    (hendows : keeper.api.Endows census (keeper.slot census) stored)
    (hkeyed : ∀ round ∈ rounds, keeper.Keyed round) (hownerless : Ownerless stored w.state)
    (notes : List Sent) :
    ∃ es, keeper.traced.passes rounds (w.noted notes) =
        (keeper.passes rounds w).noted (notes ++ es) ∧
      (¬Missed es → ∀ place before, place.Plain keeper.kind →
        keeper.Publishes place (keeper.seat stored children w.state place) before →
        keeper.Publishes place (keeper.seat stored children (keeper.passes rounds w).state place)
          (rounds.foldl (keeper.takeEffect place.key) before)) := by
  induction rounds generalizing w notes with
  | nil =>
      refine ⟨[], ?_, fun _ place before _ hbefore => hbefore⟩
      rw [List.append_nil]
      rfl
  | cons round rounds ih =>
      rw [List.forall_mem_cons] at hkeyed
      obtain ⟨first, hpass, hfirst⟩ :=
        publishes_pass hlasting hcollects hendows hkeyed.1 hownerless notes
      have hmid := (ownerless_pass hlasting.faithful hcollects.api hendows round hownerless).1
      obtain ⟨rest, hpasses, hrest⟩ := ih hkeyed.2 hmid (notes ++ first)
      refine ⟨first ++ rest, ?_, fun hanswered place before hplace hbefore => ?_⟩
      · rw [← List.append_assoc]
        exact (congrArg (keeper.traced.passes rounds) hpass).trans hpasses
      · rw [Sent.missed_append, not_or] at hanswered
        exact hrest hanswered.2 place _ hplace (hfirst hanswered.1 place before hplace hbefore)

/-- Passes over an empty store in which every request is answered: each object of the agent publishes
what the object in effect for its key does, and its child ingress routes the domain. -/
theorem published_of_answered (hlasting : keeper.Lasting stored children)
    (hcollects : keeper.Collects census stored children)
    (hendows : keeper.api.Endows census (keeper.slot census) stored)
    (hkeyed : ∀ round ∈ rounds, keeper.Keyed round) (hempty : ∀ place, stored w.state place = none)
    (hanswered : ∀ e ∈ keeper.sent rounds w, e.answered = true)
    (ho : stored (keeper.passes rounds w).state place = some o) (hmanaged : o.managed = true) :
    ∃ new, keeper.inEffect rounds o.key = some new ∧
      keeper.Follows (children (keeper.passes rounds w).state place) o new := by
  obtain ⟨es, hpasses, hpublishes⟩ :=
    publishes_passes hlasting hcollects hendows hkeyed (ownerless_of_empty hempty) []
  have hsent : keeper.sent rounds w = es := congrArg (fun w => w.state.2) hpasses
  have hmissed : ¬Missed es := Sent.not_missed_iff.2 (hsent ▸ hanswered)
  have hnone : keeper.Publishes place (keeper.seat stored children w.state place) none := by
    intro old hold
    have hfree : stored w.state place = some old := hold
    rw [hempty place] at hfree
    cases hfree
  have hafter := hpublishes hmissed place none (hlasting.plain _ place o ho) hnone
  rw [← hlasting.faithful.api.key_eq ho] at hafter
  change keeper.Publishes place _ (keeper.inEffect rounds o.key) at hafter
  cases heffect : keeper.inEffect rounds o.key with
  | none =>
      rw [heffect] at hafter
      rw [hafter o ho] at hmanaged
      cases hmanaged
  | some new =>
      rw [heffect] at hafter
      obtain ⟨⟨moment, record, hnew⟩, o', child, sent, hseat, hshows, hattended⟩ := hafter
      have hobject : stored (keeper.passes rounds w).state place = some o' :=
        congrArg Seat.object hseat
      obtain rfl : o = o' := Option.some.inj (ho.symm.trans hobject)
      obtain ⟨hdomains, hurls⟩ := published_of_shows hshows
      refine ⟨new, rfl, hdomains, hurls, fun hattends => ?_⟩
      obtain ⟨-, hroutes⟩ := attended_of_shows hlasting hnew ho hshows hattended
      obtain ⟨x, domain, rfl, hdomain, hroutes⟩ := hroutes hattends
      have hchild := congrArg Seat.child hseat
      rw [seat, if_pos hattends] at hchild
      exact ⟨x, domain, Object.owned_eq_some hchild, hdomain, hroutes⟩

/-- Each object of the agent publishes what it is declared with. -/
def UpToDate (keeper : Keeper σ Record Spec Status) (stored : Store Spec Status)
    (children : Target → Option Child.Stored) (declared : List (Object Spec Status)) : Prop :=
  ∀ place o, stored place = some o → o.managed = true →
    ∃ new ∈ declared, new.key = o.key ∧ keeper.Follows (children place) o new

end Keeper

namespace Slot

/-- The domain of an edge ingress moves, and its spec stays. -/
def moving : List (Round EdgeIngressRecord) := [declaring "a.example.com", declaring "b.example.com"]

theorem keyed_moving : ∀ round ∈ moving, keeper.Keyed round := by
  rw [moving, List.forall_mem_cons, List.forall_mem_singleton]
  exact ⟨keyed_declaring (by decide), keyed_declaring (by decide)⟩

theorem stored_vacant (target : Target) : stored vacant.state target = none :=
  ite_self _

theorem sent_moving : ∀ e ∈ keeper.sent moving vacant, e.answered = true := by decide +kernel

/-- What the slot holds in the end, with the domains that it publishes. -/
theorem moved : (stored (keeper.passes moving vacant).state place).map
    (fun o => (o.managed, o.key, (keeper.reading o.status).domains)) =
      some (true, ⟨"shop@n"⟩, ["a.example.com"]) := by decide +kernel

theorem published_of_answered_moving :
    ∃ new o domain child, keeper.inEffect moving ⟨"shop@n"⟩ = some new ∧
      stored (keeper.passes moving vacant).state place = some o ∧
      (keeper.reading o.status).domains = (keeper.reading new.status).domains ∧
      children (keeper.passes moving vacant).state place = some child ∧ child.Routes domain ∧
      domain = "a.example.com" := by
  obtain ⟨o, ho, heq⟩ := Option.map_eq_some_iff.1 moved
  obtain ⟨hmanaged, heq⟩ := Prod.mk.inj heq
  obtain ⟨hkey, hdomains⟩ := Prod.mk.inj heq
  obtain ⟨new, hnew, hsame, -, hroutes⟩ := Keeper.published_of_answered lasting collects endows
    keyed_moving stored_vacant sent_moving ho hmanaged
  obtain ⟨child, domain, hchild, hdomain, hroutes⟩ := hroutes rfl
  rw [hkey] at hnew
  rw [← hsame, hdomains] at hdomain
  exact ⟨new, o, domain, child, hnew, ho, hsame, hchild, hroutes,
    (List.singleton_inj.1 hdomain).symm⟩

/-- The domain that the record has in the end is not published. -/
theorem not_upToDate_moving :
    keeper.Lasting stored children ∧ keeper.Collects census stored children ∧
    keeper.api.Endows census (keeper.slot census) stored ∧
    (∀ round ∈ moving, keeper.Keyed round) ∧ (∀ target, stored vacant.state target = none) ∧
    (∀ e ∈ keeper.sent moving vacant, e.answered = true) ∧
    ¬keeper.UpToDate (stored (keeper.passes moving vacant).state)
      (children (keeper.passes moving vacant).state)
      (keeper.objects (declaring "b.example.com").now [recordOf "b.example.com"]) := by
  refine ⟨lasting, collects, endows, keyed_moving, stored_vacant, sent_moving, fun hcurrent => ?_⟩
  obtain ⟨o, ho, heq⟩ := Option.map_eq_some_iff.1 moved
  obtain ⟨hmanaged, heq⟩ := Prod.mk.inj heq
  obtain ⟨-, hdomains⟩ := Prod.mk.inj heq
  obtain ⟨new, hnew, -, hsame, -⟩ := hcurrent place o ho hmanaged
  rw [objects_declaring (by decide), List.mem_singleton] at hnew
  rw [hdomains, hnew] at hsame
  exact absurd hsame (by decide)

end Slot

end EdgeAgent
