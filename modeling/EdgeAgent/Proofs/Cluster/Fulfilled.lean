import EdgeAgent.Proofs.Cluster.Course
import Mathlib.Data.List.Induction

/-! What a pass leaves when every request is answered. No creation can then have met an object of the
same name, so the wanted objects have keys of their own. Each of them is stored with the fingerprint
of its spec, unless it is lost with a deleted object, and nothing else of the agent is. -/

namespace EdgeAgent

open Sent (Missed)

variable {σ ι D Record Spec Status : Type}

/-! ### Keys of their own -/

/-- A place is plain when its key is that of a place without `@`. -/
theorem Target.plain_of_key_eq {kind : Kind Spec Status} {p q : Target} (hp : p.Plain kind)
    (hname : '@' ∉ p.name.toList) (hq : kind.Holds q) (hkey : q.key = p.key) : q.Plain kind := by
  refine ⟨hq, ?_⟩
  obtain ⟨scope, name⟩ := p
  obtain ⟨scope', name'⟩ := q
  obtain ⟨hholds, hplain⟩ := hp
  rw [Kind.Holds] at hholds hq
  split at hholds
  · next hnamespaced =>
    rw [if_pos hnamespaced] at hq
    obtain ⟨ns, hns, rfl⟩ := hholds
    obtain ⟨ns', hns', rfl⟩ := hq
    have htext : name'.toList ++ '@' :: ns'.toList = name.toList ++ '@' :: ns.toList := by
      rw [key, key, Key.of, Key.of, if_neg hns', if_neg hns] at hkey
      simpa only [String.toList_ofList] using congrArg (fun k => k.text.toList) hkey
    have hcount := congrArg (List.count '@') htext
    have hnone : name.toList.count '@' = 0 := List.count_eq_zero.2 hname
    have hnone' : ns.toList.count '@' = 0 := List.count_eq_zero.2 (hplain ns rfl)
    simp only [List.count_append, List.count_cons_self, hnone, hnone'] at hcount
    rintro _ ⟨⟩
    apply List.count_eq_zero.1
    omega
  · next hnamespaced =>
    rw [if_neg hnamespaced] at hq
    rintro ns hns
    rw [show scope' = none from hq] at hns
    cases hns

namespace Step

variable {R : Type} {keyOf : R → Key}

/-- An object asks after those before it, whatever comes later. -/
theorem requests_append_cons (keyOf : R → Key) (existing front : List R) (new : R)
    (back : List R) : ∃ later, requests keyOf existing (front ++ new :: back) =
      requests keyOf existing front ++ request keyOf existing front new :: later := by
  have hfront : front.mapIdx (fun i x => request keyOf existing ((front ++ new :: back).take i) x) =
      requests keyOf existing front := by
    refine List.ext_getElem (by simp [requests]) fun i hi _ => ?_
    rw [List.length_mapIdx] at hi
    simp only [requests, List.getElem_mapIdx]
    rw [List.take_append_of_le_length (Nat.le_of_lt hi)]
  have hnew : (front ++ new :: back).take (0 + front.length) = front := by simp
  rw [requests, List.mapIdx_append, List.mapIdx_cons, hfront, hnew]
  exact ⟨_, rfl⟩

end Step

namespace Keeper

variable {keeper : Keeper σ Record Spec Status} {stored : σ → Store Spec Status}
  {children : σ → Target → Option Child.Stored} {census : Census σ ι D} {round : Round Record}
  {records : List Record} {s s' : σ} {w : World σ} {listed news : List (Object Spec Status)}
  {runs : List (Bool × List Sent)} {place : Target}

/-- A wanted object is stored when the requests of its write are answered. -/
theorem Comes.asked {x : Write (Object Spec Status)} {ok : Bool} {sent : List (Target × Ingress)}
    {before after : Seat Spec Status} {new : Object Spec Status}
    (h : keeper.Comes x ok sent before after) (hnew : x.new? = some new)
    (hwanted : new.Wanted keeper.kind) (hsuits : x.Suits before.object) :
    ∃ o child, after = ⟨some o, child⟩ ∧ o.managed = true ∧
      o.recordedHash keeper.kind = some (keeper.kind.hashOf new.spec) ∧
      keeper.Attended (x.place keeper.kind) o ok sent child := by
  obtain ⟨o, child, hafter, hattended, hdone⟩ := h.shown hnew
  refine ⟨o, child, hafter, ?_⟩
  rcases hdone with ⟨hshows, -⟩ | ⟨old, rfl, -, hunchanged, hface⟩
  · obtain ⟨hmanaged, hhash⟩ := recorded_of_shows hwanted hshows
    exact ⟨hmanaged, hhash, hattended⟩
  · have hmanaged : o.managed = old.managed := congrArg Face.managed hface
    have hrecorded : (o.face keeper.reading).hash = (old.face keeper.reading).hash :=
      congrArg Face.hash hface
    rw [hash_face, hash_face, (Upkeep.unchanged_iff hwanted).1 hunchanged] at hrecorded
    exact ⟨hmanaged.trans hsuits.2, hrecorded, hattended⟩

/-- The object that an answered creation stores has a plain place, which was free. -/
theorem Comes.place_created (hlasting : keeper.Lasting stored children)
    {new : Object Spec Status} {ok : Bool} {sent : List (Target × Ingress)}
    (h : keeper.Comes (.create new) ok sent
      (keeper.seat stored children s (Upkeep.target keeper.kind new))
      (keeper.seat stored children s' (Upkeep.target keeper.kind new))) :
    stored s (Upkeep.target keeper.kind new) = none ∧
      (Upkeep.target keeper.kind new).Plain keeper.kind := by
  generalize hbefore : keeper.seat stored children s (Upkeep.target keeper.kind new) = before at h
  generalize hafter : keeper.seat stored children s' (Upkeep.target keeper.kind new) = after at h
  cases h with
  | @created _ o _ _ _ _ _ _ =>
      have hfree : stored s (Upkeep.target keeper.kind new) = none := congrArg Seat.object hbefore
      have ho : stored s' (Upkeep.target keeper.kind new) = some o := congrArg Seat.object hafter
      exact ⟨hfree, hlasting.plain s' _ o ho⟩

/-- An answered creation was made at a plain place, which was free. -/
theorem Moves.place_created (hlasting : keeper.Lasting stored children)
    {x : Write (Object Spec Status)} {new : Object Spec Status} {ok : Bool} {es : List Sent}
    (h : keeper.Moves stored children x ok es s s') (hanswered : ¬Missed es) (hx : x = .create new) :
    stored s (Upkeep.target keeper.kind new) = none ∧
      (Upkeep.target keeper.kind new).Plain keeper.kind := by
  subst hx
  exact ((h.comes trivial).resolve_left hanswered).place_created hlasting

section

variable {front : List (Object Spec Status)} {new : Object Spec Status} {run : Bool × List Sent}
  {mid : σ}

/-- After the answered requests for other objects, one more answered request is for an object of
another key: a second creation of the same object would have been refused. -/
theorem fresh_of_runs (hlasting : keeper.Lasting stored children)
    (hlisted : Listed (stored s) listed) (hfront : Asked keeper.kind front)
    (hkey : new.key = (Upkeep.target keeper.kind new).key)
    (hruns : Runs (keeper.Moves stored children) (Step.requests Object.key listed front) runs s mid)
    (hmoves : keeper.Moves stored children (Step.request Object.key listed front new) run.1 run.2
      mid s')
    (hanswered : ¬Missed (notesOf runs)) (hanswered' : ¬Missed run.2) :
    new.key ∉ front.map Object.key := by
  intro hmem
  have hcreate : Step.request Object.key listed front new = .create new := by
    rw [Step.request]
    split
    · rw [if_pos hmem]
    · rfl
  obtain ⟨hfree, hplain⟩ := hmoves.place_created hlasting hanswered' hcreate
  obtain ⟨old, hold, hsame⟩ := List.mem_map.1 hmem
  have hat : Upkeep.target keeper.kind old = Upkeep.target keeper.kind new := by
    apply (hfront.plain old hold).eq_of_key hplain
    rw [← hfront.key old hold, hsame, hkey]
  obtain ⟨-, hcomes⟩ := comes_of_requests hlasting hlisted hfront hruns hanswered
  obtain ⟨run, -, x, hx, -, hsuits, hcame⟩ := exists_of_forall₂ hcomes hold
  obtain ⟨o, child, hafter, -⟩ := hcame.asked hx (hfront.wanted old hold) hsuits
  rw [hat] at hafter
  have ho : stored mid (Upkeep.target keeper.kind new) = some o := congrArg Seat.object hafter
  rw [hfree] at ho
  cases ho

/-- An answered request is for an object at a plain place: one that is stored already, or one at which
an object could be created. -/
theorem plain_of_request (hlasting : keeper.Lasting stored children)
    (hlisted : Listed (stored s) listed)
    (hholds : keeper.kind.Holds ⟨new.metadata.ns, new.metadata.anyName⟩)
    (hkey : new.key = (Upkeep.target keeper.kind new).key)
    (hmoves : keeper.Moves stored children (Step.request Object.key listed front new) run.1 run.2
      mid s') (hanswered : ¬Missed run.2) : (Upkeep.target keeper.kind new).Plain keeper.kind := by
  have hfaithful := hlasting.faithful.api
  cases hold : Step.listed? Object.key listed new.key with
  | none =>
      refine (hmoves.place_created hlasting hanswered ?_).2
      rw [Step.request, hold]
  | some old =>
      obtain ⟨-, hstored⟩ := hfaithful.of_listed hlisted (Step.mem_of_listed? hold)
      apply Target.plain_of_key_eq (hlasting.plain s _ old hstored)
        (hlasting.api.unmarked _ _ _ hstored).1
      · rw [Upkeep.target_eq hholds rfl rfl]
        exact hholds
      · rw [← hkey, ← hfaithful.key_eq hstored, Step.keyOf_of_listed? hold]

/-- One more object with answered requests has a key of its own at a plain place. -/
theorem asked_append_of_runs (hlasting : keeper.Lasting stored children)
    (hlisted : Listed (stored s) listed) (hfront : Asked keeper.kind front)
    (hnew : new.Wanted keeper.kind)
    (hholds : keeper.kind.Holds ⟨new.metadata.ns, new.metadata.anyName⟩)
    (hruns : Runs (keeper.Moves stored children) (Step.requests Object.key listed front) runs s mid)
    (hmoves : keeper.Moves stored children (Step.request Object.key listed front new) run.1 run.2
      mid s')
    (hanswered : ¬Missed (notesOf runs)) (hanswered' : ¬Missed run.2) :
    Asked keeper.kind (front ++ [new]) := by
  obtain ⟨name, hname⟩ := hnew.named
  have hkey : new.key = (Upkeep.target keeper.kind new).key := Object.key_eq hname hholds
  have hplain := plain_of_request hlasting hlisted hholds hkey hmoves hanswered'
  have hfresh := fresh_of_runs hlasting hlisted hfront hkey hruns hmoves hanswered hanswered'
  refine ⟨?_, ?_, ?_, ?_⟩
  · exact List.forall_mem_append.2 ⟨hfront.wanted, List.forall_mem_singleton.2 hnew⟩
  · exact List.forall_mem_append.2 ⟨hfront.plain, List.forall_mem_singleton.2 hplain⟩
  · exact List.forall_mem_append.2 ⟨hfront.key, List.forall_mem_singleton.2 hkey⟩
  · rw [List.map_append, List.map_singleton, ← List.concat_eq_append]
    exact hfront.keys.concat hfresh

end

/-- Objects with answered requests have keys of their own at plain places. -/
theorem asked_of_runs (hlasting : keeper.Lasting stored children)
    (hlisted : Listed (stored s) listed)
    (hnews : ∀ new ∈ news, new.Wanted keeper.kind ∧
      keeper.kind.Holds ⟨new.metadata.ns, new.metadata.anyName⟩)
    (hruns : Runs (keeper.Moves stored children) (Step.requests Object.key listed news) runs s s')
    (hanswered : ¬Missed (notesOf runs)) : Asked keeper.kind news := by
  suffices h : ∀ front back, news = front ++ back → Asked keeper.kind front from
    h news [] (List.append_nil news).symm
  intro front
  induction front using List.reverseRecOn with
  | nil => exact fun _ _ => ⟨by simp, by simp, by simp, List.nodup_nil⟩
  | append_singleton front new ih =>
      intro back heq
      rw [List.append_assoc] at heq
      obtain ⟨later, hrequests⟩ := Step.requests_append_cons Object.key listed front new back
      have hsplit := hruns
      rw [heq, List.singleton_append, hrequests] at hsplit
      obtain ⟨mid, first, last, rfl, hfirst, hlast⟩ := hsplit.of_append
      obtain ⟨hwanted, hholds⟩ := hnews new (by simp [heq])
      cases hlast with
      | @cons _ _ run last _ mid' _ hmoves _ =>
          rw [notesOf_append, notesOf_cons, Sent.missed_append, Sent.missed_append, not_or,
            not_or] at hanswered
          exact asked_append_of_runs hlasting hlisted (ih _ heq) hwanted hholds hfirst hmoves
            hanswered.1 hanswered.2.1

/-! ### What a pass has fulfilled -/

/-- The child ingress that is made of an object, with its place. -/
def childAt (keeper : Keeper σ Record Spec Status) (place : Target) (o : Object Spec Status) :
    Option (Target × Ingress) :=
  match keeper.child? o with
  | some (.ok ingress) => some (place, ingress)
  | _ => none

/-- The child ingresses that are made of the objects at places. -/
def childrenAt (keeper : Keeper σ Record Spec Status) (objects : Store Spec Status)
    (places : List Target) : List (Target × Ingress) :=
  places.flatMap fun place => ((objects place).bind (keeper.childAt place)).toList

/-- The wanted objects are stored, with their fingerprints and their child ingresses, and there are
no other objects of the agent. -/
structure Fulfills (keeper : Keeper σ Record Spec Status) (stored : σ → Store Spec Status)
    (children : σ → Target → Option Child.Stored) (news : List (Object Spec Status)) (s : σ) :
    Prop where
  asked : Asked keeper.kind news
  each : ∀ new ∈ news, ∃ o child sent,
    keeper.seat stored children s (Upkeep.target keeper.kind new) = ⟨some o, child⟩ ∧
      o.managed = true ∧ o.recordedHash keeper.kind = some (keeper.kind.hashOf new.spec) ∧
      keeper.Attended (Upkeep.target keeper.kind new) o true sent child
  only : ∀ place o, stored s place = some o → o.managed = true →
    ∃ new ∈ news, Upkeep.target keeper.kind new = place

theorem Attended.sent_eq {o : Object Spec Status} {sent : List (Target × Ingress)}
    {child : Option Child.Stored} (h : keeper.Attended place o true sent child) :
    sent = (keeper.childAt place o).toList := by
  cases h with
  | alone hnone => rw [childAt, hnone, Option.toList_none]
  | linked hingress _ => rw [childAt, hingress, Option.toList_some]

theorem Comes.sent_eq {x : Write (Object Spec Status)} {sent : List (Target × Ingress)}
    {before after : Seat Spec Status} (h : keeper.Comes x true sent before after) :
    sent = (after.object.bind (keeper.childAt (x.place keeper.kind))).toList := by
  cases h with
  | created _ hattended => exact hattended.sent_eq
  | rested _ _ hattended => exact hattended.sent_eq
  | renewed _ _ hattended => exact hattended.sent_eq

/-- Successful requests store the child ingresses of the objects that they leave. -/
theorem children_notesOf {before after : Target → Seat Spec Status}
    (h : List.Forall₂ (fun new run => ∃ x, x.new? = some new ∧
      x.place keeper.kind = Upkeep.target keeper.kind new ∧
      x.Suits (stored s (Upkeep.target keeper.kind new)) ∧
      keeper.Comes x run.1 (Sent.children run.2) (before (Upkeep.target keeper.kind new))
        (after (Upkeep.target keeper.kind new))) news runs)
    (hok : ∀ run ∈ runs, run.1 = true) :
    Sent.children (notesOf runs) =
      keeper.childrenAt (fun place => (after place).object)
        (news.map (Upkeep.target keeper.kind)) := by
  induction h with
  | nil => rfl
  | @cons new run news runs hcomes _ ih =>
      obtain ⟨x, -, hplace, -, hcame⟩ := hcomes
      rw [List.forall_mem_cons] at hok
      rw [hok.1] at hcame
      rw [notesOf_cons, Sent.children_append, ih hok.2, hcame.sent_eq, hplace, List.map_cons,
        childrenAt, childrenAt, List.flatMap_cons]

/-- What requests for objects leave when all of them succeed. -/
theorem attended_of_requests (hlasting : keeper.Lasting stored children)
    (hlisted : Listed (stored s) listed)
    (hnews : ∀ new ∈ news, new.Wanted keeper.kind ∧
      keeper.kind.Holds ⟨new.metadata.ns, new.metadata.anyName⟩)
    (hruns : Runs (keeper.Moves stored children) (Step.requests Object.key listed news) runs s s')
    (hanswered : ¬Missed (notesOf runs)) (hok : ∀ run ∈ runs, run.1 = true) :
    Asked keeper.kind news ∧
    Sent.children (notesOf runs) =
      keeper.childrenAt (stored s') (news.map (Upkeep.target keeper.kind)) ∧
    ∀ new ∈ news, ∃ o child sent,
      keeper.seat stored children s' (Upkeep.target keeper.kind new) = ⟨some o, child⟩ ∧
        o.managed = true ∧ o.recordedHash keeper.kind = some (keeper.kind.hashOf new.spec) ∧
        keeper.Attended (Upkeep.target keeper.kind new) o true sent child := by
  have hasked := asked_of_runs hlasting hlisted hnews hruns hanswered
  obtain ⟨-, hcomes⟩ := comes_of_requests hlasting hlisted hasked hruns hanswered
  refine ⟨hasked, children_notesOf hcomes hok, fun new hnew => ?_⟩
  obtain ⟨run, hrun, x, hx, hplace, hsuits, hcame⟩ := exists_of_forall₂ hcomes hnew
  obtain ⟨o, child, hafter, hmanaged, hhash, hattended⟩ :=
    hcame.asked hx (hasked.wanted new hnew) hsuits
  rw [hplace, hok run hrun] at hattended
  exact ⟨o, child, _, hafter, hmanaged, hhash, hattended⟩

/-- A pass in which everything succeeds fulfills what is wanted, if nothing of that is lost. -/
theorem fulfills_of_course (hlasting : keeper.Lasting stored children) {mid : σ}
    (h : keeper.Course stored children (keeper.Does stored children
      (keeper.Removes stored children (census.Owns (keeper.slot census)))) round records w listed mid
      runs) (hanswered : ¬Missed (notesOf runs)) (hok : ∀ run ∈ runs, run.1 = true)
    (hkept : ∀ new ∈ keeper.objects round.now records,
      ¬keeper.Lost census stored round w (Upkeep.target keeper.kind new)) :
    keeper.Fulfills stored children (keeper.objects round.now records)
        (keeper.pass round w).state ∧
      Sent.children (notesOf runs) = keeper.childrenAt (stored (keeper.pass round w).state)
        ((keeper.objects round.now records).map (Upkeep.target keeper.kind)) := by
  obtain ⟨deletions, between, first, rest, hsplit, hparts⟩ := h.parts
  have hlisted := h.lists_mid
  have hanswered' := hanswered
  rw [hsplit, notesOf_append, Sent.missed_append, not_or] at hanswered'
  rw [hsplit, List.forall_mem_append] at hok
  obtain ⟨hasked, hchildren, heach⟩ := attended_of_requests hlasting hlisted
    (fun new => wanted_of_mem) hparts.writes hanswered'.1 hok.1
  have hsame : ∀ new ∈ keeper.objects round.now records,
      keeper.seat stored children (keeper.pass round w).state (Upkeep.target keeper.kind new) =
        keeper.seat stored children between (Upkeep.target keeper.kind new) := fun new hnew =>
    hparts.seat_of_wanted hlasting hlisted hasked hanswered'.2 hnew (hkept new hnew)
  refine ⟨⟨hasked, ?_, fun place o => h.wanted_of_managed hlasting hasked hanswered⟩, ?_⟩
  · intro new hnew
    rw [hsame new hnew]
    exact heach new hnew
  · have hnone := (sent_of_deletions (hparts.deletes.imp fun _ _ _ _ _ _ h => h.1)).1
    rw [hsplit, notesOf_append, Sent.children_append, hnone, List.append_nil, hchildren, childrenAt,
      childrenAt, List.flatMap_map, List.flatMap_map]
    refine List.flatMap_congr fun new hnew => ?_
    have hstored : stored (keeper.pass round w).state (Upkeep.target keeper.kind new) =
        stored between (Upkeep.target keeper.kind new) := congrArg Seat.object (hsame new hnew)
    rw [hstored]

end Keeper

end EdgeAgent
