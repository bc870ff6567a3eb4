import EdgeAgent.Proofs.Routing.LastChange
import EdgeAgent.Routing.Listing
import Mathlib.Data.List.Forall2
import Mathlib.Data.List.Nodup

/-! What a new listing of the policies repairs. A change that finds the queue full is lost. A policy
whose addition was lost is sent again with the next listing. A policy whose deletion was lost is not
withdrawn by any listing: its place was forgotten when the deletion was sent, so that it is not
missed later, and the register keeps it. -/

namespace EdgeAgent

/-! ### Places -/

namespace Place

/-- The key of the policy at a place. -/
def key (place : Place) : Key :=
  .of place.2 (some place.1)

/-- A namespace and a name as a cluster has them. -/
structure Plain (place : Place) : Prop where
  ns : place.1 ≠ ""
  name : place.2 ≠ ""
  unmarked : '@' ∉ place.1.toList

/-- An object gives its place in its metadata. -/
def Holds (place : Place) (o : AccessControlPolicy) : Prop :=
  o.metadata.ns = some place.1 ∧ o.metadata.name = some place.2

variable {place other : Place}

theorem Plain.eq_of_key (hplace : place.Plain) (hother : other.Plain)
    (hkey : place.key = other.key) : place = other := by
  have hname := congrArg Key.name hkey
  have hns := congrArg Key.ns? hkey
  rw [key, key, Key.name_of hplace.ns hplace.unmarked,
    Key.name_of hother.ns hother.unmarked] at hname
  rw [key, key, Key.ns?_of hplace.ns hplace.unmarked, Key.ns?_of hother.ns hother.unmarked] at hns
  exact Prod.ext (Option.some.inj hns) hname

theorem Plain.ofObject (hplace : place.Plain) {o : AccessControlPolicy} (ho : place.Holds o) :
    Policy.ofObject o = .ok ⟨place.key, o.spec⟩ := by
  have hnamed : ¬(place.2 = "" ∨ place.1 = "") := not_or.2 ⟨hplace.name, hplace.ns⟩
  rw [Policy.ofObject, ho.1, ho.2]
  exact if_neg hnamed

end Place

/-! ### The last change about a key -/

namespace PolicyChange

variable {changes later : List PolicyChange} {change : PolicyChange} {key : Key}

theorem last?_append (changes later : List PolicyChange) (key : Key) :
    last? (changes ++ later) key = (last? later key).or (last? changes key) := by
  simp only [last?, List.findRev?_eq_find?_reverse, List.reverse_append, List.find?_append]

theorem of_last? (h : last? changes key = some change) : change ∈ changes ∧ change.key = key := by
  rw [last?, List.findRev?_eq_find?_reverse] at h
  exact ⟨List.mem_reverse.1 (List.mem_of_find?_eq_some h), by simpa using List.find?_some h⟩

theorem last?_eq_none_iff : last? changes key = none ↔ ∀ change ∈ changes, change.key ≠ key := by
  rw [last?, List.findRev?_eq_find?_reverse, List.find?_eq_none]
  simp

/-- When all changes about a key are the same one, it is the last. -/
theorem last?_eq_some (hmem : change ∈ changes) (hkey : change.key = key)
    (honly : ∀ other ∈ changes, other.key = key → other = change) :
    last? changes key = some change := by
  cases hlast : last? changes key with
  | none => exact absurd hkey (last?_eq_none_iff.1 hlast change hmem)
  | some other =>
      obtain ⟨hother, hother_key⟩ := of_last? hlast
      rw [honly other hother hother_key]

end PolicyChange

/-! ### What gets into the queue -/

namespace Gateway

variable {g : Gateway}

/-- The number of changes for which there is room in the queue. -/
def room (g : Gateway) : Nat :=
  g.capacity - g.queue.length

/-- A gateway after changes were sent: those for which there is no room are lost. -/
def took (g : Gateway) (changes : List PolicyChange) : Gateway :=
  { g with queue := g.queue ++ changes.take g.room }

theorem took_nil (g : Gateway) : g.took [] = g := by
  rw [took, List.take_nil, List.append_nil]

theorem took_append (g : Gateway) (changes later : List PolicyChange) :
    g.took (changes ++ later) = (g.took changes).took later := by
  have hroom : (g.took changes).room = g.room - changes.length := by
    simp only [room, took, List.length_append, List.length_take]
    omega
  rw [took, took, hroom, List.take_append]
  simp only [took, List.append_assoc]

theorem send_eq_took (hrunning : g.phase ≠ .stopped) (change : PolicyChange) :
    (g.send change).1 = g.took [change] := by
  rw [send, if_neg hrunning]
  by_cases hroom : g.queue.length < g.capacity
  · have htake : [change].take g.room = [change] :=
      List.take_of_length_le (show 1 ≤ g.room from Nat.sub_pos_of_lt hroom)
    rw [if_pos hroom, took, htake]
  · have hfull : g.room = 0 := Nat.sub_eq_zero_of_le (Nat.le_of_not_lt hroom)
    rw [if_neg hroom, took, hfull, List.take_zero, List.append_nil]

theorem upsert_eq_took (hrunning : g.phase ≠ .stopped) {place : Place} (hplace : place.Plain)
    {o : AccessControlPolicy} (ho : place.Holds o) :
    (g.upsert o).1 = g.took [.upsert ⟨place.key, o.spec⟩] := by
  rw [upsert, hplace.ofObject ho]
  exact send_eq_took hrunning _

/-- Operations that send one change each send their changes one after the other. -/
theorem sequence_eq_took {operations : List (Gateway → Gateway × Log)}
    {changes : List PolicyChange}
    (hsends : List.Forall₂ (fun operation change => ∀ g : Gateway, g.phase ≠ .stopped →
      (operation g).1 = g.took [change]) operations changes) (hrunning : g.phase ≠ .stopped) :
    (g.sequence operations).1 = g.took changes := by
  unfold sequence
  generalize ([] : Log) = log
  induction hsends generalizing g log with
  | nil => exact (took_nil g).symm
  | @cons operation change operations changes hsend _ ih =>
      have hsent := hsend g hrunning
      have hstill : (operation g).1.phase ≠ .stopped := by
        rw [hsent]
        exact hrunning
      rw [List.foldl_cons, ih hstill, hsent, ← took_append, List.singleton_append]

end Gateway

/-! ### Histories -/

/-- What is told about policies is told as a cluster does: every object gives its place, and of a
listing every place is another one. -/
def Notice.WellFormed : Notice → Prop
  | .present place o => place.Plain ∧ place.Holds o
  | .gone place => place.Plain
  | .listing all => (all.map (·.1)).Nodup ∧ ∀ e ∈ all, e.1.Plain ∧ e.1.Holds e.2

namespace Register

variable {validate : Validator} {s : Routed}

/-- Every change takes one generation at most. -/
theorem generation_enterAll (changes : List PolicyChange) (hdate : UpToDate validate s)
    (hroom : s.register.generation.toNat + changes.length < UInt64.size) :
    (enterAll validate s changes).register.generation.toNat ≤
      s.register.generation.toNat + changes.length := by
  induction changes generalizing s with
  | nil => exact Nat.le_refl _
  | cons change changes ih =>
      rw [List.length_cons] at hroom ⊢
      obtain ⟨hnew, -, hgrown⟩ := upToDate_enter hdate (by omega) change
      have hlater := ih hnew (by omega)
      rw [enterAll, List.foldl_cons, ← enterAll]
      omega

/-- The register knows the listed policies with their specs, and no others. -/
def Knows (r : Register) (all : List (Place × AccessControlPolicy)) : Prop :=
  (∀ e ∈ all, r.policies.find? e.1.key.text = some e.2.spec) ∧
    ∀ key : Key, (∃ spec, r.policies.find? key.text = some spec) → ∃ e ∈ all, e.1.key = key

end Register

namespace Follower

open Register (UpToDate upToDate_initial upToDate_enterAll generation_enterAll)
open PolicyChange (last?)

/-- What happens to a follower: it is told something, or changes that wait are entered. -/
inductive Event where
  | told (notice : Notice)
  | entered (count : Nat)

def Event.WellFormed : Event → Prop
  | .told notice => notice.WellFormed
  | .entered _ => True

variable (validate : Validator)

def step (f : Follower) : Event → Follower
  | .told notice => (f.hear notice).1
  | .entered count => { f with gateway := (f.gateway.drain validate count).1 }

def run (events : List Event) (f : Follower) : Follower :=
  events.foldl (step validate) f

/-- A follower after a listing of all policies, of which some changes that wait are then entered. -/
def relisted (all : List (Place × AccessControlPolicy)) (count : Nat) (f : Follower) : Follower :=
  (f.step validate (.told (.listing all))).step validate (.entered count)

/-- A follower that has been told nothing yet, and enters changes in an empty table. -/
def started (capacity : Nat) : Follower where
  gateway := (Gateway.ofTable { routes := .empty } capacity).start

/-- The changes that listed policies are sent as. -/
def upserts (all : List (Place × AccessControlPolicy)) : List PolicyChange :=
  all.map fun e => .upsert ⟨e.1.key, e.2.spec⟩

/-- The changes that a follower sends when it is told something. -/
def changes (f : Follower) : Notice → List PolicyChange
  | .present place o => [.upsert ⟨place.key, o.spec⟩]
  | .gone place => [.delete place.key]
  | .listing all => upserts all ++ (f.missing all).map fun place => .delete place.key

/-- The changes of an event that get into the queue. -/
def kept (f : Follower) : Event → List PolicyChange
  | .told notice => (f.changes notice).take f.gateway.room
  | .entered _ => []

/-- The changes of an event that are lost. -/
def lost (f : Follower) : Event → List PolicyChange
  | .told notice => (f.changes notice).drop f.gateway.room
  | .entered _ => []

/-- All changes of a history that get into the queue. -/
def allKept : List Event → Follower → List PolicyChange
  | [], _ => []
  | event :: events, f => f.kept event ++ allKept events (f.step validate event)

/-- All changes of a history that are lost. -/
def allLost : List Event → Follower → List PolicyChange
  | [], _ => []
  | event :: events, f => f.lost event ++ allLost events (f.step validate event)

variable {validate} {f : Follower} {all : List (Place × AccessControlPolicy)} {place : Place}

theorem mem_placesOf : place ∈ placesOf all ↔ ∃ e ∈ all, e.1 = place := by
  rw [placesOf, List.mem_eraseDups, List.mem_map]

theorem mem_missing : place ∈ f.missing all ↔ place ∈ f.announced ∧ ∀ e ∈ all, e.1 ≠ place := by
  rw [missing, List.mem_filter, decide_eq_true_eq, mem_placesOf]
  simp only [not_exists, not_and]

/-- Whatever a follower is told, it sends the changes. -/
theorem gateway_hear (hrunning : f.gateway.phase ≠ .stopped) {notice : Notice}
    (hnotice : notice.WellFormed) :
    (f.hear notice).1.gateway = f.gateway.took (f.changes notice) := by
  cases notice with
  | present place o => exact Gateway.upsert_eq_took hrunning hnotice.1 hnotice.2
  | gone place => exact Gateway.send_eq_took hrunning _
  | listing all =>
      refine Gateway.sequence_eq_took (List.rel_append ?_ ?_) hrunning
      · rw [upserts, List.map_map, List.forall₂_map_left_iff, List.forall₂_map_right_iff,
          List.forall₂_same]
        intro e he g hg
        obtain ⟨hplain, hholds⟩ := hnotice.2 e he
        exact Gateway.upsert_eq_took hg hplain hholds
      · rw [List.forall₂_map_left_iff, List.forall₂_map_right_iff, List.forall₂_same]
        intro place _ g hg
        exact Gateway.send_eq_took hg _

theorem mem_kept_or_lost {notice : Notice} {change : PolicyChange}
    (hmem : change ∈ f.changes notice) :
    change ∈ f.kept (.told notice) ∨ change ∈ f.lost (.told notice) := by
  rw [← List.take_append_drop f.gateway.room (f.changes notice)] at hmem
  exact List.mem_append.1 hmem

theorem mem_changes_of_kept {notice : Notice} {change : PolicyChange}
    (hmem : change ∈ f.kept (.told notice)) : change ∈ f.changes notice :=
  List.mem_of_mem_take hmem

/-! ### What the register knows -/

/-- The register knows the specs that some changes leave, and the announced places are those of a
cluster. -/
structure Follows (validate : Validator) (seen : List PolicyChange) (f : Follower) : Prop where
  running : f.gateway.phase ≠ .stopped
  announced : ∀ place ∈ f.announced, place.Plain
  upToDate : UpToDate validate ⟨f.gateway.register, f.gateway.active, []⟩
  generation : f.gateway.register.generation.toNat ≤ seen.length
  find? : ∀ key : Key, f.gateway.register.policies.find? key.text =
    (last? seen key).bind PolicyChange.spec?

theorem follows_started (capacity : Nat) : Follows validate [] (started capacity) where
  running := fun h => nomatch h
  announced := fun _ hmem => nomatch hmem
  upToDate := upToDate_initial
  generation := Nat.le_refl 0
  find? := fun _ => rfl

variable {seen : List PolicyChange}

theorem Follows.told (h : Follows validate seen f) {notice : Notice}
    (hnotice : notice.WellFormed) :
    Follows validate seen (f.hear notice).1 ∧
      (f.hear notice).1.gateway.queue = f.gateway.queue ++ f.kept (.told notice) := by
  have hgateway := gateway_hear h.running hnotice
  refine ⟨?_, by rw [hgateway]; rfl⟩
  constructor
  · rw [hgateway]
    exact h.running
  · intro place hplace
    cases notice with
    | present new o =>
        simp only [hear] at hplace
        split at hplace
        · exact h.announced place hplace
        · rcases List.mem_cons.1 hplace with rfl | hplace
          · exact hnotice.1
          · exact h.announced place hplace
    | gone old => exact h.announced place (List.mem_of_mem_erase hplace)
    | listing all =>
        obtain ⟨e, he, rfl⟩ := mem_placesOf.1 hplace
        exact (hnotice.2 e he).1
  · rw [hgateway]
    exact h.upToDate
  · rw [hgateway]
    exact h.generation
  · rw [hgateway]
    exact h.find?

theorem Follows.entered (h : Follows validate seen f) (count : Nat)
    (hbound : seen.length + f.gateway.queue.length < UInt64.size) :
    Follows validate (seen ++ f.gateway.queue.take count) (f.step validate (.entered count)) ∧
      (f.step validate (.entered count)).gateway.queue = f.gateway.queue.drop count := by
  have hgeneration := h.generation
  have htaken : (f.gateway.queue.take count).length ≤ f.gateway.queue.length :=
    List.length_take_le' count _
  have hroom : f.gateway.register.generation.toNat + (f.gateway.queue.take count).length <
      UInt64.size := by omega
  obtain ⟨hdate, hfind⟩ := upToDate_enterAll (f.gateway.queue.take count) h.upToDate hroom
  have hgrown := generation_enterAll (f.gateway.queue.take count) h.upToDate hroom
  refine ⟨⟨h.running, h.announced, ⟨hdate.working, hdate.generation, hdate.find?⟩, ?_, ?_⟩, ?_⟩
  · rw [List.length_append]
    exact Nat.le_trans hgrown (Nat.add_le_add_right hgeneration _)
  · intro key
    refine (hfind key).trans ?_
    rw [PolicyChange.last?_append, h.find? key]
    cases last? (f.gateway.queue.take count) key <;> rfl
  · exact if_neg (by rw [hdate.working]; decide)

/-- At any time the register has seen the changes that got into the queue, but for those that wait
there. -/
theorem Follows.run {events : List Event} (h : Follows validate seen f)
    (hevents : ∀ event ∈ events, event.WellFormed)
    (hbound : (seen ++ f.gateway.queue ++ allKept validate events f).length < UInt64.size) :
    ∃ seen', Follows validate seen' (run validate events f) ∧
      seen' ++ (run validate events f).gateway.queue =
        seen ++ f.gateway.queue ++ allKept validate events f := by
  induction events generalizing f seen with
  | nil => exact ⟨seen, h, (List.append_nil _).symm⟩
  | cons event events ih =>
      rw [List.forall_mem_cons] at hevents
      rw [allKept, ← List.append_assoc] at hbound ⊢
      have hstep : ∃ seen', Follows validate seen' (f.step validate event) ∧
          seen' ++ (f.step validate event).gateway.queue =
            seen ++ f.gateway.queue ++ f.kept event := by
        cases event with
        | told notice =>
            obtain ⟨htold, hqueue⟩ := h.told hevents.1
            refine ⟨seen, htold, ?_⟩
            rw [List.append_assoc]
            exact congrArg (seen ++ ·) hqueue
        | entered count =>
            simp only [List.length_append] at hbound
            obtain ⟨hentered, hqueue⟩ := h.entered count (by omega)
            refine ⟨_, hentered, ?_⟩
            rw [hqueue, List.append_assoc, List.take_append_drop]
            exact (List.append_nil _).symm
      obtain ⟨mid, hmid, hseen⟩ := hstep
      rw [← hseen] at hbound ⊢
      exact ih hmid hevents.2 hbound

/-! ### A new listing -/

/-- A listing sends every listed policy, and a deletion for every other place that was announced. -/
theorem last?_changes_listing (hannounced : ∀ place ∈ f.announced, place.Plain)
    (hall : (Notice.listing all).WellFormed) :
    (∀ e ∈ all, last? (f.changes (.listing all)) e.1.key =
      some (.upsert ⟨e.1.key, e.2.spec⟩)) ∧
    ∀ key, (∀ e ∈ all, e.1.key ≠ key) → last? (f.changes (.listing all)) key =
      if ∃ place ∈ f.announced, place.key = key then some (.delete key) else none := by
  obtain ⟨hplaces, hplain⟩ := hall
  have hmem : ∀ change, change ∈ f.changes (.listing all) ↔
      (∃ e ∈ all, .upsert ⟨e.1.key, e.2.spec⟩ = change) ∨
        ∃ place ∈ f.missing all, .delete place.key = change := by
    intro change
    rw [changes, upserts, List.mem_append, List.mem_map, List.mem_map]
  constructor
  · intro e he
    refine PolicyChange.last?_eq_some ((hmem _).2 (.inl ⟨e, he, rfl⟩)) rfl ?_
    intro other hother hkey
    rcases (hmem other).1 hother with ⟨e', he', rfl⟩ | ⟨place, hplace, rfl⟩
    · have hplace := (hplain e' he').1.eq_of_key (hplain e he).1 hkey
      rw [List.inj_on_of_nodup_map hplaces he' he hplace]
    · obtain ⟨hknown, hunlisted⟩ := mem_missing.1 hplace
      have hsame := (hannounced place hknown).eq_of_key (hplain e he).1 hkey
      exact absurd hsame.symm (hunlisted e he)
  · intro key hunlisted
    have honly : ∀ change ∈ f.changes (.listing all), change.key = key →
        change = .delete key ∧ ∃ place ∈ f.announced, place.key = key := by
      intro change hchange hkey
      rcases (hmem change).1 hchange with ⟨e, he, rfl⟩ | ⟨place, hplace, rfl⟩
      · exact absurd hkey (hunlisted e he)
      · exact ⟨congrArg _ hkey, place, (mem_missing.1 hplace).1, hkey⟩
    split
    · next hknown =>
      obtain ⟨place, hplace, rfl⟩ := hknown
      have hmissing : place ∈ f.missing all :=
        mem_missing.2 ⟨hplace, fun e he heq => hunlisted e he (congrArg Place.key heq)⟩
      refine PolicyChange.last?_eq_some ((hmem _).2 (.inr ⟨place, hmissing, rfl⟩)) rfl ?_
      intro other hother hkey
      exact (honly other hother hkey).1
    · next hunknown =>
      refine PolicyChange.last?_eq_none_iff.2 fun change hchange hkey => ?_
      exact hunknown (honly change hchange hkey).2

/-- A policy that some changes leave was announced, unless a deletion was lost. -/
def Announces (seen : List PolicyChange) (f : Follower) : Prop :=
  ∀ key policy, last? seen key = some (.upsert policy) → ∃ place ∈ f.announced, place.key = key

theorem Announces.told (h : Announces seen f) (notice : Notice)
    (hlost : ∀ key, .delete key ∉ f.lost (.told notice)) :
    Announces (seen ++ f.kept (.told notice)) (f.hear notice).1 := by
  have hkept : ∀ key, .delete key ∈ f.changes notice → .delete key ∈ f.kept (.told notice) :=
    fun key hmem => (mem_kept_or_lost hmem).resolve_right (hlost key)
  intro key policy hlast
  rw [PolicyChange.last?_append] at hlast
  cases hnew : last? (f.kept (.told notice)) key with
  | some change =>
      rw [hnew] at hlast
      cases hlast
      obtain ⟨hmem, hkey⟩ := PolicyChange.of_last? hnew
      have hchange := mem_changes_of_kept hmem
      cases notice with
      | present place o =>
          cases List.mem_singleton.1 hchange
          refine ⟨place, ?_, hkey⟩
          simp only [hear]
          split
          · assumption
          · exact List.mem_cons_self
      | gone place => cases List.mem_singleton.1 hchange
      | listing all =>
          rcases List.mem_append.1 hchange with hlisted | hmissing
          · obtain ⟨e, he, heq⟩ := List.mem_map.1 hlisted
            cases heq
            exact ⟨e.1, mem_placesOf.2 ⟨e, he, rfl⟩, hkey⟩
          · obtain ⟨_, -, heq⟩ := List.mem_map.1 hmissing
            cases heq
  | none =>
      rw [hnew] at hlast
      obtain ⟨place, hplace, rfl⟩ := h key policy hlast
      have hundeleted : .delete place.key ∉ f.changes notice := fun hmem =>
        PolicyChange.last?_eq_none_iff.1 hnew _ (hkept _ hmem) rfl
      refine ⟨place, ?_, rfl⟩
      cases notice with
      | present new o =>
          simp only [hear]
          split
          · exact hplace
          · exact List.mem_cons_of_mem _ hplace
      | gone old =>
          have hother : place ≠ old := by
            rintro rfl
            exact hundeleted (List.mem_singleton_self _)
          exact (List.mem_erase_of_ne hother).2 hplace
      | listing all =>
          rw [hear, mem_placesOf]
          by_contra hunlisted
          have hmissing : place ∈ f.missing all :=
            mem_missing.2 ⟨hplace, fun e he heq => hunlisted ⟨e, he, heq⟩⟩
          exact hundeleted (List.mem_append_right _ (List.mem_map_of_mem hmissing))

theorem Announces.run {events : List Event} (h : Announces seen f)
    (hlost : ∀ key, .delete key ∉ allLost validate events f) :
    Announces (seen ++ allKept validate events f) (run validate events f) := by
  induction events generalizing f seen with
  | nil =>
      rw [allKept, List.append_nil]
      exact h
  | cons event events ih =>
      have hstep : Announces (seen ++ f.kept event) (f.step validate event) := by
        cases event with
        | told notice =>
            exact h.told notice fun key hmem => hlost key (List.mem_append_left _ hmem)
        | entered count =>
            rw [kept, List.append_nil]
            exact h
      rw [allKept, ← List.append_assoc]
      exact ih hstep fun key hmem => hlost key (List.mem_append_right _ hmem)

/-- After a listing of which no change was lost the register knows the listed policies, and of the
others those that some earlier change has left and that were not announced any more. -/
theorem Follows.knows_iff {healed : Follower}
    (h : Follows validate (seen ++ f.changes (.listing all)) healed)
    (hannounced : ∀ place ∈ f.announced, place.Plain) (hall : (Notice.listing all).WellFormed) :
    healed.gateway.register.Knows all ↔ ∀ key policy, last? seen key = some (.upsert policy) →
      (∃ e ∈ all, e.1.key = key) ∨ ∃ place ∈ f.announced, place.key = key := by
  obtain ⟨hlisted, hother⟩ := last?_changes_listing hannounced hall
  have hfind : ∀ key, (∀ e ∈ all, e.1.key ≠ key) →
      healed.gateway.register.policies.find? key.text =
        if ∃ place ∈ f.announced, place.key = key then none
        else (last? seen key).bind PolicyChange.spec? := by
    intro key hkey
    rw [h.find? key, PolicyChange.last?_append, hother key hkey]
    split <;> rfl
  constructor
  · rintro ⟨-, hknown⟩ key policy hlast
    by_contra hnone
    rw [not_or] at hnone
    obtain ⟨hunlisted, hunannounced⟩ := hnone
    refine hunlisted (hknown key ⟨policy.spec, ?_⟩)
    rw [hfind key fun e he heq => hunlisted ⟨e, he, heq⟩, if_neg hunannounced, hlast]
    rfl
  · intro hannounces
    refine ⟨?_, ?_⟩
    · intro e he
      rw [h.find? e.1.key, PolicyChange.last?_append, hlisted e he]
      rfl
    · rintro key ⟨spec, hspec⟩
      by_contra hunlisted
      rw [hfind key fun e he heq => hunlisted ⟨e, he, heq⟩] at hspec
      split at hspec
      · cases hspec
      · next hunannounced =>
        obtain ⟨change, hlast, hchange⟩ := Option.bind_eq_some_iff.1 hspec
        cases change with
        | upsert policy => exact (hannounces key policy hlast).elim hunlisted hunannounced
        | delete gone => cases hchange

/-- A listing for which there is room is entered as a whole once the queue is empty. -/
theorem Follows.relisted (h : Follows validate seen f) (hall : (Notice.listing all).WellFormed)
    (hroom : (f.changes (.listing all)).length ≤ f.gateway.room)
    (hbound : seen.length + f.gateway.queue.length + (f.changes (.listing all)).length <
      UInt64.size) {count : Nat} (hdrained : (f.relisted validate all count).gateway.queue = []) :
    Follows validate (seen ++ f.gateway.queue ++ f.changes (.listing all))
      (f.relisted validate all count) := by
  have hkept : f.kept (.told (.listing all)) = f.changes (.listing all) :=
    List.take_of_length_le hroom
  obtain ⟨htold, hqueue⟩ := h.told hall
  rw [hkept] at hqueue
  have hlength : seen.length + (f.hear (.listing all)).1.gateway.queue.length < UInt64.size := by
    rw [hqueue, List.length_append]
    omega
  obtain ⟨hentered, hrest⟩ := htold.entered count hlength
  have hwhole : (f.hear (.listing all)).1.gateway.queue.take count =
      f.gateway.queue ++ f.changes (.listing all) := by
    have hempty : (f.hear (.listing all)).1.gateway.queue.drop count = [] :=
      hrest.symm.trans hdrained
    have hsplit := List.take_append_drop count (f.hear (.listing all)).1.gateway.queue
    rw [hempty, List.append_nil] at hsplit
    exact hsplit.trans hqueue
  rw [hwhole, ← List.append_assoc] at hentered
  exact hentered

/-- After any history, a listing for which there is room leaves the register with the listed
policies alone if and only if there is no other policy that was not announced any more and of which
the last change that got into the queue was no deletion. It does so whenever no deletion was lost,
even if other changes were. The table then has routes of listed policies alone. -/
theorem knows_relisted_iff {capacity count : Nat} {events : List Event}
    (hevents : ∀ event ∈ events, event.WellFormed) (hall : (Notice.listing all).WellFormed)
    (hrun : run validate events (started capacity) = f)
    (hroom : (f.changes (.listing all)).length ≤ f.gateway.room)
    (hbound : (allKept validate events (started capacity)).length +
      (f.changes (.listing all)).length < UInt64.size)
    (hdrained : (f.relisted validate all count).gateway.queue = []) :
    ((f.relisted validate all count).gateway.register.Knows all ↔
      ∀ key policy, last? (allKept validate events (started capacity)) key =
        some (.upsert policy) →
        (∃ e ∈ all, e.1.key = key) ∨ ∃ place ∈ f.announced, place.key = key) ∧
    ((∀ key, .delete key ∉ allLost validate events (started capacity)) →
      (f.relisted validate all count).gateway.register.Knows all) ∧
    ((f.relisted validate all count).gateway.register.Knows all → ∀ (key : Key) route,
      (f.relisted validate all count).gateway.active.find? key.text = some route →
      ∃ e ∈ all, e.1.key = key ∧ e.2.spec.route? validate = some route) := by
  obtain ⟨seen, hseen, hkept⟩ := (@follows_started validate capacity).run hevents
    (show (allKept validate events (started capacity)).length < UInt64.size by omega)
  rw [hrun] at hseen hkept
  change seen ++ f.gateway.queue = allKept validate events (started capacity) at hkept
  have hhealed := hseen.relisted hall hroom (by
    rw [← hkept, List.length_append] at hbound
    exact hbound) hdrained
  rw [hkept] at hhealed
  have hiff := hhealed.knows_iff hseen.announced hall
  refine ⟨hiff, ?_, ?_⟩
  · intro hlost
    have hnone : Announces [] (started capacity) := fun _ _ h => nomatch h
    have hannounces := hnone.run hlost
    rw [hrun] at hannounces
    exact hiff.2 fun key policy hlast => .inr (hannounces key policy hlast)
  · intro hknows key route hroute
    rw [hhealed.upToDate.find?] at hroute
    obtain ⟨spec, hspec, hroute⟩ := Option.bind_eq_some_iff.1 hroute
    obtain ⟨e, he, rfl⟩ := hknows.2 key ⟨spec, hspec⟩
    rw [hknows.1 e he] at hspec
    cases hspec
    exact ⟨e, he, rfl, hroute⟩

/-! ### Lost changes -/

/-- Policies that take tokens, by their names in one namespace. -/
def policies (names : List String) : List (Place × AccessControlPolicy) :=
  names.map fun name =>
    (("n", name), ⟨{ name := some name, ns := some "n" }, { jwt := some {} }, none⟩)

def announcements (names : List String) : List Event :=
  (policies names).map fun e => .told (.present e.1 e.2)

theorem wellFormed_policies {names : List String} (hnames : ∀ name ∈ names, name ≠ "") :
    ∀ e ∈ policies names, e.1.Plain ∧ e.1.Holds e.2 := by
  intro e he
  obtain ⟨name, hname, rfl⟩ := List.mem_map.1 he
  have hplain : Place.Plain ("n", name) :=
    ⟨show "n" ≠ "" by decide, hnames name hname, show '@' ∉ "n".toList by decide⟩
  exact ⟨hplain, rfl, rfl⟩

theorem wellFormed_announcements {names : List String} (hnames : ∀ name ∈ names, name ≠ "") :
    ∀ event ∈ announcements names, event.WellFormed := by
  intro event hevent
  obtain ⟨e, he, rfl⟩ := List.mem_map.1 hevent
  exact wellFormed_policies hnames e he

/-- The queue holds two changes, so that the addition of the third policy is lost. It is listed,
and the first one, which is there no more, is not. -/
theorem knows_relisted_lostAddition :
    let f := run .rejecting (announcements ["a", "b", "c"] ++ [.entered 2, .told (.gone ("n", "a")),
      .entered 1]) (started 2)
    (f.gateway.register.policies.find? "c@n").isNone = true ∧
      (f.relisted .rejecting (policies ["b", "c"]) 2).gateway.register.Knows
        (policies ["b", "c"]) := by
  intro f
  have hevents : ∀ event ∈ announcements ["a", "b", "c"] ++
      [.entered 2, .told (.gone ("n", "a")), .entered 1], event.WellFormed := by
    rw [List.forall_mem_append]
    refine ⟨wellFormed_announcements (by decide), ?_⟩
    simp only [List.forall_mem_cons]
    exact ⟨trivial, ⟨by decide, by decide, by decide⟩, trivial, fun _ h => nomatch h⟩
  have hall : (Notice.listing (policies ["b", "c"])).WellFormed :=
    ⟨by decide, wellFormed_policies (by decide)⟩
  refine ⟨by decide +kernel, ?_⟩
  refine (knows_relisted_iff hevents hall rfl (by decide +kernel) (by decide +kernel)
    (by decide +kernel)).2.1 ?_
  intro key hmem
  have hlost : allLost .rejecting (announcements ["a", "b", "c"] ++
      [.entered 2, .told (.gone ("n", "a")), .entered 1]) (started 2) =
      [.upsert ⟨⟨"c@n"⟩, { jwt := some {} }⟩] := by decide +kernel
  rw [hlost] at hmem
  cases List.mem_singleton.1 hmem

/-- The queue holds one change, so that the deletion of the first policy is lost. No listing withdraws
it: it stays known, and in force. -/
theorem not_knows_relisted_lostDeletion :
    let events := announcements ["a"] ++ [.entered 1] ++ announcements ["b"] ++
      [.told (.gone ("n", "a")), .entered 1]
    let f := run .rejecting events (started 1)
    let healed := f.relisted .rejecting (policies ["b"]) 1
    (∀ event ∈ events, event.WellFormed) ∧ (Notice.listing (policies ["b"])).WellFormed ∧
      f.gateway.queue = [] ∧ (f.changes (.listing (policies ["b"]))).length ≤ f.gateway.room ∧
      healed.gateway.queue = [] ∧ (healed.gateway.active.find? "a@n").isSome = true ∧
      ¬healed.gateway.register.Knows (policies ["b"]) := by
  intro events f healed
  refine ⟨?_, ⟨by decide, wellFormed_policies (by decide)⟩, by decide +kernel, by decide +kernel,
    by decide +kernel, by decide +kernel, ?_⟩
  · simp only [events, List.forall_mem_append, List.forall_mem_cons]
    refine ⟨⟨⟨wellFormed_announcements (by decide), trivial, fun _ h => nomatch h⟩,
      wellFormed_announcements (by decide)⟩, ⟨by decide, by decide, by decide⟩, trivial,
      fun _ h => nomatch h⟩
  · rintro ⟨-, hknown⟩
    have hfound : (healed.gateway.register.policies.find? "a@n").isSome = true := by
      decide +kernel
    obtain ⟨e, he, hkey⟩ := hknown ⟨"a@n"⟩ (Option.isSome_iff_exists.1 hfound)
    obtain ⟨name, hname, rfl⟩ := List.mem_map.1 he
    rw [List.mem_singleton.1 hname] at hkey
    exact absurd hkey (by decide)

end Follower

end EdgeAgent
