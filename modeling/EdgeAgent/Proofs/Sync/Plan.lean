import EdgeAgent.Proofs.Dict
import EdgeAgent.Sync.Plan

/-! The writes of a plan. The objects that no record has asked for are, throughout the plan, the
last listed ones of those keys that have not occurred yet. So of the records with one key the first
asks for the update of the listed object and all others for a creation, and what is left over in
the end is removed. -/

namespace EdgeAgent

/-- Whether a write updates the object of a key. -/
def Write.updates {R : Type} (keyOf : R → Key) (key : Key) : Write R → Bool
  | .update _ new => keyOf new = key
  | _ => false

namespace Step

variable {R : Type} {keyOf : R → Key} {existing before : List R} {key : Key} {old new : R}

/-- The write that a step makes. -/
def write? : Step R → Option (Write R)
  | .unbuildable _ => none
  | .write _ w => some w

/-- The objects that records become, in their order. -/
def built (desired : List (Except String R)) : List R :=
  desired.filterMap Except.toOption

/-- The object of a key that is listed last. -/
def listed? (keyOf : R → Key) (existing : List R) (key : Key) : Option R :=
  existing.findRev? fun r => keyOf r = key

/-- The write that an object asks for, after others have asked. -/
def request (keyOf : R → Key) (existing before : List R) (new : R) : Write R :=
  match listed? keyOf existing (keyOf new) with
  | some old => if keyOf new ∈ before.map keyOf then .create new else .update old new
  | none => .create new

/-- The writes that objects ask for one after the other. -/
def requests (keyOf : R → Key) (existing news : List R) : List (Write R) :=
  news.mapIdx fun i new => request keyOf existing (news.take i) new

/-- The objects that are left over are the listed ones of the keys that have not occurred. -/
def LeftOver (keyOf : R → Key) (existing before : List R) (orphans : Orphans R) : Prop :=
  ∀ key : Key, orphans.find? key.text =
    if key ∈ before.map keyOf then none else listed? keyOf existing key

theorem keyOf_of_listed? (h : listed? keyOf existing key = some old) : keyOf old = key := by
  rw [listed?, List.findRev?_eq_find?_reverse] at h
  simpa using List.find?_some h

theorem mem_of_listed? (h : listed? keyOf existing key = some old) : old ∈ existing := by
  rw [listed?, List.findRev?_eq_find?_reverse] at h
  exact List.mem_reverse.1 (List.mem_of_find?_eq_some h)

theorem listed?_eq_none_iff : listed? keyOf existing key = none ↔ key ∉ existing.map keyOf := by
  rw [listed?, List.findRev?_eq_find?_reverse, List.find?_eq_none, List.mem_map]
  constructor
  · rintro h ⟨r, hmem, hkey⟩
    exact h r (List.mem_reverse.2 hmem) (by simpa using hkey)
  · intro h r hmem hkey
    exact h ⟨r, List.mem_reverse.1 hmem, by simpa using hkey⟩

theorem leftOver_orphansOf (keyOf : R → Key) (existing : List R) :
    LeftOver keyOf existing [] (orphansOf keyOf existing) := by
  intro key
  rw [orphansOf, Dict.find?_ofList, if_neg (by simp), listed?, List.findRev?_eq_find?_reverse,
    List.findRev?_eq_find?_reverse, ← List.map_reverse, List.find?_map, Option.map_map]
  have htext : ((fun e : String × R => decide (e.1 = key.text)) ∘ fun r => ((keyOf r).text, r)) =
      fun r => decide (keyOf r = key) := by
    funext r
    exact decide_eq_decide.2 ⟨fun h => by cases key; exact congrArg Key.mk h, congrArg Key.text⟩
  rw [htext]
  exact Option.map_id'

/-- A record that becomes an object takes its key out of what is left over. -/
theorem LeftOver.erase {orphans : Orphans R} (h : LeftOver keyOf existing before orphans) (new : R) :
    LeftOver keyOf existing (before ++ [new]) (orphans.erase (keyOf new).text) := by
  intro key
  rw [Dict.find?_erase, h key, List.map_append, List.map_singleton]
  by_cases hkey : key = keyOf new
  · simp [hkey]
  · have htext : key.text ≠ (keyOf new).text := fun heq => hkey (congrArg Key.mk heq)
    simp [hkey, htext]

/-- A record that becomes an object makes the write that the object asks for. -/
theorem LeftOver.ofItems_ok {orphans : Orphans R} (h : LeftOver keyOf existing before orphans)
    (new : R) (items : List (Except String R)) :
    ofItems keyOf (.ok new :: items) orphans =
      (.write (keyOf new) (request keyOf existing before new) ::
          (ofItems keyOf items (orphans.erase (keyOf new).text)).1,
        (ofItems keyOf items (orphans.erase (keyOf new).text)).2) := by
  have hfind := h (keyOf new)
  rw [ofItems, request]
  by_cases hbefore : keyOf new ∈ before.map keyOf
  · rw [if_pos hbefore] at hfind
    cases hlisted : listed? keyOf existing (keyOf new) <;> simp [hfind, hbefore]
  · rw [if_neg hbefore] at hfind
    cases hlisted : listed? keyOf existing (keyOf new) <;> simp [hfind, hbefore, hlisted]

/-- The steps for records make the writes that their objects ask for, whatever has been asked for
before, and leave the rest. -/
theorem writes_ofItems (items : List (Except String R)) {orphans : Orphans R}
    (h : LeftOver keyOf existing before orphans) :
    (ofItems keyOf items orphans).1.filterMap write? =
        ((built items).mapIdx fun i new =>
          request keyOf existing (before ++ (built items).take i) new) ∧
      LeftOver keyOf existing (before ++ built items) (ofItems keyOf items orphans).2 := by
  induction items generalizing before orphans with
  | nil =>
      refine ⟨rfl, ?_⟩
      simpa [ofItems, built] using h
  | cons item items ih =>
      cases item with
      | error e =>
          obtain ⟨hwrites, hrest⟩ := ih h
          exact ⟨hwrites, hrest⟩
      | ok new =>
          obtain ⟨hwrites, hrest⟩ := ih (h.erase new)
          have hbuilt : built (.ok new :: items) = new :: built items := rfl
          refine ⟨?_, ?_⟩
          · rw [h.ofItems_ok, hbuilt, List.mapIdx_cons, List.take_zero, List.append_nil]
            simp only [List.filterMap_cons, write?, hwrites, List.take_succ_cons, List.append_assoc,
              List.singleton_append]
          · rw [h.ofItems_ok, hbuilt]
            simpa using hrest

theorem mem_leftOver_iff {orphans : Orphans R} (h : LeftOver keyOf existing before orphans) :
    old ∈ orphans.entries.map (·.2) ↔
      listed? keyOf existing (keyOf old) = some old ∧ keyOf old ∉ before.map keyOf := by
  have hfind : ∀ key : Key, orphans.find? key.text = some old ↔
      listed? keyOf existing key = some old ∧ key ∉ before.map keyOf := by
    intro key
    rw [h key]
    by_cases hbefore : key ∈ before.map keyOf <;> simp [hbefore]
  rw [List.mem_map]
  constructor
  · rintro ⟨⟨name, _⟩, hmem, rfl⟩
    obtain ⟨hlisted, hbefore⟩ := (hfind ⟨name⟩).1 (Dict.mem_entries_iff.1 hmem)
    rw [keyOf_of_listed? hlisted]
    exact ⟨hlisted, hbefore⟩
  · intro hleft
    exact ⟨((keyOf old).text, old), Dict.mem_entries_iff.2 ((hfind (keyOf old)).2 hleft), rfl⟩

theorem nodup_leftOver {orphans : Orphans R} (h : LeftOver keyOf existing before orphans) :
    ((orphans.entries.map (·.2)).map keyOf).Nodup := by
  have hkeys : (orphans.entries.map (·.2)).map keyOf = orphans.names.map Key.mk := by
    rw [Dict.names, List.map_map, List.map_map]
    refine List.map_congr_left fun e hmem => ?_
    have hfound : orphans.find? (Key.mk e.1).text = some e.2 := Dict.mem_entries_iff.1 hmem
    rw [h ⟨e.1⟩] at hfound
    by_cases hbefore : (⟨e.1⟩ : Key) ∈ before.map keyOf
    · rw [if_pos hbefore] at hfound
      cases hfound
    · rw [if_neg hbefore] at hfound
      change keyOf e.2 = ⟨e.1⟩
      exact keyOf_of_listed? hfound
  rw [hkeys]
  refine List.pairwise_map.2 (orphans.nodup_names.imp ?_)
  intro a b hne heq
  exact hne (congrArg Key.text heq)

/-- The writes of a plan: what the objects of the records ask for, and then the removal of the last
listed object of every key that has not occurred. -/
theorem writes_plan (keyOf : R → Key) (desired : List (Except String R)) (existing : List R) :
    ∃ deletions : List R, (plan keyOf desired existing).filterMap write? =
        requests keyOf existing (built desired) ++ deletions.map .delete ∧
      (deletions.map keyOf).Nodup ∧
      ∀ old, old ∈ deletions ↔
        listed? keyOf existing (keyOf old) = some old ∧ keyOf old ∉ (built desired).map keyOf := by
  obtain ⟨hwrites, hrest⟩ := writes_ofItems desired (leftOver_orphansOf keyOf existing)
  rw [List.nil_append] at hrest
  refine ⟨(ofItems keyOf desired (orphansOf keyOf existing)).2.entries.map (·.2), ?_,
    nodup_leftOver hrest, fun old => mem_leftOver_iff hrest⟩
  rw [plan, List.filterMap_append, hwrites, requests, ofOrphans, List.filterMap_map, List.map_map]
  congr 1
  exact congrFun List.filterMap_eq_map _

/-- Objects with keys of their own ask for what each asks for alone. -/
theorem requests_eq_map {news : List R} (hkeys : (news.map keyOf).Nodup) :
    requests keyOf existing news = news.map (request keyOf existing []) := by
  refine List.ext_getElem (by simp [requests]) fun i hi hi' => ?_
  have hlt : i < news.length := by simpa using hi'
  have hfirst : keyOf news[i] ∉ (news.take i).map keyOf := by
    intro hmem
    rw [← List.take_append_drop i news, List.map_append, List.nodup_append] at hkeys
    have hlater : keyOf news[i] ∈ (news.drop i).map keyOf := by
      rw [List.drop_eq_getElem_cons hlt]
      exact .head _
    exact hkeys.2.2 _ hmem _ hlater rfl
  simp only [requests, List.getElem_mapIdx, List.getElem_map, request, if_neg hfirst, List.map_nil,
    List.not_mem_nil, if_false]

/-- Of the objects with one key the first one updates the listed object, and no other does. -/
theorem filter_updates_requests (hlisted : listed? keyOf existing key = some old)
    (before news : List R) :
    (news.mapIdx fun i new => request keyOf existing (before ++ news.take i) new).filter
        (Write.updates keyOf key) =
      if key ∈ before.map keyOf then []
      else ((news.find? fun new => keyOf new = key).map (Write.update old)).toList := by
  induction news generalizing before with
  | nil => simp
  | cons new news ih =>
      have hlater := @ih (before ++ [new])
      simp only [List.append_assoc, List.singleton_append] at hlater
      rw [List.mapIdx_cons, List.take_zero, List.append_nil]
      simp only [List.take_succ_cons]
      rw [List.filter_cons, hlater, List.map_append, List.map_singleton]
      by_cases hkey : keyOf new = key
      · by_cases hbefore : key ∈ before.map keyOf
        · simp [request, hkey, hlisted, hbefore, Write.updates]
        · simp [request, hkey, hlisted, hbefore, Write.updates]
      · have hother : (request keyOf existing before new).updates keyOf key = false := by
          rw [request]
          cases listed? keyOf existing (keyOf new) with
          | none => rfl
          | some _ =>
              by_cases hbefore : keyOf new ∈ before.map keyOf
              · simp only [if_pos hbefore, Write.updates]
              · simp only [if_neg hbefore, Write.updates, decide_eq_false hkey]
        simp [hother, hkey, Ne.symm hkey]

end Step

end EdgeAgent
