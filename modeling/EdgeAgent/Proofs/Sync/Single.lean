import EdgeAgent.Proofs.Sync.Made

/-!
How many writes of a pass are about one key. Every record that becomes an object asks for one write,
also when the key was matched earlier in the pass: what has been matched is no longer an orphan, and
so is taken for an object that the cluster does not have. A key is therefore written as often as
records become objects of it, and once if it is only listed. A pass writes each key at most once
exactly when the objects that the records become have keys of their own.
-/

namespace EdgeAgent

variable {σ R : Type}

namespace Write

/-- The key of the object that a write is about. -/
def key (keyOf : R → Key) : Write R → Key
  | .create new => keyOf new
  | .update _ new => keyOf new
  | .delete old => keyOf old

/-- Whether a write creates an object of a key. -/
def creates (keyOf : R → Key) (key : Key) : Write R → Bool
  | .create new => keyOf new = key
  | _ => false

theorem countP_creates_pos_iff {keyOf : R → Key} {key : Key} {writes : List (Write R)} :
    0 < writes.countP (creates keyOf key) ↔ ∃ new, .create new ∈ writes ∧ keyOf new = key := by
  rw [List.countP_pos_iff]
  constructor
  · rintro ⟨x, hx, hcreates⟩
    cases x with
    | create new => exact ⟨new, hx, by simpa [creates] using hcreates⟩
    | update old new => cases hcreates
    | delete old => cases hcreates
  · rintro ⟨new, hnew, hkey⟩
    exact ⟨.create new, hnew, by simp [creates, hkey]⟩

end Write

namespace Step

variable {keyOf : R → Key} {existing before news : List R} {key : Key}

theorem mem_keys_of_listed? {old : R} (h : listed? keyOf existing key = some old) :
    key ∈ existing.map keyOf := by
  rw [← keyOf_of_listed? h]
  exact List.mem_map_of_mem (mem_of_listed? h)

theorem key_request (keyOf : R → Key) (existing before : List R) (new : R) :
    (request keyOf existing before new).key keyOf = keyOf new := by
  rw [request]
  cases listed? keyOf existing (keyOf new) with
  | none => rfl
  | some old => by_cases hbefore : keyOf new ∈ before.map keyOf <;> simp [hbefore, Write.key]

/-- Each object asks for a write of its own key. -/
theorem keys_requests (keyOf : R → Key) (existing news : List R) :
    (requests keyOf existing news).map (Write.key keyOf) = news.map keyOf := by
  refine List.ext_getElem (by simp [requests]) fun i _ _ => ?_
  simp [requests, key_request]

/-- A request creates an object of a key unless it is the one that updates it. -/
theorem creates_request (keyOf : R → Key) (existing before : List R) (new : R) :
    (request keyOf existing before new).creates keyOf key =
      (decide (keyOf new = key) &&
        (decide (key ∉ existing.map keyOf) || decide (key ∈ before.map keyOf))) := by
  rw [request]
  by_cases hkey : keyOf new = key
  · subst hkey
    cases hlisted : listed? keyOf existing (keyOf new) with
    | none => simp [Write.creates, listed?_eq_none_iff.1 hlisted]
    | some old =>
        have hmem := mem_keys_of_listed? hlisted
        by_cases hbefore : keyOf new ∈ before.map keyOf <;>
          simp [hbefore, hmem, Write.creates]
  · cases listed? keyOf existing (keyOf new) with
    | none => simp [Write.creates, hkey]
    | some old =>
        by_cases hbefore : keyOf new ∈ before.map keyOf <;>
          simp [hbefore, hkey, Write.creates]

/-- Of the objects of a listed key that ask for a write, only the first asks for no creation. -/
theorem countP_creates_requests (keyOf : R → Key) (existing : List R) (key : Key)
    (before news : List R) :
    (news.mapIdx fun i new => request keyOf existing (before ++ news.take i) new).countP
        (Write.creates keyOf key) =
      if key ∈ existing.map keyOf ∧ key ∉ before.map keyOf then (news.map keyOf).count key - 1
      else (news.map keyOf).count key := by
  induction news generalizing before with
  | nil => simp
  | cons new news ih =>
      have hlater := ih (before ++ [new])
      simp only [List.append_assoc, List.singleton_append] at hlater
      rw [List.mapIdx_cons, List.take_zero, List.append_nil]
      simp only [List.take_succ_cons]
      rw [List.countP_cons, hlater, creates_request, List.map_append, List.map_singleton,
        List.map_cons, List.count_cons]
      by_cases hkey : keyOf new = key
      · by_cases hlisted : key ∈ existing.map keyOf
        · by_cases hbefore : key ∈ before.map keyOf <;> simp [hkey, hlisted, hbefore]
        · simp [hkey, hlisted]
      · simp [hkey, Ne.symm hkey]

end Step

namespace Sides

variable {s : Sides σ R} {w w₁ w₂ : World σ} {stop : Stop} {desired : List (Except String R)}
  {existing : List R} {key : Key}

/-- A pass makes at most one write of each key. -/
def WritesOnce (s : Sides σ R) (w : World σ) : Prop :=
  ∀ key, ((s.made w).map (Write.key s.keyOf)).count key ≤ 1

/-- A pass creates no object of a key that is listed. -/
def CreatesUnlisted (s : Sides σ R) (w : World σ) (existing : List R) : Prop :=
  ∀ new, Write.create new ∈ s.made w → s.keyOf new ∉ existing.map s.keyOf

theorem made_of_platform_error (hdesired : s.desired w = (.error stop, w₁)) : s.made w = [] := by
  rw [made, pass_of_platform_error (desired_noting hdesired [])]
  rfl

theorem made_of_cluster_error (hdesired : s.desired w = (.ok desired, w₁))
    (hexisting : s.existing w₁ = (.error stop, w₂)) : s.made w = [] := by
  rw [made, pass_of_cluster_error (desired_noting hdesired []) (existing_noting hexisting [])]
  rfl

theorem count_keys_made (hdesired : s.desired w = (.ok desired, w₁))
    (hexisting : s.existing w₁ = (.ok existing, w₂)) (key : Key) :
    ((s.made w).map (Write.key s.keyOf)).count key =
      max (((Step.built desired).map s.keyOf).count key)
        (if key ∈ existing.map s.keyOf then 1 else 0) := by
  obtain ⟨deletions, hmade, hnodup, hmem⟩ := Step.writes_plan s.keyOf desired existing
  have hdeletions : (deletions.map Write.delete).map (Write.key s.keyOf) =
      deletions.map s.keyOf := by
    rw [List.map_map]
    rfl
  have hleft : key ∈ deletions.map s.keyOf ↔
      key ∈ existing.map s.keyOf ∧ key ∉ (Step.built desired).map s.keyOf := by
    constructor
    · intro h
      obtain ⟨old, hold, rfl⟩ := List.mem_map.1 h
      obtain ⟨hlisted, hbuilt⟩ := (hmem old).1 hold
      exact ⟨Step.mem_keys_of_listed? hlisted, hbuilt⟩
    · rintro ⟨hexists, hbuilt⟩
      cases hlisted : Step.listed? s.keyOf existing key with
      | none => exact absurd hexists (Step.listed?_eq_none_iff.1 hlisted)
      | some old =>
          have hkey := Step.keyOf_of_listed? hlisted
          subst hkey
          exact List.mem_map_of_mem ((hmem old).2 ⟨hlisted, hbuilt⟩)
  rw [made_eq hdesired hexisting, hmade, List.map_append, Step.keys_requests, hdeletions,
    List.count_append]
  by_cases hbuilt : key ∈ (Step.built desired).map s.keyOf
  · have hpos := List.count_pos_iff.2 hbuilt
    rw [List.count_eq_zero.2 fun h => (hleft.1 h).2 hbuilt]
    split <;> omega
  · rw [List.count_eq_zero.2 hbuilt, hnodup.count]
    simp [hleft, hbuilt]

theorem countP_creates_made (hdesired : s.desired w = (.ok desired, w₁))
    (hexisting : s.existing w₁ = (.ok existing, w₂)) (key : Key) :
    (s.made w).countP (Write.creates s.keyOf key) =
      ((Step.built desired).map s.keyOf).count key -
        (if key ∈ existing.map s.keyOf then 1 else 0) := by
  obtain ⟨deletions, hmade, -, -⟩ := Step.writes_plan s.keyOf desired existing
  have hnone : (deletions.map Write.delete).countP (Write.creates s.keyOf key) = 0 := by
    simp [List.countP_map, Function.comp_def, Write.creates]
  have hrequests := Step.countP_creates_requests s.keyOf existing key [] (Step.built desired)
  rw [made_eq hdesired hexisting, hmade, List.countP_append, hnone, Step.requests]
  simp only [List.nil_append, List.map_nil, List.not_mem_nil, not_false_eq_true, and_true]
    at hrequests
  rw [hrequests]
  split <;> rfl

/-- A pass writes a key as often as records become objects of it, and a key that is only listed
once; of the records with a listed key all but one ask for a creation. So a pass makes at most one
write of each key exactly when the objects that the records become have keys of their own, and it
creates no object of a listed key exactly when no two of them share a listed key. -/
theorem writesOnce_iff (hdesired : s.desired w = (.ok desired, w₁))
    (hexisting : s.existing w₁ = (.ok existing, w₂)) :
    (∀ key, ((s.made w).map (Write.key s.keyOf)).count key =
        max (((Step.built desired).map s.keyOf).count key)
          (if key ∈ existing.map s.keyOf then 1 else 0) ∧
      (s.made w).countP (Write.creates s.keyOf key) =
        ((Step.built desired).map s.keyOf).count key -
          (if key ∈ existing.map s.keyOf then 1 else 0)) ∧
    (s.WritesOnce w ↔ ((Step.built desired).map s.keyOf).Nodup) ∧
    (s.CreatesUnlisted w existing ↔ ∀ key ∈ existing.map s.keyOf,
      ((Step.built desired).map s.keyOf).count key ≤ 1) := by
  have hwrites := count_keys_made hdesired hexisting
  have hcreates := countP_creates_made hdesired hexisting
  refine ⟨fun key => ⟨hwrites key, hcreates key⟩, ?_, ?_⟩
  · rw [List.nodup_iff_count]
    refine forall_congr' fun key => ?_
    rw [hwrites key]
    split <;> omega
  · constructor
    · intro h key hlisted
      have hnone : ¬ 0 < (s.made w).countP (Write.creates s.keyOf key) := by
        intro hpos
        obtain ⟨new, hnew, hkey⟩ := Write.countP_creates_pos_iff.1 hpos
        exact h new hnew (hkey ▸ hlisted)
      rw [hcreates key, if_pos hlisted] at hnone
      omega
    · intro h new hnew hlisted
      have hpos : 0 < (s.made w).countP (Write.creates s.keyOf (s.keyOf new)) :=
        Write.countP_creates_pos_iff.2 ⟨new, hnew, rfl⟩
      rw [hcreates, if_pos hlisted] at hpos
      have hone := h _ hlisted
      omega

/-- A listed object, another one of which no record becomes, and an object that is not listed; the
update fails. -/
def declaredOnce : Script where
  records := [.ok ⟨⟨"a@t"⟩, .int 1⟩, .error "invalid", .ok ⟨⟨"c@t"⟩, .int 1⟩]
  fates := [("update a@t", .fails)]
  timeout := 1000

def declaredOnceState : Script.State where
  objects := [⟨⟨"a@t"⟩, .int 0⟩, ⟨⟨"b@t"⟩, .int 0⟩]

theorem writesOnce_iff_declaredOnce :
    (declaredOnce.sides "Test").WritesOnce ⟨declaredOnceState, []⟩ ∧
    (declaredOnce.sides "Test").CreatesUnlisted ⟨declaredOnceState, []⟩ declaredOnceState.objects ∧
    (((declaredOnce.sides "Test").made ⟨declaredOnceState, []⟩).map
      (Write.key Script.Item.key)).count ⟨"b@t"⟩ = 1 := by
  have hdesired : (declaredOnce.sides "Test").desired ⟨declaredOnceState, []⟩ =
      (.ok declaredOnce.records, _) := rfl
  obtain ⟨hcounts, honce, hunlisted⟩ := writesOnce_iff hdesired rfl
  refine ⟨honce.2 (by decide), hunlisted.2 (by decide), ?_⟩
  exact (hcounts ⟨"b@t"⟩).1.trans (by decide)

/-- Two records become objects of one key, which is listed. -/
def declaredTwice : Script where
  records := [.ok ⟨⟨"a@t"⟩, .int 1⟩, .ok ⟨⟨"a@t"⟩, .int 2⟩]
  timeout := 1000

def declaredTwiceState : Script.State where
  objects := [⟨⟨"a@t"⟩, .int 0⟩]

theorem not_writesOnce_declaredTwice :
    (declaredTwiceState.objects.map Script.Item.key).Nodup ∧
    (declaredTwice.sides "Test").made ⟨declaredTwiceState, []⟩ =
      [.update ⟨⟨"a@t"⟩, .int 0⟩ ⟨⟨"a@t"⟩, .int 1⟩, .create ⟨⟨"a@t"⟩, .int 2⟩] ∧
    ¬ (declaredTwice.sides "Test").WritesOnce ⟨declaredTwiceState, []⟩ ∧
    ¬ (declaredTwice.sides "Test").CreatesUnlisted ⟨declaredTwiceState, []⟩
      declaredTwiceState.objects := by
  have hmade : (declaredTwice.sides "Test").made ⟨declaredTwiceState, []⟩ =
      [.update ⟨⟨"a@t"⟩, .int 0⟩ ⟨⟨"a@t"⟩, .int 1⟩, .create ⟨⟨"a@t"⟩, .int 2⟩] := rfl
  refine ⟨by decide, hmade, ?_, ?_⟩
  · intro honce
    have htwice := honce ⟨"a@t"⟩
    rw [hmade] at htwice
    exact absurd htwice (by decide)
  · intro hunlisted
    refine hunlisted ⟨⟨"a@t"⟩, .int 2⟩ ?_ (.head _)
    rw [hmade]
    exact .tail _ (.head _)

end Sides

end EdgeAgent
