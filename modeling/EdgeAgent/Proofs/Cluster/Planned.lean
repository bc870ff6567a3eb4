import EdgeAgent.Proofs.Cluster.Writes
import EdgeAgent.Proofs.Sync.Plan
import Mathlib.Data.List.Nodup

/-! Which write a place gets. The places of the writes of a pass are pairwise different, because the
keys of their objects are; so each place gets the write that is meant for it, by what is wanted there
and by whether an object of the agent is there. -/

namespace EdgeAgent

variable {σ Spec Status : Type}

/-! ### Places and keys -/

/-- The key of the object at a place. -/
def Target.key (place : Target) : Key :=
  Key.of place.name place.scope

/-- A place of a kind whose namespace, if it has one, holds no `@`. -/
def Target.Plain (kind : Kind Spec Status) (place : Target) : Prop :=
  kind.Holds place ∧ ∀ ns, place.scope = some ns → '@' ∉ ns.toList

theorem Target.Plain.eq_of_key {kind : Kind Spec Status} {p q : Target} (hp : p.Plain kind)
    (hq : q.Plain kind) (hkey : p.key = q.key) : p = q := by
  obtain ⟨scope, name⟩ := p
  obtain ⟨scope', name'⟩ := q
  obtain ⟨hholds, hplain⟩ := hp
  obtain ⟨hholds', hplain'⟩ := hq
  rw [Kind.Holds] at hholds hholds'
  by_cases hkind : kind.namespaced = true
  · rw [if_pos hkind] at hholds hholds'
    obtain ⟨ns, hns, rfl⟩ := hholds
    obtain ⟨ns', hns', rfl⟩ := hholds'
    have hname := congrArg Key.name hkey
    have hscope := congrArg Key.ns? hkey
    rw [key, key, Key.name_of hns (hplain _ rfl), Key.name_of hns' (hplain' _ rfl)] at hname
    rw [key, key, Key.ns?_of hns (hplain _ rfl), Key.ns?_of hns' (hplain' _ rfl)] at hscope
    cases hscope
    exact congrArg (Target.mk (some ns)) hname
  · rw [if_neg hkind] at hholds hholds'
    cases hholds
    cases hholds'
    cases hkey
    rfl

theorem Upkeep.target_eq {kind : Kind Spec Status} {o : Object Spec Status} {place : Target}
    (hholds : kind.Holds place) (hname : o.metadata.anyName = place.name)
    (hns : o.metadata.ns = place.scope) : target kind o = place := by
  obtain ⟨scope, name⟩ := place
  rw [target, Kind.scope, hns, hname]
  rw [Kind.Holds] at hholds
  by_cases hkind : kind.namespaced = true
  · rw [if_pos hkind] at hholds
    obtain ⟨ns, -, rfl⟩ := hholds
    rw [if_pos hkind]
    rfl
  · rw [if_neg hkind] at hholds
    cases hholds
    rw [if_neg hkind]

/-- The key of an object is that of its place. -/
theorem Object.key_eq {kind : Kind Spec Status} {o : Object Spec Status}
    {name : String} (hname : o.metadata.name = some name)
    (hholds : kind.Holds ⟨o.metadata.ns, o.metadata.anyName⟩) :
    o.key = (Upkeep.target kind o).key := by
  rw [Upkeep.target_eq hholds rfl rfl, Target.key, key, Metadata.key,
    Metadata.anyName_eq hname, hname]
  rfl

/-! ### Which write a place gets -/

section

variable {kind : Kind Spec Status} {stored : σ → Store Spec Status} {api : Api σ Spec Status}
  {s : σ} {listed news : List (Object Spec Status)} {o new : Object Spec Status} {place : Target}

/-- The listed objects are the stored ones of the agent. -/
def Listed (objects : Store Spec Status) (listed : List (Object Spec Status)) : Prop :=
  ∀ o, o ∈ listed ↔ o.managed = true ∧ ∃ place, objects place = some o

/-- The places of stored objects are plain. -/
def Store.Plain (kind : Kind Spec Status) (objects : Store Spec Status) : Prop :=
  ∀ place o, objects place = some o → place.Plain kind

/-- Objects that can be asked for, each at a plain place and with a key of its own. -/
structure Asked (kind : Kind Spec Status) (news : List (Object Spec Status)) : Prop where
  wanted : ∀ new ∈ news, new.Wanted kind
  plain : ∀ new ∈ news, (Upkeep.target kind new).Plain kind
  key : ∀ new ∈ news, new.key = (Upkeep.target kind new).key
  keys : (news.map Object.key).Nodup

theorem Api.Faithful.target_eq (hfaithful : api.Faithful kind stored)
    (hstored : stored s place = some o) : Upkeep.target kind o = place := by
  obtain ⟨hholds, -, hns⟩ := hfaithful.placed s place o hstored
  exact Upkeep.target_eq hholds (hfaithful.anyName_eq hstored) hns

theorem Api.Faithful.key_eq (hfaithful : api.Faithful kind stored)
    (hstored : stored s place = some o) : o.key = place.key := by
  obtain ⟨-, hname, hns⟩ := hfaithful.placed s place o hstored
  rw [Object.key, Metadata.key, hname, hns]
  rfl

theorem Api.Faithful.of_listed (hfaithful : api.Faithful kind stored)
    (hlisted : Listed (stored s) listed) (ho : o ∈ listed) :
    o.managed = true ∧ stored s (Upkeep.target kind o) = some o := by
  obtain ⟨hmanaged, place, hstored⟩ := (hlisted o).1 ho
  rw [hfaithful.target_eq hstored]
  exact ⟨hmanaged, hstored⟩

/-- The listed object of the key of a plain place lies there. -/
theorem Api.Faithful.target_of_listed? (hfaithful : api.Faithful kind stored)
    (hlisted : Listed (stored s) listed) (hplain : (stored s).Plain kind)
    (hplace : place.Plain kind) (ho : Step.listed? Object.key listed place.key = some o) :
    Upkeep.target kind o = place := by
  obtain ⟨-, hstored⟩ := hfaithful.of_listed hlisted (Step.mem_of_listed? ho)
  refine (hplain _ _ hstored).eq_of_key hplace ?_
  rw [← hfaithful.key_eq hstored, Step.keyOf_of_listed? ho]

/-- A plain place has a listed object of its key exactly when an object of the agent is there. -/
theorem Api.Faithful.listed?_iff (hfaithful : api.Faithful kind stored)
    (hlisted : Listed (stored s) listed) (hplain : (stored s).Plain kind)
    (hplace : place.Plain kind) :
    Step.listed? Object.key listed place.key = some o ↔
      stored s place = some o ∧ o.managed = true := by
  constructor
  · intro ho
    obtain ⟨hmanaged, hstored⟩ := hfaithful.of_listed hlisted (Step.mem_of_listed? ho)
    rw [hfaithful.target_of_listed? hlisted hplain hplace ho] at hstored
    exact ⟨hstored, hmanaged⟩
  · rintro ⟨hstored, hmanaged⟩
    cases hfound : Step.listed? Object.key listed place.key with
    | none =>
        refine absurd ?_ (Step.listed?_eq_none_iff.1 hfound)
        rw [← hfaithful.key_eq hstored]
        exact List.mem_map_of_mem ((hlisted o).2 ⟨hmanaged, place, hstored⟩)
    | some found =>
        obtain ⟨-, hat⟩ := hfaithful.of_listed hlisted (Step.mem_of_listed? hfound)
        rw [hfaithful.target_of_listed? hlisted hplain hplace hfound, hstored] at hat
        exact hat.symm

/-- The write that an object asks for is meant for what lies at its place. -/
theorem Api.Faithful.request_fits (hfaithful : api.Faithful kind stored)
    (hlisted : Listed (stored s) listed) (hplain : (stored s).Plain kind) (hnews : Asked kind news)
    (hnew : new ∈ news) :
    (Step.request Object.key listed [] new).place kind = Upkeep.target kind new ∧
      (Step.request Object.key listed [] new).Wanted kind ∧
      (Step.request Object.key listed [] new).spec? = some new.spec ∧
      (Step.request Object.key listed [] new).Fits kind
        (seenIn kind stored s (Upkeep.target kind new)) := by
  have hiff : ∀ o, Step.listed? Object.key listed new.key = some o ↔
      stored s (Upkeep.target kind new) = some o ∧ o.managed = true := by
    intro o
    rw [hnews.key new hnew]
    exact hfaithful.listed?_iff hlisted hplain (hnews.plain new hnew)
  rw [Step.request]
  cases hfound : Step.listed? Object.key listed new.key with
  | none =>
      refine ⟨rfl, hnews.wanted new hnew, rfl, fun x hx => ?_⟩
      obtain ⟨o, hstored, rfl⟩ := Option.map_eq_some_iff.1 hx
      cases hmanaged : o.managed with
      | false => exact hmanaged
      | true =>
          rw [(hiff o).2 ⟨hstored, hmanaged⟩] at hfound
          cases hfound
  | some old =>
      obtain ⟨hstored, hmanaged⟩ := (hiff old).1 hfound
      refine ⟨hfaithful.target_eq hstored, hnews.wanted new hnew, rfl, ?_, hmanaged⟩
      exact Store.outlines_eq_some hstored

def wantedAt (kind : Kind Spec Status) (news : List (Object Spec Status)) (place : Target) :
    Option Spec :=
  (news.find? fun new => Upkeep.target kind new = place).map (·.spec)

theorem exists_of_wantedAt {spec : Spec} (h : wantedAt kind news place = some spec) :
    ∃ new ∈ news, Upkeep.target kind new = place ∧ new.spec = spec := by
  obtain ⟨new, hfound, rfl⟩ := Option.map_eq_some_iff.1 h
  exact ⟨new, List.mem_of_find?_eq_some hfound, by simpa using List.find?_some hfound, rfl⟩

theorem wantedAt_eq_none_iff :
    wantedAt kind news place = none ↔ ∀ new ∈ news, Upkeep.target kind new ≠ place := by
  rw [wantedAt, Option.map_eq_none_iff, List.find?_eq_none]
  simp

theorem Asked.wantedAt_eq (hnews : Asked kind news) (hnew : new ∈ news) :
    wantedAt kind news (Upkeep.target kind new) = some new.spec := by
  cases hwanted : wantedAt kind news (Upkeep.target kind new) with
  | none => exact absurd rfl (wantedAt_eq_none_iff.1 hwanted new hnew)
  | some spec =>
      obtain ⟨found, hfound, htarget, rfl⟩ := exists_of_wantedAt hwanted
      have hkey : found.key = new.key := by
        rw [hnews.key found hfound, htarget, hnews.key new hnew]
      rw [List.inj_on_of_nodup_map hnews.keys hfound hnew hkey]

/-- The writes of a pass: what each object asks for, and the deletions of the listed objects that
none asks for. -/
structure Planned (listed news deletions : List (Object Spec Status))
    (writes : List (Write (Object Spec Status))) : Prop where
  eq : writes = news.map (Step.request Object.key listed []) ++ deletions.map .delete
  nodup : (deletions.map Object.key).Nodup
  mem : ∀ old, old ∈ deletions ↔ Step.listed? Object.key listed old.key = some old ∧
    old.key ∉ news.map Object.key

namespace Planned

variable {deletions : List (Object Spec Status)} {writes : List (Write (Object Spec Status))}

theorem stored_of_mem (hplanned : Planned listed news deletions writes)
    (hfaithful : api.Faithful kind stored) (hlisted : Listed (stored s) listed)
    (ho : o ∈ deletions) : o.managed = true ∧ stored s (Upkeep.target kind o) = some o :=
  hfaithful.of_listed hlisted (Step.mem_of_listed? ((hplanned.mem o).1 ho).1)

theorem places (hplanned : Planned listed news deletions writes)
    (hfaithful : api.Faithful kind stored) (hlisted : Listed (stored s) listed)
    (hplain : (stored s).Plain kind) (hnews : Asked kind news) :
    writes.map (Write.place kind) =
      news.map (Upkeep.target kind) ++ deletions.map (Upkeep.target kind) := by
  rw [hplanned.eq, List.map_append, List.map_map, List.map_map]
  congr 1
  exact List.map_congr_left fun new hnew =>
    (hfaithful.request_fits hlisted hplain hnews hnew).1

theorem wanted (hplanned : Planned listed news deletions writes)
    (hfaithful : api.Faithful kind stored) (hlisted : Listed (stored s) listed)
    (hplain : (stored s).Plain kind) (hnews : Asked kind news) : ∀ x ∈ writes, x.Wanted kind := by
  intro x hx
  rw [hplanned.eq, List.mem_append] at hx
  rcases hx with hx | hx
  · obtain ⟨new, hnew, rfl⟩ := List.mem_map.1 hx
    exact (hfaithful.request_fits hlisted hplain hnews hnew).2.1
  · obtain ⟨old, -, rfl⟩ := List.mem_map.1 hx
    trivial

/-- The writes have places of their own, since their objects have keys of their own. -/
theorem nodup_places (hplanned : Planned listed news deletions writes)
    (hfaithful : api.Faithful kind stored) (hlisted : Listed (stored s) listed)
    (hplain : (stored s).Plain kind) (hnews : Asked kind news) :
    (writes.map (Write.place kind)).Nodup := by
  have hkeys : (writes.map (Write.place kind)).map Target.key =
      news.map Object.key ++ deletions.map Object.key := by
    rw [hplanned.places hfaithful hlisted hplain hnews, List.map_append, List.map_map,
      List.map_map]
    congr 1
    · exact List.map_congr_left fun new hnew => (hnews.key new hnew).symm
    · exact List.map_congr_left fun old hold =>
        (hfaithful.key_eq (hplanned.stored_of_mem hfaithful hlisted hold).2).symm
  have hdistinct : ((writes.map (Write.place kind)).map Target.key).Nodup := by
    rw [hkeys]
    refine List.nodup_append.2 ⟨hnews.keys, hplanned.nodup, ?_⟩
    rintro key hnew _ hgone rfl
    obtain ⟨old, hold, rfl⟩ := List.mem_map.1 hgone
    exact ((hplanned.mem old).1 hold).2 hnew
  refine (List.pairwise_map.1 hdistinct).imp ?_
  intro p q hne heq
  exact hne (congrArg Target.key heq)

/-- An object of the agent is deleted when nothing is asked for at its place. -/
theorem mem_deletions (hplanned : Planned listed news deletions writes)
    (hfaithful : api.Faithful kind stored) (hlisted : Listed (stored s) listed)
    (hplain : (stored s).Plain kind) (hnews : Asked kind news)
    (hstored : stored s place = some o) (hmanaged : o.managed = true)
    (hfree : ∀ new ∈ news, Upkeep.target kind new ≠ place) : o ∈ deletions := by
  refine (hplanned.mem o).2 ⟨?_, ?_⟩
  · rw [hfaithful.key_eq hstored]
    exact (hfaithful.listed?_iff hlisted hplain (hplain place o hstored)).2 ⟨hstored, hmanaged⟩
  · intro hkey
    obtain ⟨new, hnew, hkey⟩ := List.mem_map.1 hkey
    rw [hnews.key new hnew, hfaithful.key_eq hstored] at hkey
    exact hfree new hnew ((hnews.plain new hnew).eq_of_key (hplain place o hstored) hkey)

/-- Each place gets the write that is meant for it, or none when nothing is to be done there. -/
theorem fits (hplanned : Planned listed news deletions writes)
    (hfaithful : api.Faithful kind stored) (hlisted : Listed (stored s) listed)
    (hplain : (stored s).Plain kind) (hnews : Asked kind news) (place : Target) :
    (∃ x ∈ writes, x.place kind = place ∧ x.spec? = wantedAt kind news place ∧
      x.Fits kind (seenIn kind stored s place)) ∨
    (place ∉ writes.map (Write.place kind) ∧ wantedAt kind news place = none ∧
      ∀ x, seenIn kind stored s place = some x → x.managed = false) := by
  cases hwanted : wantedAt kind news place with
  | some spec =>
      obtain ⟨new, hnew, rfl, rfl⟩ := exists_of_wantedAt hwanted
      obtain ⟨hplace, -, hspec, hfits⟩ := hfaithful.request_fits hlisted hplain hnews hnew
      refine .inl ⟨_, ?_, hplace, hspec, hfits⟩
      rw [hplanned.eq]
      exact List.mem_append_left _ (List.mem_map_of_mem hnew)
  | none =>
      have hfree := wantedAt_eq_none_iff.1 hwanted
      by_cases hmanaged : ∃ o, stored s place = some o ∧ o.managed = true
      · obtain ⟨o, hstored, hmanaged⟩ := hmanaged
        have hmem := hplanned.mem_deletions hfaithful hlisted hplain hnews hstored hmanaged hfree
        refine .inl ⟨.delete o, ?_, hfaithful.target_eq hstored, rfl, ?_, hmanaged⟩
        · rw [hplanned.eq]
          exact List.mem_append_right _ (List.mem_map_of_mem hmem)
        · exact Store.outlines_eq_some hstored
      · refine .inr ⟨?_, rfl, ?_⟩
        · rw [hplanned.places hfaithful hlisted hplain hnews, List.mem_append, not_or]
          constructor
          · intro hmem
            obtain ⟨new, hnew, hat⟩ := List.mem_map.1 hmem
            exact hfree new hnew hat
          · intro hmem
            obtain ⟨old, hold, rfl⟩ := List.mem_map.1 hmem
            obtain ⟨hmanaged_old, hstored⟩ := hplanned.stored_of_mem hfaithful hlisted hold
            exact hmanaged ⟨old, hstored, hmanaged_old⟩
        · intro x hx
          obtain ⟨o, hstored, rfl⟩ := seenIn_eq_some_iff.1 hx
          exact Bool.eq_false_iff.2 fun h => hmanaged ⟨o, hstored, h⟩

end Planned

end

end EdgeAgent
