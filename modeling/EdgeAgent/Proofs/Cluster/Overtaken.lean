import EdgeAgent.Proofs.Cluster.Berth

/-! Updates and the writes of other clients. An update sends the listed object with another spec and
with more labels, and so with the version that was listed. If another client has written the object
since, the update is refused, asks for nothing more, and leaves the object as that client wrote it. -/

namespace EdgeAgent

variable {σ Spec Status : Type}

namespace Upkeep

/-- What an update asks for, in its order. -/
def dealings (kind : Kind Spec Status) (api : Api σ Spec Status) (old new : Object Spec Status)
    (w : World σ) : List (Dealing Spec Status) :=
  (update kind api.dealing old new (w.noted [])).2.state.2

/-- The wanted fingerprint is recorded. -/
def Recorded (kind : Kind Spec Status) (old new : Object Spec Status) : Prop :=
  ∃ status status', old.status = some status ∧ new.status = some status' ∧
    kind.specHash status ≠ "" ∧ kind.specHash status = kind.specHash status'

/-- A body is an object with the spec of another one and its labels above the own ones. -/
structure Revises (old new body : Object Spec Status) : Prop where
  spec : body.spec = new.spec
  status : body.status = old.status
  metadata : body.metadata = { old.metadata with labels := body.metadata.labels }
  labels : ∀ name, body.metadata.labels.bind (·.find? name) =
    (new.metadata.labels.bind (·.find? name)).or (old.metadata.labels.bind (·.find? name))
  unlabelled : new.metadata.labels = none → body.metadata.labels = old.metadata.labels

variable {kind : Kind Spec Status} {api : Api σ Spec Status} {old new : Object Spec Status}
  {stored : σ → Store Spec Status} {given : σ → Set String}

theorem recordedHash_eq_some (kind : Kind Spec Status) {o : Object Spec Status} {hash : String} :
    o.recordedHash kind = some hash ↔
      ∃ status, o.status = some status ∧ kind.specHash status ≠ "" ∧ kind.specHash status = hash := by
  rw [Object.recordedHash, Option.bind_eq_some_iff]
  refine exists_congr fun status => and_congr_right fun _ => ?_
  by_cases hhash : kind.specHash status = "" <;> simp [hhash]

theorem unchanged_iff_recorded : unchanged kind old new = true ↔ Recorded kind old new := by
  rw [unchanged, Bool.and_eq_true, decide_eq_true_eq, Option.isSome_iff_exists]
  constructor
  · rintro ⟨⟨hash, hold⟩, hsame⟩
    rw [hold, eq_comm] at hsame
    obtain ⟨status, hstatus, hne, rfl⟩ := (recordedHash_eq_some kind).1 hold
    obtain ⟨status', hstatus', -, hhash⟩ := (recordedHash_eq_some kind).1 hsame
    exact ⟨status, status', hstatus, hstatus', hne, hhash.symm⟩
  · rintro ⟨status, status', hstatus, hstatus', hne, hhash⟩
    have hold := (recordedHash_eq_some kind).2 ⟨status, hstatus, hne, rfl⟩
    have hnew := (recordedHash_eq_some kind).2 ⟨status', hstatus', hhash ▸ hne, hhash.symm⟩
    exact ⟨⟨_, hold⟩, hold.trans hnew.symm⟩

theorem revises_renewed (old new : Object Spec Status) : Revises old new (renewed old new) where
  spec := rfl
  status := rfl
  metadata := rfl
  labels := by
    intro name
    rw [renewed]
    cases hnew : new.metadata.labels with
    | none => rfl
    | some above =>
        simp only [Option.bind_some, Dict.find?_overlay]
        cases old.metadata.labels <;> rfl
  unlabelled := fun hnone => by rw [renewed, hnone]

section Updated

variable {replaces : σ → Upshot (Object Spec Status) → σ → Prop}
  {patches : Target → Json → σ → Upshot (Object Spec Status) → σ → Prop} {s s' : σ}
  {u : Upshot (Object Spec Status)} {ds : List (Dealing Spec Status)}

/-- What an update asks for is told together with what it comes to. -/
theorem updated_dealings
    (h : Call.Ends (update kind api.dealing old new) (update kind api old new)
      (Updated kind old new replaces patches)) (w : World σ) :
    Updated kind old new replaces patches w.state (.of (update kind api old new w).1)
      (dealings kind api old new w) (update kind api old new w).2.state := by
  obtain ⟨ds, hends, hupdated⟩ := h w []
  have hds : dealings kind api old new w = ds := congrArg (fun r => r.2.state.2) hends
  rwa [hds]

theorem Updated.exists_replace (h : Updated kind old new replaces patches s u ds s')
    (hchanged : ¬unchanged kind old new = true) :
    ∃ v rest, ds = ⟨.replace (target kind old) (renewed old new), v⟩ :: rest := by
  cases h with
  | suppressed hunchanged => exact absurd hunchanged hchanged
  | halted _ _ _ => exact ⟨_, _, rfl⟩
  | bare _ _ _ => exact ⟨_, _, rfl⟩
  | patched _ _ _ _ => exact ⟨_, _, rfl⟩

/-- Where no replacement is granted, an update ends with it. -/
theorem Updated.halts (h : Updated kind old new replaces patches s u ds s')
    (hchanged : ¬unchanged kind old new = true)
    (hrefused : ∀ u s', replaces s u s' → ∀ x, u ≠ .granted x) :
    replaces s u s' ∧ ds = [⟨.replace (target kind old) (renewed old new), u.forget⟩] := by
  cases h with
  | suppressed hunchanged => exact absurd hunchanged hchanged
  | halted _ hreplaced _ => exact ⟨hreplaced, rfl⟩
  | bare _ _ hreplaced => exact absurd rfl (hrefused _ _ hreplaced _)
  | patched _ _ hreplaced _ => exact absurd rfl (hrefused _ _ hreplaced _)

end Updated

/-- An update asks for nothing when the wanted fingerprint is recorded. -/
theorem dealings_of_recorded (api : Api σ Spec Status) (h : Recorded kind old new) (w : World σ) :
    dealings kind api old new w = [] ∧ update kind api old new w = (.ok old, w) := by
  have hunchanged := unchanged_iff_recorded.2 h
  constructor
  · rw [dealings, update, if_pos hunchanged]
    rfl
  · rw [update, if_pos hunchanged]
    rfl

/-- Otherwise it asks first of all for the replacement of the object by a revised one. -/
theorem dealings_of_not_recorded (api : Api σ Spec Status) (h : ¬Recorded kind old new)
    (w : World σ) :
    ∃ body u rest, Revises old new body ∧
      dealings kind api old new w = ⟨.replace (target kind old) body, u⟩ :: rest := by
  have hends : Call.Ends (update kind api.dealing old new) (update kind api old new)
      (Updated kind old new (fun _ _ _ => True) fun _ _ _ _ _ => True) :=
    ends_update kind old new (fun _ => trivial) fun _ _ _ => trivial
  obtain ⟨v, rest, hds⟩ := (updated_dealings hends w).exists_replace (mt unchanged_iff_recorded.1 h)
  exact ⟨_, v, rest, revises_renewed old new, hds⟩

/-- An update of an outdated object is not answered with one, asks for nothing but the replacement,
and leaves what is stored. -/
theorem dealings_of_outdated (hversioned : api.Versioned stored given) {version : String}
    (hversion : old.metadata.resourceVersion = some version) (hchanged : ¬Recorded kind old new)
    {w : World σ} (houtdated : Intrusion.Outdated stored (target kind old) version w.state) :
    (∀ o, (update kind api old new w).1 ≠ .ok o) ∧
      (∃ v, dealings kind api old new w = [⟨.replace (target kind old) (renewed old new), v⟩]) ∧
      stored (update kind api old new w).2.state = stored w.state := by
  have hends : Call.Ends (update kind api.dealing old new) (update kind api old new)
      (Updated kind old new
        (fun s u s' => Intrusion.Outdated stored (target kind old) version s →
          stored s' = stored s ∧ ∀ x, u ≠ .granted x)
        fun _ _ _ _ _ => True) := by
    refine ends_update kind old new (fun w houtdated => ?_) fun _ _ _ => trivial
    obtain ⟨hkept, hrefused⟩ := hversioned.replace _ (renewed old new) version w hversion houtdated
    exact ⟨hkept, fun x hx => hrefused x (Upshot.of_eq_granted.1 hx)⟩
  obtain ⟨hreplaced, hds⟩ := (updated_dealings hends w).halts
    (mt unchanged_iff_recorded.1 hchanged) fun u s' h => (h houtdated).2
  obtain ⟨hkept, hrefused⟩ := hreplaced houtdated
  exact ⟨fun o ho => hrefused o (Upshot.of_eq_granted.2 ho), ⟨_, hds⟩, hkept⟩

/-- An update of an object that other clients have written since it was listed: the last of their
writes stands. -/
theorem overtaken_update (hversioned : api.Versioned stored given) {before w : World σ}
    {listed : List (Object Spec Status)} (hlisted : (api.list before).1 = .ok listed)
    (hold : old ∈ listed) (hchanged : ¬Recorded kind old new)
    {intrusions : List (Intrusion Spec Status)}
    (hsequence : Intrusion.Sequence stored given intrusions (api.list before).2.state w.state)
    (hwritten : ∃ x ∈ intrusions, x.place = target kind old) :
    (∀ o, (update kind api old new w).1 ≠ .ok o) ∧
      (∀ d ∈ dealings kind api old new w, ∀ place patch, d.demand ≠ .patchStatus place patch) ∧
      stored (update kind api old new w).2.state = stored w.state ∧
      some (stored (update kind api old new w).2.state (target kind old)) =
        (intrusions.findRev? fun x => x.place = target kind old).map Intrusion.object := by
  obtain ⟨version, hgiven, hversion⟩ := hversioned.list before listed hlisted old hold
  obtain ⟨hfailed, ⟨v, hsent⟩, hkept⟩ := dealings_of_outdated hversioned hversion hchanged
    (hsequence.outdated hgiven (.inl hwritten))
  refine ⟨hfailed, ?_, hkept, ?_⟩
  · rw [hsent]
    rintro d hd place patch hpatch
    cases List.mem_singleton.1 hd
    cases hpatch
  · rw [hkept, hsequence.stored_eq]
    cases hlast : intrusions.findRev? fun x => x.place = target kind old with
    | some x => rfl
    | none =>
        obtain ⟨x, hx, hplace⟩ := hwritten
        rw [List.findRev?_eq_find?_reverse, List.find?_eq_none] at hlast
        exact absurd (decide_eq_true hplace) (hlast x (List.mem_reverse.2 hx))

/-- No write of another client is lost. An update either asks for nothing, which it does just when
the wanted fingerprint is recorded, or first sends the listed object with the wanted spec and with the
wanted labels above its own. If other clients have written the object since it was listed, the update
then fails, writes no status, and leaves the object as the last of them wrote it. -/
theorem no_lost_write (kind : Kind Spec Status) (api : Api σ Spec Status)
    (old new : Object Spec Status) (w : World σ) :
    (dealings kind api old new w = [] ↔ Recorded kind old new) ∧
    (Recorded kind old new → update kind api old new w = (.ok old, w)) ∧
    (¬Recorded kind old new → ∃ body u rest, Revises old new body ∧
      dealings kind api old new w = ⟨.replace (target kind old) body, u⟩ :: rest) ∧
    ∀ (stored : σ → Store Spec Status) (given : σ → Set String), api.Versioned stored given →
      ∀ before listed, (api.list before).1 = .ok listed → old ∈ listed → ¬Recorded kind old new →
      ∀ intrusions : List (Intrusion Spec Status),
        Intrusion.Sequence stored given intrusions (api.list before).2.state w.state →
        (∃ x ∈ intrusions, x.place = target kind old) →
        (∀ o, (update kind api old new w).1 ≠ .ok o) ∧
        (∀ d ∈ dealings kind api old new w, ∀ place patch, d.demand ≠ .patchStatus place patch) ∧
        stored (update kind api old new w).2.state = stored w.state ∧
        some (stored (update kind api old new w).2.state (target kind old)) =
          (intrusions.findRev? fun x => x.place = target kind old).map Intrusion.object := by
  refine ⟨⟨fun hnone => ?_, fun h => (dealings_of_recorded api h w).1⟩,
    fun h => (dealings_of_recorded api h w).2, fun h => dealings_of_not_recorded api h w,
    fun _ _ hversioned _ _ hlisted hold hchanged _ hsequence hwritten =>
      overtaken_update hversioned hlisted hold hchanged hsequence hwritten⟩
  by_contra hchanged
  obtain ⟨body, u, rest, -, hds⟩ := dealings_of_not_recorded api hchanged w
  rw [hds] at hnone
  cases hnone

end Upkeep

namespace Berth

/-- A catalog of the agent whose status records a fingerprint. -/
def recording (hash : String) : Catalog where
  metadata := { labels := some managerLabels }
  spec := {}
  status := some { specHash := hash }

/-- The catalog with a finalizer of another client. -/
def guarded : Catalog :=
  { recording "a" with metadata := { labels := some managerLabels, finalizers := some ["theirs"] } }

/-- The server when the catalog is listed. -/
def unguarded : World Berth := ⟨⟨some (recording "a"), 1⟩, []⟩

/-- The server after another client has put its finalizer on the catalog. -/
def overtaken : World Berth := ⟨unguarded.state.written (some guarded), []⟩

theorem no_lost_write_finalizer :
    ∃ old o, (api.list unguarded).1 = .ok [old] ∧
      (∀ x, (Upkeep.update Catalog.kind api old (recording "b") overtaken).1 ≠ .ok x) ∧
      stored (Upkeep.update Catalog.kind api old (recording "b") overtaken).2.state place = some o ∧
      o.metadata.finalizers = some ["theirs"] ∧ o.metadata.resourceVersion = some "2" := by
  obtain ⟨old, hlisted, htarget, hhash⟩ : ∃ old, (api.list unguarded).1 = .ok [old] ∧
      Upkeep.target Catalog.kind old = place ∧ old.status = some { specHash := "a" } :=
    ⟨_, rfl, rfl, rfl⟩
  have hchanged : ¬Upkeep.Recorded Catalog.kind old (recording "b") := by
    rintro ⟨status, status', hstatus, hstatus', -, hsame⟩
    rw [hhash] at hstatus
    cases hstatus
    cases hstatus'
    exact absurd hsame (by decide)
  obtain ⟨-, -, -, hintruded⟩ := Upkeep.no_lost_write Catalog.kind api old (recording "b") overtaken
  obtain ⟨hfailed, -, -, hstored⟩ := hintruded stored given versioned unguarded [old] hlisted
    (List.mem_singleton_self old) hchanged [⟨place, overtaken.state.current⟩]
    (.cons (takes_written unguarded.state (some guarded)) (.nil _)) ⟨_, .head _, htarget.symm⟩
  rw [htarget] at hstored
  have hversion : Decimal.text 2 = "2" := by decide +kernel
  exact ⟨old, _, hlisted, hfailed, Option.some_inj.1 hstored, rfl, congrArg some hversion⟩

end Berth

end EdgeAgent
