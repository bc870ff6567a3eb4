import EdgeAgent.Proofs.Cluster.Laws
import EdgeAgent.Proofs.Resource.Status

/-! What single requests do to the outlines of the stored objects. A replacement keeps the recorded
fingerprint, and a patch of the status changes nothing else. -/

namespace EdgeAgent

variable {σ α Spec Status : Type} {kind : Kind Spec Status} {stored : σ → Store Spec Status}
  {api : Api σ Spec Status} {c : Call σ α}

/-- The outlines of the stored objects of a state. -/
abbrev seenIn (kind : Kind Spec Status) (stored : σ → Store Spec Status) (s : σ) :
    Target → Option (Outline Spec) :=
  (stored s).outlines kind

theorem seenIn_eq_some_iff {s : σ} {place : Target} {x : Outline Spec} :
    seenIn kind stored s place = some x ↔ ∃ o, stored s place = some o ∧ o.outline kind = x :=
  Option.map_eq_some_iff

theorem seenIn_eq_none_iff {s : σ} {place : Target} :
    seenIn kind stored s place = none ↔ stored s place = none :=
  Option.map_eq_none_iff

theorem seenIn_update {s s' : σ} {place : Target} {o : Option (Object Spec Status)}
    (h : stored s' = Function.update (stored s) place o) :
    seenIn kind stored s' =
      Function.update (seenIn kind stored s) place (o.map (Object.outline kind)) := by
  rw [seenIn, h, Store.outlines_update]

theorem Object.outline_eq {o new : Object Spec Status} {spec : Spec} {hash : Option String}
    (hspec : o.spec = spec) (hhash : kind.hash? o.status = hash)
    (hlabels : o.metadata.labels = new.metadata.labels) :
    o.outline kind = ⟨spec, hash, new.managed⟩ := by
  rw [outline, recordedHash_eq, hspec, hhash, managed_of_labels hlabels]

/-- A call is a request of which only the outlines are seen. -/
def Call.Requests (kind : Kind Spec Status) (stored : σ → Store Spec Status) (verb : Verb)
    (c' : Call (σ × List Exchange) α) (c : Call σ α)
    (acted : α → (Target → Option (Outline Spec)) → (Target → Option (Outline Spec)) → Prop) :
    Prop :=
  c'.Traces c
    (fun s x es s' => es = [⟨verb, true⟩] ∧ acted x (seenIn kind stored s) (seenIn kind stored s'))
    fun s es s' => es = [⟨verb, false⟩] ∧ (seenIn kind stored s' = seenIn kind stored s ∨
      ∃ x, acted x (seenIn kind stored s) (seenIn kind stored s'))

/-- What a request does to the stored objects is seen in their outlines. -/
theorem Call.Acts.requests {verb : Verb} {done : Store Spec Status → Store Spec Status → α → Prop}
    {acted : α → (Target → Option (Outline Spec)) → (Target → Option (Outline Spec)) → Prop}
    (hlaw : c.Acts stored done)
    (hseen : ∀ s s' x, done (stored s) (stored s') x →
      acted x (seenIn kind stored s) (seenIn kind stored s')) :
    Call.Requests kind stored verb (c.noting (Exchange.note verb)) c acted := by
  apply Call.Traces.of_noting
  · intro w x hanswer
    have hdone := hlaw w
    rw [hanswer] at hdone
    exact ⟨rfl, hseen _ _ _ hdone⟩
  · intro w stop hanswer
    have hdone := hlaw w
    rw [hanswer] at hdone
    refine ⟨rfl, ?_⟩
    rcases hdone.same_or_acted with hsame | ⟨x, hdone⟩
    · exact .inl (congrArg (Store.outlines kind) hsame)
    · exact .inr ⟨x, hseen _ _ _ hdone⟩

theorem Metadata.anyName_eq {m : Metadata} {name : String} (h : m.name = some name) :
    m.anyName = name := by
  rw [anyName, h]
  rfl

theorem Api.Faithful.anyName_eq (hfaithful : api.Faithful kind stored) {s : σ} {place : Target}
    {o : Object Spec Status} (h : stored s place = some o) : o.metadata.anyName = place.name :=
  Metadata.anyName_eq (hfaithful.placed s place o h).2.1

theorem Api.Faithful.requests_create (hfaithful : api.Faithful kind stored)
    (scope : Option String) {name : String} {new : Object Spec Status}
    (hname : new.metadata.name = some name) :
    Call.Requests kind stored .create (api.noted.create scope new) (api.create scope new)
      fun created before after => created.metadata.anyName = name ∧
        before ⟨scope, name⟩ = none ∧
        after = Function.update before ⟨scope, name⟩ (some ⟨new.spec, none, new.managed⟩) := by
  refine (hfaithful.create scope name new hname).requests ?_
  rintro s s' created ⟨hfree, hstored, hspec, hstatus, hlabels⟩
  have hat : stored s' ⟨scope, name⟩ = some created := by rw [hstored, Function.update_self]
  have hhash : kind.hash? created.status = none := by
    rw [hstatus]
    rfl
  refine ⟨hfaithful.anyName_eq hat, Store.outlines_eq_none hfree, ?_⟩
  rw [seenIn_update hstored, Option.map_some, Object.outline_eq hspec hhash hlabels]

theorem Api.Faithful.requests_replace (hfaithful : api.Faithful kind stored) (place : Target)
    (new : Object Spec Status) :
    Call.Requests kind stored .replace (api.noted.replace place new) (api.replace place new)
      fun replaced before after => replaced.metadata.anyName = place.name ∧
        ∃ o, before place = some o ∧
          after = Function.update before place (some ⟨new.spec, o.hash, new.managed⟩) := by
  refine (hfaithful.replace place new).requests ?_
  rintro s s' replaced ⟨old, hold, hstored, hspec, hstatus, hlabels⟩
  have hat : stored s' place = some replaced := by rw [hstored, Function.update_self]
  have hhash : kind.hash? replaced.status = kind.hash? old.status := congrArg kind.hash? hstatus
  refine ⟨hfaithful.anyName_eq hat, old.outline kind, Store.outlines_eq_some hold, ?_⟩
  rw [seenIn_update hstored, Option.map_some, Object.outline_eq hspec hhash hlabels]
  rfl

/-- A patch is seen by what it does to the recorded fingerprint. -/
theorem Api.Faithful.requests_patchStatus (hfaithful : api.Faithful kind stored) (place : Target)
    (patch : Json) (hash : Option String → Option String)
    (hpatch : ∀ j before after, kind.Stands j before → kind.Stands (j.merge patch) after →
      kind.hash? after = hash (kind.hash? before)) :
    Call.Requests kind stored .patchStatus (api.noted.patchStatus place patch)
      (api.patchStatus place patch)
      fun _ before after => ∃ o, before place = some o ∧
        after = Function.update before place (some ⟨o.spec, hash o.hash, o.managed⟩) := by
  refine (hfaithful.patchStatus place patch).requests ?_
  rintro s s' patched ⟨old, hold, hstored, hspec, hlabels, j, hj, hmerged⟩
  refine ⟨old.outline kind, Store.outlines_eq_some hold, ?_⟩
  rw [seenIn_update hstored, Option.map_some,
    Object.outline_eq hspec (hpatch j _ _ hj hmerged) hlabels]
  rfl

end EdgeAgent
