import EdgeAgent.Proofs.Cluster.Dealings
import EdgeAgent.Proofs.Cluster.Keeper
import EdgeAgent.Proofs.Cluster.Slot
import EdgeAgent.Proofs.Resource.Overlaid

/-! The status of an object that was replaced. It is that of the record, but what the record leaves
empty is not in the patch that is merged into the stored status, and stays in it. So the stored
status is the new one exactly when nothing that the record leaves empty was there before. -/

namespace EdgeAgent

variable {σ Record Spec Status : Type}

namespace EdgeIngressRecord

/-- The status of a record lies over another one without a trace of it but for the connection, unless
the other one has what the record leaves empty. -/
theorem status_laidOver_eq_iff {record : EdgeIngressRecord} (hdomain : record.domain ≠ "")
    (moment : Timestamp) (old : EdgeIngressStatus) :
    (record.status moment).laidOver old =
        { record.status moment with connection := old.connection } ↔
      (record.version = "" → old.version = "") ∧
      (record.customDomains = [] → old.customDomains = []) := by
  have hurl : urlOf record.domain ≠ "" := urlOf_ne_empty _
  have hhash : record.spec.hash ≠ "" := Sha256.hex_ne_empty _
  simp only [EdgeIngressStatus.laidOver, status, Option.some_or, Option.none_or, hdomain, hurl,
    hhash, reduceIte, EdgeIngressStatus.mk.injEq, true_and, and_true]
  refine and_congr ?_ ?_
  · by_cases hversion : record.version = "" <;> simp [hversion]
  · by_cases hcustom : record.customDomains = [] <;> simp [hcustom]

end EdgeIngressRecord

namespace CatalogRecord

theorem status_laidOver_eq_iff (record : CatalogRecord) (moment : Timestamp) (old : CatalogStatus) :
    (record.status moment).laidOver old = record.status moment ↔
      (record.version = "" → old.version = "") := by
  have hurls : record.domains.map urlOf ≠ [] := mt List.map_eq_nil_iff.1 record.domains_ne_nil
  have hhash : record.spec.hash ≠ "" := Sha256.hex_ne_empty _
  simp only [CatalogStatus.laidOver, status, Option.some_or, record.domains_ne_nil, hurls, hhash,
    reduceIte, CatalogStatus.mk.injEq, and_true]
  by_cases hversion : record.version = "" <;> simp [hversion]

end CatalogRecord

namespace Keeper

/-- The status that a record declares at a moment. -/
def statusOf : Keeper σ Record Spec Status → Timestamp → Record → Status
  | catalogs _ => fun moment record => record.status moment
  | edges _ => fun moment record => record.status moment
  | edgesWithChildren _ _ => fun moment record => record.status moment

/-- A status with what it leaves empty as in the stored one. -/
def laidOver : Keeper σ Record Spec Status → Status → Option Status → Status
  | catalogs _ => fun status old => status.laidOver (old.getD {})
  | edges _ => fun status old => status.laidOver (old.getD {})
  | edgesWithChildren _ _ => fun status old => status.laidOver (old.getD {})

/-- A status with the connection of the stored one, and nothing else of it. -/
def refreshed : Keeper σ Record Spec Status → Status → Option Status → Status
  | catalogs _ => fun status _ => status
  | edges _ => fun status old => { status with connection := (old.getD {}).connection }
  | edgesWithChildren _ _ => fun status old =>
      { status with connection := (old.getD {}).connection }

/-- What a record leaves empty is empty in the stored status. -/
def Clears : Keeper σ Record Spec Status → Record → Option Status → Prop
  | catalogs _ => fun record old => record.version = "" → (old.getD {}).version = ""
  | edges _ => fun record old =>
      (record.version = "" → (old.getD {}).version = "") ∧
      (record.customDomains = [] → (old.getD {}).customDomains = [])
  | edgesWithChildren _ _ => fun record old =>
      (record.version = "" → (old.getD {}).version = "") ∧
      (record.customDomains = [] → (old.getD {}).customDomains = [])

variable {keeper : Keeper σ Record Spec Status} {stored : σ → Store Spec Status}

theorem eq_laidOver_of_stands {status : Status} {j : Json} {before after : Option Status}
    (hbefore : keeper.kind.Stands j before)
    (hafter : keeper.kind.Stands (j.merge (keeper.kind.encodeStatus status).sorted) after) :
    after = some (keeper.laidOver status before) := by
  cases keeper with
  | catalogs api => exact Catalog.eq_laidOver_of_stands hbefore hafter
  | edges api => exact EdgeIngress.eq_laidOver_of_stands hbefore hafter
  | edgesWithChildren settings apis => exact EdgeIngress.eq_laidOver_of_stands hbefore hafter

theorem laidOver_eq_refreshed_iff {moment : Timestamp} {record : Record} {new : Object Spec Status}
    (hnew : keeper.materialize moment record = .ok new) (old : Option Status) :
    new.status = some (keeper.statusOf moment record) ∧
      (keeper.laidOver (keeper.statusOf moment record) old =
        keeper.refreshed (keeper.statusOf moment record) old ↔ keeper.Clears record old) := by
  cases keeper with
  | catalogs api =>
      obtain ⟨-, rfl⟩ := materialize_catalog_iff.1 hnew
      exact ⟨rfl, record.status_laidOver_eq_iff moment _⟩
  | edges api =>
      obtain ⟨⟨-, -, hdomain⟩, rfl⟩ := materialize_edge_iff.1 hnew
      exact ⟨rfl, EdgeIngressRecord.status_laidOver_eq_iff hdomain moment _⟩
  | edgesWithChildren settings apis =>
      obtain ⟨⟨-, -, hdomain⟩, rfl⟩ := materialize_edge_iff.1 hnew
      exact ⟨rfl, EdgeIngressRecord.status_laidOver_eq_iff hdomain moment _⟩

/-- An object that another fingerprint is recorded of is not left alone. -/
theorem not_unchanged {kind : Kind Spec Status} {old new : Object Spec Status}
    (h : old.recordedHash kind ≠ new.recordedHash kind) : Upkeep.unchanged kind old new = false := by
  rw [Upkeep.unchanged, decide_eq_false h, Bool.and_false]

/-- What an answered update of a changed object stores. -/
theorem stored_refresh (hfaithful : keeper.Faithful stored) {moment : Timestamp} {record : Record}
    {old new o : Object Spec Status} {w : World σ}
    (hnew : keeper.materialize moment record = .ok new)
    (hchanged : old.recordedHash keeper.kind ≠ new.recordedHash keeper.kind)
    (hdone : (Upkeep.update keeper.kind keeper.api old new w).1 = .ok o) :
    ∃ before, stored w.state (Upkeep.target keeper.kind old) = some before ∧
      stored (Upkeep.update keeper.kind keeper.api old new w).2.state =
        Function.update (stored w.state) (Upkeep.target keeper.kind old) (some o) ∧
      o.spec = keeper.specOf record ∧
      o.status = some (keeper.laidOver (keeper.statusOf moment record) before.status) := by
  obtain ⟨before, hbefore, hafter, hspec, j, hj, hmerged⟩ := Upkeep.stored_update hfaithful.api
    (not_unchanged hchanged) (laidOver_eq_refreshed_iff hnew none).1 hdone
  exact ⟨before, hbefore, hafter, hspec.trans (wanted_of_materialize hnew).2.2,
    eq_laidOver_of_stands hj hmerged⟩

/-- An answered update of a changed object refreshes its whole status exactly when nothing is stored
of what the record leaves empty. -/
theorem refreshed_iff (hfaithful : keeper.Faithful stored) {moment : Timestamp} {record : Record}
    {old new o : Object Spec Status} {w : World σ}
    (hnew : keeper.materialize moment record = .ok new)
    (hchanged : old.recordedHash keeper.kind ≠ new.recordedHash keeper.kind)
    (hdone : (Upkeep.update keeper.kind keeper.api old new w).1 = .ok o) :
    ∃ before, stored w.state (Upkeep.target keeper.kind old) = some before ∧
      stored (Upkeep.update keeper.kind keeper.api old new w).2.state =
        Function.update (stored w.state) (Upkeep.target keeper.kind old) (some o) ∧
      o.spec = new.spec ∧ new.status = some (keeper.statusOf moment record) ∧
      o.status = some (keeper.laidOver (keeper.statusOf moment record) before.status) ∧
      (o.status = some (keeper.refreshed (keeper.statusOf moment record) before.status) ↔
        keeper.Clears record before.status) := by
  obtain ⟨before, hbefore, hafter, hspec, hstatus⟩ := stored_refresh hfaithful hnew hchanged hdone
  obtain ⟨hwanted, hclears⟩ := laidOver_eq_refreshed_iff hnew before.status
  refine ⟨before, hbefore, hafter, hspec.trans (wanted_of_materialize hnew).2.2.symm, hwanted,
    hstatus, ?_⟩
  rw [hstatus, Option.some_inj]
  exact hclears

end Keeper

namespace Slot

/-- The record of the edge ingress, with a version and custom domains. -/
def customized (customDomains : List String) : EdgeIngressRecord :=
  { recordOf "a.example.com" with version := "1", customDomains := customDomains }

/-- The edge ingress of the record. -/
def wanted (customDomains : List String) : EdgeIngress where
  metadata := { name := some "shop", ns := some "n", labels := some managerLabels }
  spec := (customized customDomains).spec
  status := some ((customized customDomains).status .newYear)

theorem materialize_customized (customDomains : List String) :
    keeper.materialize .newYear (customized customDomains) = .ok (wanted customDomains) := rfl

/-- A slot in which a pass has stored the edge ingress with a custom domain. -/
def withCustomDomain : World Slot :=
  keeper.pass ⟨1000, fun _ => .newYear, .ok [customized ["shop.example.com"]]⟩ vacant

/-- What the stored edge ingress has as custom domains, and whether it is updated by the wanted one. -/
def updates (customDomains : List String) : Option (List String × Bool) :=
  (stored withCustomDomain.state place).map fun old =>
    ((old.status.getD {}).customDomains,
      Upkeep.target keeper.kind old = place &&
      old.recordedHash keeper.kind ≠ (wanted customDomains).recordedHash keeper.kind &&
      succeeded
        (Upkeep.update keeper.kind keeper.api old (wanted customDomains) withCustomDomain).1)

/-- An update that is computed to be answered is one. -/
theorem exists_update {customDomains before : List String}
    (h : updates customDomains = some (before, true)) :
    ∃ old o : EdgeIngress, stored withCustomDomain.state place = some old ∧
      (old.status.getD {}).customDomains = before ∧ Upkeep.target keeper.kind old = place ∧
      old.recordedHash keeper.kind ≠ (wanted customDomains).recordedHash keeper.kind ∧
      (Upkeep.update keeper.kind keeper.api old (wanted customDomains) withCustomDomain).1 =
        .ok o := by
  obtain ⟨old, hold, heq⟩ := Option.map_eq_some_iff.1 h
  simp only [Prod.mk.injEq, Bool.and_eq_true, decide_eq_true_eq] at heq
  obtain ⟨hbefore, ⟨htarget, hchanged⟩, hdone⟩ := heq
  cases hanswer :
      (Upkeep.update keeper.kind keeper.api old (wanted customDomains) withCustomDomain).1 with
  | error stop =>
      rw [hanswer] at hdone
      cases hdone
  | ok o => exact ⟨old, o, hold, hbefore, htarget, hchanged, hanswer⟩

/-- Other custom domains take the place of the stored ones. -/
theorem refreshed_iff_otherCustomDomain :
    ∃ old o : EdgeIngress, stored withCustomDomain.state place = some old ∧
      (old.status.getD {}).customDomains = ["shop.example.com"] ∧
      o.status = some (keeper.refreshed (keeper.statusOf .newYear (customized ["b.example.com"]))
        old.status) ∧
      (o.status.getD {}).customDomains = ["b.example.com"] := by
  obtain ⟨old, o, hold, hcustom, htarget, hchanged, hdone⟩ :=
    @exists_update ["b.example.com"] ["shop.example.com"] (by decide +kernel)
  obtain ⟨before, hbefore, -, -, -, -, hiff⟩ := Keeper.refreshed_iff lasting.faithful
    (materialize_customized ["b.example.com"]) hchanged hdone
  rw [htarget, hold] at hbefore
  cases hbefore
  have hrefreshed := hiff.2 ⟨fun h => absurd h (by decide), fun h => nomatch h⟩
  refine ⟨old, o, hold, hcustom, hrefreshed, ?_⟩
  rw [hrefreshed]
  rfl

/-- Custom domains that the record has no more stay in the status. -/
theorem not_refreshed_withoutCustomDomains :
    ∃ old o : EdgeIngress, keeper.Faithful stored ∧
      keeper.materialize .newYear (customized []) = .ok (wanted []) ∧
      stored withCustomDomain.state place = some old ∧
      old.recordedHash keeper.kind ≠ (wanted []).recordedHash keeper.kind ∧
      (Upkeep.update keeper.kind keeper.api old (wanted []) withCustomDomain).1 = .ok o ∧
      stored (Upkeep.update keeper.kind keeper.api old (wanted []) withCustomDomain).2.state place =
        some o ∧
      (customized []).customDomains = [] ∧
      (o.status.getD {}).customDomains = ["shop.example.com"] ∧
      o.status ≠ some (keeper.refreshed (keeper.statusOf .newYear (customized [])) old.status) := by
  obtain ⟨old, o, hold, hcustom, htarget, hchanged, hdone⟩ :=
    @exists_update [] ["shop.example.com"] (by decide +kernel)
  obtain ⟨before, hbefore, hafter, -, hstatus⟩ := Keeper.stored_refresh lasting.faithful
    (materialize_customized []) hchanged hdone
  rw [htarget, hold] at hbefore
  cases hbefore
  have hkept : (o.status.getD {}).customDomains = ["shop.example.com"] := by
    rw [hstatus]
    exact hcustom
  refine ⟨old, o, lasting.faithful, rfl, hold, hchanged, hdone, ?_, rfl, hkept, fun hsame => ?_⟩
  · rw [hafter, htarget, Function.update_self]
  · rw [hsame] at hkept
    cases hkept

end Slot

end EdgeAgent
