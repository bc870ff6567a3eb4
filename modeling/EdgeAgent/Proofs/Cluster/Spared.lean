import EdgeAgent.Cluster.Requests
import EdgeAgent.Proofs.Cluster.Depot
import EdgeAgent.Proofs.Cluster.Sparing

/-! What a run of the agent leaves of the objects that are not its own: all of them as they are, but
for those that belong to an object of the agent which it removes. A server removes these with their
owner, since the agent asks for removals in the foreground. -/

namespace EdgeAgent

variable {σ ι D : Type}

/-- The agent, by the requests that it makes. -/
structure Agent (σ : Type) where
  settings : ChildSettings := {}
  apis : Child.Apis σ
  catalogs : Api σ CatalogSpec CatalogStatus

namespace Agent

/-- A pass over the one kind or the other. -/
inductive Pass where
  | edges (round : Round EdgeIngressRecord)
  | catalogs (round : Round CatalogRecord)

def pass (agent : Agent σ) (w : World σ) : Pass → World σ
  | .edges round => (Keeper.edgesWithChildren agent.settings agent.apis).pass round w
  | .catalogs round => (Keeper.catalogs agent.catalogs).pass round w

/-- The world after passes, in any order of the kinds. -/
def passes (agent : Agent σ) (passes : List Pass) (w : World σ) : World σ :=
  passes.foldl agent.pass w

/-- The agent with what its requests ask to be done. -/
def watched (census : Census σ ι D) (agent : Agent σ) : Agent (σ × List (Deed ι D)) where
  settings := agent.settings
  apis := agent.apis.watched census
  catalogs := agent.catalogs.watched census census.catalogs

/-- What passes ask to be done. -/
def deeds (agent : Agent σ) (census : Census σ ι D) (passes : List Pass) (w : World σ) :
    List (Deed ι D) :=
  ((agent.watched census).passes passes (w.noted [])).state.2

/-- The server does about both kinds what it is relied on to do, and nothing else. -/
structure Orderly [DecidableEq ι] (census : Census σ ι D) (agent : Agent σ) : Prop where
  apis : agent.apis.Orderly census
  catalogs : agent.catalogs.Orderly census Catalog.kind census.catalogs

variable [DecidableEq ι] {agent : Agent σ} {census : Census σ ι D}

theorem pass_spares (horderly : agent.Orderly census) (pass : Pass) (w : World σ)
    (notes : List (Deed ι D)) :
    ∃ deeds, (agent.watched census).pass (w.noted notes) pass =
        (agent.pass w pass).noted (notes ++ deeds) ∧
      census.Spared deeds (census.objects w.state) (census.objects (agent.pass w pass).state) := by
  cases pass with
  | edges round =>
      exact (Keeper.edgesWithChildren agent.settings agent.apis).pass_spares horderly.apis round w
        notes
  | catalogs round =>
      exact (Keeper.catalogs agent.catalogs).pass_spares horderly.catalogs round w notes

theorem passes_spare (horderly : agent.Orderly census) (passes : List Pass) (w : World σ)
    (notes : List (Deed ι D)) :
    ∃ deeds, (agent.watched census).passes passes (w.noted notes) =
        (agent.passes passes w).noted (notes ++ deeds) ∧
      census.Spared deeds (census.objects w.state)
        (census.objects (agent.passes passes w).state) := by
  induction passes generalizing w notes with
  | nil =>
      refine ⟨[], ?_, .nil⟩
      rw [List.append_nil]
      rfl
  | cons pass passes ih =>
      obtain ⟨first, hpass, hspared⟩ := pass_spares horderly pass w notes
      obtain ⟨rest, hpasses, hspared'⟩ := ih (agent.pass w pass) (notes ++ first)
      refine ⟨first ++ rest, ?_, hspared.trans hspared'⟩
      change (agent.watched census).passes passes ((agent.watched census).pass _ pass) = _
      rw [hpass, hpasses, List.append_assoc]
      rfl

/-- Whatever comes of its requests, passes leave every edge ingress and catalog that lacks the label
of the agent as it is, unless it belongs to one with the label whose removal they ask for. All that
they send carries the label, and where nothing without it was stored, nothing without it is. -/
theorem unlabelled_spared (horderly : agent.Orderly census) (passes : List Pass) (w : World σ) :
    (∀ i d, census.Custom i → census.objects w.state i = some d → ¬census.form.Managed d →
      census.objects (agent.passes passes w).state i = some d ∨
        census.form.Forfeits (agent.deeds census passes w) d) ∧
    (∀ metadata, .sent metadata ∈ agent.deeds census passes w → metadata.Labelled) ∧
    ∀ i, census.Custom i → census.Clear i (census.objects w.state) →
      census.Clear i (census.objects (agent.passes passes w).state) := by
  obtain ⟨deeds, hpasses, hspared⟩ := passes_spare horderly passes w []
  have hdeeds : agent.deeds census passes w = deeds := by
    rw [Agent.deeds, hpasses]
    rfl
  rw [hdeeds]
  exact ⟨hspared.kept, fun metadata hsent => hspared.labelled _ hsent, hspared.clear⟩

end Agent

namespace Depot

/-- The agent at a depot, which refuses all requests about edge ingresses. -/
def agent : Agent Depot where
  apis := {
    edges := {
      list := Call.fail "refused"
      create := fun _ _ => Call.fail "refused"
      replace := fun _ _ => Call.fail "refused"
      patchStatus := fun _ _ => Call.fail "refused"
      delete := fun _ => Call.fail "refused" }
    ingresses := fun _ _ => Call.fail "refused" }
  catalogs := api

theorem orderly_agent : agent.Orderly census where
  apis := {
    edges := {
      custom := fun place => .inl ⟨place, rfl⟩
      list := fun _ => ⟨.inl rfl, fun _ h => nomatch h⟩
      create := fun _ _ _ => ⟨.inl rfl, fun _ h => nomatch h⟩
      replace := fun _ _ _ => ⟨.inl rfl, fun _ h => nomatch h⟩
      patchStatus := fun _ _ _ => ⟨.inl rfl, fun _ h => nomatch h⟩
      delete := fun _ _ => ⟨.inl rfl, fun _ h => nomatch h⟩ }
    ingresses := fun _ _ _ => ⟨.inl rfl, fun _ h => nomatch h⟩ }
  catalogs := orderly

def labelled : Catalog where
  metadata := { name := some "old", uid := some "1", labels := some managerLabels }
  spec := {}

/-- A catalog without labels, which may have owners. -/
def foreign (name : String) (owners : Option (List OwnerReference)) : Catalog where
  metadata := { name := some name, ownerReferences := owners }
  spec := {}

/-- Beside a catalog of the agent there are two others, of which it owns one. -/
def shared : World Depot :=
  ⟨⟨{ objects := [("old", labelled), ("owned", foreign "owned" (some [{ uid := "1" }])),
      ("taken", foreign "taken" none)] }, by unfold Server.Tidy; decide⟩, []⟩

/-- The platform lists a catalog whose name is taken. -/
def listing : Agent.Pass :=
  .catalogs {
    timeout := 1000
    now := fun _ => .newYear
    answer := .ok [{ name := "taken", domain := "taken.example.com" }] }

/-- The catalog of the taken name stays as it is; the other one goes with its owner. -/
theorem unlabelled_spared_shared :
    agent.Orderly census ∧
    (agent.passes [listing] shared).state.1.find? "taken" = some (foreign "taken" none) ∧
    (agent.passes [listing] shared).state.1.find? "owned" = none ∧
    form.Forfeits (agent.deeds census [listing] shared)
      (foreign "owned" (some [{ uid := "1" }])) ∧
    (agent.deeds census [listing] shared).length = 2 ∧
    ∀ metadata, .sent metadata ∈ agent.deeds census [listing] shared → metadata.Labelled := by
  obtain ⟨hkept, hsent, -⟩ := Agent.unlabelled_spared orderly_agent [listing] shared
  have hgone : (agent.passes [listing] shared).state.1.find? "owned" = none := by decide +kernel
  have htaken := hkept (census.catalogs ⟨none, "taken"⟩) (foreign "taken" none) (.inr ⟨_, rfl⟩) rfl
    (by intro h; cases h)
  have howned := hkept (census.catalogs ⟨none, "owned"⟩)
    (foreign "owned" (some [{ uid := "1" }])) (.inr ⟨_, rfl⟩) rfl (by intro h; cases h)
  refine ⟨orderly_agent, htaken.resolve_right ?_, hgone, howned.resolve_left ?_,
    by decide +kernel, hsent⟩
  · intro hforfeits
    obtain ⟨uid, howner⟩ := hforfeits.exists_owner
    cases howner
  · intro hstill
    change (agent.passes [listing] shared).state.1.find? "owned" = _ at hstill
    rw [hgone] at hstill
    cases hstill

end Depot

namespace Requests

/-- The agent over HTTP. -/
def agent : Agent Wire.State where
  apis := { edges := api EdgeIngress.kind, ingresses := storeIngress }
  catalogs := api Catalog.kind

def catalogPath (name : String) : String :=
  collection hubGroup hubVersion Catalog.kind.plural none ++ "/" ++ name

/-- A catalog as it is stored, with more metadata. -/
def catalogDoc (name uid : String) (metadata : List (String × Json)) : Json :=
  .obj [("apiVersion", .str hubApiVersion), ("kind", .str Catalog.kind.name),
    ("metadata", .obj ([("name", .str name), ("uid", .str uid)] ++ metadata)), ("spec", .obj [])]

/-- A catalog without the label of the agent, which a catalog with the label owns. -/
def owning : World Wire.State :=
  ⟨{ server := { objects := [
      (catalogPath "old", catalogDoc "old" "1" [("labels", .obj [(managerLabel, .str managerName)])]),
      (catalogPath "owned", catalogDoc "owned" "2" [("ownerReferences", .arr [.obj [
        ("apiVersion", .str hubApiVersion), ("kind", .str Catalog.kind.name),
        ("name", .str "old"), ("uid", .str "1")]])])] } }, []⟩

/-- The platform lists no catalogs. -/
def emptyRound : Agent.Pass :=
  .catalogs {
    timeout := 1000
    now := fun _ => .newYear
    answer := .ok [] }

/-- A catalog without the label need not stay as it is, though every request is answered. -/
theorem not_all_unlabelled_spared :
    ¬∀ (passes : List Agent.Pass) (w : World Wire.State) (name : String) (d : Json),
      w.state.faults = [] → w.state.server.find? (catalogPath name) = some d →
      ¬Wire.form.Managed d →
      (agent.passes passes w).state.server.find? (catalogPath name) = some d := by
  intro h
  have hgone : ((agent.passes [emptyRound] owning).state.server.find?
      (catalogPath "owned")).isNone = true := by decide +kernel
  have hkept := h [emptyRound] owning "owned" _ rfl rfl (by unfold Form.Managed; decide)
  rw [hkept] at hgone
  cases hgone

end Requests

end EdgeAgent
