import EdgeAgent.Cluster.Api
import EdgeAgent.Cluster.Server

/-! Which objects of a cluster belong to which. An object names the identifiers of its owners, which
may be of any kind; it belongs to them, and to those that they belong to. -/

namespace EdgeAgent

variable {σ ι D : Type}

/-- The identifiers of the owners that metadata names. -/
def Metadata.owners (metadata : Metadata) : List String :=
  (metadata.ownerReferences.getD []).map OwnerReference.uid

/-- A stored object is owned by the one with an identifier, directly or through other objects. -/
inductive Form.Belongs (form : Form D) (objects : ι → Option D) (uid : String) : D → Prop where
  | owned {d : D} : uid ∈ form.owners d → Belongs form objects uid d
  | through {d owner : D} {i : ι} {own : String} : Belongs form objects uid owner →
      objects i = some owner → form.uid? owner = some own → own ∈ form.owners d →
      Belongs form objects uid d

theorem Form.Belongs.exists_owner {form : Form D} {objects : ι → Option D} {uid : String} {d : D}
    (h : form.Belongs objects uid d) : ∃ own, own ∈ form.owners d := by
  cases h with
  | owned howned => exact ⟨_, howned⟩
  | through _ _ _ howned => exact ⟨_, howned⟩

/-- The objects of a cluster: how they are looked into, the slots in which they are stored, and which
of the slots are those of edge ingresses and of catalogs, by their places. -/
structure Census (σ ι D : Type) where
  form : Form D
  objects : σ → ι → Option D
  edges : Target → ι
  catalogs : Target → ι

/-- In a state, the object at a place of a kind owns the one at another place. -/
def Census.Owns (census : Census σ ι D) (slot : Target → ι) (s : σ) (place other : Target) : Prop :=
  ∃ owner uid d, census.objects s (slot place) = some owner ∧ census.form.uid? owner = some uid ∧
    census.objects s (slot other) = some d ∧ census.form.Belongs (census.objects s) uid d

end EdgeAgent
