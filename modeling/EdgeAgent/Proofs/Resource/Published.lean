import EdgeAgent.Proofs.Resource.Overlaid

/-! What a status publishes: the fingerprint, the domains, the addresses and the connection. A status
that is written gives all of them but the connection; a patch that gives the connection leaves
everything else. -/

namespace EdgeAgent

/-- What is read of a status, of any kind. -/
structure Reading where
  /-- The fingerprint that is recorded. -/
  hash : Option String
  domains : List String
  urls : List String
  connection : Option Connection

variable {Spec Status : Type}

/-- A status, once it is written, is read as it is, but for the connection. -/
def Kind.Writes (kind : Kind Spec Status) (reading : Option Status → Reading) (status : Status) :
    Prop :=
  ∀ j before after, kind.Stands j before →
    kind.Stands (j.merge (kind.encodeStatus status).sorted) after →
    reading after = { reading (some status) with connection := (reading before).connection }

namespace Catalog

def reading (status : Option CatalogStatus) : Reading where
  hash := kind.hash? status
  domains := (status.getD {}).domains
  urls := (status.getD {}).urls
  connection := none

theorem writes_status {status : CatalogStatus} (hdomains : status.domains ≠ [])
    (hurls : status.urls ≠ []) (hhash : status.specHash ≠ "") : kind.Writes reading status := by
  intro j before after hbefore hafter
  rw [eq_laidOver_of_stands hbefore hafter]
  simp [reading, CatalogStatus.laidOver, Kind.hash?, kind, hdomains, hurls, hhash]

end Catalog

namespace EdgeIngress

def reading (status : Option EdgeIngressStatus) : Reading where
  hash := kind.hash? status
  domains := [(status.getD {}).domain]
  urls := [(status.getD {}).url]
  connection := (status.getD {}).connection

theorem connection_reading (status : Option EdgeIngressStatus) :
    (reading status).connection = status.bind EdgeIngressStatus.connection := by
  cases status <;> rfl

theorem writes_status {status : EdgeIngressStatus} (hdomain : status.domain ≠ "")
    (hurl : status.url ≠ "") (hhash : status.specHash ≠ "")
    (hconnection : status.connection = none) : kind.Writes reading status := by
  intro j before after hbefore hafter
  rw [eq_laidOver_of_stands hbefore hafter]
  simp [reading, EdgeIngressStatus.laidOver, Kind.hash?, kind, hdomain, hurl, hhash, hconnection]

/-- A patch that gives the connection leaves everything else. -/
theorem reading_connectionPatch {j : Json} {before after : Option EdgeIngressStatus}
    {connection : Connection} (hbefore : kind.Stands j before)
    (hafter : kind.Stands (j.merge (Child.connectionPatch connection)) after) :
    reading after = { reading before with connection := some connection } := by
  rw [eq_of_stands_connectionPatch hbefore hafter]
  cases before <;> rfl

end EdgeIngress

end EdgeAgent
