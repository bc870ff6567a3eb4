import EdgeAgent.Cluster.Upkeep
import EdgeAgent.Resource.EdgeIngress

/-! The ingress of an edge ingress: the route by which its domain reaches its service. It is owned
by the edge ingress and stored anew after every write of it; the status of the edge ingress says
whether that has succeeded. -/

namespace EdgeAgent

/-- Settings of all child ingresses. -/
structure ChildSettings where
  ingressClass : String := "traefik-hub"
  entryPoint : String := "websecure"
  deriving DecidableEq

/-- Why an edge ingress has no child ingress. -/
inductive ChildError where
  | withoutUid (name : String)
  | withoutDomain (name : String)
  deriving DecidableEq

/-- The message about an edge ingress. -/
def ChildError.message : ChildError → String
  | .withoutUid name => "edge ingress " ++ name ++ " has no uid"
  | .withoutDomain name => "edge ingress " ++ name ++ " has no domain"

namespace Child

/-- The annotation that a route takes encrypted traffic. -/
def tlsAnnotation : String := "traefik.ingress.kubernetes.io/router.tls"

/-- The annotation that names the entry points of a route. -/
def entryPointsAnnotation : String := "traefik.ingress.kubernetes.io/router.entrypoints"

/-- The annotation that names the access control policy of a route. -/
def policyAnnotation : String := "hub.traefik.io/access-control-policy"

def annotations (settings : ChildSettings) (spec : EdgeIngressSpec) : Dict String :=
  let base := (Dict.empty.insert tlsAnnotation "true").insert entryPointsAnnotation
    settings.entryPoint
  match spec.acp with
  | some acp => base.insert policyAnnotation acp.name
  | none => base

def owner? (edge : EdgeIngress) : Option OwnerReference := do
  let name ← edge.metadata.name
  let uid ← edge.metadata.uid
  return {
    apiVersion := hubApiVersion
    kind := EdgeIngress.kind.name
    name := name
    uid := uid
    controller := some true }

def domain? (edge : EdgeIngress) : Option String :=
  edge.status.bind fun s => if s.domain = "" then none else some s.domain

def specOf (settings : ChildSettings) (domain : String) (service : ServicePort) : IngressSpec :=
  let backend : IngressBackend := {
    service := some { name := service.name, port := some { number := some service.port } } }
  { ingressClassName := some settings.ingressClass
    rules := some [{
      host := some domain
      http := some [{ path := some "/", pathType := "Prefix", backend := backend }] }]
    tls := some [{ hosts := some [domain] }] }

def ofEdge (settings : ChildSettings) (edge : EdgeIngress) : Except ChildError Ingress :=
  let name := edge.metadata.anyName
  match owner? edge with
  | none => .error (.withoutUid name)
  | some owner =>
    match domain? edge with
    | none => .error (.withoutDomain name)
    | some domain =>
      .ok {
        metadata := {
          name := some name
          ns := edge.metadata.ns
          labels := some managerLabels
          annotations := some (annotations settings edge.spec)
          ownerReferences := some [owner] }
        spec := some (specOf settings domain edge.spec.service) }

variable {σ : Type}

/-- The requests about edge ingresses and their child ingresses. -/
structure Apis (σ : Type) where
  edges : Api σ EdgeIngressSpec EdgeIngressStatus
  ingresses : IngressApi σ

/-- Stores the child ingress of an edge ingress. -/
def storeIngress (settings : ChildSettings) (apis : Apis σ) (edge : EdgeIngress) : Call σ Unit :=
  match ofEdge settings edge with
  | .error e => Call.fail e.message
  | .ok ingress =>
    let name := ingress.metadata.anyName
    (apis.ingresses ⟨some (ingress.metadata.ns.getD ""), name⟩ ingress).context
      ("failed to apply ingress " ++ name)

/-- The patch that says how the child ingress stands. -/
def connectionPatch (connection : Connection) : Json :=
  .obj [("connection", .str connection.word)]

/-- The report that the connection of an edge ingress could not be recorded. -/
def connectionEntry (name : String) : LogEntry :=
  ⟨.warn, "Failed to update connection status", [("name", name)]⟩

/-- Records the connection of an edge ingress, unless it is recorded already. A failure is only
reported. -/
def recordConnection (apis : Apis σ) (edge : EdgeIngress) (connection : Connection) :
    Call σ Unit :=
  if (edge.status.bind EdgeIngressStatus.connection) = some connection then Call.pure ()
  else do
    let name := edge.metadata.anyName
    let result ← (apis.edges.patchStatus ⟨some (edge.metadata.ns.getD ""), name⟩
      (connectionPatch connection)).attempt
    match result with
    | .ok _ => return ()
    | .error _ => Call.report (connectionEntry name)

/-- Stores the child ingress of a stored edge ingress and records how that went. -/
def renew (settings : ChildSettings) (apis : Apis σ) (edge : EdgeIngress) : Call σ Unit := do
  let result ← (storeIngress settings apis edge).attempt
  let connection := match result with
    | .ok _ => Connection.up
    | .error _ => Connection.down
  recordConnection apis edge connection
  Call.ofExcept result

/-- A write of a pass over edge ingresses. -/
def write (settings : ChildSettings) (apis : Apis σ) : Write EdgeIngress → Call σ Unit
  | .create new => do
    let created ← Upkeep.create EdgeIngress.kind apis.edges new
    renew settings apis created
  | .update old new => do
    let updated ← Upkeep.update EdgeIngress.kind apis.edges old new
    renew settings apis updated
  | .delete old => Upkeep.delete EdgeIngress.kind apis.edges old

end Child

end EdgeAgent
