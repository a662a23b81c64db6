import Fleet.Condition.Ledger
import Fleet.Time.Delay

namespace Fleet

inductive ClusterConditionType where
  /-- The controller has seen the cluster and given it an identity. -/
  | init
  /-- The first heartbeat has arrived. -/
  | firstConnect
  /-- Heartbeats arrive in time. -/
  | heartbeat
  /-- The resources that the agent reports are in sync. -/
  | resourceSync
  /-- The last command for the agent was applied. -/
  | commandApply
  deriving DecidableEq, Repr

instance : Enumeration ClusterConditionType where
  all := [.init, .firstConnect, .heartbeat, .resourceSync, .commandApply]
  name
    | .init => "Init"
    | .firstConnect => "FirstConnect"
    | .heartbeat => "Heartbeat"
    | .resourceSync => "ResourceSync"
    | .commandApply => "CommandApply"

inductive ClusterPhase where
  /-- Not yet seen by the controller. -/
  | unknown
  /-- Waiting for the first heartbeat. -/
  | created
  /-- Heartbeats are current and nothing fails. -/
  | ready
  /-- Heartbeats have stopped. -/
  | lost
  /-- Heartbeats are current, but resources or commands fail. -/
  | outOfControl
  deriving DecidableEq, Repr

instance : Enumeration ClusterPhase where
  all := [.unknown, .created, .ready, .lost, .outOfControl]
  name
    | .unknown => "Unknown"
    | .created => "Created"
    | .ready => "Ready"
    | .lost => "Lost"
    | .outOfControl => "OutOfControl"

/-- What the user says about a cluster. A timeout of zero seconds means the operator's default. -/
structure ClusterSpec where
  timeoutSeconds : UInt64 := 0
  publicIPs : List String := []
  privateIPs : List String := []
  enablePrivateIP : Bool := false
  deriving DecidableEq, Repr

namespace ClusterSpec

def timeoutOverride (spec : ClusterSpec) : Option Delay :=
  if 0 < spec.timeoutSeconds then some (.ofSeconds spec.timeoutSeconds) else none

/-- The addresses to expose services under. Private ones are used only when that is enabled and
there is no public one. -/
def ingressIPs (spec : ClusterSpec) : List String :=
  if spec.publicIPs.isEmpty && spec.enablePrivateIP then spec.privateIPs else spec.publicIPs

/-- Findings that do not stop the cluster from being used. -/
def warnings (spec : ClusterSpec) : List String :=
  (if spec.enablePrivateIP && spec.privateIPs.isEmpty then
    ["enablePrivateIP is set but no privateIPs are listed"]
  else []) ++
  (if spec.ingressIPs.isEmpty then
    ["cluster advertises no reachable IPs; ingress will have none"]
  else [])

def toJson (spec : ClusterSpec) : Json :=
  .object [("clusterTimeoutSeconds", .integer spec.timeoutSeconds.toNat),
    ("publishIPs", .ofTexts spec.publicIPs), ("privateIPs", .ofTexts spec.privateIPs),
    ("enablePrivateIP", .bool spec.enablePrivateIP)]

def fields : List String :=
  ["clusterTimeoutSeconds", "publishIPs", "privateIPs", "enablePrivateIP"]

def ofJson? (record : Json) : Option ClusterSpec := do
  guard (record.isRecord fields 0)
  let timeoutSeconds ← Json.defaulted 0 Json.uint64? (record.field? 0 "clusterTimeoutSeconds")
  let publicIPs ← Json.defaulted [] (Json.listOf? Json.text?) (record.field? 1 "publishIPs")
  let privateIPs ← Json.defaulted [] (Json.listOf? Json.text?) (record.field? 2 "privateIPs")
  let enablePrivateIP ← Json.defaulted false Json.boolean? (record.field? 3 "enablePrivateIP")
  return { timeoutSeconds, publicIPs, privateIPs, enablePrivateIP }

def shape : Json.Shape :=
  .recordOf ofJson?
    [("clusterTimeoutSeconds", .scalarOf Json.uint64?), ("publishIPs", .texts),
      ("privateIPs", .texts), ("enablePrivateIP", .boolean)]

end ClusterSpec

/-- What the controller reports about a cluster. The identity is assigned once. -/
structure ClusterStatus where
  phase : ClusterPhase := .unknown
  clusterId : Option String := none
  conditions : Ledger ClusterConditionType := .empty
  deriving DecidableEq, Repr

namespace ClusterStatus

instance : Inhabited ClusterStatus := ⟨{}⟩

/-- The assigned identity; an empty one counts as none. -/
def assignedId? (status : ClusterStatus) : Option String :=
  status.clusterId.filter fun id => !id.isEmpty

def toJson (status : ClusterStatus) : Json :=
  .ofMembers [("status", some (.ofEnumeration status.phase)),
    ("clusterId", status.clusterId.map .string),
    ("conditions", some status.conditions.toJson)]

def ofJson? (record : Json) : Option ClusterStatus := do
  guard (record.isRecord ["status", "clusterId", "conditions"] 0)
  let phase ← Json.defaulted .unknown Json.enumeration? (record.field? 0 "status")
  let clusterId ← Json.optional Json.text? (record.field? 1 "clusterId")
  let conditions ← Json.defaulted .empty Ledger.ofJson? (record.field? 2 "conditions")
  return { phase, clusterId, conditions }

def shape : Json.Shape :=
  .recordOf ofJson?
    [("status", .named ClusterPhase), ("clusterId", .optional .text),
      ("conditions", Ledger.shape ClusterConditionType)]

end ClusterStatus

abbrev ClusterContent := Managed ClusterSpec ClusterStatus

abbrev Cluster := Object ClusterContent

namespace Cluster

def metaLabel : String := "cloudengine.io/meta-cluster"

def idAnnotation : String := "cloudengine.io/cluster-id"

/-- Whether the cluster stands for the platform's own nodes. -/
def isMeta (cluster : Cluster) : Bool := (cluster.metadata.label? metaLabel).isSome

def assignedId? (cluster : Cluster) : Option String :=
  cluster.status.bind ClusterStatus.assignedId?

end Cluster

end Fleet
