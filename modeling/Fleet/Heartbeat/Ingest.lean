import Fleet.Cluster.Basic
import Fleet.Heartbeat.Message
import Fleet.Store.Call

namespace Fleet.Heartbeat

/-- What is wrong with the reported resources, one text for each failing resource. -/
def failures (heartbeat : Heartbeat) : List String :=
  heartbeat.resources.filterMap fun report =>
    report.failing?.map fun condition =>
      report.gvk.kind ++ " " ++ report.resource ++ ": " ++ condition.message

/-- Records the arrival of a heartbeat. The first one is recorded separately, once. -/
def recordArrival (now : Instant) (ledger : Ledger ClusterConditionType) :
    Ledger ClusterConditionType :=
  let ledger := ledger.set .heartbeat .true_ "HeartbeatReceived" "" now
  if ledger.isTrue .firstConnect then ledger
  else ledger.set .firstConnect .true_ "FirstHeartbeat" "" now

def recordResources (heartbeat : Heartbeat) (now : Instant)
    (ledger : Ledger ClusterConditionType) : Ledger ClusterConditionType :=
  let failing := heartbeat.failures
  if failing.isEmpty then ledger.set .resourceSync .true_ "Synced" "" now
  else ledger.set .resourceSync .false_ "ResourceNotSynced" ("; ".intercalate failing) now

/-- Records how the last command went, if the heartbeat tells. -/
def recordCommand (heartbeat : Heartbeat) (now : Instant)
    (ledger : Ledger ClusterConditionType) : Ledger ClusterConditionType :=
  match heartbeat.commandResult with
  | none => ledger
  | some result =>
      ledger.set .commandApply (.ofBool result.ok)
        (if result.ok then "CommandApplied" else "CommandFailed") result.message now

def record (heartbeat : Heartbeat) (now : Instant) (ledger : Ledger ClusterConditionType) :
    Ledger ClusterConditionType :=
  heartbeat.recordCommand now (heartbeat.recordResources now (recordArrival now ledger))

/-- The cluster after a heartbeat; a missing status counts as the default one. -/
def applyTo (heartbeat : Heartbeat) (now : Instant) (cluster : Cluster) : Cluster :=
  let status := cluster.status.getD default
  cluster.setStatus { status with conditions := heartbeat.record now status.conditions }

def reject (heartbeat : Heartbeat) (message : String) : HeartbeatResponse :=
  { ok := false, message, cluster := heartbeat.cluster }

/-- Whether the heartbeat claims another identity than the one assigned to the cluster. -/
def mismatches (heartbeat : Heartbeat) (cluster : Cluster) : Bool :=
  match Cluster.assignedId? cluster with
  | some assigned =>
      !heartbeat.cluster.clusterId.isEmpty && heartbeat.cluster.clusterId != assigned
  | none => false

def accept (heartbeat : Heartbeat) (cluster : Cluster) : HeartbeatResponse :=
  { ok := true
    cluster := { heartbeat.cluster with clusterId := (Cluster.assignedId? cluster).getD "" } }

/-- Takes in a heartbeat received at the given time. -/
def ingest (heartbeat : Heartbeat) (now : Instant) :
    Store.Access ClusterContent (Except Failure HeartbeatResponse) := do
  let identity := heartbeat.cluster
  match ← Store.find (some identity.namespace) identity.name with
  | .error failure => return .error failure
  | .ok none =>
      return .ok (heartbeat.reject
        ("cluster " ++ identity.namespace ++ "/" ++ identity.name ++ " is not registered"))
  | .ok (some cluster) =>
      if heartbeat.mismatches cluster then
        return .ok (heartbeat.reject "cluster ID does not match the registered cluster")
      else
        match ← Store.persistStatus (heartbeat.applyTo now cluster) with
        | .error failure => return .error failure
        | .ok _ => return .ok (heartbeat.accept cluster)

end Fleet.Heartbeat
