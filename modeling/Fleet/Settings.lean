import Fleet.Failure
import Fleet.Network.SocketAddress
import Fleet.Time.Delay

namespace Fleet

structure MetaClusterSettings where
  enabled : Bool := true
  name : String := "meta-cluster"
  «namespace» : String := "default"
  timeout : Delay := .ofSeconds 60
  deriving DecidableEq, Repr

structure DataVolumeSettings where
  /-- The host directory that holds a directory for each experiment. -/
  hostPath : String := "/opt/open-hackathon/cloud-engine/data"
  capacity : String := "10Gi"
  mountPath : String := "/data"
  deriving DecidableEq, Repr

structure Settings where
  /-- The heartbeat timeout of clusters that set none. -/
  heartbeatTimeout : Delay := .ofSeconds 30
  /-- The interval that agents are told to send heartbeats at. -/
  heartbeatInterval : Delay := .ofSeconds 10
  /-- The delay that asking for another pass soon stands for. -/
  requeueSoon : Delay := .ofSeconds 1
  /-- The delay before a failed pass is repeated. -/
  errorBackoff : Delay := .ofSeconds 5
  metaCluster : MetaClusterSettings := {}
  /-- Where heartbeats are received. -/
  heartbeatAddress : SocketAddress := .everywhere 8081
  dataVolume : DataVolumeSettings := {}
  deriving DecidableEq, Repr

namespace Settings

/-- Refuses settings that the controllers cannot work with. -/
def validate (settings : Settings) : Except Failure Unit :=
  if settings.heartbeatTimeout.nanoseconds == 0 then
    .error (.configuration "config" "heartbeat timeout must be positive")
  else if settings.heartbeatTimeout.nanoseconds ≤ settings.heartbeatInterval.nanoseconds then
    .error (.configuration "config"
      "heartbeat interval must be shorter than the heartbeat timeout")
  else if settings.metaCluster.enabled && settings.metaCluster.name.isEmpty then
    .error (.configuration "config" "meta cluster name is empty")
  else if settings.dataVolume.mountPath.toList.head? != some '/' then
    .error (.configuration "config"
      ("mount path " ++ settings.dataVolume.mountPath ++ " is not absolute"))
  else .ok ()

end Settings

end Fleet
