import Fleet.Settings

namespace Fleet.CommandLine

inductive Switch where
  /-- Print the definitions of the operator's kinds and exit. -/
  | definitions
  /-- Write the log as JSON. -/
  | logJson
  /-- Do not register the cluster that the operator runs in. -/
  | disableMetaCluster
  deriving DecidableEq, Repr

inductive Parameter where
  | kubeconfig
  | heartbeatTimeout
  | heartbeatInterval
  | requeueSoon
  | errorBackoff
  | metaClusterName
  | metaClusterNamespace
  | metaClusterTimeout
  | heartbeatAddress
  | dataHostPath
  | dataCapacity
  | dataMountPath
  deriving DecidableEq, Repr

inductive Argument where
  | switch (switch : Switch)
  | parameter (parameter : Parameter)
  deriving DecidableEq, Repr

namespace Argument

def all : List Argument :=
  [.switch .definitions, .switch .logJson, .parameter .kubeconfig, .parameter .heartbeatTimeout,
    .parameter .heartbeatInterval, .parameter .requeueSoon, .parameter .errorBackoff,
    .switch .disableMetaCluster, .parameter .metaClusterName, .parameter .metaClusterNamespace,
    .parameter .metaClusterTimeout, .parameter .heartbeatAddress, .parameter .dataHostPath,
    .parameter .dataCapacity, .parameter .dataMountPath]

/-- The name of an argument on the command line, after two dashes. -/
def name : Argument → String
  | .switch .definitions => "crd"
  | .switch .logJson => "log-json"
  | .switch .disableMetaCluster => "disable-meta-cluster"
  | .parameter .kubeconfig => "kubeconfig"
  | .parameter .heartbeatTimeout => "heartbeat-timeout-secs"
  | .parameter .heartbeatInterval => "heartbeat-interval-secs"
  | .parameter .requeueSoon => "requeue-soon-secs"
  | .parameter .errorBackoff => "error-backoff-secs"
  | .parameter .metaClusterName => "meta-cluster-name"
  | .parameter .metaClusterNamespace => "meta-cluster-namespace"
  | .parameter .metaClusterTimeout => "meta-cluster-timeout-secs"
  | .parameter .heartbeatAddress => "heartbeat-addr"
  | .parameter .dataHostPath => "data-host-path"
  | .parameter .dataCapacity => "data-capacity"
  | .parameter .dataMountPath => "data-mount-path"

def environmentName : Argument → Option String
  | .switch .definitions => none
  | .switch .logJson => some "CLOUDENGINE_LOG_JSON"
  | .switch .disableMetaCluster => some "CLOUDENGINE_DISABLE_META_CLUSTER"
  | .parameter .kubeconfig => some "KUBECONFIG"
  | .parameter .heartbeatTimeout => some "CLOUDENGINE_HEARTBEAT_TIMEOUT"
  | .parameter .heartbeatInterval => some "CLOUDENGINE_HEARTBEAT_INTERVAL"
  | .parameter .requeueSoon => some "CLOUDENGINE_REQUEUE_SOON"
  | .parameter .errorBackoff => some "CLOUDENGINE_ERROR_BACKOFF"
  | .parameter .metaClusterName => some "CLOUDENGINE_META_CLUSTER_NAME"
  | .parameter .metaClusterNamespace => some "CLOUDENGINE_META_CLUSTER_NAMESPACE"
  | .parameter .metaClusterTimeout => some "CLOUDENGINE_META_CLUSTER_TIMEOUT"
  | .parameter .heartbeatAddress => some "CLOUDENGINE_HEARTBEAT_ADDR"
  | .parameter .dataHostPath => some "CLOUDENGINE_DATA_HOST_PATH"
  | .parameter .dataCapacity => some "CLOUDENGINE_DATA_CAPACITY"
  | .parameter .dataMountPath => some "CLOUDENGINE_DATA_MOUNT_PATH"

def named? (name : String) : Option Argument := all.find? fun argument => argument.name == name

end Argument

inductive Refusal where
  | help
  | version
  /-- There is no such argument, or not in this place. -/
  | unknownArgument
  | unknownCommand
  /-- A value is missing, empty, or none of those allowed. -/
  | invalidValue
  /-- A value does not read as a number or an address. -/
  | unreadableValue
  | unexpectedValue
  | repeated
  deriving DecidableEq, Repr

inductive Command where
  | controller
  deriving DecidableEq, Repr

structure Choices where
  definitions : Bool := false
  logJson : Bool := false
  kubeconfig : Option String := none
  command : Option Command := none
  settings : Settings := {}
  deriving DecidableEq, Repr

namespace Choices

def maxSeconds : Nat := UInt64.size - 1

/-- Reads a number of seconds: decimal digits, perhaps after a plus sign. -/
def readSeconds (text : String) : Except Refusal Delay :=
  let digits :=
    match text.toList with
    | '+' :: digits => digits
    | digits => digits
  if digits.isEmpty || !digits.all Char.isDigit then .error .unreadableValue
  else
    let seconds := digits.foldl (fun value c => value * 10 + (c.toNat - '0'.toNat)) 0
    if seconds ≤ maxSeconds then .ok (.ofSeconds (.ofNat seconds)) else .error .unreadableValue

def readAddress (text : String) : Except Refusal SocketAddress :=
  match SocketAddress.ofText? text with
  | some address => .ok address
  | none => .error .unreadableValue

def readSwitch : String → Except Refusal Bool
  | "true" => .ok true
  | "false" => .ok false
  | _ => .error .invalidValue

def setSwitch (choices : Choices) (value : Bool) : Switch → Choices
  | .definitions => { choices with definitions := value }
  | .logJson => { choices with logJson := value }
  | .disableMetaCluster =>
      let metaCluster := { choices.settings.metaCluster with enabled := !value }
      { choices with settings := { choices.settings with metaCluster } }

def mapMeta (choices : Choices) (change : MetaClusterSettings → MetaClusterSettings) : Choices :=
  { choices with
    settings := { choices.settings with metaCluster := change choices.settings.metaCluster } }

def mapData (choices : Choices) (change : DataVolumeSettings → DataVolumeSettings) : Choices :=
  { choices with
    settings := { choices.settings with dataVolume := change choices.settings.dataVolume } }

def mapSettings (choices : Choices) (change : Settings → Settings) : Choices :=
  { choices with settings := change choices.settings }

def setParameter (choices : Choices) (text : String) : Parameter → Except Refusal Choices
  | .kubeconfig =>
      if text.isEmpty then .error .invalidValue else .ok { choices with kubeconfig := some text }
  | .heartbeatTimeout => do
      let heartbeatTimeout ← readSeconds text
      return choices.mapSettings fun settings => { settings with heartbeatTimeout }
  | .heartbeatInterval => do
      let heartbeatInterval ← readSeconds text
      return choices.mapSettings fun settings => { settings with heartbeatInterval }
  | .requeueSoon => do
      let requeueSoon ← readSeconds text
      return choices.mapSettings fun settings => { settings with requeueSoon }
  | .errorBackoff => do
      let errorBackoff ← readSeconds text
      return choices.mapSettings fun settings => { settings with errorBackoff }
  | .metaClusterName => .ok (choices.mapMeta fun settings => { settings with name := text })
  | .metaClusterNamespace =>
      .ok (choices.mapMeta fun settings => { settings with «namespace» := text })
  | .metaClusterTimeout => do
      let timeout ← readSeconds text
      return choices.mapMeta fun settings => { settings with timeout }
  | .heartbeatAddress => do
      let heartbeatAddress ← readAddress text
      return choices.mapSettings fun settings => { settings with heartbeatAddress }
  | .dataHostPath => .ok (choices.mapData fun settings => { settings with hostPath := text })
  | .dataCapacity => .ok (choices.mapData fun settings => { settings with capacity := text })
  | .dataMountPath => .ok (choices.mapData fun settings => { settings with mountPath := text })

def operatorSettings (choices : Choices) : Except Failure Settings :=
  choices.settings.validate.map fun () => choices.settings

end Choices

end Fleet.CommandLine
