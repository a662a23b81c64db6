import Fleet.Condition.Ledger
import Fleet.Experiment.Template

namespace Fleet

inductive ExperimentConditionType where
  /-- The controller has seen the experiment. -/
  | initialized
  /-- The workload pod is ready. -/
  | podReady
  /-- The data volume and its claim exist. -/
  | volumeCreated
  /-- The pod is ready and its volume exists. -/
  | ready
  deriving DecidableEq, Repr

instance : Enumeration ExperimentConditionType where
  all := [.initialized, .podReady, .volumeCreated, .ready]
  name
    | .initialized => "Initialized"
    | .podReady => "PodReady"
    | .volumeCreated => "VolumeCreated"
    | .ready => "Ready"

inductive ExperimentPhase where
  /-- The workload is not ready yet. -/
  | created
  /-- The workload is ready. -/
  | running
  /-- The user has paused the experiment. -/
  | stopped
  /-- The workload stopped being ready after it had been running. -/
  | error
  deriving DecidableEq, Repr

instance : Enumeration ExperimentPhase where
  all := [.created, .running, .stopped, .error]
  name
    | .created => "Created"
    | .running => "Running"
    | .stopped => "Stopped"
    | .error => "Error"

/-- What the user asks for. Template and cluster are in the experiment's namespace. -/
structure ExperimentSpec where
  pause : Bool := false
  template : String
  clusterName : String
  deriving DecidableEq, Repr

namespace ExperimentSpec

def toJson (spec : ExperimentSpec) : Json :=
  .object [("pause", .bool spec.pause), ("template", .string spec.template),
    ("clusterName", .string spec.clusterName)]

def ofJson? (record : Json) : Option ExperimentSpec := do
  guard (record.isRecord ["pause", "template", "clusterName"] 0)
  let pause ← Json.defaulted false Json.boolean? (record.field? 0 "pause")
  let template ← Json.required Json.text? (record.field? 1 "template")
  let clusterName ← Json.required Json.text? (record.field? 2 "clusterName")
  return { pause, template, clusterName }

def shape : Json.Shape :=
  .recordOf ofJson? [("pause", .boolean), ("template", .text), ("clusterName", .text)]

end ExperimentSpec

/-- What the controller reports about an experiment: its phase, its conditions, and how its user
can connect. -/
structure ExperimentStatus where
  phase : ExperimentPhase := .created
  cluster : String := ""
  clusterSync : Bool := false
  conditions : Ledger ExperimentConditionType := .empty
  ingressIPs : List String := []
  ingressPort : Option Int32 := none
  protocol : Option String := none
  vnc : Option VncConfig := none
  ssh : Option SshConfig := none
  deriving DecidableEq, Repr

namespace ExperimentStatus

instance : Inhabited ExperimentStatus := ⟨{}⟩

def toJson (status : ExperimentStatus) : Json :=
  .ofMembers [("status", some (.ofEnumeration status.phase)),
    ("cluster", if status.cluster.isEmpty then none else some (.string status.cluster)),
    ("clusterSync", some (.bool status.clusterSync)),
    ("conditions", some status.conditions.toJson),
    ("ingressIPs",
      if status.ingressIPs.isEmpty then none else some (.ofTexts status.ingressIPs)),
    ("ingressPort", status.ingressPort.map fun port => .integer port.toInt),
    ("protocol", status.protocol.map .string), ("vnc", status.vnc.map VncConfig.toJson),
    ("ssh", status.ssh.map SshConfig.toJson)]

def fields : List String :=
  ["status", "cluster", "clusterSync", "conditions", "ingressIPs", "ingressPort", "protocol",
    "vnc", "ssh"]

def ofJson? (record : Json) : Option ExperimentStatus := do
  guard (record.isRecord fields 0)
  let phase ← Json.defaulted .created Json.enumeration? (record.field? 0 "status")
  let cluster ← Json.defaulted "" Json.text? (record.field? 1 "cluster")
  let clusterSync ← Json.defaulted false Json.boolean? (record.field? 2 "clusterSync")
  let conditions ← Json.defaulted .empty Ledger.ofJson? (record.field? 3 "conditions")
  let ingressIPs ← Json.defaulted [] (Json.listOf? Json.text?) (record.field? 4 "ingressIPs")
  let ingressPort ← Json.optional Json.int32? (record.field? 5 "ingressPort")
  let protocol ← Json.optional Json.text? (record.field? 6 "protocol")
  let vnc ← Json.optional VncConfig.ofJson? (record.field? 7 "vnc")
  let ssh ← Json.optional SshConfig.ofJson? (record.field? 8 "ssh")
  return { phase, cluster, clusterSync, conditions, ingressIPs, ingressPort, protocol, vnc, ssh }

def shape : Json.Shape :=
  .recordOf ofJson?
    [("status", .named ExperimentPhase), ("cluster", .text), ("clusterSync", .boolean),
      ("conditions", Ledger.shape ExperimentConditionType), ("ingressIPs", .texts),
      ("ingressPort", .optional .int32), ("protocol", .optional .text),
      ("vnc", .optional VncConfig.shape), ("ssh", .optional SshConfig.shape)]

end ExperimentStatus

abbrev ExperimentContent := Managed ExperimentSpec ExperimentStatus

abbrev Experiment := Object ExperimentContent

end Fleet
