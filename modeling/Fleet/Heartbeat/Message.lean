import Fleet.Json.Shape

namespace Fleet

structure GroupVersionKind where
  group : String := ""
  version : String
  kind : String
  deriving DecidableEq, Repr

namespace GroupVersionKind

def toJson (gvk : GroupVersionKind) : Json :=
  .object [("group", .string gvk.group), ("version", .string gvk.version),
    ("kind", .string gvk.kind)]

def ofJson? (record : Json) : Option GroupVersionKind := do
  guard (record.isRecord ["group", "version", "kind"] 0)
  let group ← Json.defaulted "" Json.text? (record.field? 0 "group")
  let version ← Json.required Json.text? (record.field? 1 "version")
  let kind ← Json.required Json.text? (record.field? 2 "kind")
  return { group, version, kind }

def shape : Json.Shape :=
  .recordOf ofJson? [("group", .text), ("version", .text), ("kind", .text)]

end GroupVersionKind

/-- The registered cluster that a message is about. The identity is empty on first contact. -/
structure ClusterIdentity where
  «namespace» : String
  name : String
  clusterId : String := ""
  deriving DecidableEq, Repr

namespace ClusterIdentity

def toJson (identity : ClusterIdentity) : Json :=
  .object [("namespace", .string identity.namespace), ("name", .string identity.name),
    ("clusterId", .string identity.clusterId)]

def ofJson? (record : Json) : Option ClusterIdentity := do
  guard (record.isRecord ["namespace", "name", "clusterId"] 0)
  let ns ← Json.required Json.text? (record.field? 0 "namespace")
  let name ← Json.required Json.text? (record.field? 1 "name")
  let clusterId ← Json.defaulted "" Json.text? (record.field? 2 "clusterId")
  return { «namespace» := ns, name, clusterId }

def shape : Json.Shape :=
  .recordOf ofJson? [("namespace", .text), ("name", .text), ("clusterId", .text)]

end ClusterIdentity

/-- A condition in the agent's words. -/
structure ReportedCondition where
  type : String
  status : String
  reason : String := ""
  message : String := ""
  deriving DecidableEq, Repr

namespace ReportedCondition

def toJson (condition : ReportedCondition) : Json :=
  .object [("type", .string condition.type), ("status", .string condition.status),
    ("reason", .string condition.reason), ("message", .string condition.message)]

def ofJson? (record : Json) : Option ReportedCondition := do
  guard (record.isRecord ["type", "status", "reason", "message"] 0)
  let type ← Json.required Json.text? (record.field? 0 "type")
  let status ← Json.required Json.text? (record.field? 1 "status")
  let reason ← Json.defaulted "" Json.text? (record.field? 2 "reason")
  let message ← Json.defaulted "" Json.text? (record.field? 3 "message")
  return { type, status, reason, message }

def shape : Json.Shape :=
  .recordOf ofJson?
    [("type", .text), ("status", .text), ("reason", .text), ("message", .text)]

end ReportedCondition

structure ResourceReport where
  gvk : GroupVersionKind
  resource : String
  conditions : List ReportedCondition := []
  resourceVersion : String := ""
  deriving DecidableEq, Repr

namespace ResourceReport

def failing? (report : ResourceReport) : Option ReportedCondition :=
  report.conditions.find? fun condition => condition.status == "False"

def toJson (report : ResourceReport) : Json :=
  .ofMembers [("gvk", some report.gvk.toJson), ("resource", some (.string report.resource)),
    ("conditions",
      if report.conditions.isEmpty then none
      else some (.array (report.conditions.map ReportedCondition.toJson))),
    ("resourceVersion", some (.string report.resourceVersion))]

def fields : List String := ["gvk", "resource", "conditions", "resourceVersion"]

def ofJson? (record : Json) : Option ResourceReport := do
  guard (record.isRecord fields 0)
  let gvk ← Json.required GroupVersionKind.ofJson? (record.field? 0 "gvk")
  let resource ← Json.required Json.text? (record.field? 1 "resource")
  let conditions ←
    Json.defaulted [] (Json.listOf? ReportedCondition.ofJson?) (record.field? 2 "conditions")
  let resourceVersion ← Json.defaulted "" Json.text? (record.field? 3 "resourceVersion")
  return { gvk, resource, conditions, resourceVersion }

def shape : Json.Shape :=
  .recordOf ofJson?
    [("gvk", GroupVersionKind.shape), ("resource", .text),
      ("conditions", .list ReportedCondition.shape), ("resourceVersion", .text)]

end ResourceReport

structure CommandResult where
  ok : Bool
  message : String := ""
  deriving DecidableEq, Repr

namespace CommandResult

def toJson (result : CommandResult) : Json :=
  .object [("ok", .bool result.ok), ("message", .string result.message)]

def ofJson? (record : Json) : Option CommandResult := do
  guard (record.isRecord ["ok", "message"] 0)
  let ok ← Json.required Json.boolean? (record.field? 0 "ok")
  let message ← Json.defaulted "" Json.text? (record.field? 1 "message")
  return { ok, message }

def shape : Json.Shape := .recordOf ofJson? [("ok", .boolean), ("message", .text)]

end CommandResult

inductive CommandType where
  | apply
  | delete
  deriving DecidableEq, Repr

instance : Enumeration CommandType where
  all := [.apply, .delete]
  name
    | .apply => "APPLY"
    | .delete => "DELETE"

structure Command where
  type : CommandType
  gvk : GroupVersionKind
  resource : String
  content : String := ""
  deriving DecidableEq, Repr

namespace Command

def toJson (command : Command) : Json :=
  .object [("type", .ofEnumeration command.type), ("gvk", command.gvk.toJson),
    ("resource", .string command.resource), ("content", .string command.content)]

def ofJson? (record : Json) : Option Command := do
  guard (record.isRecord ["type", "gvk", "resource", "content"] 0)
  let type ← Json.required Json.enumeration? (record.field? 0 "type")
  let gvk ← Json.required GroupVersionKind.ofJson? (record.field? 1 "gvk")
  let resource ← Json.required Json.text? (record.field? 2 "resource")
  let content ← Json.defaulted "" Json.text? (record.field? 3 "content")
  return { type, gvk, resource, content }

end Command

/-- What an agent sends every few seconds. `time` is the agent's own clock. -/
structure Heartbeat where
  cluster : ClusterIdentity
  resources : List ResourceReport := []
  commandResult : Option CommandResult := none
  time : Int64
  deriving DecidableEq, Repr

namespace Heartbeat

def toJson (heartbeat : Heartbeat) : Json :=
  .ofMembers [("cluster", some heartbeat.cluster.toJson),
    ("resources",
      if heartbeat.resources.isEmpty then none
      else some (.array (heartbeat.resources.map ResourceReport.toJson))),
    ("commandResult", heartbeat.commandResult.map CommandResult.toJson),
    ("time", some (.integer heartbeat.time.toInt))]

def fields : List String := ["cluster", "resources", "commandResult", "time"]

def ofJson? (record : Json) : Option Heartbeat := do
  guard (record.isRecord fields 0)
  let cluster ← Json.required ClusterIdentity.ofJson? (record.field? 0 "cluster")
  let resources ←
    Json.defaulted [] (Json.listOf? ResourceReport.ofJson?) (record.field? 1 "resources")
  let commandResult ← Json.optional CommandResult.ofJson? (record.field? 2 "commandResult")
  let time ← Json.required Json.int64? (record.field? 3 "time")
  return { cluster, resources, commandResult, time }

def shape : Json.Shape :=
  .recordOf ofJson?
    [("cluster", ClusterIdentity.shape), ("resources", .list ResourceReport.shape),
      ("commandResult", .optional CommandResult.shape), ("time", .int64)]

def decoder : Json.Decoder Heartbeat := ⟨shape, ofJson?⟩

end Heartbeat

/-- The answer to a heartbeat. The identity is the one the agent should use from now on. -/
structure HeartbeatResponse where
  ok : Bool
  message : String := ""
  cluster : ClusterIdentity
  command : Option Command := none
  deriving DecidableEq, Repr

namespace HeartbeatResponse

def toJson (response : HeartbeatResponse) : Json :=
  .ofMembers [("ok", some (.bool response.ok)), ("message", some (.string response.message)),
    ("cluster", some response.cluster.toJson), ("command", response.command.map Command.toJson)]

def ofJson? (record : Json) : Option HeartbeatResponse := do
  guard (record.isRecord ["ok", "message", "cluster", "command"] 0)
  let ok ← Json.required Json.boolean? (record.field? 0 "ok")
  let message ← Json.defaulted "" Json.text? (record.field? 1 "message")
  let cluster ← Json.required ClusterIdentity.ofJson? (record.field? 2 "cluster")
  let command ← Json.optional Command.ofJson? (record.field? 3 "command")
  return { ok, message, cluster, command }

end HeartbeatResponse

end Fleet
