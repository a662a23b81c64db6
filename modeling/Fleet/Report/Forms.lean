import Fleet.Experiment.Progress
import Fleet.Json.Decode
import Fleet.Lifecycle.Bus
import Fleet.Object.Kind
import Fleet.Pass.Draft
import Fleet.Pass.Outcome
import Fleet.Rehearsal.World
import Fleet.Resource.Convergence
import Fleet.Settings

namespace Fleet

namespace Delay

def toJson (delay : Delay) : Json :=
  .array [.integer delay.seconds.toNat, .integer delay.subsecond]

/-- Reads a delay; there are fewer than a second's worth of nanoseconds. -/
def ofJson? : Json → Option Delay
  | .array [seconds, nanoseconds] => do
      let seconds ← seconds.uint64?
      let nanoseconds ← nanoseconds.uint64?
      if h : nanoseconds.toNat < Instant.nanosecondsPerSecond then
        some (ofParts seconds nanoseconds.toNat h)
      else none
  | _ => none

end Delay

namespace Json

def ofDelay? (delay : Option Delay) : Json := (delay.map Delay.toJson).getD .null

/-- The text of a member, empty unless it is a text. -/
def textAt (name : String) (form : Json) : String := ((form.member? name).bind text?).getD ""

def textAt? (name : String) (form : Json) : Option String := (form.member? name).bind text?

def itemsAt (name : String) (form : Json) : List Json :=
  match form.member? name with
  | some (.array items) => items
  | _ => []

/-- The texts in an array, leaving out what is no text. -/
def textsAt (name : String) (form : Json) : List String := (form.itemsAt name).filterMap text?

end Json

namespace Settings

def delayAt (name : String) (default : Delay) (form : Json) : Option Delay :=
  Json.defaulted default Delay.ofJson? (form.member? name)

def metaOfForm? (form : Json) : Option MetaClusterSettings := do
  let default : MetaClusterSettings := {}
  let timeout ← delayAt "timeout" default.timeout form
  return {
    enabled := ((form.member? "enabled").bind Json.boolean?).getD default.enabled
    name := (form.textAt? "name").getD default.name
    «namespace» := (form.textAt? "namespace").getD default.namespace
    timeout }

def dataOfForm (form : Json) : DataVolumeSettings :=
  let default : DataVolumeSettings := {}
  { hostPath := (form.textAt? "hostPath").getD default.hostPath
    capacity := (form.textAt? "capacity").getD default.capacity
    mountPath := (form.textAt? "mountPath").getD default.mountPath }

def ofForm? (form : Json) : Option Settings := do
  let default : Settings := {}
  let heartbeatTimeout ← delayAt "heartbeatTimeout" default.heartbeatTimeout form
  let heartbeatInterval ← delayAt "heartbeatInterval" default.heartbeatInterval form
  let requeueSoon ← delayAt "requeueSoon" default.requeueSoon form
  let errorBackoff ← delayAt "errorBackoff" default.errorBackoff form
  let heartbeatAddress ←
    Json.defaulted default.heartbeatAddress (fun value => value.text?.bind SocketAddress.ofText?)
      (form.member? "heartbeatAddr")
  let metaCluster ← metaOfForm? ((form.member? "meta").getD .null)
  let dataVolume := dataOfForm ((form.member? "data").getD .null)
  return { heartbeatTimeout, heartbeatInterval, requeueSoon, errorBackoff, metaCluster,
           heartbeatAddress, dataVolume }

def toForm (settings : Settings) : Json :=
  .object [("heartbeatTimeout", settings.heartbeatTimeout.toJson),
    ("heartbeatInterval", settings.heartbeatInterval.toJson),
    ("requeueSoon", settings.requeueSoon.toJson),
    ("errorBackoff", settings.errorBackoff.toJson),
    ("heartbeatAddr", .string settings.heartbeatAddress.toText),
    ("meta", .object [("enabled", .bool settings.metaCluster.enabled),
      ("name", .string settings.metaCluster.name),
      ("namespace", .string settings.metaCluster.namespace),
      ("timeout", settings.metaCluster.timeout.toJson)]),
    ("data", .object [("hostPath", .string settings.dataVolume.hostPath),
      ("capacity", .string settings.dataVolume.capacity),
      ("mountPath", .string settings.dataVolume.mountPath)])]

end Settings

namespace Failure

def variantName : Failure → String
  | .server _ => "Kube"
  | .notFound .. => "NotFound"
  | .conflict .. => "Conflict"
  | .alreadyExists .. => "AlreadyExists"
  | .configuration .. => "Configuration"
  | .dependencyMissing .. => "DependencyMissing"
  | .serialization _ => "Serialization"
  | .internal .. => "Internal"

def serverPart : Failure → List (String × Option Json)
  | .server (.response status message reason code) =>
      [("api", some (.object [("status", .string status), ("message", .string message),
        ("reason", .string reason), ("code", .integer code)]))]
  | .server (.transport _) => []
  | failure => [("message", some (.string failure.message))]

def toForm (failure : Failure) : Json :=
  .ofMembers ([("error", some (.string failure.variantName)),
    ("retryable", some (.bool failure.isRetryable)),
    ("notFound", some (.bool failure.isNotFound)),
    ("conflict", some (.bool failure.isConflict))] ++ failure.serverPart)

/-- The text of a failure on the way to the server. -/
def lostLine : String := "Error finding newline character"

def serverOfForm? (form : Json) : Option ServerFailure :=
  match form.member? "code" with
  | none => some (.transport lostLine)
  | some code => do
      let code ← code.nat16?
      return .response ((form.textAt? "status").getD "Failure") (form.textAt "message")
        (form.textAt "reason") code

inductive Reading where
  | failure (failure : Failure)
  /-- The variant is none of those there are. -/
  | unknownVariant
  /-- A part does not decode. -/
  | undecodable

def ofForm (form : Json) : Reading :=
  let kind := form.textAt "kind"
  let name := form.textAt "name"
  let message := form.textAt "message"
  let server (meaning : ServerFailure → Failure) : Reading :=
    match serverOfForm? form with
    | some cause => .failure (meaning cause)
    | none => .undecodable
  match form.textAt "variant" with
  | "NotFound" => .failure (.notFound kind name)
  | "Conflict" => .failure (.conflict kind name)
  | "AlreadyExists" => .failure (.alreadyExists kind name)
  | "DependencyMissing" => .failure (.dependencyMissing kind name)
  | "Configuration" => .failure (.configuration (form.textAt "context") message)
  | "Serialization" | "SerdeJson" => .failure (.serialization message)
  | "Internal" =>
      let context :=
        match form.member? "context" with
        | some _ => form.textAt "context"
        | none => unknownContext
      .failure (.internal context message)
  | "Kube" => server .server
  | "FromKube" => server (ofServer kind name)
  | _ => .unknownVariant

end Failure

namespace Event

def toForm (event : Event) : Json :=
  .object [("severity", .string event.severity.name), ("reason", .string event.reason),
    ("message", .string event.message)]

/-- Reads an event; whatever is no warning is normal. -/
def ofForm (form : Json) : Event :=
  { severity := if form.textAt "severity" == "Warning" then .warning else .normal
    reason := form.textAt "reason"
    message := form.textAt "message" }

end Event

namespace LifecycleEvent

def toForm : LifecycleEvent → Json
  | .clusterDeleted ns name clusterId =>
      .object [("type", .string "ClusterDeleted"), ("namespace", .string ns),
        ("name", .string name), ("clusterId", .textOrNull clusterId)]
  | .experimentDeleted ns name =>
      .object [("type", .string "ExperimentDeleted"), ("namespace", .string ns),
        ("name", .string name)]

/-- Reads a notification; whatever is not about a cluster is about an experiment. -/
def ofForm (form : Json) : LifecycleEvent :=
  if form.textAt "type" == "ClusterDeleted" then
    .clusterDeleted (form.textAt "namespace") (form.textAt "name") (form.textAt? "clusterId")
  else .experimentDeleted (form.textAt "namespace") (form.textAt "name")

end LifecycleEvent

namespace Delivery

def toForm : Delivery → Json
  | .event notification => notification.toForm
  | .empty => .string "empty"
  | .closed => .string "closed"
  | .lagged missed => .object [("lagged", .integer missed)]

end Delivery

namespace Action

def toForm : Action → Json
  | .awaitChange => .string "await_change"
  | .requeue delay => delay.toJson

end Action

namespace Preconditions

def toForm (preconditions : Preconditions) : Json :=
  .object [("uid", .textOrNull preconditions.uid),
    ("resourceVersion", .textOrNull preconditions.resourceVersion)]

def ofForm (form : Json) : Preconditions :=
  { uid := form.textAt? "uid", resourceVersion := form.textAt? "resourceVersion" }

end Preconditions

namespace Consultation

def toText : Consultation → String
  | .needRecreate => "recreate?"
  | .needUpdate => "update?"
  | .preCreate => "pre_create"
  | .preUpdate => "pre_update"
  | .postUpdate resourceVersion => "post_update " ++ resourceVersion.getD ""

end Consultation

namespace WriteCounts

def toForm (counts : WriteCounts) : Json :=
  .object [("creates", .integer counts.creates), ("replaces", .integer counts.replaces),
    ("statusWrites", .integer counts.statusWrites), ("deletes", .integer counts.deletes),
    ("conflicts", .integer counts.conflicts), ("total", .integer counts.total)]

end WriteCounts

namespace Rehearsal.Publication

def toForm (publication : Publication) : Json :=
  .object (publication.event.toForm.members ++
    [("action", .string Event.action), ("regarding", publication.regarding.toJson)])

end Rehearsal.Publication

namespace Experiment.Dependents

def keyOf {C : Type} (object : Option (Object C)) : Json :=
  .textOrNull (object.map Object.key)

def toForm (dependents : Dependents) : Json :=
  .object [("cluster", .string dependents.cluster.key),
    ("template", .string dependents.template.key),
    ("pods", .ofTexts (dependents.pods.map Object.key)), ("volume", keyOf dependents.volume),
    ("claim", keyOf dependents.claim), ("ingress", keyOf dependents.ingress)]

end Experiment.Dependents

end Fleet
