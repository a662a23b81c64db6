import Fleet.Event
import Fleet.Server.Exchange

/-!
Publishing events on the API server. An event that repeats one published a short while ago does
not become a new one: the earlier one is amended to tell how often and when it was last observed.
Whether publishing succeeds is nobody's concern.
-/

namespace Fleet.Server

/-- What makes two events the same: their messages may differ. -/
structure Topic where
  severity : Severity
  reason : String
  regarding : ObjectReference
  deriving DecidableEq, Repr

/-- How often an event was observed, and when last. -/
structure Series where
  count : Nat
  lastObserved : Instant
  deriving DecidableEq, Repr

structure EventRecord where
  controller : String
  time : Instant
  event : Event
  regarding : ObjectReference
  series : Option Series := none
  deriving DecidableEq, Repr

namespace EventRecord

/-- The number that tells events apart: nanoseconds since the start of 1970, or seconds where
those do not fit, as 64 bits in two's complement. -/
def stamp (time : Instant) : Nat :=
  let fits :=
    Int64.minValue.toInt ≤ time.nanoseconds && time.nanoseconds ≤ Int64.maxValue.toInt
  (Int64.ofInt (if fits then time.nanoseconds else time.second)).toUInt64.toNat

def name (record : EventRecord) : String :=
  record.regarding.name.getD record.controller ++ "." ++ Text.hexText (stamp record.time)

def place (record : EventRecord) : String := record.regarding.namespace.getD "default"

def lastObserved (record : EventRecord) : Instant :=
  match record.series with
  | some series => series.lastObserved
  | none => record.time

def apiVersion : String := "events.k8s.io/v1"

def title : String := "Event"

def collection (record : EventRecord) : String :=
  collectionAt (root apiVersion) (some record.place) "events"

def seriesJson (series : Series) : Json :=
  .object [("count", .integer series.count),
    ("lastObservedTime", .string (Timestamp.writeMicro series.lastObserved))]

def toJson (record : EventRecord) : Json :=
  .ofMembers [("apiVersion", some (.string apiVersion)), ("kind", some (.string title)),
    ("action", some (.string Event.action)),
    ("eventTime", some (.string (Timestamp.writeMicro record.time))),
    ("metadata", some (.ofMembers [("name", some (.string record.name)),
      ("namespace", record.regarding.namespace.map .string)])),
    ("note", some (.string record.event.message)),
    ("reason", some (.string record.event.reason)),
    ("regarding", some record.regarding.toJson),
    ("reportingController", some (.string record.controller)),
    ("reportingInstance", some (.string record.controller)),
    ("series", record.series.map seriesJson),
    ("type", some (.string record.event.severity.name))]

def sourceShape : Json.Shape := .formOf [("component", .text), ("host", .text)]

/-- What a stored series looks like; it tells when the event was last observed. -/
def seriesShape : Json.Shape :=
  .refined (.formOf [("count", .int32), ("lastObservedTime", Metadata.timeShape)]) fun form =>
    (form.entry? "lastObservedTime").isSome

/-- The fields of a stored event besides its version, its kind and its metadata. -/
def fields : List (String × Json.Shape) :=
  [("action", .text), ("deprecatedCount", .int32),
    ("deprecatedFirstTimestamp", Metadata.timeShape),
    ("deprecatedLastTimestamp", Metadata.timeShape), ("deprecatedSource", sourceShape),
    ("eventTime", Metadata.timeShape), ("note", .text), ("reason", .text),
    ("regarding", ObjectReference.shape), ("related", ObjectReference.shape),
    ("reportingController", .text), ("reportingInstance", .text), ("series", seriesShape),
    ("type", .text)]

def shape : Json.Shape :=
  .form ([("apiVersion", .exactly apiVersion), ("kind", .exactly title),
    ("metadata", .optional Metadata.shape)] ++
    fields.map fun (name, shape) => (name, .optional shape))

def readStored (text : String) : Except Json.Fault Unit := (shape.readText text).map fun _ => ()

end EventRecord

/-- Publishes events for a controller and remembers what it has published. -/
structure Recorder where
  controller : String
  remembered : List (Topic × EventRecord) := []

namespace Recorder

/-- How many seconds a published event is remembered. -/
def memory : Nat := 360

/-- When an event is forgotten; there is no such time if it lies beyond the calendar. -/
def expiry? (record : EventRecord) : Option Instant := record.lastObserved.later? memory

/-- Forgets the events that were last observed too long ago. This fails if the expiry of one of
them is beyond the calendar. -/
def forget? (recorder : Recorder) (now : Instant) : Option Recorder := do
  let remembered ← recorder.remembered.filterMapM fun (topic, record) => do
    let expiry ← expiry? record
    return if now.isBefore expiry then some (topic, record) else none
  return { recorder with remembered }

/-- Remembers an event as the latest on its topic. -/
def remember (recorder : Recorder) (topic : Topic) (record : EventRecord) : Recorder :=
  { recorder with
    remembered := (topic, record) :: recorder.remembered.filter fun entry => entry.1 ≠ topic }

/-- The event to publish: a new one, or the remembered one observed once more. -/
def next (recorder : Recorder) (topic : Topic) (event : Event) (now : Instant) : EventRecord :=
  match recorder.remembered.lookup topic with
  | some record =>
      let count :=
        match record.series with
        | some series => series.count + 1
        | none => 2
      { record with series := some { count, lastObserved := now } }
  | none => { controller := recorder.controller, time := now, event, regarding := topic.regarding }

def submit (record : EventRecord) : Attempt String :=
  match record.series with
  | none => send "POST" (record.collection ++ "?") (some record.toJson)
  | some _ => send "PATCH" (record.collection ++ "/" ++ record.name ++ "?") (some record.toJson)

/-- Publishes an event. It is remembered only if the server has taken it. Nothing is published
once a remembered event cannot expire. -/
def publish (recorder : Recorder) (regarding : ObjectReference) (event : Event)
    (now : Instant) : Exchange (Option Recorder) :=
  match recorder.forget? now with
  | none => .done none
  | some recorder => do
      let topic := { severity := event.severity, reason := event.reason, regarding }
      let record := recorder.next topic event now
      match decoded EventRecord.readStored (← submit record) with
      | .ok () => return some (recorder.remember topic record)
      | .error _ => return some recorder

end Recorder

end Fleet.Server
