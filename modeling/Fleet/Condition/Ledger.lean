import Fleet.Object.Metadata

/-!
Conditions and the ledgers that hold them. A ledger lists conditions of different types in the
order in which the types were first recorded. Recording a type again replaces its condition in
place, and the time of the last transition survives as long as the status stays the same.
-/

namespace Fleet

inductive ConditionStatus where
  | true_
  | false_
  | unknown
  deriving DecidableEq, Repr

namespace ConditionStatus

instance : Enumeration ConditionStatus where
  all := [.true_, .false_, .unknown]
  name
    | .true_ => "True"
    | .false_ => "False"
    | .unknown => "Unknown"

def ofBool (value : Bool) : ConditionStatus := if value then .true_ else .false_

end ConditionStatus

structure Condition (T : Type) where
  type : T
  status : ConditionStatus
  reason : String := ""
  message : String := ""
  lastProbeTime : Instant
  lastTransitionTime : Instant
  deriving DecidableEq, Repr

namespace Condition

variable {T : Type}

def at_ (type : T) (status : ConditionStatus) (reason message : String) (now : Instant) :
    Condition T :=
  { type, status, reason, message, lastProbeTime := now, lastTransitionTime := now }

def isTrue (condition : Condition T) : Bool := condition.status == .true_

variable [Enumeration T]

def toJson (condition : Condition T) : Json :=
  .object [("type", .ofEnumeration condition.type), ("status", .ofEnumeration condition.status),
    ("reason", .string condition.reason), ("message", .string condition.message),
    ("lastProbeTime", .string (Timestamp.write condition.lastProbeTime)),
    ("lastTransitionTime", .string (Timestamp.write condition.lastTransitionTime))]

def fields : List String :=
  ["type", "status", "reason", "message", "lastProbeTime", "lastTransitionTime"]

def ofJson? (record : Json) : Option (Condition T) := do
  guard (record.isRecord fields 0)
  let type ← Json.required Json.enumeration? (record.field? 0 "type")
  let status ← Json.required Json.enumeration? (record.field? 1 "status")
  let reason ← Json.defaulted "" Json.text? (record.field? 2 "reason")
  let message ← Json.defaulted "" Json.text? (record.field? 3 "message")
  let lastProbeTime ← Json.required Metadata.time? (record.field? 4 "lastProbeTime")
  let lastTransitionTime ← Json.required Metadata.time? (record.field? 5 "lastTransitionTime")
  return { type, status, reason, message, lastProbeTime, lastTransitionTime }

def shape (T : Type) [Enumeration T] : Json.Shape :=
  .recordOf (ofJson? (T := T))
    [("type", .named T), ("status", .named ConditionStatus), ("reason", .text),
      ("message", .text), ("lastProbeTime", Metadata.timeShape),
      ("lastTransitionTime", Metadata.timeShape)]

end Condition

/-- Conditions in the order in which their types were first recorded. A ledger that was read from
elsewhere may repeat a type; the first entry of a type is then the one that counts. -/
structure Ledger (T : Type) where
  conditions : List (Condition T) := []
  deriving DecidableEq, Repr

namespace Ledger

variable {T : Type}

def empty : Ledger T := ⟨[]⟩

instance : Inhabited (Ledger T) := ⟨empty⟩

variable [DecidableEq T]

def query (ledger : Ledger T) (type : T) : Option (Condition T) :=
  ledger.conditions.find? fun condition => condition.type = type

/-- Whether the condition of a type has the expected status. A type without a condition is never
true, and agrees with every other expectation. -/
def check (ledger : Ledger T) (type : T) (expected : ConditionStatus) : Bool :=
  match ledger.query type with
  | some condition => condition.status == expected
  | none => expected != .true_

def isTrue (ledger : Ledger T) (type : T) : Bool := ledger.check type .true_

/-- Puts a condition in the place of the first one of its type, or at the end. The transition time
of an unchanged status is kept. -/
def record (condition : Condition T) : List (Condition T) → List (Condition T)
  | [] => [condition]
  | existing :: rest =>
      if existing.type = condition.type then
        if existing.status = condition.status then
          { condition with lastTransitionTime := existing.lastTransitionTime } :: rest
        else condition :: rest
      else existing :: record condition rest

def upsert (ledger : Ledger T) (condition : Condition T) : Ledger T :=
  ⟨record condition ledger.conditions⟩

def set (ledger : Ledger T) (type : T) (status : ConditionStatus) (reason message : String)
    (now : Instant) : Ledger T :=
  ledger.upsert (.at_ type status reason message now)

/-- Whether the ledger already tells the same about a type. -/
def tells (ledger : Ledger T) (type : T) (status : ConditionStatus) (reason message : String) :
    Bool :=
  match ledger.query type with
  | some existing =>
      existing.status == status && existing.reason == reason && existing.message == message
  | none => false

/-- Records an observation unless the ledger already tells the same, so that repeating it changes
nothing, not even the times. -/
def ensure (ledger : Ledger T) (type : T) (status : ConditionStatus) (reason message : String)
    (now : Instant) : Ledger T :=
  if ledger.tells type status reason message then ledger
  else ledger.set type status reason message now

def collect (conditions : List (Condition T)) : Ledger T :=
  conditions.foldl upsert empty

omit [DecidableEq T]
variable [Enumeration T]

def toJson (ledger : Ledger T) : Json := .array (ledger.conditions.map Condition.toJson)

/-- Reads a ledger as it stands, repeated types included. -/
def ofJson? (value : Json) : Option (Ledger T) :=
  (Json.listOf? Condition.ofJson? value).map Ledger.mk

def shape (T : Type) [Enumeration T] : Json.Shape := .list (Condition.shape T)

end Ledger

end Fleet
