namespace Fleet

inductive Severity where
  | normal
  | warning
  deriving DecidableEq, Repr

namespace Severity

def name : Severity → String
  | .normal => "Normal"
  | .warning => "Warning"

end Severity

structure Event where
  severity : Severity
  reason : String
  message : String
  deriving DecidableEq, Repr

namespace Event

def action : String := "Reconcile"

def created : String := "Created"

def unhealthy : String := "Unhealthy"

def unexpected : String := "Unexpected"

def validation : String := "Validation"

def stateChange : String := "StateChange"

/-- The external addresses of an ingress are known. -/
def discoverExternalIp : String := "DiscoverExternalIp"

/-- The ingress does not expose exactly one port. -/
def noIngressPortFound : String := "NoIngressPortFound"

/-- The protocol has no credentials. -/
def noIngressConfig : String := "NoIngressConfig"

def normal (reason message : String) : Event := ⟨.normal, reason, message⟩

def warning (reason message : String) : Event := ⟨.warning, reason, message⟩

end Event

/-- A notification that an object has been deleted. -/
inductive LifecycleEvent where
  | clusterDeleted («namespace» name : String) (clusterId : Option String)
  | experimentDeleted («namespace» name : String)
  deriving DecidableEq, Repr

end Fleet
