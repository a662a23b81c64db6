import Fleet.Experiment.Naming
import Fleet.Pass.Basic
import Fleet.Pass.Draft
import Fleet.Pass.Outcome
import Fleet.Settings

namespace Fleet.Experiment

structure Dependents where
  cluster : Cluster
  template : Template
  pods : List Pod
  volume : Option Volume
  claim : Option Claim
  ingress : Option Service

def ingressName (experiment : Experiment) (template : Template) : String :=
  serviceName experiment.name template.content.protocolName

def require (kind : Kind) (ns : Option String) (name : String) :
    Pass (Except Failure (Object kind.Content)) := do
  match ← Pass.on kind (Store.find ns name) with
  | .error failure => return .error failure
  | .ok none => return .error (.dependencyMissing kind.title name)
  | .ok (some found) => return .ok found

/-- Fetches the objects that belong to an experiment, which may be absent. -/
def resolveOwned (experiment : Experiment) (cluster : Cluster) (template : Template)
    (volumeName : String) : Pass (Except Failure Dependents) := do
  let ns := experiment.metadata.namespace
  match ← Pass.on .volume (Store.find none volumeName) with
  | .error failure => return .error failure
  | .ok volume =>
      match ← Pass.on .claim (Store.find ns (claimName experiment)) with
      | .error failure => return .error failure
      | .ok claim =>
          match ← Pass.on .service (Store.find ns (ingressName experiment template)) with
          | .error failure => return .error failure
          | .ok ingress =>
              match ← Pass.on .pod (Store.list ns (some (selector experiment))) with
              | .error failure => return .error failure
              | .ok pods => return .ok { cluster, template, pods, volume, claim, ingress }

/-- Fetches everything an experiment depends on and everything made for it. Cluster and template
have to exist. -/
def resolve (experiment : Experiment) : Pass (Except Failure Dependents) := do
  let ns := experiment.metadata.namespace
  match ← require .cluster ns experiment.spec.clusterName with
  | .error failure => return .error failure
  | .ok cluster =>
      match ← require .template ns experiment.spec.template with
      | .error failure => return .error failure
      | .ok template =>
          match volumeName experiment with
          | .error failure => return .error failure
          | .ok volumeName => resolveOwned experiment cluster template volumeName

abbrev StatusDraft := Draft ExperimentSpec ExperimentStatus

structure Progress where
  draft : StatusDraft
  dependents : Dependents
  outcome : Outcome

namespace Progress

abbrev experiment (progress : Progress) : Experiment := progress.draft.observed

def addEvent (progress : Progress) (event : Event) : Progress :=
  { progress with draft := progress.draft.addEvent event }

def withStep {α : Type} (progress : Progress) (step : String) (result : Except Failure α) :
    Progress :=
  { progress with outcome := progress.outcome.withStep step (result.map fun _ => .none_) }

def updateStatus (progress : Progress) (change : ExperimentStatus → ExperimentStatus) :
    Progress :=
  { progress with draft := { progress.draft with status := change progress.draft.status } }

end Progress

def setPhase (phase : ExperimentPhase) (status : ExperimentStatus) : ExperimentStatus :=
  { status with phase }

def setCondition (type : ExperimentConditionType) (value : ConditionStatus) (reason : String)
    (now : Instant) (status : ExperimentStatus) : ExperimentStatus :=
  { status with conditions := status.conditions.set type value reason "" now }

def ensureCondition (type : ExperimentConditionType) (value : ConditionStatus)
    (reason message : String) (now : Instant) (status : ExperimentStatus) : ExperimentStatus :=
  { status with conditions := status.conditions.ensure type value reason message now }

end Fleet.Experiment
