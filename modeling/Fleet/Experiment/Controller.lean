import Fleet.Cluster.Controller
import Fleet.Experiment.Connection
import Fleet.Experiment.DataVolume
import Fleet.Experiment.Ingress
import Fleet.Experiment.Workload

/-!
One pass of the experiment controller: it fetches everything the experiment depends on, brings
volume, ingress and workload to their expected form in this order, and derives the status. A
failing step does not stop the later ones; the first failure becomes that of the pass once events
and status have been written.
-/

namespace Fleet.Experiment

def controllerName : String := "cloudengine-experiment-controller"

def deletedEvent (experiment : Experiment) : LifecycleEvent :=
  .experimentDeleted (experiment.metadata.namespace.getD "") experiment.name

def greet (draft : StatusDraft) (now : Instant) : StatusDraft :=
  if draft.status.conditions.isTrue .initialized then draft
  else
    let status := setCondition .initialized .true_ "" now (setPhase .created draft.status)
    { draft with status }.addEvent (.normal Event.created "init experiment")

def runSteps (settings : Settings) (draft : StatusDraft) : Pass (StatusDraft × Outcome) := do
  let now ← Pass.clock
  let draft := greet draft now
  match ← resolve draft.observed with
  | .error failure =>
      return (draft.addEvent (.warning Event.unexpected failure.message),
        Outcome.empty.withFailure "resolve" failure)
  | .ok dependents =>
      let progress ← reconcileData settings { draft, dependents, outcome := .empty }
      let progress ← reconcileIngress progress
      let progress ← reconcileWorkload settings progress
      return (updateConnection progress.draft progress.dependents now, progress.outcome)

/-- Publishes the events of a pass and writes the status back if it has changed. -/
def conclude (draft : StatusDraft) (outcome : Outcome) : Pass Outcome := do
  let change := draft.finish
  Pass.publishAll (Kind.experiment.reference draft.observed) change.events
  match change.persist with
  | none => return outcome
  | some updated =>
      match ← Pass.on .experiment (Store.persistStatus updated) with
      | .ok _ => return outcome
      | .error failure => return outcome.withFailure "persist-status" failure

/-- One pass over an experiment. An experiment that is being deleted is only reported. -/
def reconcile (settings : Settings) (experiment : Experiment) :
    Pass (Except Failure Action) := do
  if experiment.metadata.deletionTimestamp.isSome then
    Pass.notify (deletedEvent experiment)
    return .ok .awaitChange
  else
    let (draft, outcome) ← runSteps settings (.start experiment)
    return (← conclude draft outcome).aggregate settings.requeueSoon

end Fleet.Experiment
