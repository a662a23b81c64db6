import Fleet.Cluster.Health
import Fleet.Pass.Basic

namespace Fleet

inductive PassResult where
  | finished (result : Except Failure Action)
  /-- The time of the next pass lies too far ahead to be scheduled. -/
  | overflow

namespace Cluster

def controllerName : String := "cloudengine-cluster-controller"

/-- Repeats the assigned identity in the annotations. Returns the cluster to go on with. -/
def stampId (cluster : Cluster) : Store.Access ClusterContent (Except Failure Cluster) :=
  match assignedId? cluster with
  | none => .done (.ok cluster)
  | some id =>
      if cluster.metadata.annotation? idAnnotation = some id then .done (.ok cluster)
      else
        Store.replace { cluster with metadata := cluster.metadata.annotate idAnnotation id }

def addWarnings (draft : StatusDraft) : StatusDraft :=
  draft.observed.spec.warnings.foldl
    (fun draft warning => draft.addEvent (.warning Event.validation warning)) draft

def deletedEvent (cluster : Cluster) : LifecycleEvent :=
  .clusterDeleted (cluster.metadata.namespace.getD "") cluster.name (assignedId? cluster)

/-- Publishes the events of a pass and writes the status back if it has changed. -/
def conclude (observed : Cluster) (judgement : Judgement) : Pass Outcome := do
  let change := judgement.draft.finish
  Pass.publishAll (Kind.cluster.reference observed) change.events
  match change.persist with
  | none => return judgement.outcome
  | some updated =>
      match ← Pass.on .cluster (Store.persistStatus updated) with
      | .ok _ => return judgement.outcome
      | .error failure => return judgement.outcome.withFailure "persist-status" failure

/-- Judges an observed cluster, drawing an identity if one has to be assigned. -/
def observe (settings : Settings) (observed : Cluster) : Pass (Option Judgement) := do
  let draft := addWarnings (.start observed)
  let now ← Pass.clock
  let newId ← if needsId draft then Pass.freshId else pure ""
  return judge settings newId draft now

/-- One pass over a cluster. A cluster that is being deleted is only reported. -/
def reconcile (settings : Settings) (cluster : Cluster) : Pass PassResult := do
  if cluster.metadata.deletionTimestamp.isSome then
    Pass.notify (deletedEvent cluster)
    return .finished (.ok .awaitChange)
  else
    match ← Pass.on .cluster (stampId cluster) with
    | .error failure => return .finished (.error failure)
    | .ok observed =>
        match ← observe settings observed with
        | none => return .overflow
        | some judgement =>
            let outcome ← conclude observed judgement
            return .finished (outcome.aggregate settings.requeueSoon)

end Cluster

def retryAction (settings : Settings) : Action := .requeue settings.errorBackoff

end Fleet
