import Fleet.Experiment.Progress
import Fleet.Resource.Convergence

namespace Fleet.Experiment

def containerName : String := "experiment"

def podVolumeName : String := "data-volume"

/-- The pod that an experiment should have. A template without an image makes none. -/
def expectedPod (experiment : Experiment) (template : Template) (settings : DataVolumeSettings) :
    Except Failure Pod :=
  let workload := template.content.podTemplate
  if workload.image.isEmpty then
    .error (.configuration "experiment-pod" ("template " ++ template.name ++ " has no image"))
  else
    let env := workload.env.entries.map fun (name, value) =>
      ({ name, value := some value } : EnvironmentVariable)
    .ok
      { metadata :=
          { name := some experiment.name
            «namespace» := experiment.metadata.namespace
            labels := some (dependentLabels experiment) }
        content :=
          { spec := some
              { containers :=
                  [{ name := containerName
                     image := some workload.image
                     command := if workload.command.isEmpty then none else some workload.command
                     env := some env
                     volumeMounts := some
                       [{ name := podVolumeName, mountPath := settings.mountPath }] }]
                volumes := some
                  [{ name := podVolumeName
                     claim := some
                       { claimName := claimName experiment, readOnly := some false } }] } } }

/-- Deletes pods, each unless another one has taken its name. -/
def deletePods (progress : Progress) : List Pod → Pass Progress
  | [] => .done progress
  | pod :: rest => do
      let preconditions := Preconditions.sameObject pod.metadata
      match ← Pass.on .pod (Store.delete pod.metadata.namespace pod.name (some preconditions)) with
      | .ok () => deletePods progress rest
      | .error failure =>
          if failure.isNotFound then deletePods progress rest
          else deletePods (progress.withStep "delete-env-pod" (.error failure : Except _ Unit)) rest

/-- Notes that the user has paused the experiment, if that is news. -/
def notePause (now : Instant) (progress : Progress) : Progress :=
  if progress.draft.status.phase = .stopped then progress
  else
    (progress.addEvent (.normal Event.stateChange "pause experiment")).updateStatus fun status =>
      setCondition .podReady .false_ "PauseExperiment" now (setPhase .stopped status)

def pauseWorkload (now : Instant) (progress : Progress) : Pass Progress :=
  let pods := progress.dependents.pods
  let progress := notePause now progress
  deletePods { progress with dependents := { progress.dependents with pods := [] } } pods

def podPlan (experiment : Experiment) (expected : Pod) : ResourcePlan PodContent :=
  let plan : ResourcePlan PodContent := { title := Kind.pod.title, expected }
  plan.ownedBy .experiment experiment

def startWorkload (settings : Settings) (progress : Progress) : Pass Progress :=
  let template := progress.dependents.template
  match expectedPod progress.experiment template settings.dataVolume with
  | .error failure => .done (progress.withStep "build-env-pod" (.error failure : Except _ Unit))
  | .ok expected => do
      let reconciled ← Pass.on .pod (podPlan progress.experiment expected).reconcile
      let progress :=
        match reconciled.outcome with
        | .ok .created => progress.addEvent (.normal Event.created "create env pod")
        | _ => progress
      let dependents := { progress.dependents with pods := reconciled.object.toList }
      return { progress with dependents }.withStep "create-env-pod" reconciled.outcome

/-- Lets the phase follow the readiness of the pod. Only a workload that was running can fail. -/
def followPod (now : Instant) (pod : Pod) (progress : Progress) : Progress :=
  if pod.content.isReady then
    progress.updateStatus fun status =>
      ensureCondition .podReady .true_ "" "" now (setPhase .running status)
  else
    let progress :=
      if progress.draft.status.phase = .running then
        (progress.addEvent
          (.warning Event.unhealthy ("pod " ++ pod.name ++ " not ready"))).updateStatus
            (setPhase .error)
      else progress
    progress.updateStatus (ensureCondition .podReady .false_ "PodNotReady" "" now)

def reconcileWorkload (settings : Settings) (progress : Progress) : Pass Progress := do
  let now ← Pass.clock
  if progress.experiment.spec.pause then pauseWorkload now progress
  else
    match progress.dependents.pods with
    | [] => startWorkload settings progress
    -- Any pod with the experiment's name counts as its workload, the first one at that.
    | pod :: _ => return followPod now pod progress

end Fleet.Experiment
