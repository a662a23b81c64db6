import Fleet.Experiment.Progress
import Fleet.Resource.Convergence

namespace Fleet.Experiment

def accessMode : String := "ReadWriteOnce"

def hostDirectory (settings : DataVolumeSettings) (uid : String) : String :=
  String.ofList (Text.dropTrailing (· == '/') settings.hostPath.toList) ++ "/" ++ uid

def expectedVolume (experiment : Experiment) (settings : DataVolumeSettings) :
    Except Failure Volume :=
  (volumeName experiment).map fun name =>
    { metadata := { name := some name, labels := some (dependentLabels experiment) }
      content :=
        { spec := some
            { capacity := some (.ofList [("storage", settings.capacity)])
              accessModes := some [accessMode]
              reclaimPolicy := some "Retain"
              storageClassName := some ""
              hostPath := some
                { path := hostDirectory settings (experiment.metadata.uid.getD "")
                  type := some "DirectoryOrCreate" }
              claimRef := some
                { apiVersion := some Kind.claim.apiVersion
                  kind := some Kind.claim.title
                  «namespace» := experiment.metadata.namespace
                  name := some (claimName experiment) } } } }

def expectedClaim (experiment : Experiment) (settings : DataVolumeSettings) :
    Except Failure Claim :=
  (volumeName experiment).map fun volumeName =>
    { metadata :=
        { name := some (claimName experiment)
          «namespace» := experiment.metadata.namespace
          labels := some (dependentLabels experiment) }
      content :=
        { spec := some
            { accessModes := some [accessMode]
              storageClassName := some ""
              volumeName := some volumeName
              resources := some
                { requests := some (.ofList [("storage", settings.capacity)]) } } } }

/-- The actual volume with the directory of the expected one. -/
def withHostPath (expected actual : Volume) : Volume :=
  match actual.content.spec with
  | some spec =>
      { actual with content := { spec := some { spec with
          hostPath := expected.content.hostPath? } } }
  | none => actual

def volumePlan (experiment : Experiment) (expected : Volume) : ResourcePlan VolumeContent :=
  let plan : ResourcePlan VolumeContent :=
    { title := Kind.volume.title
      expected
      needUpdate := some fun expected actual =>
        decide (expected.content.hostPath? ≠ actual.content.hostPath?)
      preUpdate := some fun expected actual => .ok (withHostPath expected actual) }
  plan.ownedBy .experiment experiment

def reconcileVolume (settings : Settings) (progress : Progress) : Pass Progress :=
  match expectedVolume progress.experiment settings.dataVolume with
  | .error failure => .done (progress.withStep "data-volume" (.error failure : Except _ Unit))
  | .ok expected => do
      let plan := volumePlan progress.experiment expected
      let reconciled ← Pass.on .volume plan.reconcile
      let progress :=
        match reconciled.outcome with
        | .ok .created =>
            progress.addEvent (.normal Event.created ("create data volume " ++ expected.name))
        | _ => progress
      let dependents := { progress.dependents with volume := reconciled.object }
      return { progress with dependents }.withStep "data-volume" reconciled.outcome

def claimPlan (experiment : Experiment) (expected : Claim) : ResourcePlan ClaimContent :=
  let plan : ResourcePlan ClaimContent := { title := Kind.claim.title, expected }
  plan.ownedBy .experiment experiment

def reconcileClaim (settings : Settings) (progress : Progress) : Pass Progress :=
  match expectedClaim progress.experiment settings.dataVolume with
  | .error failure =>
      .done (progress.withStep "data-volume-claim" (.error failure : Except _ Unit))
  | .ok expected => do
      let plan := claimPlan progress.experiment expected
      let reconciled ← Pass.on .claim plan.reconcile
      let dependents := { progress.dependents with claim := reconciled.object }
      return { progress with dependents }.withStep "data-volume-claim" reconciled.outcome

def reconcileData (settings : Settings) (progress : Progress) : Pass Progress := do
  reconcileClaim settings (← reconcileVolume settings progress)

end Fleet.Experiment
