import Fleet.Cluster.MetaCluster
import Fleet.Experiment.Basic
import Fleet.Failure

namespace Fleet.Experiment

def nameLabel : String := "cloudengine.io/experiment-name"

def clusterLabel : String := "cloudengine.io/cluster-name"

def identity? (experiment : Experiment) : Except Failure String :=
  match experiment.metadata.uid.filter fun uid => !uid.isEmpty with
  | some uid => .ok uid
  | none =>
      .error (.configuration "data-volume" ("experiment " ++ experiment.name ++ " has no uid"))

def volumeName (experiment : Experiment) : Except Failure String :=
  (identity? experiment).map ("pv-" ++ ·)

theorem volumeName_eq_ok {experiment : Experiment} {name : String}
    (h : volumeName experiment = .ok name) :
    ∃ uid, experiment.metadata.uid = some uid ∧ name = "pv-" ++ uid := by
  unfold volumeName identity? at h
  split at h
  · rename_i uid huid
    exact ⟨uid, (Option.filter_eq_some_iff.mp huid).1, (Except.ok.inj h).symm⟩
  · contradiction

def claimName (experiment : Experiment) : String := "data-" ++ experiment.name

def serviceName (experimentName protocol : String) : String :=
  experimentName ++ "-" ++ protocol ++ "-service"

def selectorOf (experimentName : String) : String := nameLabel ++ "=" ++ experimentName

def selector (experiment : Experiment) : String := selectorOf experiment.name

def workloadLabels (experiment : Experiment) : TextMap :=
  .ofList [(clusterLabel, experiment.spec.clusterName), (nameLabel, experiment.name)]

def dependentLabels (experiment : Experiment) : TextMap :=
  (workloadLabels experiment).insert managedByLabel managedByValue

end Fleet.Experiment
