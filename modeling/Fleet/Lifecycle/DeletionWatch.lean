import Fleet.Cluster.Controller
import Fleet.Experiment.Controller
import Fleet.Experiment.Release
import Fleet.Server.Watch

/-!
Noticing deletions. Objects vanish before a pass can see their deletion timestamp, so removal is
taken from the watch. Deletions of experiments that happen while no watch is open are made up for
by a sweep over the data volumes after every complete list; such deletions of clusters go
unreported.
-/

namespace Fleet.DeletionWatch

def clusterEvents (notices : List (Server.Notice ClusterContent)) : List LifecycleEvent :=
  (notices.filterMap Server.Notice.deleted?).map Cluster.deletedEvent

def experimentEvents (notices : List (Server.Notice ExperimentContent)) : List LifecycleEvent :=
  (notices.filterMap Server.Notice.deleted?).map Experiment.deletedEvent

/-- The sweep that one notice starts. A sweep that fails is given up. -/
def react (notice : Server.Notice ExperimentContent) : Pass Unit :=
  if notice.isListed then do
    let _ ← Experiment.releaseOrphans
  else .done ()

/-- All sweeps that a watcher of experiments starts, one after the other. -/
def sweeps : List (Server.Notice ExperimentContent) → Pass Unit
  | [] => .done ()
  | notice :: rest => do
      react notice
      sweeps rest

end Fleet.DeletionWatch
