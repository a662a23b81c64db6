import Fleet.Experiment.Release
import Fleet.Lifecycle.Bus

namespace Fleet.Listener

def handle : LifecycleEvent → Pass (Except Failure Unit)
  | .clusterDeleted .. => .done (.ok ())
  | .experimentDeleted ns name => do
      return (← Experiment.releaseVolumes ns name).map fun _ => ()

def handleAll : List LifecycleEvent → Pass Unit
  | [] => .done ()
  | event :: rest => do
      let _ ← handle event
      handleAll rest

/-- Reacts to everything that a closed bus still holds for a subscriber. -/
def run (bus : Bus) (subscriber : Nat) : Pass Unit := handleAll (bus.pending subscriber)

end Fleet.Listener
