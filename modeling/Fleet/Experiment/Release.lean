import Fleet.Experiment.Naming
import Fleet.Pass.Basic

namespace Fleet.Experiment

/-- Deletes a listed volume; tells whether it was there to be deleted. -/
def releaseVolume (volume : Volume) : Pass (Except Failure Bool) := do
  let preconditions := Preconditions.sameObject volume.metadata
  match ← Pass.on .volume (Store.delete none volume.name (some preconditions)) with
  | .ok () => return .ok true
  | .error failure => return if failure.isNotFound then .ok false else .error failure

/-- Whether a volume was reserved for a claim in the given namespace. -/
def isBoundIn (ns : String) (volume : Volume) : Bool :=
  volume.content.claimNamespace? == some ns

def releaseBound (ns : String) (released : Nat) : List Volume → Pass (Except Failure Nat)
  | [] => .done (.ok released)
  | volume :: rest =>
      if isBoundIn ns volume then do
        match ← releaseVolume volume with
        | .error failure => return .error failure
        | .ok deleted => releaseBound ns (released + deleted.toNat) rest
      else releaseBound ns released rest

/-- Deletes the volumes left behind by a deleted experiment; tells how many there were. -/
def releaseVolumes (ns experimentName : String) : Pass (Except Failure Nat) := do
  match ← Pass.on .volume (Store.list none (some (selectorOf experimentName))) with
  | .error failure => return .error failure
  | .ok volumes => releaseBound ns 0 volumes

def originOf (volume : Volume) : Option (String × String) := do
  let name ← volume.metadata.label? nameLabel
  let ns ← volume.content.claimNamespace?
  return (ns, name)

/-- Deletes those of the listed volumes whose experiment does not exist, up to the first
failure. -/
def releaseStranded (released : Nat) : List Volume → Pass (Except Failure Nat)
  | [] => .done (.ok released)
  | volume :: rest =>
      match originOf volume with
      | none => releaseStranded released rest
      | some (ns, name) => do
          match ← Pass.on .experiment (Store.find (some ns) name) with
          | .error failure => return .error failure
          | .ok (some _) => releaseStranded released rest
          | .ok none =>
              match ← releaseVolume volume with
              | .error failure => return .error failure
              | .ok deleted => releaseStranded (released + deleted.toNat) rest

def managedSelector : String := managedByLabel ++ "=" ++ managedByValue

/-- Deletes the volumes whose experiment no longer exists, for instance because its deletion went
unnoticed; tells how many there were. -/
def releaseOrphans : Pass (Except Failure Nat) := do
  match ← Pass.on .volume (Store.list none (some managedSelector)) with
  | .error failure => return .error failure
  | .ok volumes => releaseStranded 0 volumes

end Fleet.Experiment
