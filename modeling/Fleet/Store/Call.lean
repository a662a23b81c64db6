import Fleet.Failure
import Fleet.Object.Metadata
import Fleet.Program

namespace Fleet

/-- What must still be true of an object for a delete to go ahead. -/
structure Preconditions where
  uid : Option String := none
  resourceVersion : Option String := none
  deriving DecidableEq, Repr

namespace Preconditions

/-- The object is still the same one, at the same version. -/
def pinned (metadata : Metadata) : Preconditions :=
  { uid := metadata.uid, resourceVersion := metadata.resourceVersion }

/-- The object is still the same one, at whatever version. -/
def sameObject (metadata : Metadata) : Preconditions := { uid := metadata.uid }

end Preconditions

namespace Store

/-- A call to a store of objects with the given content. Replacing an object that carries an
outdated version fails with a conflict; an object without a version is written as it is. -/
inductive Call (C : Type) where
  | get («namespace» : Option String) (name : String)
  | list («namespace» : Option String) (selector : Option String)
  | create (object : Object C)
  | replace (object : Object C)
  | replaceStatus (object : Object C)
  | delete («namespace» : Option String) (name : String) (preconditions : Option Preconditions)

@[reducible]
def Call.Reply {C : Type} : Call C → Type
  | .get .. => Except Failure (Object C)
  | .list .. => Except Failure (List (Object C))
  | .create _ => Except Failure (Object C)
  | .replace _ => Except Failure (Object C)
  | .replaceStatus _ => Except Failure (Object C)
  | .delete .. => Except Failure Unit

inductive Method where
  | get
  | list
  | create
  | replace
  | replaceStatus
  | delete
  deriving DecidableEq, Repr

def Call.method {C : Type} : Call C → Method
  | .get .. => .get
  | .list .. => .list
  | .create _ => .create
  | .replace _ => .replace
  | .replaceStatus _ => .replaceStatus
  | .delete .. => .delete

def Call.failed {C : Type} (failure : Failure) : (call : Call C) → call.Reply
  | .get .. => .error failure
  | .list .. => .error failure
  | .create _ => .error failure
  | .replace _ => .error failure
  | .replaceStatus _ => .error failure
  | .delete .. => .error failure

/-- Programs that make calls to one store. -/
abbrev Access (C : Type) (α : Type) := Program (Call C) Call.Reply α

variable {C : Type}

def get (ns : Option String) (name : String) : Access C (Except Failure (Object C)) :=
  .ask (.get ns name) .done

def list (ns : Option String) (selector : Option String) :
    Access C (Except Failure (List (Object C))) :=
  .ask (.list ns selector) .done

def create (object : Object C) : Access C (Except Failure (Object C)) :=
  .ask (.create object) .done

def replace (object : Object C) : Access C (Except Failure (Object C)) :=
  .ask (.replace object) .done

def replaceStatus (object : Object C) : Access C (Except Failure (Object C)) :=
  .ask (.replaceStatus object) .done

def delete (ns : Option String) (name : String) (preconditions : Option Preconditions) :
    Access C (Except Failure Unit) :=
  .ask (.delete ns name preconditions) .done

/-- Takes absence for an answer rather than for a failure. -/
def absentAsNone {α : Type} : Except Failure α → Except Failure (Option α)
  | .ok found => .ok (some found)
  | .error failure => if failure.isNotFound then .ok none else .error failure

def find (ns : Option String) (name : String) : Access C (Except Failure (Option (Object C))) :=
  do return absentAsNone (← get ns name)

/-- Writes the status of an object. When another writer was faster, the status is put on the
latest version and written once more; whatever else that writer changed stays. -/
def persistStatus {Spec Status : Type} (object : Object (Managed Spec Status)) :
    Access (Managed Spec Status) (Except Failure (Object (Managed Spec Status))) := do
  match ← replaceStatus object with
  | .ok written => return .ok written
  | .error failure =>
      if failure.isConflict then
        match ← get object.metadata.namespace object.name with
        | .error failure => return .error failure
        | .ok latest =>
            -- The status goes on the latest version as it is, whatever it was derived from.
            match object.status with
            | some status => replaceStatus (latest.setStatus status)
            | none => replaceStatus latest
      else return .error failure

section PersistStatus

variable {Spec Status : Type}

/-- The latest version with the status of another one, if that has any. -/
def carryStatus (object latest : Object (Managed Spec Status)) : Object (Managed Spec Status) :=
  match object.status with
  | some status => latest.setStatus status
  | none => latest

theorem metadata_carryStatus (object latest : Object (Managed Spec Status)) :
    (carryStatus object latest).metadata = latest.metadata := by
  unfold carryStatus
  split <;> rfl

def retryStatus (object : Object (Managed Spec Status)) :
    Access (Managed Spec Status) (Except Failure (Object (Managed Spec Status))) :=
  .ask (.get object.metadata.namespace object.name) fun
    | .error failure => .done (.error failure)
    | .ok latest => replaceStatus (carryStatus object latest)

theorem persistStatus_eq (object : Object (Managed Spec Status)) :
    persistStatus object = .ask (.replaceStatus object) fun
      | .ok written => .done (.ok written)
      | .error failure =>
          if failure.isConflict then retryStatus object else .done (.error failure) := by
  refine congrArg (Program.ask _) (funext fun reply => ?_)
  rcases reply with failure | written
  · dsimp only [Program.bind]
    split
    · refine congrArg (Program.ask _) (funext fun reply => ?_)
      rcases reply with failure | latest
      · rfl
      · dsimp only [carryStatus]
        cases object.status <;> rfl
    · rfl
  · rfl

end PersistStatus

end Store

end Fleet
