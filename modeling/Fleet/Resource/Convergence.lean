import Fleet.Object.Kind
import Fleet.Store.Call

/-!
Bringing one object of a store to an expected form: it is created when it is missing, deleted and
created again or updated when the plan asks for that, and left alone otherwise. Hooks of the plan
see every object before it is written. Whatever happened, the object is fetched once more at the
end, so that later steps see what is stored.
-/

namespace Fleet

inductive ResourceAction where
  | created
  | recreated
  | updated
  | unchanged
  deriving DecidableEq, Repr

namespace ResourceAction

def name : ResourceAction → String
  | .created => "created"
  | .recreated => "recreated"
  | .updated => "updated"
  | .unchanged => "unchanged"

end ResourceAction

/-- A part of the plan that was consulted on the way. -/
inductive Consultation where
  | needRecreate
  | needUpdate
  | preCreate
  | preUpdate
  | postUpdate (resourceVersion : Option String)
  deriving DecidableEq, Repr

/-- The plan for one object. Predicates take the expected and the actual object. `preUpdate` takes
the object about to be written, at first a copy of the expected one, and the actual object. -/
structure ResourcePlan (C : Type) where
  title : String
  expected : Object C
  owner : Option OwnerReference := none
  problems : List String := []
  needUpdate : Option (Object C → Object C → Bool) := none
  needRecreate : Option (Object C → Object C → Bool) := none
  preCreate : Option (Object C → Except Failure (Object C)) := none
  preUpdate : Option (Object C → Object C → Except Failure (Object C)) := none
  postUpdate : Option (Object C → Except Failure Unit) := none

/-- What became of a plan: the action taken or the failure that stopped it, the object as it was
found at the end, and the parts of the plan that were consulted, in order. -/
structure Reconciled (C : Type) where
  outcome : Except Failure ResourceAction
  object : Option (Object C)
  consulted : List Consultation

namespace ResourcePlan

variable {C : Type}

/-- Makes an object of some kind the controlling owner. An owner without name and identity makes
the plan invalid. -/
def ownedBy (plan : ResourcePlan C) (kind : Kind) (owner : Object kind.Content) :
    ResourcePlan C :=
  match kind.ownerReference? owner with
  | some reference => { plan with owner := some reference }
  | none =>
      { plan with problems := plan.problems ++ ["owner " ++ kind.title ++ " has no name or uid"] }

def invalid (problem : String) : Failure := .configuration "reconciler" problem

/-- The name under which the plan's object is stored, unless the plan is malformed. -/
def target (plan : ResourcePlan C) : Except Failure String :=
  match plan.problems with
  | problem :: _ => .error (invalid problem)
  | [] =>
      match plan.expected.metadata.name with
      | some name =>
          if name.isEmpty then .error (invalid ("expected " ++ plan.title ++ " has no name"))
          else .ok name
      | none => .error (invalid ("expected " ++ plan.title ++ " has no name"))

def stamped (plan : ResourcePlan C) : Object C :=
  match plan.owner with
  | some owner => { plan.expected with metadata := plan.expected.metadata.addOwner owner }
  | none => plan.expected

/-- A verdict of the plan and the note of having asked for it; without a predicate the verdict is
no. -/
def consult (predicate : Option (Object C → Object C → Bool)) (note : Consultation)
    (expected actual : Object C) : Bool × List Consultation :=
  match predicate with
  | some holds => (holds expected actual, [note])
  | none => (false, [])

/-- The object to create, and the note of having run the hook. -/
def beforeCreate (plan : ResourcePlan C) (expected : Object C) :
    Except Failure (Object C) × List Consultation :=
  match plan.preCreate with
  | some hook => (hook expected, [.preCreate])
  | none => (.ok expected, [])

/-- The object to write over the actual one, and the note of having run the hook. It always
carries the version that the decision was based on. -/
def beforeUpdate (plan : ResourcePlan C) (expected actual : Object C) :
    Except Failure (Object C) × List Consultation :=
  let (persisted, notes) :=
    match plan.preUpdate with
    | some hook => (hook expected actual, [Consultation.preUpdate])
    | none => (.ok expected, [])
  (persisted.map fun object =>
      { object with
        metadata :=
          { object.metadata with resourceVersion := actual.metadata.resourceVersion } },
    notes)

def afterUpdate (plan : ResourcePlan C) (written : Object C) :
    Except Failure Unit × List Consultation :=
  match plan.postUpdate with
  | some hook => (hook written, [.postUpdate written.metadata.resourceVersion])
  | none => (.ok (), [])

abbrev Converged := Except Failure ResourceAction × List Consultation

def createExpected (plan : ResourcePlan C) (expected : Object C) (action : ResourceAction)
    (notes : List Consultation) : Store.Access C Converged :=
  let (prepared, hookNotes) := plan.beforeCreate expected
  match prepared with
  | .error failure => .done (.error failure, notes ++ hookNotes)
  | .ok object => do
      match ← Store.create object with
      | .ok _ => return (.ok action, notes ++ hookNotes)
      | .error failure => return (.error failure, notes ++ hookNotes)

/-- Deletes the actual object, unless it has changed meanwhile, and creates the expected one. An
object that is already gone needs no deleting. -/
def recreate (plan : ResourcePlan C) (name : String) (expected actual : Object C)
    (notes : List Consultation) : Store.Access C Converged := do
  let preconditions := Preconditions.pinned actual.metadata
  match ← Store.delete expected.metadata.namespace name (some preconditions) with
  | .ok () => plan.createExpected expected .recreated notes
  | .error failure =>
      if failure.isNotFound then plan.createExpected expected .recreated notes
      else return (.error failure, notes)

def update (plan : ResourcePlan C) (expected actual : Object C)
    (notes : List Consultation) : Store.Access C Converged :=
  let (prepared, hookNotes) := plan.beforeUpdate expected actual
  let notes := notes ++ hookNotes
  match prepared with
  | .error failure => .done (.error failure, notes)
  | .ok object => do
      match ← Store.replace object with
      | .error failure => return (.error failure, notes)
      | .ok written =>
          let (checked, hookNotes) := plan.afterUpdate written
          match checked with
          | .ok () => return (.ok .updated, notes ++ hookNotes)
          | .error failure => return (.error failure, notes ++ hookNotes)

/-- Brings the stored object to the expected form. Recreating takes precedence over updating. -/
def converge (plan : ResourcePlan C) : Store.Access C Converged :=
  match plan.target with
  | .error failure => .done (.error failure, [])
  | .ok name => do
      let expected := plan.stamped
      match ← Store.get expected.metadata.namespace name with
      | .error failure =>
          if failure.isNotFound then plan.createExpected expected .created []
          else return (.error failure, [])
      | .ok actual =>
          let (recreates, notes) :=
            consult plan.needRecreate .needRecreate expected actual
          if recreates then plan.recreate name expected actual notes
          else
            let (updates, updateNotes) :=
              consult plan.needUpdate .needUpdate expected actual
            let notes := notes ++ updateNotes
            if updates then plan.update expected actual notes
            else return (.ok .unchanged, notes)

/-- The object as it is stored now; a failure to fetch it counts as absence. -/
def refetch (plan : ResourcePlan C) : Store.Access C (Option (Object C)) :=
  match plan.expected.metadata.name with
  | none => .done none
  | some name => do
      match ← Store.find plan.expected.metadata.namespace name with
      | .ok found => return found
      | .error _ => return none

/-- Carries out the plan and fetches the object once more. -/
def reconcile (plan : ResourcePlan C) : Store.Access C (Reconciled C) := do
  let (outcome, consulted) ← plan.converge
  let object ← plan.refetch
  return { outcome, object, consulted }

end ResourcePlan

end Fleet
