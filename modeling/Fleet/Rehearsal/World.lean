import Fleet.Pass.Basic
import Fleet.Rehearsal.Fault

namespace Fleet.Rehearsal

structure Publication where
  regarding : ObjectReference
  event : Event
  deriving DecidableEq, Repr

structure World where
  now : Instant
  drawn : Nat := 0
  inventory : Inventory := {}
  faults : List Fault := []
  published : List Publication := []
  notices : List LifecycleEvent := []

inductive EditResult where
  | written (resourceVersion : Option String)
  | removed
  | failed (failure : Failure)
  /-- The patched object does not decode; nothing was done. -/
  | undecodable

namespace World

def nextIdentity (world : World) : String := identity (world.drawn + 1)

def draw (world : World) : World := { world with drawn := world.drawn + 1 }

def setStore (world : World) (kind : Kind) (store : Store kind.Content) : World :=
  { world with inventory := world.inventory.setStore kind store }

/-- Seeds an object; one without an identity is given the next one. -/
def insert (world : World) (kind : Kind) (object : Object kind.Content) : EditResult × World :=
  let (stored, store) := (world.inventory.store kind).insert world.nextIdentity object
  let world := if object.metadata.uid.isSome then world else world.draw
  (.written stored.metadata.resourceVersion, world.setStore kind store)

def mutate (world : World) (kind : Kind) (key : ObjectKey)
    (change : Object kind.Content → Object kind.Content) : EditResult × World :=
  let (result, store) := (world.inventory.store kind).mutate key change
  let world := world.setStore kind store
  match result with
  | .ok stored => (.written stored.metadata.resourceVersion, world)
  | .error failure => (.failed failure, world)

def patch (world : World) (kind : Kind) (key : ObjectKey) (patch : Json) : EditResult × World :=
  match (world.inventory.store kind).lookup key with
  | none => world.mutate kind key id
  | some object =>
      match kind.ofJson? ((kind.toJson object).mergePatch patch) with
      | none => (.undecodable, world)
      | some patched => world.mutate kind key fun _ => patched

def remove (world : World) (kind : Kind) (key : ObjectKey) : EditResult × World :=
  let (result, store) := (world.inventory.store kind).remove key none
  let world := world.setStore kind store
  match result with
  | .ok () => (.removed, world)
  | .error failure => (.failed failure, world)

def edit (world : World) : Edit → EditResult × World
  | .insert kind object => world.insert kind object
  | .patch kind key patch => world.patch kind key patch
  | .remove kind key => world.remove kind key

def callStore (world : World) (kind : Kind) (call : Store.Call kind.Content) :
    call.Reply × World :=
  let store := world.inventory.store kind
  let (reply, after) := store.answer world.nextIdentity call
  let world := if store.takesIdentity call then world.draw else world
  (reply, world.setStore kind after)

/-- Answers a call, unless a fault gets in the way. -/
def answerCall (world : World) (kind : Kind) (call : Store.Call kind.Content) :
    call.Reply × World :=
  let (hit, faults) := Fault.meet kind call.method world.faults
  let world := { world with faults }
  match hit with
  | none => world.callStore kind call
  | some fault =>
      let world :=
        match fault.race with
        | some edit => (world.edit edit).2
        | none => world
      match fault.failure with
      | some failure => (call.failed failure, world)
      | none => world.callStore kind call

def answer : (effect : Effect) → World → effect.Reply × World
  | .store kind call, world => world.answerCall kind call
  | .clock, world => (world.now, world)
  | .freshId, world => (world.nextIdentity, world.draw)
  | .publish regarding event, world =>
      ((), { world with published := world.published ++ [⟨regarding, event⟩] })
  | .notify event, world => ((), { world with notices := world.notices ++ [event] })

def perform {α : Type} (world : World) (pass : Pass α) : α × World := pass.run answer world

end World

end Fleet.Rehearsal
