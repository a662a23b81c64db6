import Fleet.Event
import Fleet.Object.Kind
import Fleet.Store.Call

namespace Fleet

/-- What a pass may ask its surroundings to do. -/
inductive Effect where
  | store (kind : Kind) (call : Store.Call kind.Content)
  | clock
  /-- Draw an identity that has not been used. -/
  | freshId
  | publish (regarding : ObjectReference) (event : Event)
  | notify (event : LifecycleEvent)

@[reducible]
def Effect.Reply : Effect → Type
  | .store _ call => call.Reply
  | .clock => Instant
  | .freshId => String
  | .publish .. => Unit
  | .notify _ => Unit

abbrev Pass (α : Type) := Program Effect Effect.Reply α

namespace Pass

/-- Makes the calls of a program to the store of one kind. -/
def on {α : Type} (kind : Kind) (access : Store.Access kind.Content α) : Pass α :=
  access.translate (Effect.store kind) fun _ reply => reply

def clock : Pass Instant := .ask .clock .done

def freshId : Pass String := .ask .freshId .done

def notify (event : LifecycleEvent) : Pass Unit := .ask (.notify event) .done

def publishAll (regarding : ObjectReference) : List Event → Pass Unit
  | [] => .done ()
  | event :: rest => .ask (.publish regarding event) fun () => publishAll regarding rest

end Pass

end Fleet
