import Fleet.Event

namespace Fleet

/-- A broadcast channel. `published` counts all notifications so far; `kept` are the latest of
them, oldest first; `cursors` holds for each subscriber the number of the notification it gets
next. -/
structure Bus where
  capacity : Nat
  published : Nat := 0
  kept : List LifecycleEvent := []
  cursors : List Nat := []
  isOpen : Bool := true

inductive Delivery where
  | event (event : LifecycleEvent)
  /-- There is nothing new. -/
  | empty
  /-- There is nothing new, and never will be. -/
  | closed
  /-- Notifications were lost. -/
  | lagged (missed : Nat)
  deriving DecidableEq, Repr

namespace Bus

def defaultCapacity : Nat := 256

def maxCapacity : Nat := UInt64.size / 2 - 1

/-- The least power of two that is not below a number. -/
def roundUp (number : Nat) : Nat := if number ≤ 1 then 1 else Nat.pow 2 ((number - 1).log2 + 1)

/-- Opens a bus that keeps at least the given number of notifications: the capacity is rounded up
to a power of two. A bus that keeps nothing cannot be opened. -/
def open? (capacity : Nat) : Option Bus :=
  if capacity = 0 ∨ maxCapacity < capacity then none
  else some { capacity := roundUp capacity }

def subscribe (bus : Bus) : Nat × Bus :=
  (bus.cursors.length, { bus with cursors := bus.cursors ++ [bus.published] })

/-- Publishes a notification. Without subscribers it is dropped. -/
def publish (bus : Bus) (event : LifecycleEvent) : Bus :=
  if bus.cursors.isEmpty then bus
  else
    let kept := bus.kept ++ [event]
    { bus with
      published := bus.published + 1
      kept := kept.drop (kept.length - bus.capacity) }

def publishAll (bus : Bus) (events : List LifecycleEvent) : Bus := events.foldl publish bus

/-- Closes the bus; what is kept can still be received. -/
def close (bus : Bus) : Bus := { bus with isOpen := false }

def receive (bus : Bus) (subscriber : Nat) : Option (Delivery × Bus) :=
  bus.cursors[subscriber]?.map fun cursor =>
    let oldest := bus.published - bus.kept.length
    if cursor < oldest then
      (.lagged (oldest - cursor), { bus with cursors := bus.cursors.set subscriber oldest })
    else
      match bus.kept[cursor - oldest]? with
      | some event =>
          (.event event, { bus with cursors := bus.cursors.set subscriber (cursor + 1) })
      | none => (if bus.isOpen then .empty else .closed, bus)

/-- The notifications that a subscriber still gets if nothing more is published. -/
def pending (bus : Bus) (subscriber : Nat) : List LifecycleEvent :=
  match bus.cursors[subscriber]? with
  | some cursor => bus.kept.drop (cursor - (bus.published - bus.kept.length))
  | none => []

end Bus

end Fleet
