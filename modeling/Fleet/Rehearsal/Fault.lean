import Fleet.Store.Inventory

namespace Fleet.Rehearsal

/-- A change made to a store by another writer. -/
inductive Edit where
  | insert (kind : Kind) (object : Object kind.Content)
  /-- Applies a merge patch to the written form of an object. -/
  | patch (kind : Kind) (key : ObjectKey) (patch : Json)
  | remove (kind : Kind) (key : ObjectKey)

structure Fault where
  kind : Kind
  method : Store.Method
  /-- How many calls to let pass before the first that is hit. -/
  skip : Nat := 0
  times : Nat := 1
  failure : Option Failure := none
  race : Option Edit := none

namespace Fault

/-- Whether the fault waits for calls of a method to the store of a kind. -/
def awaits (fault : Fault) (kind : Kind) (method : Store.Method) : Bool :=
  fault.kind == kind && fault.method == method

/-- The fault after it has hit a call; a fault that has hit all its calls is gone. -/
def spent (fault : Fault) : Option Fault :=
  if fault.times ≤ 1 then none else some { fault with times := fault.times - 1 }

/-- Meets a call: the first fault that waits for it either lets it pass or hits it. Returns the
fault that hits, and the faults that are left. -/
def meet (kind : Kind) (method : Store.Method) : List Fault → Option Fault × List Fault
  | [] => (none, [])
  | fault :: rest =>
      if fault.awaits kind method then
        if fault.skip = 0 then (some fault, fault.spent.toList ++ rest)
        else (none, { fault with skip := fault.skip - 1 } :: rest)
      else
        let (hit, rest) := meet kind method rest
        (hit, fault :: rest)

end Fault

end Fleet.Rehearsal
