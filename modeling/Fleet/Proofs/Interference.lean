import Fleet.Proofs.Stores

namespace Fleet.Proofs.Interference

open Fleet.Proofs.Stores

variable {C α β : Type}

/-- What another writer may do to a store. -/
inductive Intervention (C : Type) where
  | insert (uid : String) (object : Object C)
  | mutate (key : ObjectKey) (change : Object C → Object C)
  | call (uid : String) (request : Store.Call C)

def Intervention.apply (store : Store C) : Intervention C → Store C
  | .insert uid object => (store.insert uid object).2
  | .mutate key change => (store.mutate key change).2
  | .call uid request => (store.answer uid request).2

def disturb (store : Store C) (interventions : List (Intervention C)) : Store C :=
  interventions.foldl Intervention.apply store

/-- What others do before a call, and the identity that the call takes if it creates an object. -/
structure Interlude (C : Type) where
  interventions : List (Intervention C) := []
  uid : String := ""

/-- A call of a program, and the store as the call finds it. -/
structure Turn (C : Type) where
  found : Store C
  uid : String
  call : Store.Call C

namespace Turn

def reply (turn : Turn C) : turn.call.Reply := (turn.found.answer turn.uid turn.call).1

def left (turn : Turn C) : Store C := (turn.found.answer turn.uid turn.call).2

def writes (turn : Turn C) : Bool :=
  match turn.call, turn.reply with
  | .get .., _ => false
  | .list .., _ => false
  | .create _, reply => reply.isOk
  | .replace _, reply => reply.isOk
  | .replaceStatus _, reply => reply.isOk
  | .delete .., reply => reply.isOk

def isStatusWrite (turn : Turn C) : Bool := turn.call.method == .replaceStatus

end Turn

structure Run (C α : Type) where
  result : α
  turns : List (Turn C)

/-- The call of a program that comes next, after what others do before it. -/
abbrev nextTurn (interludes : List (Interlude C)) (store : Store C) (call : Store.Call C) :
    Turn C :=
  let interlude := interludes.headD {}
  { found := disturb store interlude.interventions, uid := interlude.uid, call }

/-- Runs a program among other writers. Once the interludes are used up, the program is alone. -/
def runAmong : Store.Access C α → List (Interlude C) → Store C → Run C α
  | .done result, _, _ => { result, turns := [] }
  | .ask call next, interludes, store =>
      let turn := nextTurn interludes store call
      let rest := runAmong (next turn.reply) interludes.tail turn.left
      { result := rest.result, turns := turn :: rest.turns }

theorem addsOneVersion_apply (store : Store C) (intervention : Intervention C) :
    AddsOneVersion store (intervention.apply store) := by
  cases intervention with
  | insert uid object => exact addsOneVersion_put rfl rfl
  | mutate key change => exact addsOneVersion_mutate store key change
  | call uid request => exact addsOneVersion_answer store uid request

theorem later_disturb (store : Store C) (interventions : List (Intervention C)) :
    Later store (disturb store interventions) := by
  induction interventions generalizing store with
  | nil => exact later_refl store
  | cons intervention rest ih =>
      exact later_trans (later_of_addsOneVersion (addsOneVersion_apply store intervention)) (ih _)

theorem reached_disturb {store : Store C} (h : Reached store)
    (interventions : List (Intervention C)) : Reached (disturb store interventions) := by
  induction interventions generalizing store with
  | nil => exact h
  | cons intervention rest ih =>
      refine ih ?_
      cases intervention with
      | insert uid object => exact Reached.insert uid object h
      | mutate key change => exact Reached.mutate key change h
      | call uid request => exact Reached.answer uid request h

theorem later_nextTurn (interludes : List (Interlude C)) (store : Store C) (call : Store.Call C) :
    Later store (nextTurn interludes store call).found :=
  later_disturb store _

end Fleet.Proofs.Interference
