import Fleet.Pass.Basic
import Mathlib.Logic.Function.Basic

/-!
Passes before separate stores. Every store answers a call as it likes, given the calls that it has
been sent itself, and knows nothing of the calls to others. What a pass asks of one store can then
be followed with that store alone.
-/

namespace Fleet.Proofs.Separation

variable {α β C : Type} {kind other : Kind}

/-- What answers a pass: a store of each kind, a clock and a source of identities. The reply of a
store, which may be any failure, depends on the calls that this store was sent before. -/
structure Surroundings where
  reply : (kind : Kind) → List (Store.Call kind.Content) →
    (call : Store.Call kind.Content) → call.Reply
  time : Nat → Instant
  identity : Nat → String

structure Log where
  calls : (kind : Kind) → List (Store.Call kind.Content) := fun _ => []
  looks : Nat := 0
  draws : Nat := 0

def Log.withCalls (log : Log) (kind : Kind) (calls : List (Store.Call kind.Content)) : Log :=
  { log with calls := Function.update log.calls kind calls }

@[simp]
theorem withCalls_self (log : Log) (kind : Kind) : log.withCalls kind (log.calls kind) = log := by
  rw [Log.withCalls, Function.update_eq_self]

@[simp]
theorem withCalls_withCalls (log : Log) (kind : Kind) (a b : List (Store.Call kind.Content)) :
    (log.withCalls kind a).withCalls kind b = log.withCalls kind b := by
  simp only [Log.withCalls, Function.update_idem]

@[simp]
theorem calls_withCalls_self (log : Log) (kind : Kind) (calls : List (Store.Call kind.Content)) :
    (log.withCalls kind calls).calls kind = calls :=
  Function.update_self ..

/-- How a store answers that is asked by one program alone. -/
def correspond (reply : List (Store.Call C) → (call : Store.Call C) → call.Reply)
    (call : Store.Call C) (earlier : List (Store.Call C)) : call.Reply × List (Store.Call C) :=
  (reply earlier call, earlier ++ [call])

namespace Surroundings

def answer (surroundings : Surroundings) : (effect : Effect) → Log → effect.Reply × Log
  | .store kind call, log =>
      (surroundings.reply kind (log.calls kind) call,
        log.withCalls kind (log.calls kind ++ [call]))
  | .clock, log => (surroundings.time log.looks, { log with looks := log.looks + 1 })
  | .freshId, log => (surroundings.identity log.draws, { log with draws := log.draws + 1 })
  | .publish .., log => ((), log)
  | .notify _, log => ((), log)

def run (surroundings : Surroundings) (pass : Pass α) (log : Log) : α × Log :=
  Program.run surroundings.answer pass log

/-- Runs a program with one store alone. -/
def ask (surroundings : Surroundings) (kind : Kind) (access : Store.Access kind.Content α)
    (earlier : List (Store.Call kind.Content)) : α × List (Store.Call kind.Content) :=
  access.run (correspond (surroundings.reply kind)) earlier

/-- The surroundings differ in nothing but how the store of one kind answers. -/
structure AgreeBut (kind : Kind) (a b : Surroundings) : Prop where
  reply : ∀ other, other ≠ kind → a.reply other = b.reply other
  time : a.time = b.time
  identity : a.identity = b.identity

end Surroundings

variable {surroundings : Surroundings}

theorem run_bind (pass : Pass α) (next : α → Pass β) (log : Log) :
    surroundings.run (pass >>= next) log =
      surroundings.run (next (surroundings.run pass log).1) (surroundings.run pass log).2 :=
  Program.run_bind surroundings.answer pass next log

theorem ask_bind (access : Store.Access kind.Content α)
    (next : α → Store.Access kind.Content β) (earlier : List (Store.Call kind.Content)) :
    surroundings.ask kind (access >>= next) earlier =
      surroundings.ask kind (next (surroundings.ask kind access earlier).1)
        (surroundings.ask kind access earlier).2 :=
  Program.run_bind _ access next earlier

theorem run_on (access : Store.Access kind.Content α) (log : Log) :
    surroundings.run (Pass.on kind access) log =
      ((surroundings.ask kind access (log.calls kind)).1,
        log.withCalls kind (surroundings.ask kind access (log.calls kind)).2) := by
  induction access generalizing log with
  | done result =>
      change (result, log) = (result, log.withCalls kind (log.calls kind))
      rw [withCalls_self]
  | ask call next ih =>
      have hrest := ih (surroundings.reply kind (log.calls kind) call)
        (log.withCalls kind (log.calls kind ++ [call]))
      rw [calls_withCalls_self, withCalls_withCalls] at hrest
      exact hrest

theorem ask_congr {a b : Surroundings} (h : a.AgreeBut kind b) (hother : other ≠ kind)
    (access : Store.Access other.Content α) (earlier : List (Store.Call other.Content)) :
    a.ask other access earlier = b.ask other access earlier := by
  unfold Surroundings.ask
  rw [h.reply other hother]

theorem calls_publishAll (regarding : ObjectReference) (events : List Event) (log : Log) :
    (surroundings.run (Pass.publishAll regarding events) log).2.calls = log.calls := by
  induction events with
  | nil => rfl
  | cons event rest ih => exact ih

end Fleet.Proofs.Separation
