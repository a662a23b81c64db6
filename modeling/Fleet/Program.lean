/-!
Programs that ask questions. A program is a tree: it is done with a result, or it asks a question
and goes on with the reply. What the replies are is left to whoever runs it, so that one and the
same program can run against stores in memory, against a server, or step by step among others.
-/

namespace Fleet

/-- A program whose questions are of type `Query`; the reply to `query` has type `Reply query`. -/
inductive Program (Query : Type) (Reply : Query → Type) (α : Type) : Type where
  | done (result : α)
  | ask (query : Query) (next : Reply query → Program Query Reply α)

namespace Program

variable {Query : Type} {Reply : Query → Type} {α β γ σ : Type}

def bind : Program Query Reply α → (α → Program Query Reply β) → Program Query Reply β
  | .done result, next => next result
  | .ask query answered, next => .ask query fun reply => (answered reply).bind next

instance : Monad (Program Query Reply) where
  pure := .done
  bind := bind

@[simp]
theorem done_bind (result : α) (next : α → Program Query Reply β) :
    (done result).bind next = next result := rfl

@[simp]
theorem ask_bind (query : Query) (answered : Reply query → Program Query Reply α)
    (next : α → Program Query Reply β) :
    (ask query answered).bind next = ask query fun reply => (answered reply).bind next := rfl

theorem bind_done (program : Program Query Reply α) : program.bind done = program := by
  induction program with
  | done result => rfl
  | ask query answered ih => exact congrArg (ask query) (funext ih)

theorem bind_assoc (program : Program Query Reply α) (f : α → Program Query Reply β)
    (g : β → Program Query Reply γ) :
    (program.bind f).bind g = program.bind fun result => (f result).bind g := by
  induction program with
  | done result => rfl
  | ask query answered ih => exact congrArg (ask query) (funext ih)

instance : LawfulMonad (Program Query Reply) :=
  LawfulMonad.mk' _ (fun program => bind_done program) (fun _ _ => rfl) bind_assoc

def query (question : Query) : Program Query Reply (Reply question) := .ask question .done

/-- Runs a program in a state, from which every question is answered. -/
def run (answer : (query : Query) → σ → Reply query × σ) :
    Program Query Reply α → σ → α × σ
  | .done result, state => (result, state)
  | .ask query next, state =>
      let (reply, state) := answer query state
      (next reply).run answer state

@[simp]
theorem run_done (answer : (query : Query) → σ → Reply query × σ) (result : α) (state : σ) :
    (done result : Program Query Reply α).run answer state = (result, state) := rfl

@[simp]
theorem run_ask (answer : (query : Query) → σ → Reply query × σ) (question : Query)
    (next : Reply question → Program Query Reply α) (state : σ) :
    (ask question next).run answer state =
      (next (answer question state).1).run answer (answer question state).2 := rfl

theorem run_bind (answer : (query : Query) → σ → Reply query × σ)
    (program : Program Query Reply α) (next : α → Program Query Reply β) (state : σ) :
    (program.bind next).run answer state =
      (next (program.run answer state).1).run answer (program.run answer state).2 := by
  induction program generalizing state with
  | done result => rfl
  | ask query answered ih => exact ih _ _

/-- Puts every question of a program in the terms of a wider language. -/
def translate {Query' : Type} {Reply' : Query' → Type} (widen : Query → Query')
    (narrow : (query : Query) → Reply' (widen query) → Reply query) :
    Program Query Reply α → Program Query' Reply' α
  | .done result => .done result
  | .ask query next =>
      .ask (widen query) fun reply => (next (narrow query reply)).translate widen narrow

end Program

end Fleet
