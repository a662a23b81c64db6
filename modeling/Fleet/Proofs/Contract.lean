import Fleet.Pass.Basic

/-!
Contracts of programs: what a program may ask at each point, whatever the replies are. A contract
follows the program through a situation that every reply changes. It is proved of a program once,
from its text, and then holds in every run, however the runs of several programs interleave.
-/

namespace Fleet.Proofs.Contract

variable {σ Query : Type} {Reply : Query → Type} {α β : Type}

/-- What may be asked in a situation, and the situation that a reply leads to. -/
structure Rules (σ Query : Type) (Reply : Query → Type) where
  allows : σ → Query → Prop
  after : σ → (query : Query) → Reply query → σ

/-- Whatever the replies are, the program asks only what the rules allow, and ends only with
results that suit the situation it has reached. -/
def Keeps (rules : Rules σ Query Reply) (suits : σ → α → Prop) :
    Program Query Reply α → σ → Prop
  | .done result, situation => suits situation result
  | .ask query next, situation =>
      rules.allows situation query ∧
        ∀ reply, Keeps rules suits (next reply) (rules.after situation query reply)

theorem keeps_mono {rules : Rules σ Query Reply} {suits suits' : σ → α → Prop}
    {program : Program Query Reply α} {situation : σ}
    (h : Keeps rules suits program situation)
    (himp : ∀ situation result, suits situation result → suits' situation result) :
    Keeps rules suits' program situation := by
  induction program generalizing situation with
  | done result => exact himp situation result h
  | ask query next ih => exact ⟨h.1, fun reply => ih reply (h.2 reply)⟩

theorem keeps_bind {rules : Rules σ Query Reply} {middle : σ → α → Prop}
    {suits : σ → β → Prop} {program : Program Query Reply α}
    {next : α → Program Query Reply β} {situation : σ}
    (h : Keeps rules middle program situation)
    (hnext : ∀ situation result, middle situation result →
      Keeps rules suits (next result) situation) :
    Keeps rules suits (program >>= next) situation := by
  induction program generalizing situation with
  | done result => exact hnext situation result h
  | ask query answered ih => exact ⟨h.1, fun reply => ih reply (h.2 reply)⟩

/-- A program that keeps to some rules keeps to others that follow them from situation to
situation. -/
theorem keeps_refine {τ : Type} {rules : Rules σ Query Reply} {rules' : Rules τ Query Reply}
    {suits : σ → α → Prop} {related : σ → τ → Prop} {program : Program Query Reply α}
    {situation : σ} {situation' : τ} (h : Keeps rules suits program situation)
    (hrelated : related situation situation')
    (hfollows : ∀ reached reached' query, related reached reached' →
      rules.allows reached query → rules'.allows reached' query ∧
        ∀ reply, related (rules.after reached query reply) (rules'.after reached' query reply)) :
    Keeps rules' (fun reached' result => ∃ reached, related reached reached' ∧ suits reached result)
      program situation' := by
  induction program generalizing situation situation' with
  | done result => exact ⟨situation, hrelated, h⟩
  | ask query next ih =>
      obtain ⟨hallowed, hafter⟩ := hfollows situation situation' query hrelated h.1
      exact ⟨hallowed, fun reply => ih reply (h.2 reply) (hafter reply)⟩

/-- Questions that are always allowed and teach nothing leave the situation as it is. -/
theorem keeps_of_idle {rules : Rules σ Query Reply} {situation : σ}
    (program : Program Query Reply α)
    (h : ∀ query, rules.allows situation query ∧
      ∀ reply, rules.after situation query reply = situation) :
    Keeps rules (fun reached _ => reached = situation) program situation := by
  induction program with
  | done result => rfl
  | ask query next ih =>
      refine ⟨(h query).1, fun reply => ?_⟩
      rw [(h query).2 reply]
      exact ih reply

/-- Rules for passes, as the calls to the store of one kind see them. -/
def Rules.onStore (rules : Rules σ Effect Effect.Reply) (kind : Kind) :
    Rules σ (Store.Call kind.Content) Store.Call.Reply where
  allows situation call := rules.allows situation (.store kind call)
  after situation call reply := rules.after situation (.store kind call) reply

theorem keeps_on {rules : Rules σ Effect Effect.Reply} {kind : Kind} {suits : σ → α → Prop}
    {access : Store.Access kind.Content α} {situation : σ}
    (h : Keeps (rules.onStore kind) suits access situation) :
    Keeps rules suits (Pass.on kind access) situation := by
  induction access generalizing situation with
  | done result => exact h
  | ask call next ih => exact ⟨h.1, fun reply => ih reply (h.2 reply)⟩

theorem keeps_publishAll {rules : Rules σ Effect Effect.Reply} {situation : σ}
    (regarding : ObjectReference) (events : List Event)
    (h : ∀ event, rules.allows situation (.publish regarding event) ∧
      rules.after situation (.publish regarding event) () = situation) :
    Keeps rules (fun reached _ => reached = situation) (Pass.publishAll regarding events)
      situation := by
  induction events with
  | nil => rfl
  | cons event rest ih =>
      refine ⟨(h event).1, fun reply => ?_⟩
      rw [show rules.after situation (.publish regarding event) reply = situation from (h event).2]
      exact ih

def asked (answer : (query : Query) → β → Reply query × β) :
    Program Query Reply α → β → List Query
  | .done _, _ => []
  | .ask query next, state =>
      query :: asked answer (next (answer query state).1) (answer query state).2

theorem exists_allows_of_mem_asked {rules : Rules σ Query Reply} {suits : σ → α → Prop}
    {program : Program Query Reply α} {situation : σ}
    (h : Keeps rules suits program situation)
    {answer : (query : Query) → β → Reply query × β} {state : β} {query : Query}
    (hquery : query ∈ asked answer program state) :
    ∃ reached, rules.allows reached query := by
  induction program generalizing situation state with
  | done result => simp [asked] at hquery
  | ask question next ih =>
      rcases List.mem_cons.mp hquery with rfl | hlater
      · exact ⟨situation, h.1⟩
      · exact ih _ (h.2 _) hlater

theorem exists_suits_of_keeps {rules : Rules σ Query Reply} {suits : σ → α → Prop}
    {program : Program Query Reply α} {situation : σ}
    (h : Keeps rules suits program situation)
    (answer : (query : Query) → β → Reply query × β) (state : β) :
    ∃ reached, suits reached (program.run answer state).1 := by
  induction program generalizing situation state with
  | done result => exact ⟨situation, h⟩
  | ask question next ih => exact ih _ (h.2 _) _

end Fleet.Proofs.Contract
