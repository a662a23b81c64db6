import Fleet.Proofs.Contract

namespace Fleet.Proofs.Transcripts

open Fleet.Proofs.Contract

variable {σ α β Query : Type} {Reply : Query → Type}

/-- A question and the reply to it. -/
abbrev Exchange (Reply : Query → Type) : Type := (query : Query) × Reply query

/-- What is said in a run, in order. -/
def transcript (answer : (query : Query) → σ → Reply query × σ) :
    Program Query Reply α → σ → List (Exchange Reply)
  | .done _, _ => []
  | .ask query next, state =>
      ⟨query, (answer query state).1⟩ ::
        transcript answer (next (answer query state).1) (answer query state).2

theorem transcript_bind (answer : (query : Query) → σ → Reply query × σ)
    (program : Program Query Reply α) (next : α → Program Query Reply β) (state : σ) :
    transcript answer (program >>= next) state =
      transcript answer program state ++
        transcript answer (next (program.run answer state).1) (program.run answer state).2 := by
  induction program generalizing state with
  | done result => rfl
  | ask query answered ih => exact congrArg (List.cons _) (ih _ _)

/-- Everything may be asked, and all that is said is remembered. -/
def recorder : Rules (List (Exchange Reply)) Query Reply where
  allows _ _ := True
  after said query reply := said ++ [⟨query, reply⟩]

theorem suits_of_keeps {suits : List (Exchange Reply) → α → Prop}
    {program : Program Query Reply α} {said : List (Exchange Reply)}
    (h : Keeps recorder suits program said) (answer : (query : Query) → σ → Reply query × σ)
    (state : σ) :
    suits (said ++ transcript answer program state) (program.run answer state).1 := by
  induction program generalizing said state with
  | done result => exact (List.append_nil said).symm ▸ h
  | ask query next ih =>
      have hrest := ih _ (h.2 (answer query state).1) (answer query state).2
      rw [recorder, List.append_assoc] at hrest
      exact hrest

abbrev Record : Type := List (Exchange Effect.Reply)

def eventOf? : Exchange Effect.Reply → Option Event
  | ⟨.publish _ event, _⟩ => some event
  | _ => none

def published (said : Record) : List Event := said.filterMap eventOf?

/-- More has been said, but nothing published. -/
structure ExtendsQuietly (said later : Record) : Prop where
  kept : ∀ exchange ∈ said, exchange ∈ later
  published : published later = published said

variable {said middle later : Record} {kind : Kind}

theorem extendsQuietly_refl (said : Record) : ExtendsQuietly said said := ⟨fun _ h => h, rfl⟩

theorem extendsQuietly_trans (h : ExtendsQuietly said middle) (h' : ExtendsQuietly middle later) :
    ExtendsQuietly said later :=
  ⟨fun exchange hexchange => h'.kept exchange (h.kept exchange hexchange),
    h'.published.trans h.published⟩

theorem published_append_singleton (said : Record) (exchange : Exchange Effect.Reply) :
    published (said ++ [exchange]) = published said ++ (eventOf? exchange).toList := by
  unfold published
  rw [List.filterMap_append]
  cases h : eventOf? exchange <;> simp [h]

theorem extendsQuietly_append {exchange : Exchange Effect.Reply} (h : eventOf? exchange = none)
    (said : Record) : ExtendsQuietly said (said ++ [exchange]) := by
  refine ⟨fun _ hexchange => List.mem_append_left _ hexchange, ?_⟩
  rw [published_append_singleton, h]
  exact List.append_nil _

theorem keeps_on_extendsQuietly (access : Store.Access kind.Content α) (said : Record) :
    Keeps recorder (fun later _ => ExtendsQuietly said later) (Pass.on kind access) said := by
  induction access generalizing said with
  | done result => exact extendsQuietly_refl said
  | ask call next ih =>
      refine ⟨trivial, fun reply => ?_⟩
      exact keeps_mono (ih reply _) fun _ _ => extendsQuietly_trans (extendsQuietly_append rfl said)

theorem keeps_publishAll (regarding : ObjectReference) (events : List Event) (said : Record) :
    Keeps recorder (fun later _ => (∀ exchange ∈ said, exchange ∈ later) ∧
      published later = published said ++ events) (Pass.publishAll regarding events) said := by
  induction events generalizing said with
  | nil => exact ⟨fun _ h => h, (List.append_nil _).symm⟩
  | cons event rest ih =>
      refine ⟨trivial, fun reply => keeps_mono (ih _) ?_⟩
      rintro later - ⟨hkept, hpublished⟩
      refine ⟨fun exchange h => hkept exchange (List.mem_append_left _ h), ?_⟩
      rw [hpublished, recorder, published_append_singleton, List.append_assoc]
      rfl

end Fleet.Proofs.Transcripts
