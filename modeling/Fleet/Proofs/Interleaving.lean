import Fleet.Proofs.Contract
import Mathlib.Data.List.Induction

namespace Fleet.Proofs.Interleaving

open Fleet.Proofs.Contract

variable {Scene Worker Query σ α : Type} {Reply : Query → Type}

/-- The workers of a scene: where it keeps them, the program that each of them runs, and how one of
them goes on with a reply. -/
structure Crew (Scene Worker Query : Type) (Reply : Query → Type) (α : Type) where
  workers : Scene → List Worker
  withWorkers : Scene → List Worker → Scene
  program : Worker → Program Query Reply α
  resume : Worker → (query : Query) → Reply query → Program Query Reply α → Worker
  workers_withWorkers : ∀ scene others, workers (withWorkers scene others) = others

namespace Crew

variable (crew : Crew Scene Worker Query Reply α)

def enroll (scene : Scene) (worker : Worker) : Scene :=
  crew.withWorkers scene (crew.workers scene ++ [worker])

/-- Goes on after a question of a worker has been answered, which has led to the scene `after`. -/
def goOn (scene : Scene) (index : Nat) (worker : Worker) (query : Query) (reply : Reply query)
    (next : Program Query Reply α) (after : Scene) : Scene :=
  crew.withWorkers after ((crew.workers scene).set index (crew.resume worker query reply next))

/-- Lets a worker ask its next question. A worker that is done has none, and one that is not
answered waits. -/
def advance (answer? : Worker → (query : Query) → Option (Reply query × Scene)) (scene : Scene)
    (index : Nat) : Scene :=
  match (crew.workers scene)[index]? with
  | none => scene
  | some worker =>
      match crew.program worker with
      | .done _ => scene
      | .ask query next =>
          match answer? worker query with
          | none => scene
          | some (reply, after) => crew.goOn scene index worker query reply (next reply) after

end Crew

variable {crew : Crew Scene Worker Query Reply α}
  {answer? : Worker → (query : Query) → Option (Reply query × Scene)} {scene after : Scene}
  {worker : Worker} {query : Query} {next : Reply query → Program Query Reply α}
  {reply : Reply query}

/-- What a turn comes to: nothing, or the worker's question is answered and it goes on. -/
inductive Turn (crew : Crew Scene Worker Query Reply α)
    (answer? : Worker → (query : Query) → Option (Reply query × Scene)) (scene : Scene)
    (index : Nat) : Scene → Prop where
  | rests : Turn crew answer? scene index scene
  | goesOn {worker : Worker} {query : Query} {next : Reply query → Program Query Reply α}
      {reply : Reply query} {after : Scene}
      (hworker : (crew.workers scene)[index]? = some worker)
      (hprogram : crew.program worker = .ask query next)
      (hanswer : answer? worker query = some (reply, after)) :
      Turn crew answer? scene index
        (crew.goOn scene index worker query reply (next reply) after)

theorem turn_advance (crew : Crew Scene Worker Query Reply α)
    (answer? : Worker → (query : Query) → Option (Reply query × Scene)) (scene : Scene)
    (index : Nat) : Turn crew answer? scene index (crew.advance answer? scene index) := by
  unfold Crew.advance
  split
  · exact .rests
  · rename_i worker hworker
    split
    · exact .rests
    · rename_i query next hprogram
      split
      · exact .rests
      · rename_i reply after hanswer
        exact .goesOn hworker hprogram hanswer

theorem advance_of_none {index : Nat} (hworker : (crew.workers scene)[index]? = none) :
    crew.advance answer? scene index = scene := by
  unfold Crew.advance
  rw [hworker]

theorem advance_of_done {index : Nat} {result : α}
    (hworker : (crew.workers scene)[index]? = some worker)
    (hprogram : crew.program worker = .done result) :
    crew.advance answer? scene index = scene := by
  unfold Crew.advance
  rw [hworker]
  dsimp only
  rw [hprogram]

theorem advance_of_answer {index : Nat} (hworker : (crew.workers scene)[index]? = some worker)
    (hprogram : crew.program worker = .ask query next)
    (hanswer : answer? worker query = some (reply, after)) :
    crew.advance answer? scene index =
      crew.goOn scene index worker query reply (next reply) after := by
  unfold Crew.advance
  rw [hworker]
  dsimp only
  rw [hprogram]
  dsimp only
  rw [hanswer]

theorem forall_mem_set {Fits : Worker → Prop} {workers : List Worker}
    (h : ∀ other ∈ workers, Fits other) (hworker : Fits worker) (index : Nat) :
    ∀ other ∈ workers.set index worker, Fits other := by
  intro other hother
  rcases List.mem_or_eq_of_mem_set hother with hold | rfl
  · exact h other hold
  · exact hworker

theorem forall_workers_enroll (crew : Crew Scene Worker Query Reply α) {scene : Scene}
    {Fits : Worker → Prop} (h : ∀ other ∈ crew.workers scene, Fits other)
    (hworker : Fits worker) : ∀ other ∈ crew.workers (crew.enroll scene worker), Fits other := by
  rw [Crew.enroll, crew.workers_withWorkers, List.forall_mem_append]
  exact ⟨h, List.forall_mem_singleton.mpr hworker⟩

theorem forall_workers_goOn (crew : Crew Scene Worker Query Reply α) {scene : Scene}
    {Fits : Worker → Prop} (h : ∀ other ∈ crew.workers scene, Fits other)
    {rest : Program Query Reply α} (hworker : Fits (crew.resume worker query reply rest))
    (index : Nat) (after : Scene) :
    ∀ other ∈ crew.workers (crew.goOn scene index worker query reply rest after), Fits other := by
  rw [Crew.goOn, crew.workers_withWorkers]
  exact forall_mem_set h hworker index

/-- The rules that each worker is bound by, and the situation that it has come to. -/
structure Conduct (crew : Crew Scene Worker Query Reply α) (σ : Type) where
  rules : Worker → Rules σ Query Reply
  suits : Worker → σ → α → Prop
  situation : Worker → σ
  program_resume : ∀ worker query reply rest,
    crew.program (crew.resume worker query reply rest) = rest
  rules_resume : ∀ worker query reply rest,
    rules (crew.resume worker query reply rest) = rules worker
  suits_resume : ∀ worker query reply rest,
    suits (crew.resume worker query reply rest) = suits worker
  situation_resume : ∀ worker query reply rest,
    situation (crew.resume worker query reply rest) =
      (rules worker).after (situation worker) query reply

variable {conduct : Conduct crew σ}

/-- The worker keeps to its rules, whatever it is told. -/
def Conduct.Follows (conduct : Conduct crew σ) (worker : Worker) : Prop :=
  Keeps (conduct.rules worker) (conduct.suits worker) (crew.program worker)
    (conduct.situation worker)

/-- What the worker asks next, its rules allow in the situation that it has come to. -/
def Conduct.Asks (conduct : Conduct crew σ) (worker : Worker) (query : Query) : Prop :=
  (conduct.rules worker).allows (conduct.situation worker) query

theorem asks_of_follows (h : conduct.Follows worker)
    (hprogram : crew.program worker = .ask query next) : conduct.Asks worker query := by
  rw [Conduct.Follows, hprogram] at h
  exact h.1

theorem follows_resume (h : conduct.Follows worker)
    (hprogram : crew.program worker = .ask query next) (reply : Reply query) :
    conduct.Follows (crew.resume worker query reply (next reply)) := by
  rw [Conduct.Follows, hprogram] at h
  rw [Conduct.Follows, conduct.rules_resume, conduct.suits_resume, conduct.program_resume,
    conduct.situation_resume]
  exact h.2 reply

/-- What holds in a scene, and what each worker knows of it. Neither depends on who is at work. -/
structure Invariant (crew : Crew Scene Worker Query Reply α) where
  holds : Scene → Prop
  knows : Scene → Worker → Prop
  holds_withWorkers : ∀ scene others, holds scene → holds (crew.withWorkers scene others)
  knows_withWorkers : ∀ scene others worker, knows scene worker →
    knows (crew.withWorkers scene others) worker

variable {invariant : Invariant crew}

structure Sound (conduct : Conduct crew σ) (invariant : Invariant crew) (scene : Scene) : Prop where
  holds : invariant.holds scene
  follows : ∀ worker ∈ crew.workers scene, conduct.Follows worker
  knows : ∀ worker ∈ crew.workers scene, invariant.knows scene worker

/-- What holds after a question of a worker has been answered, and what everyone knows then. -/
structure Kept (invariant : Invariant crew) (scene : Scene) (worker : Worker) (query : Query)
    (reply : Reply query) (after : Scene) : Prop where
  holds : invariant.holds after
  others : ∀ other ∈ crew.workers scene, invariant.knows after other
  resumed : ∀ rest, invariant.knows after (crew.resume worker query reply rest)

theorem sound_of_turn {index : Nat} (h : Sound conduct invariant scene)
    (hkept : ∀ worker ∈ crew.workers scene, ∀ query reply after, conduct.Asks worker query →
      answer? worker query = some (reply, after) → Kept invariant scene worker query reply after)
    (hturn : Turn crew answer? scene index after) : Sound conduct invariant after := by
  cases hturn with
  | rests => exact h
  | @goesOn worker query next reply after hworker hprogram hanswer =>
      have hmem := List.mem_of_getElem? hworker
      have hfollows := h.follows worker hmem
      have hafter := hkept worker hmem query reply after (asks_of_follows hfollows hprogram) hanswer
      refine ⟨invariant.holds_withWorkers _ _ hafter.holds, ?_, ?_⟩
      · exact forall_workers_goOn crew h.follows
          (follows_resume hfollows hprogram reply) index after
      · refine forall_workers_goOn crew (fun other hother => ?_) ?_ index after
        · exact invariant.knows_withWorkers _ _ _ (hafter.others other hother)
        · exact invariant.knows_withWorkers _ _ _ (hafter.resumed (next reply))

/-- An invariant that is kept by every answer to what the rules allow is kept by every turn. -/
theorem sound_advance (h : Sound conduct invariant scene)
    (hkept : ∀ worker ∈ crew.workers scene, ∀ query reply after, conduct.Asks worker query →
      answer? worker query = some (reply, after) → Kept invariant scene worker query reply after)
    (index : Nat) : Sound conduct invariant (crew.advance answer? scene index) :=
  sound_of_turn h hkept (turn_advance crew answer? scene index)

theorem sound_enroll (h : Sound conduct invariant scene) (hfollows : conduct.Follows worker)
    (hknows : invariant.knows scene worker) :
    Sound conduct invariant (crew.enroll scene worker) := by
  refine ⟨invariant.holds_withWorkers _ _ h.holds,
    forall_workers_enroll crew h.follows hfollows, ?_⟩
  exact forall_workers_enroll crew
    (fun other hother => invariant.knows_withWorkers _ _ _ (h.knows other hother))
    (invariant.knows_withWorkers _ _ _ hknows)

/-- What holds at the start of a run and is kept by each of its moves holds at its end. It may be
about the moves that have been made so far. -/
theorem run_induction {Move : Type} {move : Scene → Move → Scene} {start : Scene}
    {moves : List Move} {motive : List Move → Scene → Prop} (hstart : motive [] start)
    (hmove : ∀ earlier last, earlier ++ [last] <+: moves →
      motive earlier (earlier.foldl move start) →
        motive (earlier ++ [last]) (move (earlier.foldl move start) last)) :
    motive moves (moves.foldl move start) := by
  induction moves using List.reverseRecOn with
  | nil => exact hstart
  | append_singleton earlier last ih =>
      rw [List.foldl_append]
      refine hmove earlier last (List.prefix_refl _) (ih fun before next hearly => ?_)
      exact hmove before next (hearly.trans (List.prefix_append earlier [last]))

end Fleet.Proofs.Interleaving
