import Fleet.Proofs.Experiment.PhaseEvents

namespace Fleet.Proofs.Experiment.Phases

open Fleet.Experiment
open Fleet.Proofs.Contract
open Fleet.Proofs.Experiment.PhaseEvents
open Fleet.Proofs.Experiment.Readiness
open Fleet.Proofs.Experiment.SettledSteps
open Fleet.Proofs.Transcripts

/-- A pass over an experiment, and whoever answers it. -/
structure Visit where
  settings : Settings
  experiment : Experiment
  State : Type
  answer : (effect : Effect) → State → effect.Reply × State
  state : State

namespace Visit

variable (visit : Visit)

def record : Record :=
  transcript visit.answer (reconcile visit.settings visit.experiment) visit.state

/-- The events that the pass publishes. -/
def told : List Event := published visit.record

def Departs : Prop := visit.experiment.metadata.deletionTimestamp.isSome = true

instance : Decidable visit.Departs := inferInstanceAs (Decidable (_ = _))

def steps : (StatusDraft × Outcome) × visit.State :=
  (runSteps visit.settings (.start visit.experiment)).run visit.answer visit.state

def drafted : StatusDraft := visit.steps.1.1

/-- The status that the pass computes. For an experiment that is being deleted none is computed, and
the one before stays. -/
def computed : Option ExperimentStatus :=
  if visit.Departs then visit.experiment.status else some visit.drafted.status

def before : Option ExperimentPhase := visit.experiment.status.map ExperimentStatus.phase

def after : Option ExperimentPhase := visit.computed.map ExperimentStatus.phase

def Enters (phase : ExperimentPhase) : Prop := visit.after = some phase ∧ visit.before ≠ some phase

instance (phase : ExperimentPhase) : Decidable (visit.Enters phase) :=
  inferInstanceAs (Decidable (_ ∧ _))

end Visit

/-- Each pass starts from the status that the one before has computed. -/
def Succeed : Option ExperimentStatus → List Visit → Prop
  | _, [] => True
  | status, visit :: later => visit.experiment.status = status ∧ Succeed visit.computed later

/-- The ways in which a pass may change the phase. There is none before the first pass. -/
inductive ExperimentPhaseEdge : Option ExperimentPhase → Option ExperimentPhase → Prop
  | first {phase : ExperimentPhase} (h : phase ≠ .error) : ExperimentPhaseEdge none (some phase)
  | runs {phase : ExperimentPhase} : ExperimentPhaseEdge (some phase) (some .running)
  | fails : ExperimentPhaseEdge (some .running) (some .error)
  | stops {phase : ExperimentPhase} : ExperimentPhaseEdge (some phase) (some .stopped)

/-- What a pass does to the phase, and the news of it. -/
inductive PhaseStep (visit : Visit) : Option ExperimentPhase → Option ExperimentPhase →
    List Event → Prop
  | departs (h : visit.Departs) (phase : Option ExperimentPhase) : PhaseStep visit phase phase []
  | first (h : ¬ visit.Departs) {phase : ExperimentPhase} {told : List Event}
      (hmoves : Moves visit.experiment.spec.pause (Saw visit.experiment visit.record) .created phase
        told) : PhaseStep visit none (some phase) (greeting :: told)
  | next (h : ¬ visit.Departs) {before after : ExperimentPhase} {told : List Event}
      (hmoves : Moves visit.experiment.spec.pause (Saw visit.experiment visit.record) before after
        told) : PhaseStep visit (some before) (some after) told

section Visits

variable {visit : Visit} {experiment : Experiment} {saw : Pod → Prop}

theorem told_of_departs (h : visit.Departs) : visit.told = [] := by
  unfold Visit.told Visit.record reconcile
  rw [if_pos (show visit.experiment.metadata.deletionTimestamp.isSome = true from h)]
  rfl

/-- A pass says what its steps say, and then wraps up. -/
theorem record_of_not_departs (h : ¬ visit.Departs) :
    visit.record =
      transcript visit.answer (runSteps visit.settings (.start visit.experiment)) visit.state ++
        transcript visit.answer (wrapUp visit.settings visit.drafted visit.steps.1.2)
          visit.steps.2 := by
  unfold Visit.record reconcile
  rw [if_neg (show ¬ visit.experiment.metadata.deletionTimestamp.isSome = true from h)]
  exact transcript_bind ..

theorem phaseMoved_drafted (h : ¬ visit.Departs) :
    visit.told = visit.drafted.events ∧ ∃ now,
      PhaseMoved (Saw visit.experiment visit.record) (greet (.start visit.experiment) now)
        visit.drafted := by
  obtain ⟨hcontinues, now, hmoved⟩ := suits_of_keeps
    (keeps_runSteps visit.settings visit.experiment []) visit.answer visit.state
  obtain ⟨hkept, hpublished⟩ := suits_of_keeps
    (keeps_wrapUp visit.settings visit.drafted visit.steps.1.2 _) visit.answer visit.steps.2
  rw [← record_of_not_departs h] at hkept hpublished
  rw [List.nil_append] at hcontinues hmoved
  refine ⟨?_, now, phaseMoved_mono hmoved ?_⟩
  · refine hpublished.trans ?_
    rw [hcontinues.published]
    rfl
  · rintro pod ⟨pods, hpod, hlisted⟩
    exact ⟨pods, hpod, hkept _ hlisted⟩

theorem greet_of_absent (h : experiment.status = none) (now : Instant) :
    (greet (.start experiment) now).status.phase = .created ∧
      (greet (.start experiment) now).events = [greeting] := by
  have hstart : (Draft.start experiment).status = default := by
    rw [Draft.start, h]
    rfl
  unfold greet
  rw [hstart]
  exact ⟨rfl, rfl⟩

theorem greet_of_told {status : ExperimentStatus} (h : experiment.status = some status)
    (hinitialized : status.conditions.isTrue .initialized = true) (now : Instant) :
    (greet (.start experiment) now).status.phase = status.phase ∧
      (greet (.start experiment) now).events = [] := by
  have hstart : (Draft.start experiment).status = status := by
    rw [Draft.start, h]
    rfl
  unfold greet
  rw [hstart, if_pos hinitialized, hstart]
  exact ⟨rfl, rfl⟩

theorem phaseStep (h : ∀ status, visit.experiment.status = some status → Coherent status) :
    PhaseStep visit visit.before visit.after (news visit.told) := by
  unfold Visit.after Visit.computed
  by_cases hdeparts : visit.Departs
  · rw [told_of_departs hdeparts, if_pos hdeparts]
    exact .departs hdeparts visit.before
  · obtain ⟨htold, now, hmoved⟩ := phaseMoved_drafted hdeparts
    obtain ⟨told, hmoves, hnews⟩ := hmoved.moves
    have hobserved := observed_greet visit.experiment now
    rw [htold, if_neg hdeparts, hnews]
    rw [hobserved] at hmoves
    unfold Visit.before
    cases hstatus : visit.experiment.status with
    | none =>
        obtain ⟨hphase, hevents⟩ := greet_of_absent hstatus now
        rw [hphase] at hmoves
        rw [hevents]
        exact .first hdeparts hmoves
    | some status =>
        obtain ⟨hphase, hevents⟩ := greet_of_told hstatus (h status hstatus).initialized now
        rw [hphase] at hmoves
        rw [hevents]
        exact .next hdeparts hmoves

theorem coherent_computed
    (h : ∀ status, visit.experiment.status = some status → Coherent status) :
    ∀ status, visit.computed = some status → Coherent status := by
  unfold Visit.computed
  split
  · exact h
  · rintro _ ⟨⟩
    obtain ⟨-, hcoherent⟩ := exists_suits_of_keeps (Readiness.keeps_runSteps h visit.settings)
      visit.answer visit.state
    exact hcoherent

def isUnhealthy (event : Event) : Bool := event.reason == Event.unhealthy

def isStateChange (event : Event) : Bool := event.reason == Event.stateChange

/-- How the phase moves in a pass and what is told of it. News are never told twice. -/
structure PhaseReported (visit : Visit) : Prop where
  phase : visit.after = visit.before ∨ ExperimentPhaseEdge visit.before visit.after
  unhealthy : visit.told.countP isUnhealthy = if visit.Enters .error then 1 else 0
  stateChange : visit.told.countP isStateChange = if visit.Enters .stopped then 1 else 0
  greeted : visit.told.countP (· == greeting) =
    if visit.before = none ∧ ¬ visit.Departs then 1 else 0
  blamed : visit.Enters .error → visit.experiment.spec.pause = false ∧
    ∃ pod, Saw visit.experiment visit.record pod ∧ pod.content.isReady = false
  paused : visit.Enters .stopped → visit.experiment.spec.pause = true

theorem countP_news {p : Event → Bool} (h : ∀ event, p event = true → isNews event = true)
    (events : List Event) : (news events).countP p = events.countP p := by
  rw [news, List.countP_filter]
  refine List.countP_congr fun event _ => ?_
  rw [Bool.and_eq_true]
  exact ⟨fun hboth => hboth.1, fun hevent => ⟨hevent, h event hevent⟩⟩

theorem isNews_of_isUnhealthy (event : Event) (h : isUnhealthy event = true) :
    isNews event = true := by
  unfold isUnhealthy at h
  simp [isNews, h]

theorem isNews_of_isStateChange (event : Event) (h : isStateChange event = true) :
    isNews event = true := by
  unfold isStateChange at h
  simp [isNews, h]

theorem isNews_of_greeting (event : Event) (h : (event == greeting) = true) :
    isNews event = true := by
  simp [isNews, h]

theorem experimentPhaseEdge_of_moves {pause : Bool} {before after : ExperimentPhase}
    {told : List Event}
    (h : Moves pause saw before after told) :
    some after = some before ∨ ExperimentPhaseEdge (some before) (some after) := by
  cases h with
  | stays => exact .inl rfl
  | runs => exact .inr .runs
  | fails => exact .inr .fails
  | stops => exact .inr .stops

theorem kind_of_failing (pod : Pod) :
    isUnhealthy (failing pod) = true ∧ isStateChange (failing pod) = false ∧
      failing pod ≠ greeting :=
  ⟨show (Event.unhealthy == Event.unhealthy) = true by decide,
    show (Event.unhealthy == Event.stateChange) = false by decide,
    fun h => absurd (congrArg Event.severity h) nofun⟩

theorem kind_of_pausing :
    isUnhealthy pausing = false ∧ isStateChange pausing = true ∧ pausing ≠ greeting := by
  decide

theorem kind_of_greeting : isUnhealthy greeting = false ∧ isStateChange greeting = false := by
  decide

theorem countP_of_moves {pause : Bool} {before after : ExperimentPhase} {told : List Event}
    (h : Moves pause saw before after told) :
    told.countP isUnhealthy = (if after = .error ∧ before ≠ .error then 1 else 0) ∧
      told.countP isStateChange = (if after = .stopped ∧ before ≠ .stopped then 1 else 0) ∧
      told.countP (· == greeting) = 0 := by
  cases h with
  | stays => simp
  | runs => simp
  | @fails pod =>
      obtain ⟨hunhealthy, hstate, hgreeting⟩ := kind_of_failing pod
      simp [hunhealthy, hstate, hgreeting]
  | stops hpause hphase =>
      obtain ⟨hunhealthy, hstate, hgreeting⟩ := kind_of_pausing
      simp [hunhealthy, hstate, hgreeting, hphase]

theorem blamed_of_moves {pause : Bool} {before : ExperimentPhase} {told : List Event}
    (h : Moves pause saw before .error told) (hnew : before ≠ .error) :
    pause = false ∧ ∃ pod, saw pod ∧ pod.content.isReady = false := by
  cases h with
  | stays => contradiction
  | fails hpause hsaw hready => exact ⟨hpause, _, hsaw, hready⟩

theorem paused_of_moves {pause : Bool} {before : ExperimentPhase} {told : List Event}
    (h : Moves pause saw before .stopped told) (hnew : before ≠ .stopped) : pause = true := by
  cases h with
  | stays => contradiction
  | stops hpause hphase => exact hpause

theorem phaseReported_of_phaseStep {before after : Option ExperimentPhase} {told : List Event}
    (h : PhaseStep visit before after told) (hbefore : visit.before = before)
    (hafter : visit.after = after) (htold : news visit.told = told) : PhaseReported visit := by
  have hunhealthy := countP_news isNews_of_isUnhealthy visit.told
  have hstate := countP_news isNews_of_isStateChange visit.told
  have hgreeting := countP_news isNews_of_greeting visit.told
  rw [htold] at hunhealthy hstate hgreeting
  cases h with
  | departs hdeparts =>
      refine ⟨?_, ?_, ?_, ?_, ?_, ?_⟩
      · exact .inl (hafter.trans hbefore.symm)
      · simp [← hunhealthy, Visit.Enters, hbefore, hafter]
      · simp [← hstate, Visit.Enters, hbefore, hafter]
      · simp [← hgreeting, hdeparts]
      · exact fun henters => absurd (hbefore.trans (hafter.symm.trans henters.1)) henters.2
      · exact fun henters => absurd (hbefore.trans (hafter.symm.trans henters.1)) henters.2
  | @first hdeparts phase told hmoves =>
      obtain ⟨hcountUnhealthy, hcountState, hcountGreeting⟩ := countP_of_moves hmoves
      obtain ⟨hgreetingUnhealthy, hgreetingState⟩ := kind_of_greeting
      refine ⟨?_, ?_, ?_, ?_, ?_, ?_⟩
      · rw [hbefore, hafter]
        refine .inr (.first fun herror => ?_)
        subst herror
        -- Only a running experiment fails, and this one has just been created.
        cases hmoves
      · simp [← hunhealthy, Visit.Enters, hbefore, hafter, hcountUnhealthy, hgreetingUnhealthy]
      · simp [← hstate, Visit.Enters, hbefore, hafter, hcountState, hgreetingState]
      · simp [← hgreeting, hdeparts, hbefore, hcountGreeting]
      · intro henters
        cases hafter.symm.trans henters.1
        exact blamed_of_moves hmoves nofun
      · intro henters
        cases hafter.symm.trans henters.1
        exact paused_of_moves hmoves nofun
  | @next hdeparts before after told hmoves =>
      obtain ⟨hcountUnhealthy, hcountState, hcountGreeting⟩ := countP_of_moves hmoves
      refine ⟨?_, ?_, ?_, ?_, ?_, ?_⟩
      · rw [hbefore, hafter]
        exact experimentPhaseEdge_of_moves hmoves
      · simp [← hunhealthy, Visit.Enters, hbefore, hafter, hcountUnhealthy]
      · simp [← hstate, Visit.Enters, hbefore, hafter, hcountState]
      · simp [← hgreeting, hbefore, hcountGreeting]
      · intro henters
        cases hafter.symm.trans henters.1
        exact blamed_of_moves hmoves fun hsame => henters.2 (hsame ▸ hbefore)
      · intro henters
        cases hafter.symm.trans henters.1
        exact paused_of_moves hmoves fun hsame => henters.2 (hsame ▸ hbefore)

theorem computed_eq_none_iff :
    visit.computed = none ↔ visit.experiment.status = none ∧ visit.Departs := by
  unfold Visit.computed
  split
  · rename_i hdeparts
    exact ⟨fun hnone => ⟨hnone, hdeparts⟩, fun hnone => hnone.1⟩
  · rename_i hstays
    exact ⟨nofun, fun hnone => absurd hnone.2 hstays⟩

end Visits

theorem phaseReported_of_succeed {status : Option ExperimentStatus} {visits : List Visit}
    (h : Succeed status visits) (hcoherent : ∀ told, status = some told → Coherent told)
    {i : Nat} {visit : Visit} (hvisit : visits[i]? = some visit) :
    PhaseReported visit ∧
      (visit.before = none ↔ status = none ∧ ∀ earlier ∈ visits.take i, earlier.Departs) := by
  -- Each pass computes a coherent status, which is what the rest of the run starts from.
  induction visits generalizing status i with
  | nil => exact absurd hvisit (by simp)
  | cons first later ih =>
      obtain ⟨hstart, hlater⟩ := h
      have hfirst : ∀ told, first.experiment.status = some told → Coherent told :=
        hstart ▸ hcoherent
      cases i with
      | zero =>
          cases hvisit
          refine ⟨phaseReported_of_phaseStep (phaseStep hfirst) rfl rfl rfl, ?_⟩
          unfold Visit.before
          rw [hstart, Option.map_eq_none_iff, List.take_zero]
          exact ⟨fun hnone => ⟨hnone, List.forall_mem_nil _⟩, fun hnone => hnone.1⟩
      | succ i =>
          obtain ⟨horderly, hnone⟩ := ih hlater (coherent_computed hfirst) hvisit
          refine ⟨horderly, hnone.trans ?_⟩
          rw [List.take_succ_cons, List.forall_mem_cons, computed_eq_none_iff, hstart, and_assoc]

/-- Whatever a pass is told in reply, the phase moves as it is allowed to, and of every move to
*error* or *stopped* people are told once, by the pass that makes it. The first pass that does not
find the experiment being deleted greets it, and no other does. -/
theorem phaseReported_and_greeted_once {visits : List Visit} (h : Succeed none visits) {i : Nat}
    {visit : Visit}
    (hvisit : visits[i]? = some visit) :
    PhaseReported visit ∧
      (greeting ∈ visit.told ↔
        ¬ visit.Departs ∧ ∀ earlier ∈ visits.take i, earlier.Departs) ∧
      ((∀ first ∈ visits.head?, ¬ first.Departs) → (greeting ∈ visit.told ↔ i = 0)) := by
  obtain ⟨horderly, hnone⟩ := phaseReported_of_succeed h (fun _ hnone => nomatch hnone) hvisit
  have hgreets : greeting ∈ visit.told ↔
      ¬ visit.Departs ∧ ∀ earlier ∈ visits.take i, earlier.Departs := by
    have hcount : greeting ∈ visit.told ↔ 0 < visit.told.countP (· == greeting) := by
      simp [List.countP_pos_iff]
    rw [hcount, horderly.greeted]
    split
    · rename_i hfirst
      exact ⟨fun _ => ⟨hfirst.2, (hnone.mp hfirst.1).2⟩, fun _ => Nat.one_pos⟩
    · rename_i hlater
      exact ⟨nofun, fun hfirst => absurd ⟨hnone.mpr ⟨rfl, hfirst.2⟩, hfirst.1⟩ hlater⟩
  refine ⟨horderly, hgreets, fun hstays => hgreets.trans ?_⟩
  cases visits with
  | nil => exact absurd hvisit (by simp)
  | cons first later =>
      have hfirst : ¬ first.Departs := hstays first rfl
      cases i with
      | zero =>
          cases hvisit
          exact ⟨fun _ => rfl, fun _ => ⟨hfirst, List.forall_mem_nil _⟩⟩
      | succ i =>
          refine ⟨fun hearlier => absurd (hearlier.2 first ?_) hfirst, nofun⟩
          exact List.mem_cons_self

def labVisit (experiment : Experiment) (world : Rehearsal.World) : Visit where
  settings := {}
  experiment := experiment
  State := Rehearsal.World
  answer := Rehearsal.World.answer
  state := world

def ailingLab : Rehearsal.World :=
  (lab.mutate .pod ⟨some "lab", "rats"⟩ fun pod => { pod with content := {} }).2

def healthyVisit : Visit := labVisit labExperiment lab

def ailingVisit : Visit :=
  labVisit { labExperiment with content := { labExperiment.content with
    status := healthyVisit.computed } } ailingLab

def pausedVisit : Visit :=
  labVisit { labExperiment with content := {
    spec := { labExperiment.spec with pause := true }
    status := ailingVisit.computed } } ailingLab

theorem phaseReported_and_greeted_once_in_lab :
    Succeed none [healthyVisit, ailingVisit, pausedVisit] ∧
      [healthyVisit, ailingVisit, pausedVisit].map Visit.after =
        [some .running, some .error, some .stopped] ∧
      PhaseReported pausedVisit ∧
      (greeting ∈ pausedVisit.told ↔ ¬ pausedVisit.Departs ∧
        ∀ earlier ∈ [healthyVisit, ailingVisit], earlier.Departs) ∧
      (greeting ∈ pausedVisit.told ↔ 2 = 0) := by
  have hsucceed : Succeed none [healthyVisit, ailingVisit, pausedVisit] := ⟨rfl, rfl, rfl, trivial⟩
  have hthird : [healthyVisit, ailingVisit, pausedVisit][2]? = some pausedVisit := rfl
  obtain ⟨horderly, hgreets, hfirst⟩ := phaseReported_and_greeted_once hsucceed hthird
  refine ⟨hsucceed, by rfl, horderly, hgreets, hfirst ?_⟩
  rintro _ ⟨⟩
  decide

end Fleet.Proofs.Experiment.Phases
