import Fleet.Proofs.Experiment.SettledSteps
import Fleet.Proofs.Transcripts

namespace Fleet.Proofs.Experiment.PhaseEvents

open Fleet.Experiment
open Fleet.Proofs.Contract
open Fleet.Proofs.Experiment.Readiness
open Fleet.Proofs.Experiment.Reports
open Fleet.Proofs.Experiment.SettledSteps
open Fleet.Proofs.Transcripts

def greeting : Event := .normal Event.created "init experiment"

def pausing : Event := .normal Event.stateChange "pause experiment"

def failing (pod : Pod) : Event := .warning Event.unhealthy ("pod " ++ pod.name ++ " not ready")

/-- Whether an event tells of a move of the phase, and not only of the objects around the
experiment. -/
def isNews (event : Event) : Bool :=
  event.reason == Event.unhealthy || event.reason == Event.stateChange || event == greeting

def news (events : List Event) : List Event := events.filter isNews

theorem news_append (events added : List Event) :
    news (events ++ added) = news events ++ news added :=
  List.filter_append ..

theorem ne_init {message : String} (h : message.toList.head? = some 'c') :
    message ≠ "init experiment" := by
  rintro rfl
  exact absurd h (by decide)

theorem isNews_of_ne {event : Event} (hunhealthy : event.reason ≠ Event.unhealthy)
    (hstate : event.reason ≠ Event.stateChange) (hgreeting : event ≠ greeting) :
    isNews event = false := by
  unfold isNews
  rw [beq_eq_false_iff_ne.mpr hunhealthy, beq_eq_false_iff_ne.mpr hstate,
    beq_eq_false_iff_ne.mpr hgreeting]
  rfl

theorem isNews_created {message : String} (h : message.toList.head? = some 'c') :
    isNews (.normal Event.created message) = false := by
  refine isNews_of_ne (show Event.created ≠ _ by decide) (show Event.created ≠ _ by decide) ?_
  exact fun heq => ne_init h (congrArg Event.message heq)

theorem isNews_warning {reason : String} (hunhealthy : reason ≠ Event.unhealthy)
    (hstate : reason ≠ Event.stateChange) (message : String) :
    isNews (.warning reason message) = false :=
  isNews_of_ne hunhealthy hstate fun heq => absurd (congrArg Event.severity heq) nofun

variable {settings : Settings} {progress : Progress} {draft : StatusDraft} {said : Record}
  {experiment : Experiment}

structure Unmoved (a b : StatusDraft) : Prop where
  observed : b.observed = a.observed
  phase : b.status.phase = a.status.phase
  news : news b.events = news a.events

theorem unmoved_refl (draft : StatusDraft) : Unmoved draft draft := ⟨rfl, rfl, rfl⟩

theorem unmoved_trans {a b c : StatusDraft} (h : Unmoved a b) (h' : Unmoved b c) : Unmoved a c :=
  ⟨h'.observed.trans h.observed, h'.phase.trans h.phase, h'.news.trans h.news⟩

theorem unmoved_append {events : List Event} (h : ∀ event ∈ events, isNews event = false)
    (draft : StatusDraft) : Unmoved draft { draft with events := draft.events ++ events } := by
  refine ⟨rfl, rfl, ?_⟩
  have hnone : news events = [] := List.filter_eq_nil_iff.mpr fun event hevent => by
    simp [h event hevent]
  rw [news_append, hnone, List.append_nil]

theorem unmoved_addEvent {event : Event} (h : isNews event = false) (draft : StatusDraft) :
    Unmoved draft (draft.addEvent event) :=
  unmoved_append (fun _ hmem => List.mem_singleton.mp hmem ▸ h) draft

/-- The step leaves phase and pods alone, and tells no news. -/
structure PassesBy (a b : Progress) : Prop extends Unmoved a.draft b.draft where
  pods : b.dependents.pods = a.dependents.pods

theorem keeps_reconcileVolume (settings : Settings) (progress : Progress) (said : Record) :
    Keeps recorder (fun later result => ExtendsQuietly said later ∧ PassesBy progress result)
      (reconcileVolume settings progress) said := by
  unfold reconcileVolume
  split
  · exact ⟨extendsQuietly_refl said, unmoved_refl _, rfl⟩
  · refine keeps_bind (keeps_on_extendsQuietly _ said) ?_
    rintro later reconciled hlater
    refine ⟨hlater, ?_⟩
    dsimp only [Progress.withStep]
    split
    · exact ⟨unmoved_addEvent (isNews_created (by simp)) _, rfl⟩
    · exact ⟨unmoved_refl _, rfl⟩

theorem keeps_reconcileClaim (settings : Settings) (progress : Progress) (said : Record) :
    Keeps recorder (fun later result => ExtendsQuietly said later ∧ PassesBy progress result)
      (reconcileClaim settings progress) said := by
  unfold reconcileClaim
  split
  · exact ⟨extendsQuietly_refl said, unmoved_refl _, rfl⟩
  · refine keeps_bind (keeps_on_extendsQuietly _ said) ?_
    rintro later reconciled hlater
    exact ⟨hlater, unmoved_refl _, rfl⟩

theorem keeps_reconcileData (settings : Settings) (progress : Progress) (said : Record) :
    Keeps recorder (fun later result => ExtendsQuietly said later ∧ PassesBy progress result)
      (reconcileData settings progress) said := by
  refine keeps_bind (keeps_reconcileVolume settings progress said) ?_
  rintro middle between ⟨hmiddle, hvolume⟩
  refine keeps_mono (keeps_reconcileClaim settings between middle) ?_
  rintro later result ⟨hlater, hclaim⟩
  exact ⟨extendsQuietly_trans hmiddle hlater, unmoved_trans hvolume.toUnmoved hclaim.toUnmoved,
    hclaim.pods.trans hvolume.pods⟩

theorem isNews_ingressEvents (ips : List String) (existed : Bool)
    (outcome : Except Failure ResourceAction) :
    ∀ event ∈ ingressEvents ips existed outcome, isNews event = false := by
  unfold ingressEvents
  split
  · simp only [List.mem_cons, List.not_mem_nil, or_false, forall_eq_or_imp, forall_eq]
    have hcreated : Event.discoverExternalIp ≠ Event.created := by decide
    refine ⟨isNews_of_ne ?_ ?_ fun heq => hcreated (congrArg Event.reason heq),
      isNews_created (by simp)⟩
    · exact show Event.discoverExternalIp ≠ _ by decide
    · exact show Event.discoverExternalIp ≠ _ by decide
  · exact nofun
  · split
    · exact nofun
    · simp only [List.mem_singleton, forall_eq]
      exact isNews_warning (by decide) (by decide) _

theorem keeps_reconcileIngress (progress : Progress) (said : Record) :
    Keeps recorder (fun later result => ExtendsQuietly said later ∧ PassesBy progress result)
      (reconcileIngress progress) said := by
  refine keeps_bind (keeps_on_extendsQuietly _ said) ?_
  rintro later reconciled hlater
  have hevents := isNews_ingressEvents progress.dependents.cluster.spec.ingressIPs
    progress.dependents.ingress.isSome reconciled.outcome
  refine ⟨hlater, ?_⟩
  simp only [foldl_addEvent]
  exact ⟨unmoved_append hevents progress.draft, rfl⟩

theorem unmoved_copyIngress (draft : StatusDraft) (ingress : Option Service) :
    Unmoved draft (copyIngress draft ingress) := by
  unfold copyIngress
  split
  · exact unmoved_refl draft
  · split
    · dsimp only
      split
      · exact ⟨rfl, rfl, rfl⟩
      · have hplain (message : String) :
            isNews (.warning Event.noIngressPortFound message) = false :=
          isNews_warning (by decide) (by decide) message
        exact ⟨rfl, rfl, (unmoved_addEvent (hplain _) draft).news⟩
    · exact unmoved_refl draft

theorem unmoved_copyCredentials (draft : StatusDraft) (template : Template) :
    Unmoved draft (copyCredentials draft template) := by
  unfold copyCredentials
  dsimp only
  split
  · exact ⟨rfl, rfl, rfl⟩
  · exact ⟨rfl, rfl, rfl⟩
  · have hplain (message : String) : isNews (.warning Event.noIngressConfig message) = false :=
      isNews_warning (by decide) (by decide) message
    exact ⟨rfl, rfl, (unmoved_addEvent (hplain _) draft).news⟩

theorem unmoved_deriveReadiness (draft : StatusDraft) (volumeExists : Bool) (now : Instant) :
    Unmoved draft (deriveReadiness draft volumeExists now) :=
  ⟨rfl, phase_deriveReadiness draft volumeExists now, rfl⟩

theorem unmoved_updateConnection (draft : StatusDraft) (dependents : Dependents) (now : Instant) :
    Unmoved draft (updateConnection draft dependents now) := by
  have hcopied := unmoved_trans (unmoved_copyIngress draft dependents.ingress)
    (unmoved_copyCredentials _ dependents.template)
  have hcluster (draft : StatusDraft) : Unmoved draft (copyCluster draft) := ⟨rfl, rfl, rfl⟩
  unfold updateConnection
  exact unmoved_trans (unmoved_trans hcopied (hcluster _)) (unmoved_deriveReadiness _ _ now)

/-- The moves of a phase, with the news that go with them. What is seen of the pods counts only
while there is no pause. -/
inductive Moves (pause : Bool) (saw : Pod → Prop) :
    ExperimentPhase → ExperimentPhase → List Event → Prop
  | stays (phase : ExperimentPhase) : Moves pause saw phase phase []
  | runs {phase : ExperimentPhase} {pod : Pod} (hpause : pause = false) (hsaw : saw pod)
      (hready : pod.content.isReady = true) : Moves pause saw phase .running []
  | fails {pod : Pod} (hpause : pause = false) (hsaw : saw pod)
      (hready : pod.content.isReady = false) : Moves pause saw .running .error [failing pod]
  | stops {phase : ExperimentPhase} (hpause : pause = true) (hphase : phase ≠ .stopped) :
      Moves pause saw phase .stopped [pausing]

/-- The phase has made a move, and just this has been told. -/
structure PhaseMoved (saw : Pod → Prop) (a b : StatusDraft) : Prop where
  observed : b.observed = a.observed
  moves : ∃ told, Moves a.observed.spec.pause saw a.status.phase b.status.phase told ∧
    news b.events = news a.events ++ told

variable {saw : Pod → Prop} {a b c : StatusDraft}

theorem phaseMoved_of_unmoved (h : Unmoved a b) (saw : Pod → Prop) : PhaseMoved saw a b := by
  refine ⟨h.observed, [], ?_, h.news.trans (List.append_nil _).symm⟩
  rw [h.phase]
  exact .stays _

theorem phaseMoved_of_unmoved_left (h : Unmoved a b) (h' : PhaseMoved saw b c) :
    PhaseMoved saw a c := by
  obtain ⟨told, hmoves, hnews⟩ := h'.moves
  rw [h.observed, h.phase] at hmoves
  exact ⟨h'.observed.trans h.observed, told, hmoves, h.news ▸ hnews⟩

theorem phaseMoved_of_unmoved_right (h : PhaseMoved saw a b) (h' : Unmoved b c) :
    PhaseMoved saw a c := by
  obtain ⟨told, hmoves, hnews⟩ := h.moves
  rw [← h'.phase] at hmoves
  exact ⟨h'.observed.trans h.observed, told, hmoves, h'.news.trans hnews⟩

theorem moves_mono {saw' : Pod → Prop} {pause : Bool} {before after : ExperimentPhase}
    {told : List Event} (h : Moves pause saw before after told)
    (hsaw : ∀ pod, saw pod → saw' pod) : Moves pause saw' before after told := by
  cases h with
  | stays => exact .stays before
  | runs hpause hseen hready => exact .runs hpause (hsaw _ hseen) hready
  | fails hpause hseen hready => exact .fails hpause (hsaw _ hseen) hready
  | stops hpause hphase => exact .stops hpause hphase

theorem phaseMoved_mono {saw' : Pod → Prop} (h : PhaseMoved saw a b)
    (hsaw : ∀ pod, saw pod → saw' pod) :
    PhaseMoved saw' a b := by
  obtain ⟨told, hmoves, hnews⟩ := h.moves
  exact ⟨h.observed, told, moves_mono hmoves hsaw, hnews⟩

theorem phaseMoved_notePause (hpause : progress.experiment.spec.pause = true) (saw : Pod → Prop)
    (now : Instant) : PhaseMoved saw progress.draft (notePause now progress).draft := by
  unfold notePause
  split
  · exact phaseMoved_of_unmoved (unmoved_refl _) saw
  · rename_i hphase
    exact ⟨rfl, [pausing], .stops hpause hphase, news_append ..⟩

theorem phaseMoved_followPod (hpause : progress.experiment.spec.pause = false) {pod : Pod}
    (hsaw : saw pod) (now : Instant) :
    PhaseMoved saw progress.draft (followPod now pod progress).draft := by
  unfold followPod
  split
  · rename_i hready
    exact ⟨rfl, [], .runs hpause hsaw hready, (List.append_nil _).symm⟩
  · rename_i hready
    rw [Bool.not_eq_true] at hready
    split
    · rename_i hphase
      refine ⟨rfl, [failing pod], ?_, news_append ..⟩
      rw [hphase]
      exact .fails hpause hsaw hready
    · exact ⟨rfl, [], .stays _, (List.append_nil _).symm⟩

theorem keeps_deletePods (progress : Progress) (pods : List Pod) (said : Record) :
    Keeps recorder (fun later result => ExtendsQuietly said later ∧ result.draft = progress.draft)
      (deletePods progress pods) said := by
  induction pods generalizing progress said with
  | nil => exact ⟨extendsQuietly_refl said, rfl⟩
  | cons pod rest ih =>
      have hrest {middle : Record} (hmiddle : ExtendsQuietly said middle) (next : Progress)
          (hnext : next.draft = progress.draft) :
          Keeps recorder (fun later result => ExtendsQuietly said later ∧
            result.draft = progress.draft) (deletePods next rest) middle :=
        keeps_mono (ih next middle) fun later result h =>
          ⟨extendsQuietly_trans hmiddle h.1, h.2.trans hnext⟩
      refine keeps_bind (keeps_on_extendsQuietly _ said) ?_
      rintro middle (failure | _) hmiddle
      · dsimp only
        split
        · exact hrest hmiddle progress rfl
        · exact hrest hmiddle _ rfl
      · exact hrest hmiddle progress rfl

theorem keeps_startWorkload (settings : Settings) (progress : Progress) (said : Record) :
    Keeps recorder (fun later result => ExtendsQuietly said later ∧
      Unmoved progress.draft result.draft) (startWorkload settings progress) said := by
  unfold startWorkload
  dsimp only
  split
  · exact ⟨extendsQuietly_refl said, unmoved_refl _⟩
  · refine keeps_bind (keeps_on_extendsQuietly _ said) ?_
    rintro later reconciled hlater
    refine ⟨hlater, ?_⟩
    dsimp only [Progress.withStep]
    split
    · exact unmoved_addEvent (isNews_created (by simp)) _
    · exact unmoved_refl _

theorem keeps_reconcileWorkload (settings : Settings) (progress : Progress) (said : Record) :
    Keeps recorder (fun later result => ExtendsQuietly said later ∧
      PhaseMoved (· ∈ progress.dependents.pods) progress.draft result.draft)
      (reconcileWorkload settings progress) said := by
  refine ⟨trivial, fun now => ?_⟩
  have hclock : ExtendsQuietly said (said ++ [⟨.clock, now⟩]) := extendsQuietly_append rfl said
  change Keeps _ _ (if _ then _ else _) (said ++ [⟨.clock, now⟩])
  split
  · rename_i hpause
    refine keeps_mono (keeps_deletePods _ progress.dependents.pods _) fun later result h => ?_
    exact ⟨extendsQuietly_trans hclock h.1, h.2 ▸ phaseMoved_notePause hpause _ now⟩
  · rename_i hpause
    rw [Bool.not_eq_true] at hpause
    split
    · refine keeps_mono (keeps_startWorkload settings progress _) fun later result h => ?_
      exact ⟨extendsQuietly_trans hclock h.1, phaseMoved_of_unmoved h.2 _⟩
    · rename_i pod rest hpods
      have hsaw : pod ∈ progress.dependents.pods := hpods ▸ List.mem_cons_self
      exact ⟨hclock, phaseMoved_followPod hpause hsaw now⟩

/-- The pods that a pass was told of when it listed those with the experiment's label. -/
def Saw (experiment : Experiment) (said : Record) (pod : Pod) : Prop :=
  ∃ pods : List Pod, pod ∈ pods ∧
    ⟨.store .pod (.list experiment.metadata.namespace (some (selector experiment))),
      .ok pods⟩ ∈ said

theorem saw_of_extendsQuietly {later : Record} (h : ExtendsQuietly said later) {pod : Pod}
    (hsaw : Saw experiment said pod) : Saw experiment later pod := by
  obtain ⟨pods, hpod, hlisted⟩ := hsaw
  exact ⟨pods, hpod, h.kept _ hlisted⟩

theorem keeps_require (kind : Kind) (ns : Option String) (name : String) (said : Record) :
    Keeps recorder (fun later _ => ExtendsQuietly said later) (require kind ns name) said := by
  refine keeps_bind (keeps_on_extendsQuietly _ said) ?_
  rintro later (failure | _ | found) hlater <;> exact hlater

/-- The pods that were resolved are those that were listed. -/
structure ResolvesListed (experiment : Experiment) (said later : Record)
    (result : Except Failure Dependents) : Prop where
  continues : ExtendsQuietly said later
  saw : ∀ dependents, result = .ok dependents → ∀ pod ∈ dependents.pods, Saw experiment later pod

theorem resolvesListed_error {later : Record} (h : ExtendsQuietly said later)
    (experiment : Experiment)
    (failure : Failure) : ResolvesListed experiment said later (.error failure) :=
  ⟨h, fun _ hok => nomatch hok⟩

theorem keeps_resolve (experiment : Experiment) (said : Record) :
    Keeps recorder (ResolvesListed experiment said) (resolve experiment) said := by
  refine keeps_bind (keeps_require .cluster _ _ said) ?_
  rintro atCluster (failure | cluster) hcluster
  · exact resolvesListed_error hcluster experiment failure
  refine keeps_bind (keeps_require .template _ _ atCluster) ?_
  rintro atTemplate (failure | template) htemplate
  · exact resolvesListed_error (extendsQuietly_trans hcluster htemplate) experiment failure
  have htemplate := extendsQuietly_trans hcluster htemplate
  dsimp only
  split
  · exact resolvesListed_error htemplate experiment _
  refine keeps_bind (keeps_on_extendsQuietly _ atTemplate) ?_
  rintro atVolume (failure | volume) hvolume
  · exact resolvesListed_error (extendsQuietly_trans htemplate hvolume) experiment failure
  have hvolume := extendsQuietly_trans htemplate hvolume
  refine keeps_bind (keeps_on_extendsQuietly _ atVolume) ?_
  rintro atClaim (failure | claim) hclaim
  · exact resolvesListed_error (extendsQuietly_trans hvolume hclaim) experiment failure
  have hclaim := extendsQuietly_trans hvolume hclaim
  refine keeps_bind (keeps_on_extendsQuietly _ atClaim) ?_
  rintro atIngress (failure | ingress) hingress
  · exact resolvesListed_error (extendsQuietly_trans hclaim hingress) experiment failure
  have hingress := extendsQuietly_trans hclaim hingress
  refine ⟨trivial, ?_⟩
  rintro (failure | pods)
  · exact resolvesListed_error
      (extendsQuietly_trans hingress (extendsQuietly_append rfl _)) experiment failure
  · refine ⟨extendsQuietly_trans hingress (extendsQuietly_append rfl _), ?_⟩
    rintro _ ⟨⟩ pod hpod
    exact ⟨pods, hpod, List.mem_append_right _ List.mem_cons_self⟩

/-- From the greeting on, a pass makes one move at most. -/
theorem keeps_runSteps (settings : Settings) (experiment : Experiment) (said : Record) :
    Keeps recorder (fun later result => ExtendsQuietly said later ∧
      ∃ now, PhaseMoved (Saw experiment later) (greet (.start experiment) now) result.1)
      (runSteps settings (.start experiment)) said := by
  refine ⟨trivial, fun now => ?_⟩
  have hclock : ExtendsQuietly said (said ++ [⟨.clock, now⟩]) := extendsQuietly_append rfl said
  have hobserved := observed_greet experiment now
  change Keeps _ _ (resolve (greet (.start experiment) now).observed >>= _) _
  rw [hobserved]
  refine keeps_bind (keeps_resolve experiment _) ?_
  rintro atResolve (failure | dependents) ⟨hresolve, hsaw⟩
  · refine ⟨extendsQuietly_trans hclock hresolve, now, phaseMoved_of_unmoved ?_ _⟩
    exact unmoved_addEvent (isNews_warning (by decide) (by decide) _) _
  have hresolve := extendsQuietly_trans hclock hresolve
  refine keeps_bind (keeps_reconcileData settings _ _) ?_
  rintro atData progress ⟨hdata, hkept⟩
  refine keeps_bind (keeps_reconcileIngress progress _) ?_
  rintro atIngress progress' ⟨hingress, hkept'⟩
  refine keeps_bind (keeps_reconcileWorkload settings progress' _) ?_
  rintro atWorkload result ⟨hworkload, hmoved⟩
  have hafter := extendsQuietly_trans hdata (extendsQuietly_trans hingress hworkload)
  refine ⟨extendsQuietly_trans hresolve hafter, now, ?_⟩
  have hplain := unmoved_trans hkept.toUnmoved hkept'.toUnmoved
  refine phaseMoved_of_unmoved_right (phaseMoved_of_unmoved_left hplain ?_)
    (unmoved_updateConnection ..)
  refine phaseMoved_mono hmoved fun pod hpod => saw_of_extendsQuietly hafter (hsaw _ rfl pod ?_)
  rw [hkept'.pods, hkept.pods] at hpod
  exact hpod

theorem keeps_conclude (draft : StatusDraft) (outcome : Outcome) (said : Record) :
    Keeps recorder (fun later _ => (∀ exchange ∈ said, exchange ∈ later) ∧
      published later = published said ++ draft.events) (conclude draft outcome) said := by
  refine keeps_bind (keeps_publishAll _ draft.events said) ?_
  rintro middle ⟨⟩ ⟨hkept, hpublished⟩
  split
  · exact ⟨hkept, hpublished⟩
  · refine keeps_bind (keeps_on_extendsQuietly _ middle) ?_
    rintro later (failure | stored) hlater
    all_goals exact ⟨fun exchange h => hlater.kept exchange (hkept exchange h),
      hlater.published.trans hpublished⟩

def wrapUp (settings : Settings) (draft : StatusDraft) (outcome : Outcome) :
    Pass (Except Failure Action) := do
  return (← conclude draft outcome).aggregate settings.requeueSoon

theorem keeps_wrapUp (settings : Settings) (draft : StatusDraft) (outcome : Outcome)
    (said : Record) :
    Keeps recorder (fun later _ => (∀ exchange ∈ said, exchange ∈ later) ∧
      published later = published said ++ draft.events) (wrapUp settings draft outcome) said :=
  keeps_bind (keeps_conclude draft outcome said) fun _ _ h => h

end Fleet.Proofs.Experiment.PhaseEvents
