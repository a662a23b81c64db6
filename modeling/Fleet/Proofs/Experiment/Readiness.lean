import Fleet.Experiment.Controller
import Fleet.Proofs.Contract
import Fleet.Proofs.Ledgers
import Fleet.Rehearsal.World

namespace Fleet.Proofs.Experiment.Readiness

open Fleet.Experiment
open Fleet.Proofs.Contract
open Fleet.Proofs.Ledgers

/-- The statuses that passes can have written, starting from an absent one. Whoever answers a pass
is free in what it replies, so stores may change at any time and any call may fail. -/
inductive Reachable : Option ExperimentStatus → Prop where
  | absent : Reachable none
  | written {σ : Type} {settings : Settings} {experiment updated : Experiment}
      {answer : (effect : Effect) → σ → effect.Reply × σ} {state : σ} :
      Reachable experiment.status →
      .store .experiment (.replaceStatus updated) ∈
        asked answer (reconcile settings experiment) state →
      Reachable updated.status

def PhaseFollowsPod (status : ExperimentStatus) : Prop :=
  status.phase = .running ↔ status.conditions.isTrue .podReady = true

def ReadyFollowsParts (status : ExperimentStatus) : Prop :=
  status.conditions.isTrue .ready = true ↔
    status.conditions.isTrue .podReady = true ∧ status.conditions.isTrue .volumeCreated = true

/-- What every step after the greeting keeps. -/
structure Underway (status : ExperimentStatus) : Prop where
  initialized : status.conditions.isTrue .initialized = true
  phase : PhaseFollowsPod status

/-- What holds at the end of a pass. -/
structure Coherent (status : ExperimentStatus) : Prop extends Underway status where
  ready : ReadyFollowsParts status

/-- A status that was never greeted is an absent one, which tells nothing. -/
theorem coherent_greet {experiment : Experiment}
    (h : ∀ status, experiment.status = some status → Coherent status) (now : Instant) :
    Coherent (greet (.start experiment) now).status := by
  cases hstatus : experiment.status with
  | some status =>
      have hcoherent := h status hstatus
      have hstart : (Draft.start experiment).status = status := by
        simp [Draft.start, hstatus]
      have hgreet : greet (.start experiment) now = .start experiment := by
        rw [greet, hstart, if_pos hcoherent.initialized]
      rw [hgreet, hstart]
      exact hcoherent
  | none =>
      have hstart : (Draft.start experiment).status = default := by
        simp [Draft.start, hstatus]
      have hgreet : (greet (.start experiment) now).status =
          setCondition .initialized .true_ "" now (setPhase .created default) := by
        rw [greet, hstart]
        rfl
      rw [hgreet]
      refine ⟨⟨?_, ?_⟩, ?_⟩
      · exact isTrue_set_self ..
      · rw [PhaseFollowsPod, setCondition, isTrue_set_of_ne (by decide)]
        exact ⟨nofun, nofun⟩
      · rw [ReadyFollowsParts, setCondition, isTrue_set_of_ne (by decide),
          isTrue_set_of_ne (by decide)]
        exact ⟨nofun, fun h => nomatch h.1⟩

theorem initialized_notePause {progress : Progress}
    (h : progress.draft.status.conditions.isTrue .initialized = true)
    (now : Instant) :
    (notePause now progress).draft.status.conditions.isTrue .initialized = true := by
  unfold notePause
  split
  · exact h
  · change Ledger.isTrue (Ledger.set _ _ _ _ _ _) _ = true
    rw [isTrue_set_of_ne (by decide)]
    exact h

theorem underway_notePause {progress : Progress} (h : Underway progress.draft.status)
    (now : Instant) : Underway (notePause now progress).draft.status := by
  refine ⟨initialized_notePause h.initialized now, ?_⟩
  unfold notePause
  split
  · exact h.phase
  · change (_ = _) ↔ Ledger.isTrue (Ledger.set _ _ _ _ _ _) _ = true
    rw [isTrue_set_self]
    exact ⟨nofun, nofun⟩

theorem initialized_followPod {progress : Progress}
    (h : progress.draft.status.conditions.isTrue .initialized = true)
    (now : Instant) (pod : Pod) :
    (followPod now pod progress).draft.status.conditions.isTrue .initialized = true := by
  unfold followPod
  split
  · change Ledger.isTrue (Ledger.ensure _ _ _ _ _ _) _ = true
    rw [isTrue_ensure_of_ne (by decide)]
    exact h
  · change Ledger.isTrue (Ledger.ensure _ _ _ _ _ _) _ = true
    rw [isTrue_ensure_of_ne (by decide)]
    split <;> exact h

theorem underway_followPod {progress : Progress} (h : Underway progress.draft.status)
    (now : Instant) (pod : Pod) : Underway (followPod now pod progress).draft.status := by
  refine ⟨initialized_followPod h.initialized now pod, ?_⟩
  unfold followPod
  split
  · change (_ = _) ↔ Ledger.isTrue (Ledger.ensure _ _ _ _ _ _) _ = true
    rw [isTrue_ensure_self]
    exact ⟨fun _ => rfl, fun _ => rfl⟩
  · change (_ = _) ↔ Ledger.isTrue (Ledger.ensure _ _ _ _ _ _) _ = true
    rw [isTrue_ensure_self]
    split
    · exact ⟨nofun, nofun⟩
    · rename_i hphase
      exact ⟨fun h => absurd h hphase, nofun⟩

theorem query_deriveReadiness_of_ne {type : ExperimentConditionType}
    (hvolume : type ≠ .volumeCreated) (hready : type ≠ .ready) (draft : StatusDraft)
    (volumeExists : Bool) (now : Instant) :
    (deriveReadiness draft volumeExists now).status.conditions.query type =
      draft.status.conditions.query type := by
  unfold deriveReadiness
  simp only [ensureCondition]
  split <;> split <;> rw [query_ensure_of_ne hready, query_ensure_of_ne hvolume]

theorem isTrue_deriveReadiness_of_ne {type : ExperimentConditionType}
    (hvolume : type ≠ .volumeCreated) (hready : type ≠ .ready) (draft : StatusDraft)
    (volumeExists : Bool) (now : Instant) :
    (deriveReadiness draft volumeExists now).status.conditions.isTrue type =
      draft.status.conditions.isTrue type :=
  isTrue_congr (query_deriveReadiness_of_ne hvolume hready draft volumeExists now)

theorem isTrue_volumeCreated_deriveReadiness (draft : StatusDraft) (volumeExists : Bool)
    (now : Instant) :
    (deriveReadiness draft volumeExists now).status.conditions.isTrue .volumeCreated =
      volumeExists := by
  have hne : ExperimentConditionType.volumeCreated ≠ .ready := by decide
  unfold deriveReadiness
  simp only [ensureCondition]
  split
  · rename_i hexists
    split <;> rw [isTrue_ensure_of_ne hne, isTrue_ensure_self, hexists] <;> rfl
  · rename_i hmissing
    have hfalse : volumeExists = false := by simpa using hmissing
    split <;> rw [isTrue_ensure_of_ne hne, isTrue_ensure_self, hfalse] <;> rfl

theorem isTrue_ready_deriveReadiness (draft : StatusDraft) (volumeExists : Bool) (now : Instant) :
    (deriveReadiness draft volumeExists now).status.conditions.isTrue .ready =
      (volumeExists && draft.status.conditions.isTrue .podReady) := by
  have hne : ExperimentConditionType.podReady ≠ .volumeCreated := by decide
  unfold deriveReadiness
  simp only [ensureCondition]
  cases volumeExists
  · simp
  · simp only [if_true, Bool.true_and]
    rw [isTrue_ensure_of_ne hne]
    cases draft.status.conditions.isTrue .podReady <;> simp

theorem phase_deriveReadiness (draft : StatusDraft) (volumeExists : Bool) (now : Instant) :
    (deriveReadiness draft volumeExists now).status.phase = draft.status.phase := by
  unfold deriveReadiness
  simp only [ensureCondition]
  split <;> split <;> rfl

theorem coherent_deriveReadiness {draft : StatusDraft} (h : Underway draft.status)
    (volumeExists : Bool) (now : Instant) :
    Coherent (deriveReadiness draft volumeExists now).status := by
  refine ⟨⟨?_, ?_⟩, ?_⟩
  · rw [isTrue_deriveReadiness_of_ne (by decide) (by decide)]
    exact h.initialized
  · rw [PhaseFollowsPod, phase_deriveReadiness,
      isTrue_deriveReadiness_of_ne (by decide) (by decide)]
    exact h.phase
  · rw [ReadyFollowsParts, isTrue_ready_deriveReadiness, isTrue_volumeCreated_deriveReadiness,
      isTrue_deriveReadiness_of_ne (by decide) (by decide), Bool.and_eq_true]
    exact and_comm

theorem underway_copyIngress {draft : StatusDraft} (h : Underway draft.status)
    (ingress : Option Service) : Underway (copyIngress draft ingress).status := by
  unfold copyIngress
  split
  · exact h
  · split
    · split <;> exact ⟨h.initialized, h.phase⟩
    · exact h

theorem underway_copyCredentials {draft : StatusDraft} (h : Underway draft.status)
    (template : Template) : Underway (copyCredentials draft template).status := by
  unfold copyCredentials
  dsimp only
  split <;> exact ⟨h.initialized, h.phase⟩

theorem underway_copyCluster {draft : StatusDraft} (h : Underway draft.status) :
    Underway (copyCluster draft).status :=
  ⟨h.initialized, h.phase⟩

theorem coherent_updateConnection {draft : StatusDraft} (h : Underway draft.status)
    (dependents : Dependents) (now : Instant) :
    Coherent (updateConnection draft dependents now).status := by
  have hcopied := underway_copyCredentials (underway_copyIngress h dependents.ingress)
    dependents.template
  exact coherent_deriveReadiness (underway_copyCluster hcopied) _ now

/-- A pass writes only coherent statuses; all other questions are free. -/
def writesCoherent : Rules Unit Effect Effect.Reply where
  allows _ effect :=
    match effect with
    | .store .experiment (.replaceStatus updated) =>
        ∃ status, updated.status = some status ∧ Coherent status
    | _ => True
  after _ _ _ := ()

theorem keeps_other_kind {α : Type} {kind : Kind} (h : kind ≠ .experiment)
    (access : Store.Access kind.Content α) :
    Keeps writesCoherent (fun _ _ => True) (Pass.on kind access) () := by
  refine keeps_mono (keeps_on (keeps_of_idle access fun call => ⟨?_, fun _ => rfl⟩))
    fun _ _ _ => trivial
  cases kind with
  | experiment => contradiction
  | _ => trivial

theorem keeps_require {kind : Kind} (h : kind ≠ .experiment) (ns : Option String)
    (name : String) : Keeps writesCoherent (fun _ _ => True) (require kind ns name) () := by
  refine keeps_bind (keeps_other_kind h _) ?_
  rintro ⟨⟩ (failure | _ | found) - <;> trivial

theorem keeps_resolve (experiment : Experiment) :
    Keeps writesCoherent (fun _ _ => True) (resolve experiment) () := by
  refine keeps_bind (keeps_require (by decide) _ _) ?_
  rintro ⟨⟩ (failure | cluster) -
  · trivial
  refine keeps_bind (keeps_require (by decide) _ _) ?_
  rintro ⟨⟩ (failure | template) -
  · trivial
  dsimp only
  split
  · trivial
  refine keeps_bind (keeps_other_kind (by decide) _) ?_
  rintro ⟨⟩ (failure | volume) -
  · trivial
  refine keeps_bind (keeps_other_kind (by decide) _) ?_
  rintro ⟨⟩ (failure | claim) -
  · trivial
  refine keeps_bind (keeps_other_kind (by decide) _) ?_
  rintro ⟨⟩ (failure | ingress) -
  · trivial
  refine keeps_bind (keeps_other_kind (by decide) _) ?_
  rintro ⟨⟩ (failure | pods) - <;> trivial

/-- The steps for the dependents but the workload leave the status to others. -/
def KeepsStatus (progress : Progress) (step : Pass Progress) : Prop :=
  Keeps writesCoherent (fun _ after => after.draft.status = progress.draft.status) step ()

theorem status_foldl_addEvent (events : List Event) (progress : Progress) :
    (events.foldl Progress.addEvent progress).draft.status = progress.draft.status := by
  induction events generalizing progress with
  | nil => rfl
  | cons event rest ih => exact ih (progress.addEvent event)

theorem foldl_addEvent (events : List Event) (progress : Progress) :
    events.foldl Progress.addEvent progress =
      { progress with
        draft := { progress.draft with events := progress.draft.events ++ events } } := by
  induction events generalizing progress with
  | nil => rw [List.append_nil]; rfl
  | cons event rest ih =>
      rw [List.foldl_cons, ih]
      simp only [Progress.addEvent, Draft.addEvent, List.append_assoc, List.singleton_append]

theorem keepsStatus_reconcileVolume (settings : Settings) (progress : Progress) :
    KeepsStatus progress (reconcileVolume settings progress) := by
  unfold KeepsStatus reconcileVolume
  split
  · rfl
  · refine keeps_bind (keeps_other_kind (by decide) _) ?_
    rintro ⟨⟩ reconciled -
    change (Progress.withStep _ _ _).draft.status = _
    dsimp only [Progress.withStep]
    split <;> rfl

theorem keepsStatus_reconcileClaim (settings : Settings) (progress : Progress) :
    KeepsStatus progress (reconcileClaim settings progress) := by
  unfold KeepsStatus reconcileClaim
  split
  · rfl
  · refine keeps_bind (keeps_other_kind (by decide) _) ?_
    rintro ⟨⟩ reconciled -
    rfl

theorem keepsStatus_reconcileData (settings : Settings) (progress : Progress) :
    KeepsStatus progress (reconcileData settings progress) := by
  refine keeps_bind (keepsStatus_reconcileVolume settings progress) ?_
  rintro ⟨⟩ after hafter
  exact keeps_mono (keepsStatus_reconcileClaim settings after) fun _ _ h => h.trans hafter

theorem keepsStatus_reconcileIngress (progress : Progress) :
    KeepsStatus progress (reconcileIngress progress) := by
  refine keeps_bind (keeps_other_kind (by decide) _) ?_
  rintro ⟨⟩ reconciled -
  exact status_foldl_addEvent _ progress

theorem keepsStatus_deletePods (progress : Progress) (pods : List Pod) :
    KeepsStatus progress (deletePods progress pods) := by
  induction pods generalizing progress with
  | nil => rfl
  | cons pod rest ih =>
      refine keeps_bind (keeps_other_kind (by decide) _) ?_
      rintro ⟨⟩ (failure | _) -
      · dsimp only
        split
        · exact ih progress
        · exact ih (progress.withStep "delete-env-pod" (.error failure : Except _ Unit))
      · exact ih progress

theorem keepsStatus_startWorkload (settings : Settings) (progress : Progress) :
    KeepsStatus progress (startWorkload settings progress) := by
  unfold KeepsStatus startWorkload
  dsimp only
  split
  · rfl
  · refine keeps_bind (keeps_other_kind (by decide) _) ?_
    rintro ⟨⟩ reconciled -
    change (Progress.withStep _ _ _).draft.status = _
    dsimp only [Progress.withStep]
    split <;> rfl

theorem keeps_reconcileWorkload {progress : Progress} (h : Underway progress.draft.status)
    (settings : Settings) :
    Keeps writesCoherent (fun _ after => Underway after.draft.status)
      (reconcileWorkload settings progress) () := by
  refine ⟨trivial, fun now => ?_⟩
  change Keeps _ _ (if _ then _ else _) ()
  split
  · refine keeps_mono (keepsStatus_deletePods _ progress.dependents.pods) fun _ after hafter => ?_
    rw [hafter]
    exact underway_notePause h now
  · split
    · refine keeps_mono (keepsStatus_startWorkload settings progress) fun _ after hafter => ?_
      rw [hafter]
      exact h
    · exact underway_followPod h now _

theorem keeps_runSteps {experiment : Experiment}
    (h : ∀ status, experiment.status = some status → Coherent status) (settings : Settings) :
    Keeps writesCoherent (fun _ result => Coherent result.1.status)
      (runSteps settings (.start experiment)) () := by
  refine ⟨trivial, fun now => ?_⟩
  have hgreet := coherent_greet h now
  change Keeps _ _ (resolve (greet (.start experiment) now).observed >>= _) ()
  refine keeps_bind (keeps_resolve _) ?_
  rintro ⟨⟩ (failure | dependents) -
  -- If something is missing, the greeting is all that happens to the status.
  · exact hgreet
  refine keeps_bind (keepsStatus_reconcileData settings _) ?_
  rintro ⟨⟩ progress hdata
  refine keeps_bind (keepsStatus_reconcileIngress progress) ?_
  rintro ⟨⟩ progress hingress
  have hunderway : Underway progress.draft.status := by
    rw [hingress, hdata]
    exact hgreet.toUnderway
  refine keeps_bind (keeps_reconcileWorkload hunderway settings) ?_
  rintro ⟨⟩ progress hworkload
  exact coherent_updateConnection hworkload progress.dependents now

/-- The retry after a conflict writes the same status as the first attempt. -/
theorem keeps_persistStatus {experiment : Experiment} {status : ExperimentStatus}
    (hstatus : experiment.status = some status) (h : Coherent status) :
    Keeps (writesCoherent.onStore .experiment) (fun _ _ => True)
      (Store.persistStatus experiment) () := by
  refine ⟨⟨status, hstatus, h⟩, ?_⟩
  rintro (failure | stored)
  · change Keeps _ _ (if _ then _ else _) ()
    split
    · refine ⟨trivial, ?_⟩
      rintro (failure | latest)
      · trivial
      · simp only [hstatus]
        exact ⟨⟨status, rfl, h⟩, fun _ => trivial⟩
    · trivial
  · trivial

theorem keeps_conclude {draft : StatusDraft} (h : Coherent draft.status) (outcome : Outcome) :
    Keeps writesCoherent (fun _ _ => True) (conclude draft outcome) () := by
  refine keeps_bind (keeps_publishAll _ _ fun _ => ⟨trivial, rfl⟩) ?_
  rintro ⟨⟩ ⟨⟩ -
  dsimp only [Draft.finish]
  split
  · trivial
  · rename_i updated hupdated
    have hwritten : updated = draft.observed.setStatus draft.status := by
      split at hupdated
      · contradiction
      · exact (Option.some.inj hupdated).symm
    rw [hwritten]
    refine keeps_bind (keeps_on (keeps_persistStatus rfl h)) ?_
    rintro ⟨⟩ (failure | stored) - <;> trivial

theorem keeps_reconcile {experiment : Experiment}
    (h : ∀ status, experiment.status = some status → Coherent status) (settings : Settings) :
    Keeps writesCoherent (fun _ _ => True) (reconcile settings experiment) () := by
  unfold reconcile
  split
  · exact ⟨trivial, fun _ => trivial⟩
  · refine keeps_bind (keeps_runSteps h settings) ?_
    rintro ⟨⟩ ⟨draft, outcome⟩ hdraft
    exact keeps_bind (keeps_conclude hdraft outcome) fun _ _ _ => trivial

theorem coherent_of_reachable {status : Option ExperimentStatus} (h : Reachable status) :
    ∀ told, status = some told → Coherent told := by
  induction h with
  | absent =>
      intro told htold
      contradiction
  | written _ hasked ih =>
      intro told htold
      obtain ⟨-, told', htold', hcoherent⟩ :=
        exists_allows_of_mem_asked (keeps_reconcile ih _) hasked
      rw [htold] at htold'
      exact Option.some.inj htold' ▸ hcoherent

/-- Phase and conditions agree in every status that passes can have written. -/
theorem readiness_of_reachable {status : ExperimentStatus} (h : Reachable (some status)) :
    (status.phase = .running ↔ status.conditions.isTrue .podReady = true) ∧
      (status.conditions.isTrue .ready = true ↔
        status.conditions.isTrue .podReady = true ∧
          status.conditions.isTrue .volumeCreated = true) := by
  have hcoherent := coherent_of_reachable h status rfl
  exact ⟨hcoherent.phase, hcoherent.ready⟩

def labMetadata (name : String) : Metadata :=
  { name := some name, «namespace» := some "lab", uid := some ("uid-" ++ name),
    resourceVersion := some "1" }

def labExperiment : Experiment :=
  { metadata := labMetadata "rats"
    content := { spec := { template := "maze", clusterName := "cellar" } } }

def labPod : Pod :=
  { metadata := { labMetadata "rats" with labels := some (.ofList [(nameLabel, "rats")]) }
    content := { status := some { conditions := some [{ type := "Ready", status := "True" }] } } }

/-- A world with everything that the experiment needs; volume and service are still to come. -/
def lab : Rehearsal.World :=
  let world : Rehearsal.World := { now := .epoch }
  let world := (world.insert .cluster
    { metadata := labMetadata "cellar", content := { spec := {} } }).2
  let world := (world.insert .template
    { metadata := labMetadata "maze"
      content :=
        { podTemplate := { image := "maze:1" }, ingressProtocol := "SSH", ingressPort := 22 } }).2
  let world := (world.insert .experiment labExperiment).2
  (world.insert .pod labPod).2

def labAnswer (effect : Effect) : effect.Reply := (Rehearsal.World.answer effect lab).1

def labStatus : ExperimentStatus :=
  { phase := .running
    cluster := "cellar"
    conditions := .collect
      [.at_ .initialized .true_ "" "" .epoch, .at_ .podReady .true_ "" "" .epoch,
        .at_ .volumeCreated .true_ "" "" .epoch, .at_ .ready .true_ "" "" .epoch]
    protocol := some "ssh" }

theorem reachable_labStatus : Reachable (some labStatus) := by
  have hlast : (asked Rehearsal.World.answer (reconcile {} labExperiment) lab).getLast? =
      some (.store .experiment (.replaceStatus (labExperiment.setStatus labStatus))) := by rfl
  exact .written (.absent : Reachable labExperiment.status) (List.mem_of_getLast? hlast)

theorem readiness_in_lab :
    Reachable (some labStatus) ∧
      (labStatus.phase = .running ↔ labStatus.conditions.isTrue .podReady = true) ∧
      (labStatus.conditions.isTrue .ready = true ↔
        labStatus.conditions.isTrue .podReady = true ∧
          labStatus.conditions.isTrue .volumeCreated = true) :=
  ⟨reachable_labStatus, readiness_of_reachable reachable_labStatus⟩

end Fleet.Proofs.Experiment.Readiness
