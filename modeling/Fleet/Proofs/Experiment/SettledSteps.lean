import Fleet.Experiment.Controller
import Fleet.Proofs.Experiment.Steps

/-!
All steps of a pass over an experiment, in a world without faults. A world in which the goals of all
steps are reached is settled: the steps leave it as it is, and only the status may still be news.
-/

namespace Fleet.Proofs.Experiment.SettledSteps

open Fleet.Experiment
open Fleet.Proofs.Convergence
open Fleet.Proofs.Experiment.Observation
open Fleet.Proofs.Experiment.Readiness
open Fleet.Proofs.Experiment.Reports
open Fleet.Proofs.Experiment.Steps
open Fleet.Proofs.Rehearsals
open Fleet.Proofs.Stores
open Fleet.Rehearsal

variable {settings : Settings} {experiment : Experiment} {world : World}

/-- Everything is in its place, and every volume has a specification. -/
structure InventoryWellFormed (inventory : Inventory) : Prop where
  experiments : SelfKeyed inventory.experiments
  pods : SelfKeyed inventory.pods
  volumes : SelfKeyed inventory.volumes
  claims : SelfKeyed inventory.claims
  services : SelfKeyed inventory.services
  specified : ∀ key volume, inventory.volumes.lookup key = some volume →
    volume.content.spec.isSome

/-- The goals of all steps are reached. -/
structure SettledFor (settings : Settings) (experiment : Experiment) (cluster : Cluster)
    (template : Template) (inventory : Inventory) : Prop where
  volume : VolumeSettled settings experiment inventory.volumes
  claim : ClaimSettled settings experiment inventory.claims
  ingress : IngressSettled experiment cluster template inventory.services
  workload : WorkloadSettled settings experiment template inventory.pods

/-- The goals of all steps are reached, as far as the steps are taken. -/
def Settled (settings : Settings) (experiment : Experiment) (inventory : Inventory) : Prop :=
  ∀ dependents, observe inventory experiment = .ok dependents →
    SettledFor settings experiment dependents.cluster dependents.template inventory

/-- The status reports what was observed; of what is missing it says nothing. -/
def ReportsObserved (experiment : Experiment) (observed : Except Failure Dependents)
    (status : ExperimentStatus) : Prop :=
  match observed with
  | .error _ => status.conditions.isTrue .initialized = true
  | .ok dependents => TellsAll experiment.spec dependents status

/-- What the steps do: from a world with everything in its place they lead to a settled one, and in
a settled world only the status is brought up to date. -/
structure Course (settings : Settings) (draft result : StatusDraft) (world after : World) :
    Prop where
  observed : result.observed = draft.observed
  faults : after.faults = []
  experiments : after.inventory.experiments = world.inventory.experiments
  settles : InventoryWellFormed world.inventory → Settled settings draft.observed after.inventory
  rests : Settled settings draft.observed world.inventory → after = world
  told : Settled settings draft.observed world.inventory →
    ReportsObserved draft.observed (observe world.inventory draft.observed) result.status
  silent : Settled settings draft.observed world.inventory →
    ReportsObserved draft.observed (observe world.inventory draft.observed) draft.status →
      result.status = draft.status

def runDependents (settings : Settings) (progress : Progress) : Pass Progress := do
  let progress ← reconcileVolume settings progress
  let progress ← reconcileClaim settings progress
  let progress ← reconcileIngress progress
  reconcileWorkload settings progress

theorem steps_eq {α : Type} (settings : Settings) (progress : Progress)
    (next : Progress → Pass α) :
    (do
      let progress ← reconcileData settings progress
      let progress ← reconcileIngress progress
      let progress ← reconcileWorkload settings progress
      next progress) = runDependents settings progress >>= next := by
  unfold reconcileData runDependents
  simp only [bind_assoc]

structure RunsSteps (settings : Settings) (cluster : Cluster) (template : Template) (name : String)
    (draft : StatusDraft) (result : Progress) (world after : World) : Prop where
  only : ∃ volumes claims services pods drawn, after =
    { world with inventory := { world.inventory with volumes, claims, services, pods }, drawn }
  settles : InventoryWellFormed world.inventory →
    SettledFor settings draft.observed cluster template after.inventory
  rests : SettledFor settings draft.observed cluster template world.inventory → after = world
  observed : result.draft.observed = draft.observed
  dependents : ∃ pods, result.dependents =
    { dependentsIn after.inventory draft.observed cluster template name with pods }
  follows : draft.status.conditions.isTrue .initialized = true →
    FollowsWorkload draft.observed.spec
      (podsOf draft.observed world.inventory.pods) result.draft.status
  silent : FollowsWorkload draft.observed.spec
    (podsOf draft.observed world.inventory.pods) draft.status →
    result.draft.status = draft.status

theorem ends_runDependents (hfaults : world.faults = []) {cluster : Cluster} {template : Template}
    {name : String} {draft : StatusDraft}
    (hbound : InputsFound world.inventory draft.observed cluster template name)
    (outcome : Outcome) :
    Ends (runDependents settings
        ⟨draft, dependentsIn world.inventory draft.observed cluster template name, outcome⟩) world
      fun result after => RunsSteps settings cluster template name draft result world after := by
  obtain ⟨observed, status, events⟩ := draft
  refine ends_bind (ends_reconcileVolume hfaults hbound.volume) ?_
  rintro ⟨⟨_, _, events⟩, _, outcome⟩ after ⟨⟨⟨volumes, rfl⟩, hvolume, hvolumeIdle⟩, ⟨⟩, ⟨⟩, ⟨⟩⟩
  refine ends_bind (ends_reconcileClaim hfaults hbound.volume) ?_
  rintro ⟨⟨_, _, events⟩, _, outcome⟩ after ⟨⟨⟨claims, rfl⟩, hclaim, hclaimIdle⟩, ⟨⟩, ⟨⟩, ⟨⟩⟩
  refine ends_bind (ends_reconcileIngress hfaults) ?_
  rintro ⟨⟨_, _, events⟩, _, outcome⟩ after ⟨⟨⟨services, rfl⟩, hingress, hingressIdle⟩, ⟨⟩, ⟨⟩, ⟨⟩⟩
  refine ends_mono (ends_reconcileWorkload hfaults rfl) ?_
  intro result after hsees
  obtain ⟨⟨pods, rfl⟩, hworkload, hworkloadIdle⟩ := hsees.attains
  -- Every step finds its store as it was before the pass, since no other step works on it.
  refine ⟨⟨volumes.1, claims.1, services.1, pods.1, pods.2, rfl⟩, ?_, ?_, hsees.observed,
    hsees.dependents, ?_, ?_⟩
  · intro horderly
    exact ⟨hvolume ⟨horderly.volumes, horderly.specified⟩,
      hclaim ⟨horderly.claims, fun _ _ _ => trivial⟩,
      hingress ⟨horderly.services, fun _ _ _ => trivial⟩, hworkload horderly.pods⟩
  · intro hsettled
    exact (hworkloadIdle hsettled.workload).trans ((hingressIdle hsettled.ingress).trans
      ((hclaimIdle hsettled.claim).trans (hvolumeIdle hsettled.volume)))
  · exact followsWorkload_of_seesTo hsees
  · exact silent_of_seesTo hsees

theorem greet_eq (observed : Experiment) (status : ExperimentStatus) (events : List Event)
    (now : Instant) :
    ∃ greeted notes, greet ⟨observed, status, events⟩ now = ⟨observed, greeted, notes⟩ ∧
      greeted.conditions.isTrue .initialized = true ∧
        (status.conditions.isTrue .initialized = true → greeted = status) := by
  have hinitialized := initialized_greet ⟨observed, status, events⟩ now
  unfold greet at hinitialized ⊢
  split at hinitialized
  · rename_i hknown
    exact ⟨status, events, if_pos hknown, hinitialized, fun _ => rfl⟩
  · rename_i hnew
    exact ⟨_, _, if_neg hnew, hinitialized, fun hknown => absurd hknown hnew⟩

theorem observed_greet (experiment : Experiment) (now : Instant) :
    (greet (.start experiment) now).observed = experiment := by
  obtain ⟨_, _, hgreet, -⟩ := greet_eq experiment (experiment.status.getD default) [] now
  exact congrArg Draft.observed hgreet

theorem observed_updateConnection (draft : StatusDraft) (dependents : Dependents)
    (now : Instant) : (updateConnection draft dependents now).observed = draft.observed := by
  unfold updateConnection
  dsimp only
  rw [observed_deriveReadiness, observed_copyCluster, observed_copyCredentials,
    observed_copyIngress]

section Course

variable {status greeted : ExperimentStatus} {events notes : List Event}
  (hinitialized : greeted.conditions.isTrue .initialized = true)
  (hgreeted : status.conditions.isTrue .initialized = true → greeted = status)

include hinitialized hgreeted

theorem course_of_error {failure : Failure} (hfaults : world.faults = [])
    (hobserve : observe world.inventory experiment = .error failure) (event : Event) :
    Course settings ⟨experiment, status, events⟩
      (Draft.addEvent ⟨experiment, greeted, notes⟩ event) world world := by
  refine ⟨rfl, hfaults, rfl, ?_, fun _ => rfl, fun _ => ?_, fun _ htold => ?_⟩
  · intro _ dependents hok
    rw [hobserve] at hok
    contradiction
  · rw [hobserve]
    exact hinitialized
  · rw [hobserve] at htold
    exact hgreeted htold

theorem course_of_runsSteps {cluster : Cluster} {template : Template} {name : String}
    {result : Progress} {after : World} (hfaults : world.faults = [])
    (hbound : InputsFound world.inventory experiment cluster template name)
    (h : RunsSteps settings cluster template name ⟨experiment, greeted, notes⟩ result world after)
    (now : Instant) :
    Course settings ⟨experiment, status, events⟩
      (updateConnection result.draft result.dependents now) world after := by
  have hobserve := observe_of_inputsFound hbound
  have hobserved : result.draft.observed = experiment := h.observed
  obtain ⟨pods, hdependents⟩ := h.dependents
  -- The pods are of no account to the connection; all else is as it was observed.
  have hsame : SettledFor settings experiment cluster template world.inventory →
      (updateConnection result.draft result.dependents now).status =
        (updateConnection result.draft
          (dependentsIn world.inventory experiment cluster template name) now).status := by
    intro hsettled
    rw [hdependents, h.rests hsettled]
    rfl
  refine ⟨(observed_updateConnection ..).trans hobserved, ?_, ?_, ?_, ?_, ?_, ?_⟩
  · obtain ⟨_, _, _, _, _, rfl⟩ := h.only
    exact hfaults
  · obtain ⟨_, _, _, _, _, rfl⟩ := h.only
    rfl
  · intro horderly dependents hafter
    have hstill : InputsFound after.inventory experiment cluster template name := by
      obtain ⟨_, _, _, _, _, rfl⟩ := h.only
      exact ⟨hbound.cluster, hbound.template, hbound.volume⟩
    cases (observe_of_inputsFound hstill).symm.trans hafter
    exact h.settles horderly
  · intro hsettled
    exact h.rests (hsettled _ hobserve)
  · intro hsettled
    have hfollows : FollowsWorkload result.draft.observed.spec
        (dependentsIn world.inventory experiment cluster template name).pods
        result.draft.status := by
      rw [hobserved]
      exact h.follows hinitialized
    rw [hobserve, hsame (hsettled _ hobserve)]
    have htells := tellsAll_updateConnection hfollows now
    rw [hobserved] at htells
    exact htells
  · intro hsettled htold
    rw [hobserve] at htold
    cases hgreeted htold.follows.initialized
    have hsilent : result.draft.status = status := h.silent htold.follows
    rw [hsame (hsettled _ hobserve), updateConnection_of_tellsAll _ now]
    · exact hsilent
    · rw [hsilent, hobserved]
      exact htold

end Course

theorem ends_runSteps (hfaults : world.faults = []) (draft : StatusDraft) :
    Ends (runSteps settings draft) world fun result after =>
      Course settings draft result.1 world after := by
  obtain ⟨observed, status, events⟩ := draft
  obtain ⟨greeted, notes, hgreet, hinitialized, hgreeted⟩ :=
    greet_eq observed status events world.now
  unfold runSteps
  refine ends_bind (ends_clock world) ?_
  rintro _ _ ⟨rfl, rfl⟩
  dsimp only
  rw [hgreet]
  refine ends_bind (ends_resolve hfaults observed) ?_
  rintro found _ ⟨hfound, rfl⟩
  cases found with
  | error failure => exact course_of_error hinitialized hgreeted hfaults hfound.symm _
  | ok dependents =>
      obtain ⟨cluster, template, name, hbound, rfl⟩ := inputsFound_of_observe hfound.symm
      have hcarries : Ends (runDependents settings ⟨⟨observed, greeted, notes⟩,
          dependentsIn world.inventory observed cluster template name, .empty⟩) world
            fun result after => RunsSteps settings cluster template name
              ⟨observed, greeted, notes⟩ result world after :=
        ends_runDependents hfaults hbound .empty
      dsimp only
      rw [steps_eq]
      exact ends_bind hcarries fun result after h =>
        course_of_runsSteps hinitialized hgreeted hfaults hbound h world.now

end Fleet.Proofs.Experiment.SettledSteps
