import Fleet.Proofs.Experiment.Observation
import Fleet.Proofs.Experiment.Plans
import Fleet.Proofs.Experiment.Reports

namespace Fleet.Proofs.Experiment.Steps

open Fleet.Experiment
open Fleet.Proofs.Convergence
open Fleet.Proofs.Experiment.Observation
open Fleet.Proofs.Experiment.Plans
open Fleet.Proofs.Experiment.Readiness
open Fleet.Proofs.Experiment.Reports
open Fleet.Proofs.Rehearsals
open Fleet.Proofs.Stores
open Fleet.Rehearsal

variable {settings : Settings} {progress : Progress} {world : World}

/-- The volume that the experiment should have needs no change. -/
def VolumeSettled (settings : Settings) (experiment : Experiment)
    (volumes : Store VolumeContent) : Prop :=
  ∀ expected, expectedVolume experiment settings.dataVolume = .ok expected →
    Satisfied (volumePlan experiment expected) volumes

def ClaimSettled (settings : Settings) (experiment : Experiment) (claims : Store ClaimContent) :
    Prop :=
  ∀ expected, expectedClaim experiment settings.dataVolume = .ok expected →
    Satisfied (claimPlan experiment expected) claims

def IngressSettled (experiment : Experiment) (cluster : Cluster) (template : Template)
    (services : Store ServiceContent) : Prop :=
  Satisfied (ingressPlan experiment (expectedService experiment template cluster.spec.ingressIPs))
    services

/-- A step leaves the draft's status alone and goes on with the given dependents. -/
structure GoesOn (progress result : Progress) (dependents : Dependents) : Prop where
  status : result.draft.status = progress.draft.status
  observed : result.draft.observed = progress.draft.observed
  dependents : result.dependents = dependents

theorem ends_reconcileVolume (hfaults : world.faults = []) {name : String}
    (hname : volumeName progress.experiment = .ok name) :
    Ends (reconcileVolume settings progress) world fun result after =>
      Attains .volume (PlacedAll fun volume => volume.content.spec.isSome)
          (VolumeSettled settings progress.experiment) world after ∧
        GoesOn progress result { progress.dependents with
          volume := after.inventory.volumes.lookup ⟨none, name⟩ } := by
  unfold reconcileVolume VolumeSettled
  rw [expectedVolume, hname]
  refine ends_bind (ends_plan hfaults (convergent_volumePlan _)) ?_
  rintro reconciled after ⟨hobject, hattains⟩
  refine ⟨attains_congr hattains fun store => ?_, ?_⟩
  · exact ⟨fun h _ hexpected => Except.ok.inj hexpected ▸ h, fun h => h _ rfl⟩
  · rw [volumePlan, found_ownedBy] at hobject
    have hdependents : { progress.dependents with volume := reconciled.object } =
        { progress.dependents with volume := after.inventory.volumes.lookup ⟨none, name⟩ } := by
      rw [hobject]
      rfl
    change GoesOn progress (Progress.withStep _ _ _) _
    dsimp only [Progress.withStep]
    split <;> exact ⟨rfl, rfl, hdependents⟩

theorem ends_reconcileClaim (hfaults : world.faults = []) {name : String}
    (hname : volumeName progress.experiment = .ok name) :
    Ends (reconcileClaim settings progress) world fun result after =>
      Attains .claim (PlacedAll fun _ => True)
          (ClaimSettled settings progress.experiment) world after ∧
        GoesOn progress result { progress.dependents with
          claim := after.inventory.claims.lookup
            ⟨progress.experiment.metadata.namespace, claimName progress.experiment⟩ } := by
  unfold reconcileClaim ClaimSettled
  rw [expectedClaim, hname]
  refine ends_bind (ends_plan hfaults (convergent_claimPlan _)) ?_
  rintro reconciled after ⟨hobject, hattains⟩
  refine ⟨attains_congr hattains fun store => ?_, ?_⟩
  · exact ⟨fun h _ hexpected => Except.ok.inj hexpected ▸ h, fun h => h _ rfl⟩
  · rw [claimPlan, found_ownedBy] at hobject
    refine ⟨rfl, rfl, ?_⟩
    change { progress.dependents with claim := reconciled.object } = _
    rw [hobject]
    rfl

theorem observed_foldl_addEvent (events : List Event) (progress : Progress) :
    (events.foldl Progress.addEvent progress).draft.observed = progress.draft.observed := by
  induction events generalizing progress with
  | nil => rfl
  | cons event rest ih => exact ih (progress.addEvent event)

theorem ends_reconcileIngress (hfaults : world.faults = []) :
    Ends (reconcileIngress progress) world fun result after =>
      Attains .service (PlacedAll fun _ => True)
          (IngressSettled progress.experiment progress.dependents.cluster
            progress.dependents.template) world after ∧
        GoesOn progress result { progress.dependents with
          ingress := after.inventory.services.lookup
            ⟨progress.experiment.metadata.namespace,
              ingressName progress.experiment progress.dependents.template⟩ } := by
  refine ends_bind (ends_plan hfaults (convergent_ingressPlan _ _)) ?_
  rintro reconciled after ⟨hobject, hattains⟩
  refine ⟨hattains, status_foldl_addEvent _ progress, observed_foldl_addEvent _ progress, ?_⟩
  rw [ingressPlan, found_ownedBy] at hobject
  change { progress.dependents with ingress := reconciled.object } = _
  rw [hobject]
  rfl

/-- While the experiment is paused it has no pods. Otherwise it has some, or the pod that it should
have needs no change. -/
structure WorkloadSettled (settings : Settings) (experiment : Experiment) (template : Template)
    (pods : Store PodContent) : Prop where
  paused : experiment.spec.pause = true → podsOf experiment pods = []
  started : experiment.spec.pause = false → podsOf experiment pods = [] →
    ∀ expected, expectedPod experiment template settings.dataVolume = .ok expected →
      Satisfied (podPlan experiment expected) pods

/-- Deleting what is listed leaves nothing to be listed, since every pod is deleted from its own
place as the object that was listed. -/
theorem select_remove {pods : Store PodContent} {ns selector : Option String} {pod : Pod}
    {rest : List Pod} (hplaced : SelfKeyed pods)
    (hlisted : ∀ other ∈ pods.select ns selector, other ∈ pod :: rest) :
    ∀ other ∈ (pods.remove (.ofMetadata pod.metadata) (some (.sameObject pod.metadata))).2.select
      ns selector, other ∈ rest := by
  intro other hother
  obtain ⟨key, hlookup, hpicked⟩ := mem_select.mp hother
  have hstored := lookup_of_lookup_remove hlookup
  rcases List.mem_cons.mp (hlisted other (mem_select.mpr ⟨key, hstored, hpicked⟩)) with rfl | hrest
  · rw [← hplaced key other hstored] at hlookup
    exact absurd hlookup (lookup_remove_self pods _ other)
  · exact hrest

/-- The listed pods have been deleted: if they were all that a selector picks, nothing is left. -/
structure Clears (pods : List Pod) (progress result : Progress) (world after : World) : Prop where
  only : ∃ state, after = withStore world .pod state
  goesOn : GoesOn progress result progress.dependents
  idle : pods = [] → after = world
  cleared : ∀ ns selector, SelfKeyed world.inventory.pods →
    (∀ pod ∈ world.inventory.pods.select ns selector, pod ∈ pods) →
      after.inventory.pods.select ns selector = []

/-- The world after a listed pod has been deleted, or after the delete has been refused. -/
def without (world : World) (pod : Pod) : World :=
  withStore world .pod ((world.inventory.pods.remove (.ofMetadata pod.metadata)
    (some (.sameObject pod.metadata))).2, world.drawn)

theorem clears_cons {pod : Pod} {rest : List Pod} {next result : Progress} {after : World}
    (hnext : GoesOn progress next progress.dependents)
    (h : Clears rest next result (without world pod) after) :
    Clears (pod :: rest) progress result world after := by
  refine ⟨?_, ?_, nofun, fun ns selector hplaced hlisted => ?_⟩
  · obtain ⟨state, rfl⟩ := h.only
    exact ⟨state, withStore_withStore ..⟩
  · exact ⟨h.goesOn.status.trans hnext.status, h.goesOn.observed.trans hnext.observed,
      h.goesOn.dependents.trans hnext.dependents⟩
  · refine h.cleared ns selector (fun key object hlookup => ?_) (select_remove hplaced hlisted)
    exact hplaced key object (lookup_of_lookup_remove hlookup)

/-- However a delete ends, the rest is deleted from one and the same world. That the pod is already
gone is no failure. -/
theorem ends_deletePods_cons (hfaults : world.faults = []) {pod : Pod} {rest : List Pod}
    {holds : Progress → World → Prop}
    (hdone : Ends (deletePods progress rest) (without world pod) holds)
    (hrefused : ∀ failure, (world.inventory.pods.remove (.ofMetadata pod.metadata)
        (some (.sameObject pod.metadata))).1 = .error failure → failure.isNotFound = false →
      Ends (deletePods (progress.withStep "delete-env-pod" (.error failure : Except _ Unit)) rest)
        (without world pod) holds) :
    Ends (deletePods progress (pod :: rest)) world holds := by
  have hdeleted : Ends (Pass.on .pod (Store.delete pod.metadata.namespace pod.name
      (some (.sameObject pod.metadata)))) world fun answer after =>
        answer = (world.inventory.pods.remove (.ofMetadata pod.metadata)
          (some (.sameObject pod.metadata))).1 ∧ after = without world pod := by
    unfold Ends
    rw [perform_delete hfaults]
    exact ⟨rfl, rfl⟩
  refine ends_bind hdeleted ?_
  rintro (failure | ⟨⟩) after ⟨hanswer, rfl⟩
  · change Ends (if _ then _ else _) _ _
    split
    · exact hdone
    · rename_i hfailed
      exact hrefused failure hanswer.symm (Bool.eq_false_iff.mpr hfailed)
  · exact hdone

theorem ends_deletePods (hfaults : world.faults = []) (progress : Progress) (pods : List Pod) :
    Ends (deletePods progress pods) world fun result after =>
      Clears pods progress result world after := by
  induction pods generalizing progress world with
  | nil =>
      refine ⟨⟨_, (withStore_self world .pod).symm⟩, ⟨rfl, rfl, rfl⟩, fun _ => rfl, ?_⟩
      intro ns selector _ hlisted
      exact List.eq_nil_iff_forall_not_mem.mpr fun pod hpod => nomatch hlisted pod hpod
  | cons pod rest ih =>
      have hafter : (without world pod).faults = [] := hfaults
      have hrest : ∀ next : Progress, GoesOn progress next progress.dependents →
          Ends (deletePods next rest) (without world pod) fun result after =>
            Clears (pod :: rest) progress result world after :=
        fun next hnext => ends_mono (ih hafter next)
          fun _ _ hclears => clears_cons hnext hclears
      exact ends_deletePods_cons hfaults (hrest progress ⟨rfl, rfl, rfl⟩)
        fun _ _ _ => hrest _ ⟨rfl, rfl, rfl⟩

/-- What the step for the workload does: besides the pods it sees to the status, which then follows
the pods that were listed. -/
structure SeesTo (settings : Settings) (progress result : Progress) (world after : World) :
    Prop where
  attains : Attains .pod SelfKeyed
    (WorkloadSettled settings progress.experiment progress.dependents.template) world after
  status : result.draft.status = (noteWorkload world.now progress).draft.status
  observed : result.draft.observed = progress.draft.observed
  dependents : ∃ pods, result.dependents = { progress.dependents with pods }

theorem kept_noteWorkload (now : Instant) (progress : Progress) :
    (noteWorkload now progress).draft.observed = progress.draft.observed ∧
      (noteWorkload now progress).dependents = progress.dependents := by
  unfold noteWorkload
  split
  · unfold notePause
    split <;> exact ⟨rfl, rfl⟩
  · split
    · exact ⟨rfl, rfl⟩
    · unfold followPod
      split
      · exact ⟨rfl, rfl⟩
      · dsimp only [Progress.updateStatus]
        split <;> exact ⟨rfl, rfl⟩

theorem followsWorkload_of_seesTo {result : Progress} {after : World}
    (h : SeesTo settings progress result world after)
    (hinitialized : progress.draft.status.conditions.isTrue .initialized = true) :
    FollowsWorkload progress.experiment.spec progress.dependents.pods result.draft.status := by
  rw [h.status]
  exact followsWorkload_noteWorkload hinitialized world.now

theorem silent_of_seesTo {result : Progress} {after : World}
    (h : SeesTo settings progress result world after)
    (hfollows : FollowsWorkload progress.experiment.spec progress.dependents.pods
      progress.draft.status) :
    result.draft.status = progress.draft.status := by
  rw [h.status]
  exact noteWorkload_of_followsWorkload hfollows world.now

section Workload

variable (hfaults : world.faults = [])
  (hpods : progress.dependents.pods = podsOf progress.experiment world.inventory.pods)

include hfaults hpods

theorem ends_pauseWorkload (hpause : progress.experiment.spec.pause = true) :
    Ends (pauseWorkload world.now progress) world fun result after =>
      SeesTo settings progress result world after := by
  have hnote : noteWorkload world.now progress = notePause world.now progress := by
    rw [noteWorkload, if_pos hpause]
  obtain ⟨hobserved, hdependents⟩ := kept_noteWorkload world.now progress
  rw [hnote] at hobserved hdependents
  refine ends_mono (ends_deletePods hfaults _ progress.dependents.pods) ?_
  rintro result after ⟨honly, hgoes, hidle, hcleared⟩
  refine ⟨⟨honly, ?_, ?_⟩, ?_, ?_, [], ?_⟩
  · intro hplaced
    refine ⟨fun _ => hcleared _ _ hplaced fun pod hpod => hpods ▸ hpod, ?_⟩
    rw [hpause]
    exact nofun
  · intro hsettled
    exact hidle (hpods.trans (hsettled.paused hpause))
  · rw [hnote]
    exact hgoes.status
  · exact hgoes.observed.trans hobserved
  · rw [hgoes.dependents, hdependents]

theorem ends_startWorkload (hpause : progress.experiment.spec.pause = false)
    (hnone : progress.dependents.pods = []) :
    Ends (startWorkload settings progress) world fun result after =>
      SeesTo settings progress result world after := by
  have hnote : noteWorkload world.now progress = progress := by
    rw [noteWorkload, hpause, if_neg Bool.false_ne_true, hnone]
  unfold startWorkload
  dsimp only
  cases hexpected : expectedPod progress.experiment progress.dependents.template
      settings.dataVolume with
  | error failure =>
      -- No pod can be made of the template, so there is nothing to reach.
      refine ⟨attains_self fun _ => ⟨?_, ?_⟩, ?_, rfl, _, rfl⟩
      · rw [hpause]
        exact nofun
      · intro _ _ expected hok
        rw [hexpected] at hok
        contradiction
      · rw [hnote]
        rfl
  | ok expected =>
      refine ends_bind (ends_plan hfaults (convergent_podPlan expected)) ?_
      rintro reconciled after ⟨-, honly, hreached, hidle⟩
      refine ⟨⟨honly, ?_, ?_⟩, ?_, ?_, reconciled.object.toList, ?_⟩
      · intro hplaced
        constructor
        · rw [hpause]
          exact nofun
        · intro _ _ other hother
          cases hexpected.symm.trans hother
          exact hreached ⟨hplaced, fun _ _ _ => trivial⟩
      · intro hsettled
        exact hidle (hsettled.started hpause (hpods ▸ hnone) expected hexpected)
      · rw [hnote]
        change (Progress.withStep _ _ _).draft.status = _
        dsimp only [Progress.withStep]
        split <;> rfl
      · change (Progress.withStep _ _ _).draft.observed = _
        dsimp only [Progress.withStep]
        split <;> rfl
      · change (Progress.withStep _ _ _).dependents = _
        dsimp only [Progress.withStep]
        split <;> rfl

theorem ends_reconcileWorkload :
    Ends (reconcileWorkload settings progress) world fun result after =>
      SeesTo settings progress result world after := by
  refine ends_bind (ends_clock world) ?_
  rintro _ _ ⟨rfl, rfl⟩
  cases hpause : progress.experiment.spec.pause with
  | true => exact ends_pauseWorkload hfaults hpods hpause
  | false =>
      rw [if_neg Bool.false_ne_true]
      cases hlisted : progress.dependents.pods with
      | nil => exact ends_startWorkload hfaults hpods hpause hlisted
      | cons pod rest =>
          have hnote : noteWorkload world.now progress = followPod world.now pod progress := by
            rw [noteWorkload, hpause, if_neg Bool.false_ne_true, hlisted]
          obtain ⟨hobserved, hdependents⟩ := kept_noteWorkload world.now progress
          rw [hnote] at hobserved hdependents
          refine ⟨attains_self fun _ => ?_, ?_, hobserved, _, hdependents⟩
          · constructor
            · rw [hpause]
              exact nofun
            · intro _ hnone
              cases (hlisted.symm.trans hpods).trans hnone
          · rw [hnote]
            rfl

end Workload

end Fleet.Proofs.Experiment.Steps
