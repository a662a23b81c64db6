import Fleet.Proofs.Experiment.Idempotence

namespace Fleet.Proofs.Experiment.WorkloadReadiness

open Fleet.Experiment
open Fleet.Proofs.Contract
open Fleet.Proofs.Convergence
open Fleet.Proofs.Experiment.Idempotence
open Fleet.Proofs.Experiment.Observation
open Fleet.Proofs.Experiment.Plans
open Fleet.Proofs.Experiment.Readiness
open Fleet.Proofs.Experiment.Reports
open Fleet.Proofs.Experiment.SettledSteps
open Fleet.Proofs.Experiment.Steps
open Fleet.Proofs.Ledgers
open Fleet.Proofs.Rehearsals
open Fleet.Proofs.Stores
open Fleet.Rehearsal

variable {settings : Settings} {experiment : Experiment} {progress : Progress} {world : World}

/-- The workload of an experiment: the first pod with its label, or else the pod under its name. -/
def workload (experiment : Experiment) (pods : Store PodContent) : Option Pod :=
  (podsOf experiment pods).head? <|>
    pods.lookup ⟨experiment.metadata.namespace, experiment.name⟩

def tellsReady (status : ExperimentStatus) : Bool := status.conditions.isTrue .podReady

/-- What is told of the pod is true: if it is said to be ready, there is one that is. -/
def Backed (experiment : Experiment) (pods : Store PodContent) : Prop :=
  tellsReady (experiment.status.getD default) = true →
    ∃ pod ∈ workload experiment pods, pod.content.isReady = true

instance (experiment : Experiment) (pods : Store PodContent) : Decidable (Backed experiment pods) :=
  inferInstanceAs (Decidable (_ → ∃ pod ∈ workload experiment pods, _))

theorem tellsReady_greet (draft : StatusDraft) (now : Instant) :
    tellsReady (greet draft now).status = tellsReady draft.status := by
  unfold greet
  split
  · rfl
  · exact isTrue_set_of_ne (by decide) _ _ _ _ _

theorem tellsReady_followPod (now : Instant) (pod : Pod) (progress : Progress) :
    tellsReady (followPod now pod progress).draft.status = pod.content.isReady := by
  cases hready : pod.content.isReady with
  | true => exact isTrue_of_tells (running_followPod hready now progress).2
  | false => exact isTrue_of_tells (waiting_followPod hready now progress).2

theorem tellsReady_updateConnection (draft : StatusDraft) (dependents : Dependents)
    (now : Instant) :
    tellsReady (updateConnection draft dependents now).status = tellsReady draft.status := by
  have hcopies := (copies_keep draft dependents).2
  change Ledger.isTrue (deriveReadiness (copies draft dependents) _ now).status.conditions _ = _
  rw [isTrue_deriveReadiness_of_ne (by decide) (by decide), hcopies]
  rfl

/-- The workload is still there, or one has been started where there was none. -/
def WorkloadContinues (experiment : Experiment) (before after : Store PodContent) : Prop :=
  (∃ pod, workload experiment before = some pod ∧ workload experiment after = some pod) ∨
    workload experiment before = none ∧
      ∃ pod, workload experiment after = some pod ∧ pod.content.isReady = false

/-- What a pass makes of the workload, and of what is told of it. -/
structure Attends (experiment : Experiment) (told telling : Bool)
    (before after : Store PodContent) :
    Prop where
  found : ∀ pod ∈ (podsOf experiment before).head?,
    telling = pod.content.isReady ∧ workload experiment after = some pod
  started : podsOf experiment before = [] →
    telling = told ∧ WorkloadContinues experiment before after

theorem workload_of_unlisted {pods : Store PodContent} (hnone : podsOf experiment pods = []) :
    workload experiment pods =
      pods.lookup ⟨experiment.metadata.namespace, experiment.name⟩ := by
  rw [workload, hnone]
  rfl

theorem workload_add {pods : Store PodContent} {pod : Pod} (uid : String)
    (hplace : .ofMetadata pod.metadata =
      (⟨experiment.metadata.namespace, experiment.name⟩ : ObjectKey))
    (hnone : podsOf experiment pods = [])
    (hfree : pods.lookup ⟨experiment.metadata.namespace, experiment.name⟩ = none) :
    workload experiment (pods.add uid pod).2 =
      some (pods.stamp (Store.identify pod (some uid))) := by
  have hcreated := lookup_add_self uid (hplace.symm ▸ hfree)
  rw [hplace] at hcreated
  have honly : ∀ found ∈ podsOf experiment (pods.add uid pod).2,
      found = pods.stamp (Store.identify pod (some uid)) := by
    intro found hfound
    obtain ⟨key, hlookup, hpicked⟩ := mem_select.mp hfound
    by_cases hkey : key = .ofMetadata pod.metadata
    · rw [hkey, hplace, hcreated] at hlookup
      exact (Option.some.inj hlookup).symm
    · rw [lookup_add_of_ne hkey] at hlookup
      have hlisted : found ∈ podsOf experiment pods := mem_select.mpr ⟨key, hlookup, hpicked⟩
      rw [hnone] at hlisted
      contradiction
  unfold workload
  cases hhead : (podsOf experiment (pods.add uid pod).2).head? with
  | none => exact hcreated
  | some found =>
      rw [honly found (List.mem_of_head? hhead)]
      rfl

section Pod

variable {template : Template} {expected : Pod}
  (hexpected : expectedPod experiment template settings.dataVolume = .ok expected)

include hexpected

theorem expectedPod_eq :
    expected.metadata.name = some experiment.name ∧
      expected.metadata.namespace = experiment.metadata.namespace ∧
        expected.content.isReady = false := by
  unfold expectedPod at hexpected
  dsimp only at hexpected
  split at hexpected
  · contradiction
  · cases hexpected
    exact ⟨rfl, rfl, rfl⟩

theorem place_podPlan {name : String} (htarget : (podPlan experiment expected).target = .ok name) :
    place (podPlan experiment expected) name =
      ⟨experiment.metadata.namespace, experiment.name⟩ := by
  obtain ⟨hname, hnamespace, -⟩ := expectedPod_eq hexpected
  have htarget := name_of_target htarget
  rw [podPlan, expected_ownedBy, hname] at htarget
  rw [place, namespace_stamped, podPlan, expected_ownedBy, hnamespace, Option.some.inj htarget]

/-- A plan for the pod that succeeds leaves the workload that there is, or starts one. -/
theorem workloadContinues_converge {pods : Store PodContent} {drawn : Nat} {action : ResourceAction}
    (hnone : podsOf experiment pods = [])
    (hok : ((podPlan experiment expected).converge.run serve (pods, drawn)).1.1 = .ok action) :
    WorkloadContinues experiment pods
      ((podPlan experiment expected).converge.run serve (pods, drawn)).2.1 := by
  have hconvergent : Convergent (podPlan experiment expected) _ := convergent_podPlan expected
  cases htarget : (podPlan experiment expected).target with
  | error failure =>
      unfold ResourcePlan.converge at hok
      rw [htarget] at hok
      contradiction
  | ok name =>
      have hplace := place_podPlan hexpected htarget
      have hbefore := workload_of_unlisted hnone
      rw [← hplace] at hbefore
      cases hlookup : pods.lookup (place (podPlan experiment expected) name) with
      | some pod =>
          refine .inl ⟨pod, hbefore.trans hlookup, ?_⟩
          rw [run_converge_present hconvergent.recreates htarget hlookup,
            wantsUpdate_of_needUpdate (needUpdate_ownedBy ..), if_neg Bool.false_ne_true]
          exact hbefore.trans hlookup
      | none =>
          refine .inr ⟨hbefore.trans hlookup, ?_⟩
          rw [run_converge_absent htarget hlookup, run_createExpected hconvergent.prepares,
            workload_add _ ((ofMetadata_stamped htarget).trans hplace) hnone (hplace ▸ hlookup)]
          refine ⟨_, rfl, ?_⟩
          change (podPlan experiment expected).stamped.content.isReady = false
          rw [content_stamped, podPlan, expected_ownedBy]
          exact (expectedPod_eq hexpected).2.2

end Pod

theorem failure_noted (earlier : Option (String × Failure)) (failure : String × Failure) :
    (earlier <|> some failure) ≠ none := by
  cases earlier <;> nofun

theorem ok_of_withStep {α : Type} {step : String} {result : Except Failure α}
    (h : (progress.withStep step result).outcome.failure = none) : ∃ value, result = .ok value := by
  cases result with
  | ok value => exact ⟨value, rfl⟩
  | error failure => exact absurd h (failure_noted _ _)

section Workload

variable (hfaults : world.faults = [])

include hfaults

theorem attends_startWorkload (hnone : podsOf progress.experiment world.inventory.pods = []) :
    Ends (startWorkload settings progress) world fun result after =>
      result.outcome.failure = none →
        Attends progress.experiment (tellsReady progress.draft.status)
          (tellsReady result.draft.status) world.inventory.pods after.inventory.pods := by
  unfold startWorkload
  dsimp only
  cases hexpected : expectedPod progress.experiment progress.dependents.template
      settings.dataVolume with
  | error failure =>
      intro hok
      obtain ⟨value, hvalue⟩ := ok_of_withStep hok
      contradiction
  | ok expected =>
      have hplanned : Ends (Pass.on .pod (podPlan progress.experiment expected).reconcile) world
          fun reconciled after => ∀ action, reconciled.outcome = .ok action →
            WorkloadContinues progress.experiment world.inventory.pods after.inventory.pods := by
        refine ends_on hfaults ?_
        rw [run_reconcile]
        exact fun action hok => workloadContinues_converge hexpected hnone hok
      refine ends_bind hplanned ?_
      intro reconciled after hcontinues hok
      obtain ⟨action, haction⟩ := ok_of_withStep hok
      refine ⟨fun pod hpod => ?_, fun _ => ⟨?_, hcontinues action haction⟩⟩
      · rw [hnone] at hpod
        contradiction
      · change tellsReady (Progress.withStep _ _ _).draft.status = _
        dsimp only [Progress.withStep]
        split <;> rfl

theorem attends_reconcileWorkload
    (hpods : progress.dependents.pods = podsOf progress.experiment world.inventory.pods)
    (hpause : progress.experiment.spec.pause = false) :
    Ends (reconcileWorkload settings progress) world fun result after =>
      result.outcome.failure = none →
        Attends progress.experiment (tellsReady progress.draft.status)
          (tellsReady result.draft.status) world.inventory.pods after.inventory.pods := by
  refine ends_bind (ends_clock world) ?_
  rintro _ _ ⟨rfl, rfl⟩
  rw [hpause, if_neg Bool.false_ne_true]
  cases hlisted : progress.dependents.pods with
  | nil => exact attends_startWorkload hfaults (hpods.symm.trans hlisted)
  | cons pod rest =>
      have hhead : (podsOf progress.experiment world.inventory.pods).head? = some pod := by
        rw [← hpods, hlisted]
        rfl
      intro _
      refine ⟨fun found hfound => ?_, fun hnone => ?_⟩
      · obtain rfl := Option.some.inj (hhead.symm.trans hfound)
        refine ⟨tellsReady_followPod world.now pod progress, ?_⟩
        change workload progress.experiment world.inventory.pods = _
        rw [workload, hhead]
        rfl
      · rw [hnone] at hhead
        contradiction

theorem attends_runDependents {cluster : Cluster} {template : Template} {name : String}
    {draft : StatusDraft}
    (hbound : InputsFound world.inventory draft.observed cluster template name)
    (hpause : draft.observed.spec.pause = false) (outcome : Outcome) :
    Ends (runDependents settings
        ⟨draft, dependentsIn world.inventory draft.observed cluster template name, outcome⟩) world
      fun result after => result.outcome.failure = none →
        Attends draft.observed (tellsReady draft.status) (tellsReady result.draft.status)
          world.inventory.pods after.inventory.pods := by
  obtain ⟨observed, status, events⟩ := draft
  -- The steps before the workload touch neither the pods nor the status.
  refine ends_bind (ends_reconcileVolume hfaults hbound.volume) ?_
  rintro ⟨⟨_, _, events⟩, _, outcome⟩ after ⟨⟨⟨volumes, rfl⟩, -, -⟩, ⟨⟩, ⟨⟩, ⟨⟩⟩
  refine ends_bind (ends_reconcileClaim hfaults hbound.volume) ?_
  rintro ⟨⟨_, _, events⟩, _, outcome⟩ after ⟨⟨⟨claims, rfl⟩, -, -⟩, ⟨⟩, ⟨⟩, ⟨⟩⟩
  refine ends_bind (ends_reconcileIngress hfaults) ?_
  rintro ⟨⟨_, _, events⟩, _, outcome⟩ after ⟨⟨⟨services, rfl⟩, -, -⟩, ⟨⟩, ⟨⟩, ⟨⟩⟩
  exact attends_reconcileWorkload hfaults rfl hpause

theorem attends_runSteps {draft : StatusDraft} (hpause : draft.observed.spec.pause = false) :
    Ends (runSteps settings draft) world fun result after =>
      result.2.failure = none →
        Attends draft.observed (tellsReady draft.status) (tellsReady result.1.status)
          world.inventory.pods after.inventory.pods := by
  obtain ⟨observed, status, events⟩ := draft
  obtain ⟨greeted, notes, hgreet, -, -⟩ := greet_eq observed status events world.now
  have htold := tellsReady_greet ⟨observed, status, events⟩ world.now
  rw [hgreet] at htold
  change observed.spec.pause = false at hpause
  unfold runSteps
  refine ends_bind (ends_clock world) ?_
  rintro _ _ ⟨rfl, rfl⟩
  dsimp only
  rw [hgreet, ← htold]
  refine ends_bind (ends_resolve hfaults observed) ?_
  rintro found _ ⟨hfound, rfl⟩
  cases found with
  | error failure => exact nofun
  | ok dependents =>
      obtain ⟨cluster, template, name, hbound, rfl⟩ := inputsFound_of_observe hfound.symm
      dsimp only
      rw [steps_eq]
      have hattends : Ends (runDependents settings ⟨⟨observed, greeted, notes⟩,
          dependentsIn world.inventory observed cluster template name, .empty⟩) world
            fun result after => result.outcome.failure = none →
              Attends observed (tellsReady greeted) (tellsReady result.draft.status)
                world.inventory.pods after.inventory.pods :=
        attends_runDependents hfaults hbound hpause .empty
      refine ends_bind hattends fun result after hattends hok => ?_
      change Attends observed _ (tellsReady (updateConnection _ _ _).status) _ _
      rw [tellsReady_updateConnection]
      exact hattends hok

end Workload

theorem ends_conclude_failure (draft : StatusDraft) (outcome : Outcome) (world : World) :
    Ends (conclude draft outcome) world fun result _ =>
      result.failure = none → outcome.failure = none := by
  have htrivial : ∀ {α : Type} (pass : Pass α) (world : World),
      Ends pass world fun _ _ => True := fun _ _ => trivial
  unfold conclude
  refine ends_bind (htrivial _ _) ?_
  rintro ⟨⟩ after -
  dsimp only [Draft.finish]
  split
  · exact id
  · refine ends_bind (htrivial _ _) ?_
    rintro (failure | stored) after - hok
    · exact absurd hok (failure_noted _ _)
    · exact hok

theorem failure_of_aggregate {outcome : Outcome} {soon : Delay} {action : Action}
    (h : outcome.aggregate soon = .ok action) : outcome.failure = none := by
  unfold Outcome.aggregate at h
  split at h
  · contradiction
  · assumption

theorem backed_iff_of_attends {told telling : Bool} {before after : Store PodContent}
    (h : Attends experiment told telling before after) :
    (telling = true → ∃ pod, workload experiment after = some pod ∧ pod.content.isReady = true) ↔
      (podsOf experiment before = [] → told = true →
        ∃ pod, workload experiment before = some pod ∧ pod.content.isReady = true) := by
  cases hlisted : podsOf experiment before with
  | cons pod rest =>
      have hhead : pod ∈ (podsOf experiment before).head? := by
        rw [hlisted]
        rfl
      obtain ⟨htelling, hworkload⟩ := h.found pod hhead
      refine ⟨nofun, fun _ hready => ⟨pod, hworkload, htelling ▸ hready⟩⟩
  | nil =>
      obtain ⟨rfl, ⟨pod, hbefore, hafter⟩ | ⟨hnone, pod, hafter, hwaiting⟩⟩ := h.started hlisted
      · rw [hbefore, hafter]
        exact ⟨fun hbacked _ => hbacked, fun hbacked => hbacked rfl⟩
      · have hunready : ¬ ∃ found, some pod = some found ∧ found.content.isReady = true := by
          rintro ⟨_, ⟨⟩, hready⟩
          rw [hwaiting] at hready
          contradiction
        rw [hnone, hafter]
        refine ⟨fun hbacked _ htelling => absurd (hbacked htelling) hunready, ?_⟩
        intro hbacked htelling
        obtain ⟨_, hnothing, -⟩ := hbacked rfl htelling
        contradiction

theorem backed_iff_of_pass {action : Action} (hfaults : world.faults = [])
    (hstored : world.inventory.experiments.lookup (.ofMetadata experiment.metadata) =
      some experiment)
    (hpause : experiment.spec.pause = false)
    (hdeleted : experiment.metadata.deletionTimestamp.isSome = false) :
    Ends (reconcile settings experiment) world fun result after => result = .ok action →
      ∃ stored, after.inventory.experiments.lookup (.ofMetadata experiment.metadata) =
          some stored ∧
        (Backed stored after.inventory.pods ↔
          (podsOf experiment world.inventory.pods = [] →
            Backed experiment world.inventory.pods)) := by
  unfold reconcile
  rw [hdeleted, if_neg Bool.false_ne_true]
  have hsteps : Ends (runSteps settings (.start experiment)) world fun result after =>
      Course settings (.start experiment) result.1 world after ∧
        (result.2.failure = none →
          Attends experiment (tellsReady (experiment.status.getD default))
            (tellsReady result.1.status) world.inventory.pods after.inventory.pods) :=
    ⟨ends_runSteps hfaults _, attends_runSteps hfaults hpause⟩
  refine ends_bind hsteps ?_
  rintro ⟨draft, outcome⟩ middle ⟨hcourse, hattends⟩
  have hstored : middle.inventory.experiments.lookup (.ofMetadata experiment.metadata) =
      some experiment := hcourse.experiments ▸ hstored
  have hconclude : Ends (conclude draft outcome) middle fun result after =>
      EndsPass experiment draft.status middle after ∧
        (result.failure = none → outcome.failure = none) :=
    ⟨ends_conclude hcourse.faults hstored hcourse.observed outcome,
      ends_conclude_failure draft outcome middle⟩
  refine ends_bind hconclude ?_
  rintro result after ⟨hconcludes, hfailure⟩ hok
  have hattends := hattends (hfailure (failure_of_aggregate hok))
  obtain ⟨version, told, hafter, htold⟩ := hconcludes.stored
  obtain ⟨experiments, hothers⟩ := hconcludes.only
  have hpods : after.inventory.pods = middle.inventory.pods := by rw [hothers]
  refine ⟨_, hafter, ?_⟩
  change Backed _ after.inventory.pods ↔ _
  rw [hpods]
  -- A version and a status make no difference to the workload.
  change (tellsReady (told.getD default) = true → ∃ pod,
    workload experiment middle.inventory.pods = some pod ∧ _) ↔ _
  rw [htold]
  exact backed_iff_of_attends hattends

/-- After a successful pass what is told of the pod is true, unless it was untrue before and the
pass has not looked at a pod: the experiment is being deleted, or it has no pod with its label. -/
theorem backed_after_pass_iff {action : Action} (hfaults : world.faults = [])
    (hstored : world.inventory.experiments.lookup (.ofMetadata experiment.metadata) =
      some experiment)
    (hpause : experiment.spec.pause = false)
    (hpass : (world.perform (reconcile settings experiment)).1 = .ok action) :
    ∃ stored, (world.perform (reconcile settings experiment)).2.inventory.experiments.lookup
        (.ofMetadata experiment.metadata) = some stored ∧
      (Backed stored (world.perform (reconcile settings experiment)).2.inventory.pods ↔
        (experiment.metadata.deletionTimestamp.isSome = true ∨
            podsOf experiment world.inventory.pods = [] →
          Backed experiment world.inventory.pods)) := by
  cases hdeleted : experiment.metadata.deletionTimestamp.isSome with
  | true =>
      have hkept : (world.perform (reconcile settings experiment)).2.inventory =
          world.inventory := by
        unfold reconcile
        rw [hdeleted]
        rfl
      rw [hkept]
      exact ⟨experiment, hstored, fun hbacked _ => hbacked, fun hbacked => hbacked (.inl rfl)⟩
  | false =>
      rw [or_iff_right Bool.false_ne_true]
      exact backed_iff_of_pass hfaults hstored hpause hdeleted hpass

/-- The laboratory after its first pass, and after its pod has been removed. -/
def deserted : World :=
  ((lab.perform (reconcile {} labExperiment)).2.remove .pod labKey).2

/-- The experiment as the first pass has left it. -/
def abandoned : Experiment := restated labExperiment (some "2") (some labStatus)

theorem running_not_backed_of_deserted :
    Reachable abandoned.status ∧
      deserted.faults = [] ∧
      deserted.inventory.experiments.lookup labKey = some abandoned ∧
      abandoned.spec.pause = false ∧
      (deserted.perform (reconcile {} abandoned)).1 = .ok .awaitChange ∧
      ((deserted.perform (reconcile {} abandoned)).2.inventory.experiments.lookup labKey).map
        (fun stored => ((stored.status.getD default).phase,
          decide (Backed stored (deserted.perform (reconcile {} abandoned)).2.inventory.pods))) =
        some (.running, false) :=
  ⟨reachable_labStatus, rfl, by decide, rfl, rfl, by decide⟩

theorem backed_after_pass_iff_of_deserted :
    ∃ stored, (deserted.perform (reconcile {} abandoned)).2.inventory.experiments.lookup
        (.ofMetadata abandoned.metadata) = some stored ∧
      (Backed stored (deserted.perform (reconcile {} abandoned)).2.inventory.pods ↔
        (abandoned.metadata.deletionTimestamp.isSome = true ∨
            podsOf abandoned deserted.inventory.pods = [] →
          Backed abandoned deserted.inventory.pods)) := by
  have hstored : deserted.inventory.experiments.lookup (.ofMetadata abandoned.metadata) =
      some abandoned := by decide
  have hpass : (deserted.perform (reconcile {} abandoned)).1 = .ok .awaitChange := rfl
  exact backed_after_pass_iff rfl hstored rfl hpass

end Fleet.Proofs.Experiment.WorkloadReadiness
