import Fleet.Proofs.Experiment.SettledSteps

namespace Fleet.Proofs.Experiment.Idempotence

open Fleet.Experiment
open Fleet.Proofs.Convergence
open Fleet.Proofs.Experiment.Observation
open Fleet.Proofs.Experiment.Readiness
open Fleet.Proofs.Experiment.SettledSteps
open Fleet.Proofs.Rehearsals
open Fleet.Proofs.Stores
open Fleet.Rehearsal

variable {settings : Settings} {experiment : Experiment} {world : World}

def restated (experiment : Experiment) (version : Option String)
    (status : Option ExperimentStatus) : Experiment :=
  { metadata := { experiment.metadata with resourceVersion := version }
    content := { experiment.content with status } }

structure EndsPass (experiment : Experiment) (status : ExperimentStatus)
    (world after : World) : Prop where
  faults : after.faults = []
  only : ∃ experiments, after.inventory = { world.inventory with experiments }
  stored : ∃ version told, after.inventory.experiments.lookup (.ofMetadata experiment.metadata) =
    some (restated experiment version told) ∧ told.getD default = status
  silent : experiment.status.getD default = status → after.inventory = world.inventory

theorem ends_conclude (hfaults : world.faults = [])
    (hstored : world.inventory.experiments.lookup (.ofMetadata experiment.metadata) =
      some experiment) {draft : StatusDraft} (hobserved : draft.observed = experiment)
    (outcome : Outcome) :
    Ends (conclude draft outcome) world fun _ after =>
      EndsPass experiment draft.status world after := by
  unfold conclude
  refine ends_bind (ends_publishAll _ _ world) ?_
  rintro ⟨⟩ _ ⟨published, rfl⟩
  dsimp only [Draft.finish]
  rw [hobserved]
  by_cases hsame : experiment.status.getD default = draft.status
  · rw [if_pos hsame]
    exact ⟨hfaults, ⟨_, rfl⟩, ⟨_, experiment.status, hstored, hsame⟩, fun _ => rfl⟩
  · rw [if_neg hsame]
    have hfaults : ({ world with published } : World).faults = [] := hfaults
    have hwritten : Ends (Pass.on .experiment (Store.persistStatus
        (experiment.setStatus draft.status))) { world with published } fun _ after =>
          EndsPass experiment draft.status world after :=
      ends_on hfaults ⟨hfaults, ⟨_, rfl⟩,
        ⟨_, some draft.status, lookup_persistStatus hstored rfl, rfl⟩, fun h => absurd h hsame⟩
    refine ends_bind hwritten ?_
    rintro (failure | stored) after hconcludes <;> exact hconcludes

theorem settled_experiments {inventory : Inventory} (h : Settled settings experiment inventory)
    (experiments : Store ExperimentContent) :
    Settled settings experiment { inventory with experiments } := by
  intro dependents hobserve
  have hsettled := h dependents hobserve
  exact ⟨hsettled.volume, hsettled.claim, hsettled.ingress, hsettled.workload⟩

/-- The objects made for an experiment depend neither on its version nor on its status. -/
theorem settled_restated {inventory : Inventory} (h : Settled settings experiment inventory)
    (version : Option String) (status : Option ExperimentStatus) :
    Settled settings (restated experiment version status) inventory := by
  intro dependents hobserve
  have hsettled := h dependents hobserve
  exact ⟨hsettled.volume, hsettled.claim, hsettled.ingress,
    ⟨hsettled.workload.paused, hsettled.workload.started⟩⟩

/-- What a pass over an experiment that is stored does, when no call fails. -/
structure PassOutcome (settings : Settings) (experiment : Experiment) (world after : World) :
    Prop where
  faults : after.faults = []
  stored : ∃ version status,
    after.inventory.experiments.lookup (.ofMetadata experiment.metadata) =
        some (restated experiment version status) ∧
      (Settled settings experiment world.inventory →
        ReportsObserved experiment (observe after.inventory experiment) (status.getD default))
  settles : InventoryWellFormed world.inventory ∨ Settled settings experiment world.inventory →
    Settled settings experiment after.inventory
  silent : Settled settings experiment world.inventory →
    ReportsObserved experiment (observe world.inventory experiment)
      (experiment.status.getD default) →
      after.inventory = world.inventory

theorem passOutcome_of_course {draft : StatusDraft} {middle after : World}
    (hcourse : Course settings (.start experiment) draft world middle)
    (hconcludes : EndsPass experiment draft.status middle after) :
    PassOutcome settings experiment world after := by
  obtain ⟨experiments, hafter⟩ := hconcludes.only
  refine ⟨hconcludes.faults, ?_, ?_, ?_⟩
  · obtain ⟨version, told, hlookup, hstatus⟩ := hconcludes.stored
    refine ⟨version, told, hlookup, fun hsettled => ?_⟩
    rw [hstatus, hafter, hcourse.rests hsettled]
    exact hcourse.told hsettled
  · rw [hafter]
    rintro (horderly | hsettled)
    · exact settled_experiments (hcourse.settles horderly) experiments
    · rw [hcourse.rests hsettled]
      exact settled_experiments hsettled experiments
  · intro hsettled htold
    have hstatus := hcourse.silent hsettled htold
    rw [hconcludes.silent hstatus.symm, hcourse.rests hsettled]

theorem ends_reconcile (hfaults : world.faults = [])
    (hdeleted : experiment.metadata.deletionTimestamp = none)
    (hstored : world.inventory.experiments.lookup (.ofMetadata experiment.metadata) =
      some experiment) :
    Ends (reconcile settings experiment) world fun _ after =>
      PassOutcome settings experiment world after := by
  unfold reconcile
  rw [hdeleted, if_neg (by decide)]
  refine ends_bind (ends_runSteps hfaults (.start experiment)) ?_
  rintro ⟨draft, outcome⟩ middle hcourse
  refine ends_bind (ends_conclude hcourse.faults ?_ hcourse.observed outcome) ?_
  · rw [hcourse.experiments]
    exact hstored
  · intro outcome after hconcludes
    exact passOutcome_of_course hcourse hconcludes

/-- One pass over the experiment that is stored under a key, at a given time. -/
def passOver (settings : Settings) (key : ObjectKey) (world : World) (now : Instant) : World :=
  match world.inventory.experiments.lookup key with
  | none => { world with now }
  | some experiment => ({ world with now }.perform (reconcile settings experiment)).2

theorem passOutcome_passOver (settings : Settings) (hfaults : world.faults = [])
    (hdeleted : experiment.metadata.deletionTimestamp = none)
    (hstored : world.inventory.experiments.lookup (.ofMetadata experiment.metadata) =
      some experiment) (now : Instant) :
    PassOutcome settings experiment { world with now }
      (passOver settings (.ofMetadata experiment.metadata) world now) := by
  unfold passOver
  rw [hstored]
  exact ends_reconcile hfaults hdeleted hstored

/-- From a world without faults in which every object is stored under its own namespace and name,
the third pass changes nothing, the counts of writes included, whatever the times of the passes. -/
theorem inventory_third_pass {key : ObjectKey} (hfaults : world.faults = [])
    (horderly : InventoryWellFormed world.inventory)
    (hstored : world.inventory.experiments.lookup key = some experiment)
    (hdeleted : experiment.metadata.deletionTimestamp = none) (first second third : Instant) :
    (passOver settings key (passOver settings key (passOver settings key world first) second)
        third).inventory =
      (passOver settings key (passOver settings key world first) second).inventory := by
  obtain rfl := horderly.experiments key experiment hstored
  -- The first pass settles the world.
  obtain ⟨hfaults, ⟨version, status, hstored, -⟩, hsettles, -⟩ :=
    passOutcome_passOver settings hfaults hdeleted hstored first
  have hdeleted : (restated experiment version status).metadata.deletionTimestamp = none :=
    hdeleted
  have hsettled := settled_restated (hsettles (.inl horderly)) version status
  -- The second one finds it settled and brings the status up to date.
  obtain ⟨hfaults, ⟨version, status, hstored, htold⟩, hsettles, -⟩ :=
    passOutcome_passOver settings hfaults hdeleted hstored second
  have hdeleted : (restated _ version status).metadata.deletionTimestamp = none := hdeleted
  have hsettled' := settled_restated (hsettles (.inr hsettled)) version status
  have hthird := passOutcome_passOver settings hfaults hdeleted hstored third
  exact hthird.silent hsettled' (htold hsettled)

def labKey : ObjectKey := ⟨some "lab", "rats"⟩

theorem inventoryWellFormed_lab : InventoryWellFormed lab.inventory where
  experiments := forall_lookup_iff.mpr (by decide)
  pods := forall_lookup_iff.mpr (by decide)
  volumes := forall_lookup_iff.mpr (by decide)
  claims := forall_lookup_iff.mpr (by decide)
  services := forall_lookup_iff.mpr (by decide)
  specified := forall_lookup_iff.mpr (by decide)

/-- The laboratory gets volume, claim and service in the first pass, one second later the status is
confirmed, and after another hour nothing is left to do. -/
theorem inventory_third_pass_in_lab :
    lab.faults = [] ∧ InventoryWellFormed lab.inventory ∧
      lab.inventory.experiments.lookup labKey = some labExperiment ∧
      labExperiment.metadata.deletionTimestamp = none ∧
      (passOver {} labKey (passOver {} labKey (passOver {} labKey lab .epoch) ⟨1, 0, by decide⟩)
          ⟨3600, 0, by decide⟩).inventory =
        (passOver {} labKey (passOver {} labKey lab .epoch) ⟨1, 0, by decide⟩).inventory := by
  have hstored : lab.inventory.experiments.lookup labKey = some labExperiment := by decide
  exact ⟨rfl, inventoryWellFormed_lab, hstored, rfl,
    inventory_third_pass rfl inventoryWellFormed_lab hstored rfl .epoch ⟨1, 0, by decide⟩
      ⟨3600, 0, by decide⟩⟩

end Fleet.Proofs.Experiment.Idempotence
