import Fleet.Proofs.Experiment.ConnectionDetails
import Fleet.Proofs.Experiment.SuccessfulPasses
import Fleet.Proofs.PlanUpdates

namespace Fleet.Proofs.Experiment.DataVolumes

open Fleet.Experiment
open Fleet.Proofs.Convergence
open Fleet.Proofs.Experiment.ConnectionDetails
open Fleet.Proofs.Experiment.Origins
open Fleet.Proofs.Experiment.Plans
open Fleet.Proofs.Experiment.Readiness (labExperiment)
open Fleet.Proofs.Experiment.Steps
open Fleet.Proofs.Experiment.SuccessfulPasses
open Fleet.Proofs.PlanOutcomes
open Fleet.Proofs.PlanStages
open Fleet.Proofs.PlanUpdates
open Fleet.Proofs.Rehearsals
open Fleet.Proofs.Stores
open Fleet.Rehearsal

variable {experiment : Experiment} {settings : Settings} {expected actual volume stored : Volume}
  {name : String}

def directory (settings : Settings) (experiment : Experiment) : HostPath :=
  { path := hostDirectory settings.dataVolume (experiment.metadata.uid.getD "")
    type := some "DirectoryOrCreate" }

/-- Only the version and the directory differ. -/
structure SameButDirectory (before after : Volume) : Prop where
  metadata : { after.metadata with resourceVersion := before.metadata.resourceVersion } =
    before.metadata
  spec : after.content.spec.map (fun spec => { spec with hostPath := none }) =
    before.content.spec.map (fun spec => { spec with hostPath := none })

theorem sameButDirectory_refl (volume : Volume) : SameButDirectory volume volume := ⟨rfl, rfl⟩

theorem metadata_withHostPath (expected actual : Volume) :
    (withHostPath expected actual).metadata = actual.metadata := by
  unfold withHostPath
  split <;> rfl

theorem sameButDirectory_withHostPath
    (hmetadata : { stored.metadata with
      resourceVersion := actual.metadata.resourceVersion } = actual.metadata)
    (hcontent : stored.content = (withHostPath expected actual).content) :
    SameButDirectory actual stored := by
  refine ⟨hmetadata, ?_⟩
  rw [hcontent]
  unfold withHostPath
  split
  · rename_i spec hspec
    rw [hspec]
    rfl
  · rfl

theorem wantsUpdate_volumePlan (experiment : Experiment) (expected actual : Volume) :
    wantsUpdate (volumePlan experiment expected) actual = false ↔
      actual.content.hostPath? = expected.content.hostPath? := by
  have hneeds : (volumePlan experiment expected).needUpdate = some fun expected actual =>
      decide (expected.content.hostPath? ≠ actual.content.hostPath?) := needUpdate_ownedBy ..
  have hcontent : (volumePlan experiment expected).stamped.content = expected.content :=
    (content_stamped _).trans (congrArg Object.content (expected_ownedBy ..))
  unfold wantsUpdate
  rw [hneeds]
  simp only [ResourcePlan.consult, hcontent, decide_eq_false_iff_not, Decidable.not_not]
  exact eq_comm

theorem beforeUpdate_volumePlan (expected actual : Volume) :
    ((volumePlan experiment expected).beforeUpdate (volumePlan experiment expected).stamped
        actual).1 =
      .ok (withHostPath (volumePlan experiment expected).stamped actual) := by
  have hpatches : (volumePlan experiment expected).preUpdate =
      some fun expected actual => .ok (withHostPath expected actual) := preUpdate_ownedBy ..
  exact beforeUpdate_of_patch hpatches metadata_withHostPath actual

theorem retained_of_mended {volumes after : Store VolumeContent}
    (hvolume : volumes.lookup (home (volumePlan experiment expected)) = some volume)
    (h : Mended (volumePlan experiment expected) volume volumes after) :
    ∃ stored, after.lookup (home (volumePlan experiment expected)) = some stored ∧
      SameButDirectory volume stored := by
  refine stored_of_mended hvolume h (sameButDirectory_refl volume)
    fun object stored hobject htaken => ?_
  cases (beforeUpdate_volumePlan expected volume).symm.trans hobject
  exact sameButDirectory_withHostPath (metadata_of_taken htaken (metadata_withHostPath _ volume))
    htaken.content

section Step

variable {progress result : Progress} {world after : World} {owner : ObjectKey}

/-- What the step for the data needs to know of an object that an experiment should have. -/
structure Wanted {C : Type} (ns : Option String) (name : String) (expected : Object C) : Prop where
  named : expected.metadata.name = some name
  housed : expected.metadata.namespace = ns

theorem wanted_volume (settings : Settings) (h : volumeName experiment = .ok name) :
    ∃ expected, expectedVolume experiment settings.dataVolume = .ok expected ∧
      Wanted none name expected ∧
        expected.content.hostPath? = some (directory settings experiment) := by
  rw [expectedVolume, h]
  exact ⟨_, rfl, ⟨rfl, rfl⟩, rfl⟩

def claimPlace (experiment : Experiment) : ObjectKey :=
  ⟨experiment.metadata.namespace, claimName experiment⟩

theorem wanted_claim (settings : Settings) (h : volumeName experiment = .ok name) :
    ∃ expected, expectedClaim experiment settings.dataVolume = .ok expected ∧
      Wanted experiment.metadata.namespace (claimName experiment) expected := by
  rw [expectedClaim, h]
  exact ⟨_, rfl, rfl, rfl⟩

theorem target_of_wanted {C : Type} {plan : ResourcePlan C} {ns : Option String}
    (howns : Owns owner experiment) (hproblems : plan.problems = [])
    (hwanted : Wanted ns name plan.expected) (hnonempty : name.isEmpty = false) :
    (plan.ownedBy .experiment experiment).target = .ok name :=
  target_ownedBy howns (target_of_name hproblems hwanted.named hnonempty)

theorem home_of_wanted {C : Type} {plan : ResourcePlan C} {ns : Option String}
    (hwanted : Wanted ns name plan.expected) :
    home (plan.ownedBy .experiment experiment) = ⟨ns, name⟩ := by
  rw [home_eq (by rw [expected_ownedBy]; exact hwanted.named), expected_ownedBy, hwanted.housed]

/-- What becomes of the volume of an experiment when its data is seen to. -/
structure KeepsVolume (place : ObjectKey) (directory : HostPath)
    (volumes after : Store VolumeContent) : Prop where
  others : ∀ key, key ≠ place → after.lookup key = volumes.lookup key
  retains : ∀ volume, volumes.lookup place = some volume →
    ∃ stored, after.lookup place = some stored ∧ SameButDirectory volume stored
  directs : ∀ volume, volumes.lookup place = some volume →
    ObjectKey.ofMetadata volume.metadata = place →
      ∃ stored, after.lookup place = some stored ∧ stored.content.hostPath? = some directory
  idle : ∀ volume, volumes.lookup place = some volume →
    volume.content.hostPath? = some directory → after = volumes

theorem ends_volume_kept (hfaults : world.faults = [])
    (hreached : Reached world.inventory.volumes) (howns : Owns owner progress.experiment)
    (hname : volumeName progress.experiment = .ok name)
    (hspecs : ∀ key volume, world.inventory.volumes.lookup key = some volume →
      volume.content.spec.isSome) :
    Ends (reconcileVolume settings progress) world fun _ after =>
      KeepsVolume ⟨none, name⟩ (directory settings progress.experiment)
        world.inventory.volumes after.inventory.volumes := by
  obtain ⟨expected, hexpected, hwanted, hdirectory⟩ := wanted_volume settings hname
  have htarget : (volumePlan progress.experiment expected).target = .ok name :=
    target_of_wanted howns rfl hwanted (isEmpty_volumeName hname)
  have hhome : home (volumePlan progress.experiment expected) = ⟨none, name⟩ :=
    home_of_wanted hwanted
  unfold reconcileVolume
  rw [hexpected]
  refine ends_bind (ends_tended hfaults hreached (convergent_volumePlan expected) htarget
    fun volume hvolume => hspecs _ volume hvolume) ?_
  intro reconciled after htended
  rw [← hhome]
  refine ⟨htended.others, fun volume hvolume => ?_, fun volume hvolume hplaced => ?_,
    fun volume hvolume hagrees => ?_⟩
  · exact retained_of_mended hvolume (htended.mends volume hvolume)
  · obtain ⟨stored, hstored, hwants⟩ := satisfied_of_mended (convergent_volumePlan expected)
      (hspecs _ volume hvolume) htarget hvolume hplaced (htended.mends volume hvolume) _ htarget
    rw [place_eq_home htarget] at hstored
    refine ⟨stored, hstored, ?_⟩
    exact ((wantsUpdate_volumePlan _ expected stored).mp hwants).trans hdirectory
  · refine eq_of_mended (htended.mends volume hvolume) ?_
    exact (wantsUpdate_volumePlan _ expected volume).mpr (hagrees.trans hdirectory.symm)

/-- What becomes of the claim of an experiment when its data is seen to. -/
structure KeepsClaim (place : ObjectKey) (claims after : Store ClaimContent) : Prop where
  others : ∀ key, key ≠ place → after.lookup key = claims.lookup key
  idle : ∀ claim, claims.lookup place = some claim → after = claims

theorem ends_claim_kept (hfaults : world.faults = []) (hreached : Reached world.inventory.claims)
    (howns : Owns owner progress.experiment) (hname : volumeName progress.experiment = .ok name) :
    Ends (reconcileClaim settings progress) world fun _ after =>
      KeepsClaim (claimPlace progress.experiment) world.inventory.claims
        after.inventory.claims := by
  obtain ⟨expected, hexpected, hwanted⟩ := wanted_claim settings hname
  have hnonempty : (claimName progress.experiment).isEmpty = false := by
    simp [claimName]
  have htarget : (claimPlan progress.experiment expected).target =
      .ok (claimName progress.experiment) := target_of_wanted howns rfl hwanted hnonempty
  have hhome : home (claimPlan progress.experiment expected) = claimPlace progress.experiment :=
    home_of_wanted hwanted
  unfold reconcileClaim
  rw [hexpected]
  refine ends_bind (ends_tended hfaults hreached (convergent_claimPlan expected) htarget
    fun _ _ => trivial) ?_
  intro reconciled after htended
  rw [← hhome]
  refine ⟨htended.others, fun claim hclaim => eq_of_mended (htended.mends claim hclaim) ?_⟩
  exact wantsUpdate_of_needUpdate (needUpdate_ownedBy ..) claim

/-- What the step for the data comes to. It hands on the very objects that it leaves. -/
structure KeepsData (settings : Settings) (name : String) (progress result : Progress)
    (world after : World) : Prop where
  volumes : KeepsVolume ⟨none, name⟩ (directory settings progress.experiment)
    world.inventory.volumes after.inventory.volumes
  claims : KeepsClaim (claimPlace progress.experiment) world.inventory.claims
    after.inventory.claims
  others : ∀ kind, kind ≠ .volume → kind ≠ .claim →
    after.inventory.store kind = world.inventory.store kind
  volume : result.dependents.volume = after.inventory.volumes.lookup ⟨none, name⟩
  claim : result.dependents.claim =
    after.inventory.claims.lookup (claimPlace progress.experiment)

theorem ends_data_kept (hfaults : world.faults = [])
    (hvolumes : Reached world.inventory.volumes) (hclaims : Reached world.inventory.claims)
    (howns : Owns owner progress.experiment) (hname : volumeName progress.experiment = .ok name)
    (hspecs : ∀ key volume, world.inventory.volumes.lookup key = some volume →
      volume.content.spec.isSome) :
    Ends (reconcileData settings progress) world fun result after =>
      KeepsData settings name progress result world after := by
  refine ends_bind (ends_and (ends_reconcileVolume hfaults hname)
    (ends_volume_kept hfaults hvolumes howns hname hspecs)) ?_
  rintro middle between ⟨⟨hvolume, hgoes⟩, hkept⟩
  obtain ⟨volumeState, rfl⟩ := hvolume.only
  have hobserved : middle.experiment = progress.experiment := hgoes.observed
  have hname' : volumeName middle.experiment = .ok name := hobserved.symm ▸ hname
  refine ends_mono (ends_and (ends_reconcileClaim hfaults hname')
    (ends_claim_kept hfaults hclaims (hobserved.symm ▸ howns) hname')) ?_
  rintro result after ⟨⟨hclaim, hgoes'⟩, hkept'⟩
  obtain ⟨claimState, rfl⟩ := hclaim.only
  rw [hobserved] at hgoes' hkept'
  -- Each of the two steps leaves the other's store alone.
  refine ⟨hkept, hkept', fun kind hvolume hclaim => ?_, ?_, ?_⟩
  · rw [withStore, Inventory.store_setStore_of_ne _ _ hclaim, withStore,
      Inventory.store_setStore_of_ne _ _ hvolume]
  · rw [hgoes'.dependents, hgoes.dependents]
    rfl
  · rw [hgoes'.dependents]
    rfl

theorem ends_data_refused {failure : Failure}
    (hname : volumeName progress.experiment = .error failure) :
    Ends (reconcileData settings progress) world fun result after =>
      after = world ∧ result.dependents = progress.dependents := by
  have hvolume : expectedVolume progress.experiment settings.dataVolume = .error failure := by
    rw [expectedVolume, hname]
    rfl
  have hclaim : expectedClaim progress.experiment settings.dataVolume = .error failure := by
    rw [expectedClaim, hname]
    rfl
  unfold reconcileData reconcileVolume
  rw [hvolume]
  change Ends (reconcileClaim settings (progress.withStep "data-volume" (.error failure))) world _
  unfold reconcileClaim
  dsimp only [Progress.withStep]
  rw [hclaim]
  exact ⟨rfl, rfl⟩

/-- Whatever the stores hold, the step for the data keeps what is there. Of an experiment that has
no identity to name a volume after, it touches nothing. -/
theorem keepsData_reconcileData (hfaults : world.faults = [])
    (hvolumes : Reached world.inventory.volumes) (hclaims : Reached world.inventory.claims)
    (howns : Owns owner progress.experiment)
    (hspecs : ∀ key volume, world.inventory.volumes.lookup key = some volume →
      volume.content.spec.isSome) (settings : Settings) :
    Ends (reconcileData settings progress) world fun result after =>
      (∀ name, volumeName progress.experiment = .ok name →
        KeepsData settings name progress result world after) ∧
      ((∃ failure, volumeName progress.experiment = .error failure) →
        after = world ∧ result.dependents = progress.dependents) := by
  cases hname : volumeName progress.experiment with
  | error failure =>
      refine ends_mono (ends_data_refused hname) fun result after hrefused => ?_
      exact ⟨nofun, fun _ => hrefused⟩
  | ok name =>
      refine ends_mono (ends_data_kept hfaults hvolumes hclaims howns hname hspecs) ?_
      intro result after hkeeps
      refine ⟨fun other hother => ?_, fun ⟨_, hfails⟩ => nomatch hfails⟩
      cases hother
      exact hkeeps

end Step

def storing : Progress :=
  { draft := .start labExperiment, dependents := overSsh, outcome := .empty }

/-- The volume is bound and larger than it was made, and its directory is another one. -/
def cellarVolume : Volume :=
  { metadata := { name := some "pv-uid-rats", uid := some "uid-volume" }
    content :=
      { spec := some
          { capacity := some (.ofList [("storage", "20Gi")])
            hostPath := some { path := "/old/uid-rats" }
            claimRef := some { name := some "data-rats", «namespace» := some "lab" } } } }

def cellarClaim : Claim :=
  { metadata := { name := some "data-rats", «namespace» := some "lab", uid := some "uid-claim" }
    content := { spec := none } }

def drifted : World :=
  ((World.insert { now := .epoch } .volume cellarVolume).2.insert .claim cellarClaim).2

theorem spec_of_drifted : ∀ key volume, drifted.inventory.volumes.lookup key = some volume →
    volume.content.spec.isSome := by
  refine forall_lookup_iff.mpr ?_
  decide

theorem keepsData_reconcileData_in_cellar :
    drifted.faults = [] ∧ Reached drifted.inventory.volumes ∧ Reached drifted.inventory.claims ∧
      Owns ⟨some "lab", "rats"⟩ storing.experiment ∧
      volumeName storing.experiment = .ok "pv-uid-rats" ∧
      (∀ key volume, drifted.inventory.volumes.lookup key = some volume →
        volume.content.spec.isSome) ∧
      Ends (reconcileData {} storing) drifted fun result after =>
        KeepsData {} "pv-uid-rats" storing result drifted after := by
  have hvolumes : Reached drifted.inventory.volumes := .insert _ _ (.empty _)
  have hclaims : Reached drifted.inventory.claims := .insert _ _ (.empty _)
  have howns : Owns ⟨some "lab", "rats"⟩ storing.experiment := ⟨rfl, rfl, rfl⟩
  exact ⟨rfl, hvolumes, hclaims, howns, rfl, spec_of_drifted,
    (keepsData_reconcileData rfl hvolumes hclaims howns spec_of_drifted {}).1 "pv-uid-rats" rfl⟩

/-- The volume is renamed in its place. -/
def relabelled : World :=
  (drifted.mutate .volume ⟨none, "pv-uid-rats"⟩ fun volume =>
    { volume with metadata := { volume.metadata with name := some "attic" } }).2

/-- A volume that goes by another name than it is stored under keeps its directory. -/
theorem directory_unchanged_of_relabelled :
    relabelled.faults = [] ∧ Reached relabelled.inventory.volumes ∧
      Reached relabelled.inventory.claims ∧ Owns ⟨some "lab", "rats"⟩ storing.experiment ∧
      volumeName storing.experiment = .ok "pv-uid-rats" ∧
      (∀ key volume, relabelled.inventory.volumes.lookup key = some volume →
        volume.content.spec.isSome) ∧
      (relabelled.inventory.volumes.lookup ⟨none, "pv-uid-rats"⟩).isSome ∧
      Ends (reconcileData {} storing) relabelled fun _ after =>
        ∀ stored, after.inventory.volumes.lookup ⟨none, "pv-uid-rats"⟩ = some stored →
          stored.content.hostPath? ≠ some (directory {} storing.experiment) := by
  have hvolumes : Reached relabelled.inventory.volumes := by
    rw [relabelled, mutate_snd]
    exact .mutate _ _ (.insert _ _ (.empty _))
  have hclaims : Reached relabelled.inventory.claims := .insert _ _ (.empty _)
  have hpath : ((relabelled.perform (reconcileData {} storing)).2.inventory.volumes.lookup
      ⟨none, "pv-uid-rats"⟩).bind (fun stored => stored.content.hostPath?) =
        some { path := "/old/uid-rats" } := by decide
  refine ⟨rfl, hvolumes, hclaims, ⟨rfl, rfl, rfl⟩, rfl, forall_lookup_iff.mpr (by decide),
    by decide, ?_⟩
  intro stored hstored hdirectory
  rw [hstored] at hpath
  have hsame := Option.some.inj (hdirectory.symm.trans hpath)
  exact absurd hsame (by decide)

end Fleet.Proofs.Experiment.DataVolumes
