import Fleet.Lifecycle.DeletionWatch
import Fleet.Proofs.VolumeRelease.Basic

namespace Fleet.Proofs.VolumeRelease

open Fleet.Experiment
open Fleet.Proofs.Rehearsals
open Fleet.Rehearsal

variable {world : World} {volume : Volume} {experiments : Store ExperimentContent}

/-- The volume tells where its experiment has to be, and it is not there. -/
def isStranded (experiments : Store ExperimentContent) (volume : Volume) : Bool :=
  match originOf volume with
  | none => false
  | some (ns, name) => (experiments.lookup ⟨some ns, name⟩).isNone

/-- The operator manages the volume of an experiment that does not exist. -/
structure Orphan (experiments : Store ExperimentContent) (volume : Volume) (ns name : String) :
    Prop where
  managed : volume.metadata.label? managedByLabel = some managedByValue
  labelled : volume.metadata.label? nameLabel = some name
  bound : volume.content.claimNamespace? = some ns
  missing : experiments.lookup ⟨some ns, name⟩ = none

def orphaned (experiments : Store ExperimentContent) (entry : ObjectKey × Volume) : Bool :=
  entry.2.metadata.label? managedByLabel == some managedByValue && isStranded experiments entry.2

theorem isStranded_iff :
    isStranded experiments volume = true ↔
      ∃ ns name, volume.metadata.label? nameLabel = some name ∧
        volume.content.claimNamespace? = some ns ∧ experiments.lookup ⟨some ns, name⟩ = none := by
  unfold isStranded originOf
  cases hname : volume.metadata.label? nameLabel with
  | none => simp
  | some name =>
      cases hns : volume.content.claimNamespace? with
      | none => simp
      | some ns => simp [Option.isNone_iff_eq_none]

theorem orphaned_iff {key : ObjectKey} :
    orphaned experiments (key, volume) = true ↔ ∃ ns name, Orphan experiments volume ns name := by
  unfold orphaned
  rw [Bool.and_eq_true, beq_iff_eq, isStranded_iff]
  constructor
  · rintro ⟨hmanaged, ns, name, hlabelled, hbound, hmissing⟩
    exact ⟨ns, name, hmanaged, hlabelled, hbound, hmissing⟩
  · rintro ⟨ns, name, horphan⟩
    exact ⟨horphan.managed, ns, name, horphan.labelled, horphan.bound, horphan.missing⟩

theorem ofText_managedSelector :
    Selector.ofText managedSelector = [.equals managedByLabel managedByValue] := by
  decide

theorem pickedAnd_managedSelector (experiments : Store ExperimentContent) :
    pickedAnd managedSelector (isStranded experiments) = orphaned experiments := by
  funext entry
  unfold pickedAnd orphaned
  rw [ofText_managedSelector]
  unfold Selector.selects Metadata.label?
  cases entry.2.metadata.labels <;> simp [Requirement.isMet, OrderedMap.get?, OrderedMap.empty]

theorem snd_perform_releaseVolume (hfaults : world.faults = []) (volume : Volume) :
    ∃ state, (world.perform (releaseVolume volume)).2 = withStore world .volume state := by
  unfold releaseVolume
  rw [perform_bind, perform_delete hfaults]
  split
  · exact ⟨_, rfl⟩
  · exact ⟨_, rfl⟩

/-- A release leaves the experiments alone, so it makes no difference when they are looked for. -/
theorem perform_releaseStranded (hfaults : world.faults = []) (released : Nat)
    (volumes : List Volume) :
    world.perform (releaseStranded released volumes) =
      world.perform (releaseAll (isStranded world.inventory.experiments) released volumes) := by
  induction volumes generalizing world released with
  | nil => rfl
  | cons volume rest ih =>
      rw [releaseStranded, releaseAll]
      cases horigin : originOf volume with
      | none =>
          have hspared : isStranded world.inventory.experiments volume = false := by
            rw [isStranded, horigin]
          rw [hspared, if_neg Bool.false_ne_true]
          exact ih hfaults released
      | some origin =>
          obtain ⟨ns, name⟩ := origin
          have hfind : world.perform (Pass.on .experiment (Store.find (some ns) name)) =
              (.ok (world.inventory.experiments.lookup ⟨some ns, name⟩), world) :=
            perform_find hfaults .experiment (some ns) name
          have hstranded : isStranded world.inventory.experiments volume =
              (world.inventory.experiments.lookup ⟨some ns, name⟩).isNone := by
            rw [isStranded, horigin]
          dsimp only
          rw [perform_bind, hfind, hstranded]
          cases world.inventory.experiments.lookup ⟨some ns, name⟩ with
          | some experiment => exact ih hfaults released
          | none =>
              obtain ⟨state, hstate⟩ := snd_perform_releaseVolume hfaults volume
              have hcalm : (withStore world .volume state).faults = [] := hfaults
              dsimp only [Option.isNone_none]
              rw [if_pos rfl, perform_bind, perform_bind, hstate]
              rcases (world.perform (releaseVolume volume)).1 with failure | deleted
              · rfl
              · exact ih hcalm (released + deleted.toNat)

/-- A sweep removes the orphans, and counts them. -/
theorem perform_releaseOrphans (hfaults : world.faults = [])
    (hplaced : DoomedSelfKeyed world.inventory.volumes (orphaned world.inventory.experiments)) :
    world.perform releaseOrphans =
      (.ok (casualties (orphaned world.inventory.experiments) world.inventory.volumes),
        afterClearing world (orphaned world.inventory.experiments)) := by
  rw [← pickedAnd_managedSelector] at hplaced ⊢
  unfold releaseOrphans
  rw [perform_bind, perform_list hfaults]
  dsimp only
  rw [perform_releaseStranded hfaults]
  exact perform_releaseAll_select hfaults hplaced

theorem perform_releaseOrphans_again (hfaults : world.faults = [])
    (hswept : Agree world.inventory.volumes (orphaned world.inventory.experiments) fun _ => false) :
    world.perform releaseOrphans = (.ok 0, world) := by
  have hplaced : DoomedSelfKeyed world.inventory.volumes
    (orphaned world.inventory.experiments) := by
    intro key volume hvolume horphan
    rw [hswept key volume hvolume] at horphan
    contradiction
  rw [perform_releaseOrphans hfaults hplaced, afterClearing_of_spared hswept,
    (cleared_of_spared hswept).2]

theorem agree_afterClearing (world : World) (doomed : ObjectKey × Volume → Bool) :
    Agree (afterClearing world doomed).inventory.volumes doomed fun _ => false :=
  fun _ _ hvolume => (lookup_cleared_eq_some_iff.mp hvolume).2

theorem perform_react (hfaults : world.faults = [])
    (hplaced : DoomedSelfKeyed world.inventory.volumes (orphaned world.inventory.experiments))
    (notice : Server.Notice ExperimentContent) :
    world.perform (DeletionWatch.react notice) =
      ((), if notice.isListed then afterClearing world (orphaned world.inventory.experiments)
        else world) := by
  unfold DeletionWatch.react
  cases notice.isListed with
  | false => rfl
  | true =>
      rw [if_pos rfl, if_pos rfl, perform_bind, perform_releaseOrphans hfaults hplaced]
      rfl

/-- A watcher of experiments sweeps whenever they have been listed. The first sweep is the one that
counts. -/
theorem perform_sweeps (hfaults : world.faults = [])
    (hplaced : DoomedSelfKeyed world.inventory.volumes (orphaned world.inventory.experiments))
    (notices : List (Server.Notice ExperimentContent)) :
    (world.perform (DeletionWatch.sweeps notices)).2 =
      if notices.any Server.Notice.isListed then
        afterClearing world (orphaned world.inventory.experiments)
      else world := by
  induction notices generalizing world with
  | nil => rfl
  | cons notice rest ih =>
      unfold DeletionWatch.sweeps
      rw [perform_bind, perform_react hfaults hplaced, List.any_cons]
      dsimp only
      cases notice.isListed with
      | false => exact ih hfaults hplaced
      | true =>
          rw [if_pos rfl, Bool.true_or, if_pos rfl]
          have hcalm : (afterClearing world (orphaned world.inventory.experiments)).faults = [] :=
            hfaults
          have hswept := agree_afterClearing world (orphaned world.inventory.experiments)
          have hplaced' : DoomedSelfKeyed
              (afterClearing world (orphaned world.inventory.experiments)).inventory.volumes
              (orphaned world.inventory.experiments) := doomedSelfKeyed_cleared hplaced
          refine (ih hcalm hplaced').trans ?_
          split
          · exact afterClearing_of_spared hswept
          · rfl

/-- A sweep removes the orphans among the volumes and tells how many there were. Everything else is
left as it was, and to sweep again changes nothing, however often the experiments are listed. -/
theorem releaseOrphans_removes_orphans (hfaults : world.faults = [])
    (hplaced : DoomedSelfKeyed world.inventory.volumes (orphaned world.inventory.experiments)) :
    ∃ number after, world.perform releaseOrphans = (.ok number, after) ∧
      (∀ key volume, after.inventory.volumes.lookup key = some volume ↔
        world.inventory.volumes.lookup key = some volume ∧
          ¬ ∃ ns name, Orphan world.inventory.experiments volume ns name) ∧
      after.inventory.volumes.objects.entries.length + number =
        world.inventory.volumes.objects.entries.length ∧
      after.inventory.experiments = world.inventory.experiments ∧
      after.perform releaseOrphans = (.ok 0, after) ∧
      ∀ notices, (world.perform (DeletionWatch.sweeps notices)).2 =
        if notices.any Server.Notice.isListed then after else world := by
  refine ⟨_, _, perform_releaseOrphans hfaults hplaced, ?_, length_cleared _ _, rfl, ?_,
    perform_sweeps hfaults hplaced⟩
  · intro key volume
    rw [volumes_afterClearing, lookup_cleared_eq_some_iff, ← orphaned_iff, Bool.not_eq_true]
  · exact perform_releaseOrphans_again hfaults (agree_afterClearing world _)

def ownVolume (name experiment ns : String) : Volume :=
  { metadata :=
      { name := some name
        labels := some (.ofList [(nameLabel, experiment), (managedByLabel, managedByValue)]) }
    content := { spec := some { claimRef := some { «namespace» := some ns } } } }

/-- The volumes of two experiments, of which one is still there. -/
def workshop : World :=
  (((World.insert { now := .epoch } .volume (ownVolume "pv-rats" "rats" "lab")).2.insert .volume
    (ownVolume "pv-mice" "mice" "lab")).2.insert .experiment
      { metadata := { name := some "mice", «namespace» := some "lab" }
        content := { spec := { template := "maze", clusterName := "cellar" } } }).2

theorem releaseOrphans_removes_orphans_from_workshop :
    workshop.faults = [] ∧
      DoomedSelfKeyed workshop.inventory.volumes (orphaned workshop.inventory.experiments) ∧
      ∃ after, workshop.perform releaseOrphans = (.ok 1, after) ∧
        after.inventory.volumes.objects.keys = [⟨none, "pv-mice"⟩] ∧
        after.perform releaseOrphans = (.ok 0, after) := by
  have hplaced : DoomedSelfKeyed workshop.inventory.volumes
    (orphaned workshop.inventory.experiments) := by
    refine Stores.forall_lookup_iff.mpr ?_
    decide
  obtain ⟨number, after, hswept, -, -, -, hagain, -⟩ := releaseOrphans_removes_orphans rfl hplaced
  have hnumber : (workshop.perform releaseOrphans).1 = .ok 1 := rfl
  have hkeys : (workshop.perform releaseOrphans).2.inventory.volumes.objects.keys =
      [⟨none, "pv-mice"⟩] := rfl
  rw [hswept] at hnumber hkeys
  cases hnumber
  exact ⟨rfl, hplaced, after, hswept, hkeys, hagain⟩

/-- A volume has been renamed in its place. -/
def misnamed : World :=
  (workshop.mutate .volume ⟨none, "pv-rats"⟩ fun volume =>
    { volume with metadata := { volume.metadata with name := some "attic" } }).2

/-- The orphan is still there after the sweep, which reports success. -/
theorem releaseOrphans_keeps_misnamed :
    misnamed.faults = [] ∧
      ∃ volume, misnamed.inventory.volumes.lookup ⟨none, "pv-rats"⟩ = some volume ∧
        Orphan misnamed.inventory.experiments volume "lab" "rats" ∧
        (misnamed.perform releaseOrphans).1 = .ok 0 ∧
        (misnamed.perform releaseOrphans).2.inventory.volumes.lookup ⟨none, "pv-rats"⟩ =
          some volume := by
  exact ⟨rfl, _, rfl, ⟨by decide, by decide, by decide, by decide⟩, rfl, rfl⟩

end Fleet.Proofs.VolumeRelease
