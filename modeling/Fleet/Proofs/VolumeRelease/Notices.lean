import Fleet.Lifecycle.Listener
import Fleet.Proofs.BusDelivery
import Fleet.Proofs.Experiment.Labels
import Fleet.Proofs.VolumeRelease.Basic

namespace Fleet.Proofs.VolumeRelease

open Fleet.Experiment
open Fleet.Proofs.BusDelivery
open Fleet.Proofs.Experiment.Labels
open Fleet.Proofs.Rehearsals
open Fleet.Rehearsal

variable {world : World} {events others : List LifecycleEvent}

/-- A volume is labelled with the name of a deleted experiment and bound in its namespace. -/
def concerns (event : LifecycleEvent) (volume : Volume) : Bool :=
  match event with
  | .clusterDeleted .. => false
  | .experimentDeleted ns name =>
      volume.metadata.label? nameLabel == some name && isBoundIn ns volume

/-- Some notification is about the volume. -/
def told (events : List LifecycleEvent) (entry : ObjectKey × Volume) : Bool :=
  events.any fun event => concerns event entry.2

/-- The notifications are about experiments whose names a selector can hold. -/
def PlainNames (events : List LifecycleEvent) : Prop :=
  ∀ ns name, .experimentDeleted ns name ∈ events → Plain name

theorem told_congr (h : ∀ event, event ∈ others ↔ event ∈ events) : told others = told events := by
  funext entry
  rw [Bool.eq_iff_iff]
  unfold told
  rw [List.any_eq_true, List.any_eq_true]
  exact exists_congr fun event => and_congr_left fun _ => h event

theorem told_of_subset (h : others ⊆ events) {entry : ObjectKey × Volume}
    (htold : told others entry = true) : told events entry = true := by
  obtain ⟨event, hevent, hconcerns⟩ := List.any_eq_true.mp htold
  exact List.any_eq_true.mpr ⟨event, h hevent, hconcerns⟩

theorem doomedSelfKeyed_of_subset {volumes : Store VolumeContent} (h : others ⊆ events)
    (hplaced : DoomedSelfKeyed volumes (told events)) : DoomedSelfKeyed volumes (told others) :=
  fun key volume hvolume htold => hplaced key volume hvolume (told_of_subset h htold)

theorem plainNames_of_subset (h : others ⊆ events) (hnames : PlainNames events) :
    PlainNames others :=
  fun ns name hmem => hnames ns name (h hmem)

theorem pickedAnd_selectorOf {name : String} (h : Plain name) (ns : String) :
    pickedAnd (selectorOf name) (isBoundIn ns) = told [.experimentDeleted ns name] := by
  funext entry
  have hselects : (Selector.ofText (selectorOf name)).selects entry.2.metadata =
      (entry.2.metadata.label? nameLabel == some name) := by
    rw [Bool.eq_iff_iff, beq_iff_eq]
    exact selects_selectorOf h entry.2.metadata
  unfold pickedAnd
  rw [hselects]
  exact (Bool.or_false _).symm

theorem perform_releaseVolumes {ns name : String} (hfaults : world.faults = [])
    (hname : Plain name)
    (hplaced : DoomedSelfKeyed world.inventory.volumes (told [.experimentDeleted ns name])) :
    world.perform (releaseVolumes ns name) =
      (.ok (casualties (told [.experimentDeleted ns name]) world.inventory.volumes),
        afterClearing world (told [.experimentDeleted ns name])) := by
  rw [← pickedAnd_selectorOf hname ns] at hplaced ⊢
  unfold releaseVolumes
  rw [perform_bind, perform_list hfaults]
  dsimp only
  rw [releaseBound_eq]
  exact perform_releaseAll_select hfaults hplaced

theorem perform_handle (event : LifecycleEvent) (hfaults : world.faults = [])
    (hnames : PlainNames [event])
    (hplaced : DoomedSelfKeyed world.inventory.volumes (told [event])) :
    world.perform (Listener.handle event) = (.ok (), afterClearing world (told [event])) := by
  cases event with
  | clusterDeleted ns name clusterId =>
      rw [afterClearing_of_spared fun _ _ _ => rfl]
      rfl
  | experimentDeleted ns name =>
      have hname : Plain name := hnames ns name List.mem_cons_self
      unfold Listener.handle
      rw [perform_bind, perform_releaseVolumes hfaults hname hplaced]
      rfl

theorem told_cons (event : LifecycleEvent) (rest : List LifecycleEvent) :
    told (event :: rest) = fun entry => told [event] entry || told rest entry := by
  funext entry
  unfold told
  rw [List.any_cons, List.any_cons, List.any_nil, Bool.or_false]

theorem perform_handleAll (hfaults : world.faults = []) (hnames : PlainNames events)
    (hplaced : DoomedSelfKeyed world.inventory.volumes (told events)) :
    world.perform (Listener.handleAll events) = ((), afterClearing world (told events)) := by
  induction events generalizing world with
  | nil =>
      rw [afterClearing_of_spared fun _ _ _ => rfl]
      rfl
  | cons event rest ih =>
      have hhead : [event] ⊆ event :: rest := List.cons_subset_cons event (List.nil_subset rest)
      have htail : rest ⊆ event :: rest := List.subset_cons_self event rest
      have hcalm : (afterClearing world (told [event])).faults = [] := hfaults
      unfold Listener.handleAll
      rw [perform_bind, perform_handle event hfaults (plainNames_of_subset hhead hnames)
        (doomedSelfKeyed_of_subset hhead hplaced)]
      dsimp only
      rw [ih hcalm (plainNames_of_subset htail hnames)
        (doomedSelfKeyed_cleared (doomedSelfKeyed_of_subset htail hplaced)),
          afterClearing_afterClearing,
        told_cons event rest]

/-- To release the volumes of an experiment tells how many go. -/
def Counted (ns name : String) (world : World) : Prop :=
  ∃ number after, world.perform (releaseVolumes ns name) = (.ok number, after) ∧
    after.inventory.volumes.objects.entries.length + number =
      world.inventory.volumes.objects.entries.length

theorem counted_after {before rest : List LifecycleEvent} {ns name : String}
    (hfaults : world.faults = [])
    (hnames : PlainNames (before ++ .experimentDeleted ns name :: rest))
    (hplaced : DoomedSelfKeyed world.inventory.volumes
      (told (before ++ .experimentDeleted ns name :: rest))) :
    Counted ns name (world.perform (Listener.handleAll before)).2 := by
  have hbefore : before ⊆ before ++ .experimentDeleted ns name :: rest :=
    List.subset_append_left before _
  have hnow : [.experimentDeleted ns name] ⊆ before ++ .experimentDeleted ns name :: rest :=
    List.cons_subset.mpr ⟨List.mem_append_right before List.mem_cons_self, List.nil_subset _⟩
  have hname : Plain name := hnames ns name (hnow List.mem_cons_self)
  rw [perform_handleAll hfaults (plainNames_of_subset hbefore hnames)
    (doomedSelfKeyed_of_subset hbefore hplaced)]
  have hcalm : (afterClearing world (told before)).faults = [] := hfaults
  refine ⟨_, _, perform_releaseVolumes hcalm hname
    (doomedSelfKeyed_cleared (doomedSelfKeyed_of_subset hnow hplaced)),
    ?_⟩
  exact length_cleared _ _

/-- The listener gets everything that is published within the capacity of the bus, and comes to an
end when the bus is closed. Exactly the volumes that it is told of are gone then, whatever the order
of the notifications and however often they come. -/
theorem listener_run_releases_told {capacity : Nat} {bus : Bus}
    (hopen : Bus.open? capacity = some bus)
    (hwithin : events.length ≤ capacity) (hnames : PlainNames events) (hfaults : world.faults = [])
    (hplaced : DoomedSelfKeyed world.inventory.volumes (told events)) :
    Receives bus.subscribe.1 (heard bus events) events ∧
      world.perform (Listener.run (heard bus events) bus.subscribe.1) =
        ((), afterClearing world (told events)) ∧
      (∀ key volume,
        (afterClearing world (told events)).inventory.volumes.lookup key = some volume ↔
          world.inventory.volumes.lookup key = some volume ∧
            ∀ event ∈ events, concerns event volume = false) ∧
      (∀ others, (∀ event, event ∈ others ↔ event ∈ events) →
        world.perform (Listener.handleAll others) = ((), afterClearing world (told events))) ∧
      ∀ before ns name rest, events = before ++ .experimentDeleted ns name :: rest →
        Counted ns name (world.perform (Listener.handleAll before)).2 := by
  obtain ⟨hpending, hreceives⟩ := receives_heard hopen hwithin
  refine ⟨hreceives, ?_, ?_, ?_, ?_⟩
  · unfold Listener.run
    rw [hpending]
    exact perform_handleAll hfaults hnames hplaced
  · intro key volume
    rw [volumes_afterClearing, lookup_cleared_eq_some_iff]
    refine and_congr_right fun _ => ?_
    unfold told
    rw [List.any_eq_false]
    exact forall₂_congr fun event _ => Bool.not_eq_true _ ▸ Iff.rfl
  · intro others hothers
    have hsubset : others ⊆ events := fun event => (hothers event).mp
    rw [perform_handleAll hfaults (plainNames_of_subset hsubset hnames)
      (doomedSelfKeyed_of_subset hsubset hplaced), told_congr hothers]
  · rintro before ns name rest rfl
    exact counted_after hfaults hnames hplaced

def boundVolume (name experiment ns : String) : Volume :=
  { metadata := { name := some name, labels := some (.ofList [(nameLabel, experiment)]) }
    content := { spec := some { claimRef := some { «namespace» := some ns } } } }

/-- The volumes of two experiments of the same name. -/
def storeroom : World :=
  ((World.insert { now := .epoch } .volume (boundVolume "pv-rats" "rats" "lab")).2.insert .volume
    (boundVolume "pv-other-rats" "rats" "barn")).2

def announced : List LifecycleEvent :=
  [.experimentDeleted "lab" "rats", .clusterDeleted "barn" "attic" none,
    .experimentDeleted "lab" "rats"]

theorem plainNames_announced : PlainNames announced := by
  intro ns name hmem
  have hname : name = "rats" := by simp_all [announced]
  rw [hname]
  decide

/-- Of the two only the one in the other namespace is left. -/
theorem listener_run_releases_told_from_storeroom :
    ∃ bus, Bus.open? 3 = some bus ∧ announced.length ≤ 3 ∧ PlainNames announced ∧
      storeroom.faults = [] ∧ DoomedSelfKeyed storeroom.inventory.volumes (told announced) ∧
      (storeroom.perform (Listener.run (heard bus announced) bus.subscribe.1)).2 =
        afterClearing storeroom (told announced) ∧
      (afterClearing storeroom (told announced)).inventory.volumes.objects.keys =
        [⟨none, "pv-other-rats"⟩] := by
  have hplaced : DoomedSelfKeyed storeroom.inventory.volumes (told announced) := by
    refine Stores.forall_lookup_iff.mpr ?_
    decide
  have hopen : Bus.open? 3 = some { capacity := Bus.roundUp 3 } := rfl
  have hwithin : announced.length ≤ 3 := by decide
  have hfaults : storeroom.faults = [] := rfl
  have hreleased := listener_run_releases_told hopen hwithin plainNames_announced hfaults hplaced
  exact ⟨_, hopen, hwithin, plainNames_announced, hfaults, hplaced,
    congrArg Prod.snd hreleased.2.1, by decide⟩

/-- A volume that has been renamed in its place. -/
def mislaid : World :=
  (storeroom.mutate .volume ⟨none, "pv-rats"⟩ fun volume =>
    { volume with metadata := { volume.metadata with name := some "attic" } }).2

/-- The volume that the listener is told of is still there. -/
theorem listener_run_keeps_mislaid :
    ∃ bus, Bus.open? 3 = some bus ∧ announced.length ≤ 3 ∧ PlainNames announced ∧
      mislaid.faults = [] ∧
      ∃ volume, mislaid.inventory.volumes.lookup ⟨none, "pv-rats"⟩ = some volume ∧
        concerns (.experimentDeleted "lab" "rats") volume = true ∧
        (mislaid.perform (Listener.run (heard bus announced)
          bus.subscribe.1)).2.inventory.volumes.lookup ⟨none, "pv-rats"⟩ = some volume := by
  exact ⟨_, rfl, by decide, plainNames_announced, rfl, _, rfl, by decide, rfl⟩

end Fleet.Proofs.VolumeRelease
