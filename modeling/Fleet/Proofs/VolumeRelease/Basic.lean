import Fleet.Experiment.Release
import Fleet.Proofs.Rehearsals

/-!
Clearing a store of what is to go. A program that goes through the volumes that it has listed and
deletes some of them is one loop, whatever it decides by, and it leaves the store without these.
-/

namespace Fleet.Proofs.VolumeRelease

open Fleet.Experiment
open Fleet.Proofs.Rehearsals
open Fleet.Proofs.Stores
open Fleet.Rehearsal

section Stores

variable {C : Type} {store : Store C} {doomed other : ObjectKey × Object C → Bool}
  {key : ObjectKey} {object : Object C}

/-- How many entries are to go. -/
def casualties (doomed : ObjectKey × Object C → Bool) (store : Store C) : Nat :=
  store.objects.entries.countP doomed

def countDeletes (number : Nat) (counts : WriteCounts) : WriteCounts :=
  { counts with deletes := counts.deletes + number }

/-- The store without the entries that are to go. Each of them has been deleted once. -/
def cleared (doomed : ObjectKey × Object C → Bool) (store : Store C) : Store C :=
  { store with
    objects :=
      ⟨store.objects.entries.filter fun entry => !doomed entry, store.objects.sorted.filter _⟩
    counts := countDeletes (casualties doomed store) store.counts }

theorem lookup_cleared_eq_some_iff :
    (cleared doomed store).lookup key = some object ↔
      store.lookup key = some object ∧ doomed (key, object) = false := by
  unfold Store.lookup
  rw [get?_eq_some_iff, get?_eq_some_iff, ← Bool.not_eq_true']
  exact List.mem_filter

theorem length_cleared (doomed : ObjectKey × Object C → Bool) (store : Store C) :
    (cleared doomed store).objects.entries.length + casualties doomed store =
      store.objects.entries.length := by
  change (store.objects.entries.filter fun entry => !doomed entry).length + _ = _
  rw [← List.countP_eq_length_filter, Nat.add_comm, List.length_eq_countP_add_countP doomed]
  simp only [casualties, Bool.not_eq_true, Bool.decide_eq_false]

theorem eq_of_entries {after : Store C} (htitle : store.title = after.title)
    (hentries : store.objects.entries = after.objects.entries)
    (hversion : store.version = after.version) (hcounts : store.counts = after.counts) :
    store = after := by
  have hobjects : store.objects = after.objects := OrderedMap.ext hentries
  cases store
  cases after
  cases htitle
  cases hobjects
  cases hversion
  cases hcounts
  rfl

theorem casualties_cleared (doomed other : ObjectKey × Object C → Bool) (store : Store C) :
    casualties other (cleared doomed store) + casualties doomed store =
      casualties (fun entry => doomed entry || other entry) store := by
  change (store.objects.entries.filter fun entry => !doomed entry).countP other +
    store.objects.entries.countP doomed = store.objects.entries.countP _
  induction store.objects.entries with
  | nil => rfl
  | cons entry rest ih =>
      rw [List.countP_cons, List.countP_cons, ← ih, List.filter_cons]
      cases hdoomed : doomed entry with
      | true => simp only [Bool.not_true, Bool.false_eq_true, if_false, Bool.true_or, Nat.add_assoc]
      | false =>
          simp only [Bool.not_false, if_true, List.countP_cons, Bool.false_or, Bool.false_eq_true,
            if_false, Nat.add_zero]
          exact Nat.add_right_comm _ _ _

/-- It makes no difference whether entries go one after the other or all at once. -/
theorem cleared_cleared (doomed other : ObjectKey × Object C → Bool) (store : Store C) :
    cleared other (cleared doomed store) =
      cleared (fun entry => doomed entry || other entry) store := by
  refine eq_of_entries rfl ?_ rfl ?_
  · change (store.objects.entries.filter _).filter _ = store.objects.entries.filter _
    rw [List.filter_filter]
    refine List.filter_congr fun entry _ => ?_
    rw [Bool.not_or, Bool.and_comm]
  · change countDeletes _ (countDeletes _ store.counts) = countDeletes _ store.counts
    rw [← casualties_cleared, Nat.add_comm]
    exact congrArg (fun deletes => { store.counts with deletes }) (Nat.add_assoc _ _ _)

/-- The same entries of the store are to go. -/
def Agree (store : Store C) (doomed other : ObjectKey × Object C → Bool) : Prop :=
  ∀ key object, store.lookup key = some object → doomed (key, object) = other (key, object)

theorem cleared_congr (h : Agree store doomed other) :
    cleared doomed store = cleared other store ∧
      casualties doomed store = casualties other store := by
  have hsame : ∀ entry ∈ store.objects.entries, doomed entry = other entry :=
    forall_lookup_iff.mp h
  have hcount : casualties doomed store = casualties other store :=
    List.countP_congr fun entry hentry => by rw [hsame entry hentry]
  refine ⟨eq_of_entries rfl ?_ rfl ?_, hcount⟩
  · exact List.filter_congr fun entry hentry => by rw [hsame entry hentry]
  · exact congrArg (countDeletes · store.counts) hcount

theorem cleared_of_spared (h : Agree store doomed fun _ => false) :
    cleared doomed store = store ∧ casualties doomed store = 0 := by
  have hspared : ∀ entry ∈ store.objects.entries, doomed entry = false := forall_lookup_iff.mp h
  have hcount : casualties doomed store = 0 :=
    List.countP_eq_zero.mpr fun entry hentry => by simp [hspared entry hentry]
  refine ⟨eq_of_entries rfl ?_ rfl ?_, hcount⟩
  · exact List.filter_eq_self.mpr fun entry hentry => by simp [hspared entry hentry]
  · exact congrArg (countDeletes · store.counts) hcount

theorem remove_eq_cleared (h : store.lookup key = some object) :
    store.remove key (some (.sameObject object.metadata)) =
      (.ok (), cleared (fun entry => decide (entry.1 = key)) store) ∧
      casualties (fun entry => decide (entry.1 = key)) store = 1 := by
  have hcount : casualties (fun entry => decide (entry.1 = key)) store = 1 := countP_key h
  refine ⟨(remove_sameObject h).trans ?_, hcount⟩
  unfold cleared
  rw [hcount]
  rfl

end Stores

variable {world : World} {doomed : Volume → Bool}

/-- Deletes those of the listed volumes that are to go, up to the first failure. -/
def releaseAll (doomed : Volume → Bool) (released : Nat) : List Volume → Pass (Except Failure Nat)
  | [] => .done (.ok released)
  | volume :: rest =>
      if doomed volume then do
        match ← releaseVolume volume with
        | .error failure => return .error failure
        | .ok deleted => releaseAll doomed (released + deleted.toNat) rest
      else releaseAll doomed released rest

theorem releaseBound_eq (ns : String) (released : Nat) (volumes : List Volume) :
    releaseBound ns released volumes = releaseAll (isBoundIn ns) released volumes := by
  induction volumes generalizing released with
  | nil => rfl
  | cons volume rest ih =>
      rw [releaseBound, releaseAll]
      by_cases hbound : isBoundIn ns volume = true
      · rw [if_pos hbound, if_pos hbound]
        refine congrArg (releaseVolume volume >>= ·) (funext fun result => ?_)
        rcases result with failure | deleted
        · rfl
        · exact ih (released + deleted.toNat)
      · rw [if_neg hbound, if_neg hbound]
        exact ih released

/-- The world after its volumes have been cleared of what is to go. -/
def afterClearing (world : World) (doomed : ObjectKey × Volume → Bool) : World :=
  withStore world .volume (cleared doomed world.inventory.volumes, world.drawn)

theorem volumes_afterClearing (world : World) (doomed : ObjectKey × Volume → Bool) :
    (afterClearing world doomed).inventory.volumes = cleared doomed world.inventory.volumes :=
  rfl

theorem afterClearing_afterClearing (world : World) (doomed other : ObjectKey × Volume → Bool) :
    afterClearing (afterClearing world doomed) other =
      afterClearing world fun entry => doomed entry || other entry := by
  unfold afterClearing
  rw [← cleared_cleared, withStore_withStore]
  rfl

theorem afterClearing_congr {doomed other : ObjectKey × Volume → Bool}
    (h : Agree world.inventory.volumes doomed other) :
    afterClearing world doomed = afterClearing world other := by
  unfold afterClearing
  rw [(cleared_congr h).1]

theorem afterClearing_of_spared {doomed : ObjectKey × Volume → Bool}
    (h : Agree world.inventory.volumes doomed fun _ => false) :
    afterClearing world doomed = world := by
  unfold afterClearing
  rw [(cleared_of_spared h).1]
  exact withStore_self world .volume

theorem perform_releaseVolume (hfaults : world.faults = []) {volume : Volume}
    (h : world.inventory.volumes.lookup ⟨none, volume.name⟩ = some volume) :
    world.perform (releaseVolume volume) =
      (.ok true, afterClearing world fun entry => decide (entry.1 = ⟨none, volume.name⟩)) := by
  have hremove : (world.inventory.store .volume).remove ⟨none, volume.name⟩
        (some (.sameObject volume.metadata)) =
      (.ok (), cleared (fun entry => decide (entry.1 = ⟨none, volume.name⟩))
        world.inventory.volumes) := (remove_eq_cleared h).1
  unfold releaseVolume
  rw [perform_bind, perform_delete hfaults, hremove]
  rfl

theorem perform_releaseAll_cons {volume : Volume} (hfaults : world.faults = [])
    (hdoomed : doomed volume = true)
    (h : world.inventory.volumes.lookup ⟨none, volume.name⟩ = some volume) (released : Nat)
    (rest : List Volume) :
    world.perform (releaseAll doomed released (volume :: rest)) =
      (afterClearing world fun entry => decide (entry.1 = ⟨none, volume.name⟩)).perform
        (releaseAll doomed (released + 1) rest) := by
  rw [releaseAll, if_pos hdoomed, perform_bind, perform_releaseVolume hfaults h]
  rfl

/-- The entries that are listed are stored, each under its own key. -/
structure Listed (entries : List (ObjectKey × Volume)) (volumes : Store VolumeContent) : Prop where
  stored : ∀ entry ∈ entries, volumes.lookup entry.1 = some entry.2
  distinct : (entries.map Prod.fst).Nodup

def among (entries : List (ObjectKey × Volume)) (doomed : Volume → Bool)
    (entry : ObjectKey × Volume) : Bool :=
  decide (entry.1 ∈ entries.map Prod.fst) && doomed entry.2

section Loop

variable {volumes : Store VolumeContent} {key : ObjectKey} {volume : Volume}
  {rest : List (ObjectKey × Volume)}

theorem agree_among_cons (hvolume : volumes.lookup key = some volume)
    (rest : List (ObjectKey × Volume)) (doomed : Volume → Bool) :
    Agree volumes
      (fun entry => decide (entry.1 = key) && doomed volume || among rest doomed entry)
      (among ((key, volume) :: rest) doomed) := by
  intro other found hfound
  unfold among
  simp only [List.map_cons, List.mem_cons, Bool.decide_or, Bool.and_or_distrib_right]
  by_cases hkey : other = key
  · subst hkey
    cases hvolume.symm.trans hfound
    rfl
  · rw [decide_eq_false hkey]
    rfl

theorem listed_cleared (h : Listed ((key, volume) :: rest) volumes) :
    Listed rest (cleared (fun entry => decide (entry.1 = key)) volumes) := by
  obtain ⟨hfresh, hdistinct⟩ := List.nodup_cons.mp h.distinct
  refine ⟨fun entry hentry => ?_, hdistinct⟩
  have hother : entry.1 ≠ key := fun heq => hfresh (List.mem_map.mpr ⟨entry, hentry, heq⟩)
  apply lookup_cleared_eq_some_iff.mpr
  exact ⟨h.stored entry (List.mem_cons_of_mem _ hentry), decide_eq_false hother⟩

end Loop

/-- The loop deletes what is to go, and counts it. The induction is on what is still to be looked
at, all of which is still stored. -/
theorem perform_releaseAll {entries : List (ObjectKey × Volume)} (hfaults : world.faults = [])
    (hlisted : Listed entries world.inventory.volumes)
    (hplaced : ∀ entry ∈ entries, doomed entry.2 = true → entry.1 = ⟨none, entry.2.name⟩)
    (released : Nat) :
    world.perform (releaseAll doomed released (entries.map Prod.snd)) =
      (.ok (released + casualties (among entries doomed) world.inventory.volumes),
        afterClearing world (among entries doomed)) := by
  induction entries generalizing world released with
  | nil =>
      have hspared : Agree world.inventory.volumes (among [] doomed) fun _ => false :=
        fun _ _ _ => rfl
      rw [afterClearing_of_spared hspared, (cleared_of_spared hspared).2]
      rfl
  | cons entry rest ih =>
      obtain ⟨key, volume⟩ := entry
      have hvolume : world.inventory.volumes.lookup key = some volume :=
        hlisted.stored _ List.mem_cons_self
      obtain ⟨hplace, hplaces⟩ := List.forall_mem_cons.mp hplaced
      have hagree := agree_among_cons hvolume rest doomed
      rw [List.map_cons]
      cases hdoomed : doomed volume with
      | true =>
          have hkey : key = ⟨none, volume.name⟩ := hplace hdoomed
          have hcalm : (afterClearing world fun entry => decide (entry.1 = key)).faults = [] :=
            hfaults
          simp only [hdoomed, Bool.and_true] at hagree
          have hcount : released + 1 + casualties (among rest doomed)
                (cleared (fun entry => decide (entry.1 = key)) world.inventory.volumes) =
              released + casualties (among ((key, volume) :: rest) doomed)
                world.inventory.volumes := by
            rw [← (cleared_congr hagree).2, ← casualties_cleared, (remove_eq_cleared hvolume).2]
            omega
          rw [perform_releaseAll_cons hfaults hdoomed (hkey ▸ hvolume), ← hkey,
            ih hcalm (listed_cleared hlisted) hplaces, volumes_afterClearing, hcount,
            afterClearing_afterClearing, afterClearing_congr hagree]
      | false =>
          have hrest : Listed rest world.inventory.volumes :=
            ⟨fun entry hentry => hlisted.stored entry (List.mem_cons_of_mem _ hentry),
              (List.nodup_cons.mp hlisted.distinct).2⟩
          simp only [hdoomed, Bool.and_false, Bool.false_or] at hagree
          rw [releaseAll, hdoomed, if_neg Bool.false_ne_true, ih hfaults hrest hplaces,
            afterClearing_congr hagree, (cleared_congr hagree).2]

def pickedAnd (text : String) (doomed : Volume → Bool) (entry : ObjectKey × Volume) : Bool :=
  (Selector.ofText text).selects entry.2.metadata && doomed entry.2

def picked (text : String) (volumes : Store VolumeContent) : List (ObjectKey × Volume) :=
  volumes.objects.entries.filter fun entry => (Selector.ofText text).selects entry.2.metadata

theorem select_eq (text : String) (volumes : Store VolumeContent) :
    volumes.select none (some text) = (picked text volumes).map Prod.snd := by
  unfold Store.select picked
  simp only [Option.isNone_none, Bool.true_or, Bool.true_and]

theorem listed_picked (text : String) (volumes : Store VolumeContent) :
    Listed (picked text volumes) volumes := by
  constructor
  · intro entry hentry
    exact get?_eq_some_iff.mpr (List.mem_filter.mp hentry).1
  · exact (nodup_keys volumes.objects).sublist (List.filter_sublist.map Prod.fst)

theorem agree_among_picked (text : String) (doomed : Volume → Bool)
    (volumes : Store VolumeContent) :
    Agree volumes (among (picked text volumes) doomed) (pickedAnd text doomed) := by
  intro key volume hvolume
  unfold among pickedAnd
  congr 1
  rw [Bool.eq_iff_iff, decide_eq_true_iff, List.mem_map]
  constructor
  · rintro ⟨entry, hentry, rfl⟩
    obtain ⟨hstored, hpicked⟩ := List.mem_filter.mp hentry
    cases (get?_eq_some_iff.mpr hstored).symm.trans hvolume
    exact hpicked
  · intro hpicked
    exact ⟨(key, volume), List.mem_filter.mpr ⟨get?_eq_some_iff.mp hvolume, hpicked⟩, rfl⟩

/-- What is picked and is to go bears the name that it is stored under. -/
def DoomedSelfKeyed (volumes : Store VolumeContent) (doomed : ObjectKey × Volume → Bool) : Prop :=
  ∀ key volume, volumes.lookup key = some volume → doomed (key, volume) = true →
    key = ⟨none, volume.name⟩

theorem doomedSelfKeyed_cleared {volumes : Store VolumeContent}
    {doomed other : ObjectKey × Volume → Bool}
    (h : DoomedSelfKeyed volumes other) : DoomedSelfKeyed (cleared doomed volumes) other :=
  fun key volume hvolume => h key volume (lookup_cleared_eq_some_iff.mp hvolume).1

theorem perform_releaseAll_select {text : String} (hfaults : world.faults = [])
    (hplaced : DoomedSelfKeyed world.inventory.volumes (pickedAnd text doomed)) :
    world.perform (releaseAll doomed 0 (world.inventory.volumes.select none (some text))) =
      (.ok (casualties (pickedAnd text doomed) world.inventory.volumes),
        afterClearing world (pickedAnd text doomed)) := by
  have hplaces : ∀ entry ∈ picked text world.inventory.volumes, doomed entry.2 = true →
      entry.1 = ⟨none, entry.2.name⟩ := by
    intro entry hentry hdoomed
    obtain ⟨hstored, hpicked⟩ := List.mem_filter.mp hentry
    refine hplaced entry.1 entry.2 (get?_eq_some_iff.mpr hstored) ?_
    rw [pickedAnd, hpicked, hdoomed]
    rfl
  have hagree := agree_among_picked text doomed world.inventory.volumes
  rw [select_eq, perform_releaseAll hfaults (listed_picked text _) hplaces, Nat.zero_add,
    afterClearing_congr hagree, (cleared_congr hagree).2]

end Fleet.Proofs.VolumeRelease
