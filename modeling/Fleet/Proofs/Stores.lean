import Fleet.Store.Memory
import Std.Data.String.ToNat

namespace Fleet.Proofs.Stores

open Std

section Maps

variable {κ ν : Type} [Ord κ] [DecidableEq κ] [LawfulEqOrd κ]

theorem beq_eq_false_of_compare {key other : κ} (h : compare key other ≠ .eq) :
    (key == other) = false := by
  rw [beq_eq_false_iff_ne]
  rintro rfl
  exact h compare_self

theorem lookup_insertEntry_self (key : κ) (value : ν) (entries : List (κ × ν)) :
    (OrderedMap.insertEntry key value entries).lookup key = some value := by
  induction entries with
  | nil => simp [OrderedMap.insertEntry]
  | cons entry rest ih =>
      rw [OrderedMap.insertEntry]
      split
      · exact List.lookup_cons_self
      · exact List.lookup_cons_self
      · rename_i hgt
        rw [List.lookup_cons, beq_eq_false_of_compare (by rw [hgt]; decide)]
        exact ih

theorem lookup_insertEntry_of_ne {key other : κ} (h : other ≠ key) (value : ν)
    (entries : List (κ × ν)) :
    (OrderedMap.insertEntry key value entries).lookup other = entries.lookup other := by
  have hne : (other == key) = false := beq_eq_false_iff_ne.mpr h
  induction entries with
  | nil => simp [OrderedMap.insertEntry, h]
  | cons entry rest ih =>
      rw [OrderedMap.insertEntry]
      split
      · rw [List.lookup_cons, hne]
      · rename_i heq
        have hkey : key = entry.1 := Std.compare_eq_iff_eq.mp heq
        rw [List.lookup_cons, List.lookup_cons, ← hkey, hne]
      · rw [List.lookup_cons, List.lookup_cons, ih]

@[simp]
theorem get?_insert_self [TransOrd κ] (map : OrderedMap κ ν) (key : κ) (value : ν) :
    (map.insert key value).get? key = some value :=
  lookup_insertEntry_self key value map.entries

theorem get?_insert_of_ne [TransOrd κ] {key other : κ} (h : other ≠ key) (map : OrderedMap κ ν)
    (value : ν) : (map.insert key value).get? other = map.get? other :=
  lookup_insertEntry_of_ne h value map.entries

omit [LawfulEqOrd κ] in
@[simp]
theorem get?_erase_self (map : OrderedMap κ ν) (key : κ) : (map.erase key).get? key = none := by
  rw [OrderedMap.get?, List.lookup_eq_none_iff]
  intro entry hentry
  have hne : entry.1 ≠ key := by simpa using (List.mem_filter.mp hentry).2
  exact bne_iff_ne.mpr hne.symm

omit [LawfulEqOrd κ] in
theorem get?_erase_of_ne {key other : κ} (h : other ≠ key) (map : OrderedMap κ ν) :
    (map.erase key).get? other = map.get? other := by
  change (map.entries.filter _).lookup other = map.entries.lookup other
  induction map.entries with
  | nil => rfl
  | cons entry rest ih =>
      by_cases hentry : entry.1 = key
      · have hne : (other == entry.1) = false := beq_eq_false_iff_ne.mpr (hentry ▸ h)
        rw [List.filter_cons_of_neg (by simpa using hentry), List.lookup_cons, hne]
        exact ih
      · rw [List.filter_cons_of_pos (by simpa using hentry), List.lookup_cons, List.lookup_cons, ih]

theorem lookup_eq_some_iff_mem {entries : List (κ × ν)} {key : κ} {value : ν}
    (h : entries.Pairwise fun a b => compare a.1 b.1 = .lt) :
    entries.lookup key = some value ↔ (key, value) ∈ entries := by
  induction entries with
  | nil => simp
  | cons entry rest ih =>
      have hhead := (List.pairwise_cons.mp h).1
      have hrest := ih (List.pairwise_cons.mp h).2
      by_cases hkey : key = entry.1
      · have hfresh : (key, value) ∉ rest := by
          intro hmem
          have hlt := hhead _ hmem
          rw [hkey, compare_self] at hlt
          contradiction
        rw [List.lookup_cons, beq_iff_eq.mpr hkey, List.mem_cons, or_iff_left hfresh, hkey]
        exact ⟨fun hvalue => Prod.ext rfl (Option.some.inj hvalue).symm,
          fun hentry => congrArg some (congrArg Prod.snd hentry).symm⟩
      · have hother : (key, value) ≠ entry := fun hentry => hkey (congrArg Prod.fst hentry)
        rw [List.lookup_cons, beq_eq_false_iff_ne.mpr hkey, List.mem_cons, or_iff_right hother]
        exact hrest

theorem get?_eq_some_iff {map : OrderedMap κ ν} {key : κ} {value : ν} :
    map.get? key = some value ↔ (key, value) ∈ map.entries :=
  lookup_eq_some_iff_mem map.sorted

omit [DecidableEq κ] in
theorem nodup_keys (map : OrderedMap κ ν) : map.keys.Nodup := by
  refine List.pairwise_map.mpr (map.sorted.imp fun {a b} hlt heq => ?_)
  rw [heq, compare_self] at hlt
  contradiction

theorem countP_key {map : OrderedMap κ ν} {key : κ} {value : ν} (h : map.get? key = some value) :
    map.entries.countP (fun entry => decide (entry.1 = key)) = 1 := by
  have hstored : key ∈ map.keys := List.mem_map.mpr ⟨(key, value), get?_eq_some_iff.mp h, rfl⟩
  have hone : List.count key map.keys = 1 :=
    (List.Nodup.count (nodup_keys map)).trans (if_pos hstored)
  rwa [List.count, OrderedMap.keys, List.countP_map] at hone

theorem lookup_eq_none_of_lt {key : κ} {entries : List (κ × ν)}
    (h : ∀ entry ∈ entries, compare key entry.1 = .lt) : entries.lookup key = none := by
  rw [List.lookup_eq_none_iff]
  intro entry hentry
  rw [bne, beq_eq_false_of_compare (by rw [h entry hentry]; decide), Bool.not_false]

theorem length_insertEntry [TransOrd κ] (key : κ) (value : ν) {entries : List (κ × ν)}
    (h : entries.Pairwise fun a b => compare a.1 b.1 = .lt) :
    (OrderedMap.insertEntry key value entries).length =
      entries.length + if (entries.lookup key).isNone then 1 else 0 := by
  induction entries with
  | nil => rfl
  | cons entry rest ih =>
      obtain ⟨hhead, hrest⟩ := List.pairwise_cons.mp h
      rw [OrderedMap.insertEntry]
      split
      · rename_i hlt
        have hnew : (entry :: rest).lookup key = none := lookup_eq_none_of_lt fun other hother => by
          rcases List.mem_cons.mp hother with rfl | hother
          · exact hlt
          · exact TransCmp.lt_trans hlt (hhead other hother)
        rw [hnew]
        rfl
      · rename_i heq
        rw [List.lookup_cons, beq_iff_eq.mpr (Std.compare_eq_iff_eq.mp heq)]
        rfl
      · rename_i hgt
        rw [List.lookup_cons, beq_eq_false_of_compare (by rw [hgt]; decide), List.length_cons,
          ih hrest, List.length_cons]
        exact Nat.add_right_comm _ _ _

theorem length_insert [TransOrd κ] (map : OrderedMap κ ν) (key : κ) (value : ν) :
    (map.insert key value).entries.length =
      map.entries.length + if (map.get? key).isNone then 1 else 0 :=
  length_insertEntry key value map.sorted

theorem length_erase {map : OrderedMap κ ν} {key : κ} {value : ν} (h : map.get? key = some value) :
    (map.erase key).entries.length + 1 = map.entries.length := by
  change (map.entries.filter fun entry => !decide (entry.1 = key)).length + 1 = _
  rw [← List.countP_eq_length_filter, ← countP_key h,
    List.length_eq_countP_add_countP fun entry : κ × ν => decide (entry.1 = key), Nat.add_comm]
  simp only [Bool.not_eq_true, Bool.decide_eq_false]

end Maps

instance : LawfulEqOrd ObjectKey where
  eq_of_compare {a b} h := by
    obtain ⟨hns, hname⟩ := Ordering.then_eq_eq.mp h
    cases a
    cases b
    exact congr (congrArg ObjectKey.mk (Std.compare_eq_iff_eq.mp hns))
      (Std.compare_eq_iff_eq.mp hname)

variable {C : Type} {store after : Store C} {key other : ObjectKey} {object written : Object C}

@[simp]
theorem lookup_put_self (store : Store C) (key : ObjectKey) (object : Object C) :
    (store.put key object).lookup key = some object :=
  get?_insert_self store.objects key object

theorem lookup_put_of_ne (h : other ≠ key) (store : Store C) (object : Object C) :
    (store.put key object).lookup other = store.lookup other :=
  get?_insert_of_ne h store.objects object

theorem fetch_of_stored (h : store.lookup key = some object) : store.fetch key = .ok object := by
  rw [Store.fetch, h]

theorem fetch_of_missing (h : store.lookup key = none) :
    store.fetch key = .error (.notFound store.title key.name) := by
  rw [Store.fetch, h]

theorem fetch_ok : store.fetch key = .ok object ↔ store.lookup key = some object := by
  refine ⟨fun h => ?_, fetch_of_stored⟩
  cases hlookup : store.lookup key with
  | none => exact nomatch (fetch_of_missing hlookup).symm.trans h
  | some stored =>
      cases (fetch_of_stored hlookup).symm.trans h
      rfl

theorem mutate_of_missing (h : store.lookup key = none) (change : Object C → Object C) :
    store.mutate key change =
      (.error (.notFound store.title key.name), { store with version := store.version + 1 }) := by
  rw [Store.mutate, h]

theorem mutate_of_stored (h : store.lookup key = some object) (change : Object C → Object C) :
    store.mutate key change =
      (.ok (store.stamp (change object)), store.put key (store.stamp (change object))) := by
  rw [Store.mutate, h]

theorem add_of_taken {stored : Object C} (uid : String)
    (h : store.lookup (.ofMetadata object.metadata) = some stored) :
    store.add uid object = (.error (.alreadyExists store.title object.name), store) := by
  simp only [Store.add, h]

theorem add_of_free (uid : String) (h : store.lookup (.ofMetadata object.metadata) = none) :
    store.add uid object =
      (.ok (store.stamp (Store.identify object (some uid))),
        { store.put (.ofMetadata object.metadata)
            (store.stamp (Store.identify object (some uid))) with
          counts := { store.counts with creates := store.counts.creates + 1 } }) := by
  simp only [Store.add, h]

theorem write_of_agrees {stored : Object C} (count : WriteCounts → WriteCounts)
    (hlookup : store.lookup (.ofMetadata object.metadata) = some stored)
    (hversion : object.metadata.resourceVersion = none ∨
      object.metadata.resourceVersion = stored.metadata.resourceVersion) :
    store.write object count =
      (.ok (store.stamp (Store.identify object stored.metadata.uid)),
        { store.put (.ofMetadata object.metadata)
            (store.stamp (Store.identify object stored.metadata.uid)) with
          counts := count store.counts }) := by
  rcases hversion with hnone | hsame
  · simp [Store.write, hlookup, hnone]
  · simp [Store.write, hlookup, hsame]

/-- What can come of replacing an object. The new one carries the version that it replaces, or
none. -/
inductive Replacement (store : Store C) (object : Object C) (count : WriteCounts → WriteCounts) :
    Prop where
  | missing (hlookup : store.lookup (.ofMetadata object.metadata) = none)
      (hwrite : store.write object count =
        (.error (.notFound store.title object.name), store))
  | outdated {stored : Object C}
      (hlookup : store.lookup (.ofMetadata object.metadata) = some stored)
      (hcarried : object.metadata.resourceVersion ≠ none)
      (hother : object.metadata.resourceVersion ≠ stored.metadata.resourceVersion)
      (hwrite : store.write object count =
        (.error (.conflict store.title object.name), store.refuse))
  | current {stored : Object C}
      (hlookup : store.lookup (.ofMetadata object.metadata) = some stored)
      (hversion : object.metadata.resourceVersion = none ∨
        object.metadata.resourceVersion = stored.metadata.resourceVersion)
      (hwrite : store.write object count =
        (.ok (store.stamp (Store.identify object stored.metadata.uid)),
          { store.put (.ofMetadata object.metadata)
              (store.stamp (Store.identify object stored.metadata.uid)) with
            counts := count store.counts }))

theorem replacement_of (store : Store C) (object : Object C) (count : WriteCounts → WriteCounts) :
    Replacement store object count := by
  cases hlookup : store.lookup (.ofMetadata object.metadata) with
  | none => exact .missing hlookup (by simp only [Store.write, hlookup])
  | some stored =>
      by_cases hversion : object.metadata.resourceVersion = none ∨
          object.metadata.resourceVersion = stored.metadata.resourceVersion
      · exact .current hlookup hversion (write_of_agrees count hlookup hversion)
      · obtain ⟨hcarried, hother⟩ := not_or.mp hversion
        refine .outdated hlookup hcarried hother ?_
        simp [Store.write, hlookup, Option.isSome_iff_ne_none, hcarried, hother]

theorem remove_of_missing (h : store.lookup key = none) (preconditions : Option Preconditions) :
    store.remove key preconditions = (.error (.notFound store.title key.name), store) := by
  rw [Store.remove, h]

theorem remove_of_meets {preconditions : Option Preconditions}
    (h : store.lookup key = some object)
    (hmeets : Store.meets object.metadata preconditions = true) :
    store.remove key preconditions =
      (.ok (),
        { store with
          objects := store.objects.erase key
          counts := { store.counts with deletes := store.counts.deletes + 1 } }) := by
  simp only [Store.remove, h, hmeets, if_true]

/-- What can come of deleting an object. -/
inductive Removal (store : Store C) (key : ObjectKey) (preconditions : Option Preconditions) :
    Prop where
  | missing (hlookup : store.lookup key = none)
      (hremove : store.remove key preconditions =
        (.error (.notFound store.title key.name), store))
  | refused {stored : Object C} (hlookup : store.lookup key = some stored)
      (hmisses : Store.meets stored.metadata preconditions = false)
      (hremove : store.remove key preconditions =
        (.error (.conflict store.title key.name), store.refuse))
  | removed {stored : Object C} (hlookup : store.lookup key = some stored)
      (hmeets : Store.meets stored.metadata preconditions = true)
      (hremove : store.remove key preconditions =
        (.ok (),
          { store with
            objects := store.objects.erase key
            counts := { store.counts with deletes := store.counts.deletes + 1 } }))

theorem removal_of (store : Store C) (key : ObjectKey) (preconditions : Option Preconditions) :
    Removal store key preconditions := by
  cases hlookup : store.lookup key with
  | none => exact .missing hlookup (remove_of_missing hlookup preconditions)
  | some stored =>
      cases hmeets : Store.meets stored.metadata preconditions with
      | false => exact .refused hlookup hmeets (by simp [Store.remove, hlookup, hmeets])
      | true => exact .removed hlookup hmeets (remove_of_meets hlookup hmeets)

/-- A successful write replaces the object in its place by its next version. The object written
carried the version that it replaces, or none. -/
theorem write_ok {count : WriteCounts → WriteCounts}
    (h : store.write object count = (.ok written, after)) :
    ∃ stored, store.lookup (.ofMetadata object.metadata) = some stored ∧
      (object.metadata.resourceVersion = none ∨
        object.metadata.resourceVersion = stored.metadata.resourceVersion) ∧
      written = store.stamp (Store.identify object stored.metadata.uid) ∧
      after.objects = store.objects.insert (.ofMetadata object.metadata) written ∧
      after.version = store.version + 1 := by
  cases replacement_of store object count with
  | missing _ hwrite => cases hwrite.symm.trans h
  | outdated _ _ _ hwrite => cases hwrite.symm.trans h
  | current hlookup hversion hwrite =>
      cases hwrite.symm.trans h
      exact ⟨_, hlookup, hversion, rfl, rfl, rfl⟩

theorem write_error {count : WriteCounts → WriteCounts} {failure : Failure}
    (h : store.write object count = (.error failure, after)) :
    after.objects = store.objects ∧ after.version = store.version := by
  cases replacement_of store object count with
  | missing _ hwrite =>
      cases hwrite.symm.trans h
      exact ⟨rfl, rfl⟩
  | outdated _ _ _ hwrite =>
      cases hwrite.symm.trans h
      exact ⟨rfl, rfl⟩
  | current _ _ hwrite => cases hwrite.symm.trans h

theorem write_current {stored : Object C} (count : WriteCounts → WriteCounts)
    (hlookup : store.lookup (.ofMetadata object.metadata) = some stored)
    (hversion : object.metadata.resourceVersion = stored.metadata.resourceVersion) :
    store.write object count =
      (.ok (store.stamp (Store.identify object stored.metadata.uid)),
        { store.put (.ofMetadata object.metadata)
            (store.stamp (Store.identify object stored.metadata.uid)) with
          counts := count store.counts }) :=
  write_of_agrees count hlookup (.inr hversion)

theorem lookup_add_self (uid : String) (h : store.lookup (.ofMetadata object.metadata) = none) :
    (store.add uid object).2.lookup (.ofMetadata object.metadata) =
      some (store.stamp (Store.identify object (some uid))) := by
  rw [add_of_free uid h]
  exact lookup_put_self store _ _

theorem lookup_add_of_ne (h : other ≠ .ofMetadata object.metadata) (uid : String) :
    (store.add uid object).2.lookup other = store.lookup other := by
  cases hplace : store.lookup (.ofMetadata object.metadata) with
  | some stored => rw [add_of_taken uid hplace]
  | none =>
      rw [add_of_free uid hplace]
      exact lookup_put_of_ne h store _

theorem lookup_of_lookup_add {uid : String} {found : Object C}
    (h : (store.add uid object).2.lookup key = some found) :
    store.lookup key = some found ∨
      key = .ofMetadata object.metadata ∧
        found = store.stamp (Store.identify object (some uid)) := by
  by_cases hkey : key = .ofMetadata object.metadata
  · cases hplace : store.lookup (.ofMetadata object.metadata) with
    | some stored =>
        rw [add_of_taken uid hplace] at h
        exact .inl h
    | none =>
        rw [hkey, lookup_add_self uid hplace] at h
        exact .inr ⟨hkey, (Option.some.inj h).symm⟩
  · rw [lookup_add_of_ne hkey] at h
    exact .inl h

theorem lookup_mutate_self (h : store.lookup key = some object)
    (change : Object C → Object C) :
    (store.mutate key change).2.lookup key = some (store.stamp (change object)) := by
  rw [mutate_of_stored h]
  exact lookup_put_self store key _

theorem lookup_of_lookup_mutate {change : Object C → Object C}
    (h : (store.mutate key change).2.lookup other = some object) :
    store.lookup other = some object ∨
      other = key ∧ ∃ old, store.lookup key = some old ∧ object = store.stamp (change old) := by
  cases hold : store.lookup key with
  | none =>
      rw [mutate_of_missing hold] at h
      exact .inl h
  | some old =>
      by_cases hkey : other = key
      · rw [hkey, lookup_mutate_self hold] at h
        exact .inr ⟨hkey, old, rfl, (Option.some.inj h).symm⟩
      · rw [mutate_of_stored hold] at h
        exact .inl ((lookup_put_of_ne hkey store _).symm.trans h)

theorem forall_lookup_iff {holds : ObjectKey → Object C → Prop} :
    (∀ key object, store.lookup key = some object → holds key object) ↔
      ∀ entry ∈ store.objects.entries, holds entry.1 entry.2 :=
  ⟨fun h entry hentry => h entry.1 entry.2 (get?_eq_some_iff.mpr hentry),
    fun h key object hlookup => h (key, object) (get?_eq_some_iff.mp hlookup)⟩

def Picked (ns selector : Option String) (key : ObjectKey) (object : Object C) : Prop :=
  (ns = none ∨ key.namespace = ns) ∧
    ∀ text ∈ selector, (Selector.ofText text).selects object.metadata = true

theorem mem_select {ns selector : Option String} :
    object ∈ store.select ns selector ↔
      ∃ key, store.lookup key = some object ∧ Picked ns selector key object := by
  unfold Store.select Picked
  simp only [List.mem_map, List.mem_filter, Prod.exists, exists_eq_right, Store.lookup,
    get?_eq_some_iff]
  refine exists_congr fun key => and_congr_right fun _ => ?_
  cases selector <;> simp

theorem lookup_of_lookup_remove {preconditions : Option Preconditions}
    (h : (store.remove key preconditions).2.lookup other = some object) :
    store.lookup other = some object := by
  cases removal_of store key preconditions with
  | missing _ hremove =>
      rw [hremove] at h
      exact h
  | refused _ _ hremove =>
      rw [hremove] at h
      exact h
  | removed _ _ hremove =>
      rw [hremove] at h
      change (store.objects.erase key).get? other = some object at h
      by_cases hkey : other = key
      · rw [hkey, get?_erase_self] at h
        contradiction
      · rwa [get?_erase_of_ne hkey] at h

theorem remove_pinned (h : store.lookup key = some object) :
    store.remove key (some (.pinned object.metadata)) =
      (.ok (),
        { store with
          objects := store.objects.erase key
          counts := { store.counts with deletes := store.counts.deletes + 1 } }) := by
  refine remove_of_meets h ?_
  simp [Store.meets, Preconditions.pinned]

theorem remove_sameObject (h : store.lookup key = some object) :
    store.remove key (some (.sameObject object.metadata)) =
      (.ok (),
        { store with
          objects := store.objects.erase key
          counts := { store.counts with deletes := store.counts.deletes + 1 } }) := by
  refine remove_of_meets h ?_
  simp [Store.meets, Preconditions.sameObject]

theorem lookup_remove_self (store : Store C) (key : ObjectKey) (object : Object C) :
    (store.remove key (some (.sameObject object.metadata))).2.lookup key ≠ some object := by
  intro h
  rw [remove_sameObject (lookup_of_lookup_remove h)] at h
  change (store.objects.erase key).get? key = some object at h
  rw [get?_erase_self] at h
  contradiction

theorem versionText_injective {m n : Nat} (h : Store.versionText m = Store.versionText n) :
    m = n :=
  Nat.repr_injective h

/-- The object carries a version that the store has given. -/
def Numbered (store : Store C) (object : Object C) : Prop :=
  ∃ n ≤ store.version, object.metadata.resourceVersion = some (Store.versionText n)

theorem numbered_mono (h : Numbered store object) (hle : store.version ≤ after.version) :
    Numbered after object := by
  obtain ⟨n, hn, hversion⟩ := h
  exact ⟨n, Nat.le_trans hn hle, hversion⟩

theorem next_ne_of_numbered (h : Numbered store object) :
    some (Store.versionText (store.version + 1)) ≠ object.metadata.resourceVersion := by
  obtain ⟨n, hn, hversion⟩ := h
  intro heq
  have hnext := versionText_injective (Option.some.inj (heq.trans hversion))
  omega

/-- The stores that come about when objects are seeded, changed in place, and called for. -/
inductive Reached : Store C → Prop where
  | empty (title : String) : Reached { title }
  | insert {store : Store C} (uid : String) (object : Object C) :
      Reached store → Reached (store.insert uid object).2
  | mutate {store : Store C} (key : ObjectKey) (change : Object C → Object C) :
      Reached store → Reached (store.mutate key change).2
  | answer {store : Store C} (uid : String) (call : Store.Call C) :
      Reached store → Reached (store.answer uid call).2

/-- What a change that gives at most one version can do: only one object is new, and it carries the
version just given. -/
structure AddsOneVersion (store after : Store C) : Prop where
  version : store.version ≤ after.version
  place : ∃ place, ∀ key object, after.lookup key = some object →
    store.lookup key = some object ∨
      key = place ∧ store.version < after.version ∧
        object.metadata.resourceVersion = some (Store.versionText after.version)

theorem addsOneVersion_of_subset (hle : store.version ≤ after.version)
    (hsub : ∀ key object, after.lookup key = some object → store.lookup key = some object) :
    AddsOneVersion store after :=
  ⟨hle, ⟨none, ""⟩, fun key object hobject => .inl (hsub key object hobject)⟩

theorem addsOneVersion_refl (store : Store C) : AddsOneVersion store store :=
  addsOneVersion_of_subset (Nat.le_refl _) fun _ _ hobject => hobject

theorem addsOneVersion_put {object : Object C}
    (hobjects : after.objects = store.objects.insert key (store.stamp object))
    (hversion : after.version = store.version + 1) : AddsOneVersion store after := by
  refine ⟨hversion ▸ Nat.le_succ _, key, fun other found hfound => ?_⟩
  rw [Store.lookup, hobjects] at hfound
  by_cases hkey : other = key
  · rw [hkey, get?_insert_self] at hfound
    cases hfound
    exact .inr ⟨hkey, hversion ▸ Nat.lt_succ_self _, hversion ▸ rfl⟩
  · rw [get?_insert_of_ne hkey] at hfound
    exact .inl hfound

theorem addsOneVersion_write (store : Store C) (object : Object C)
    (count : WriteCounts → WriteCounts) :
    AddsOneVersion store (store.write object count).2 := by
  cases replacement_of store object count with
  | missing _ hwrite =>
      rw [hwrite]
      exact addsOneVersion_refl store
  | outdated _ _ _ hwrite =>
      rw [hwrite]
      exact addsOneVersion_of_subset (Nat.le_refl _) fun _ _ hobject => hobject
  | current _ _ hwrite =>
      rw [hwrite]
      exact addsOneVersion_put rfl rfl

theorem version_remove (store : Store C) (key : ObjectKey)
    (preconditions : Option Preconditions) :
    (store.remove key preconditions).2.version = store.version := by
  cases removal_of store key preconditions with
  | missing _ hremove => rw [hremove]
  | refused _ _ hremove => rw [hremove, Store.refuse]
  | removed _ _ hremove => rw [hremove]

theorem addsOneVersion_remove (store : Store C) (key : ObjectKey)
    (preconditions : Option Preconditions) :
    AddsOneVersion store (store.remove key preconditions).2 := by
  refine addsOneVersion_of_subset ?_ fun _ _ hobject => lookup_of_lookup_remove hobject
  exact Nat.le_of_eq (version_remove store key preconditions).symm

theorem addsOneVersion_add (store : Store C) (uid : String) (object : Object C) :
    AddsOneVersion store (store.add uid object).2 := by
  cases hplace : store.lookup (.ofMetadata object.metadata) with
  | some stored =>
      rw [add_of_taken uid hplace]
      exact addsOneVersion_refl store
  | none =>
      rw [add_of_free uid hplace]
      exact addsOneVersion_put rfl rfl

theorem addsOneVersion_answer (store : Store C) (uid : String) (call : Store.Call C) :
    AddsOneVersion store (store.answer uid call).2 := by
  cases call with
  | get => exact addsOneVersion_refl store
  | list => exact addsOneVersion_refl store
  | create object => exact addsOneVersion_add store uid object
  | replace object => exact addsOneVersion_write store object _
  | replaceStatus object => exact addsOneVersion_write store object _
  | delete ns name preconditions => exact addsOneVersion_remove store _ _

theorem addsOneVersion_mutate (store : Store C) (key : ObjectKey) (change : Object C → Object C) :
    AddsOneVersion store (store.mutate key change).2 := by
  cases hlookup : store.lookup key with
  | none =>
      rw [mutate_of_missing hlookup]
      exact addsOneVersion_of_subset (Nat.le_succ _) fun _ _ hobject => hobject
  | some stored =>
      rw [mutate_of_stored hlookup]
      exact addsOneVersion_put rfl rfl

/-- Every stored object carries a version that was given, and no two places hold the same one. -/
structure Versioned (store : Store C) : Prop where
  numbered : ∀ key object, store.lookup key = some object → Numbered store object
  apart : ∀ key other object twin, store.lookup key = some object →
    store.lookup other = some twin →
      object.metadata.resourceVersion = twin.metadata.resourceVersion → key = other

theorem versioned_of_addsOneVersion (h : Versioned store) (hadvances : AddsOneVersion store after) :
    Versioned after := by
  obtain ⟨hversion, place, hplace⟩ := hadvances
  -- A version that was given before is not the one just given.
  have hfresh : ∀ key object, store.lookup key = some object → store.version < after.version →
      object.metadata.resourceVersion ≠ some (Store.versionText after.version) := by
    intro key object hobject hlater hnew
    obtain ⟨n, hn, hgiven⟩ := h.numbered key object hobject
    have hsame := versionText_injective (Option.some.inj (hgiven.symm.trans hnew))
    omega
  constructor
  · intro key object hobject
    rcases hplace key object hobject with hold | ⟨-, -, hnew⟩
    · exact numbered_mono (h.numbered key object hold) hversion
    · exact ⟨after.version, Nat.le_refl _, hnew⟩
  · intro key other object twin hobject htwin heq
    rcases hplace key object hobject with hold | ⟨hkey, hlater, hnew⟩
    · rcases hplace other twin htwin with hold' | ⟨-, hlater, hnew⟩
      · exact h.apart key other object twin hold hold' heq
      · exact absurd (heq.trans hnew) (hfresh key object hold hlater)
    · rcases hplace other twin htwin with hold | ⟨hother, -, -⟩
      · exact absurd (heq.symm.trans hnew) (hfresh other twin hold hlater)
      · exact hkey.trans hother.symm

theorem versioned_of_reached (h : Reached store) : Versioned store := by
  induction h with
  | empty title =>
      exact ⟨fun _ _ hobject => (nomatch hobject), fun _ _ _ _ hobject => (nomatch hobject)⟩
  | insert uid object _ ih => exact versioned_of_addsOneVersion ih (addsOneVersion_put rfl rfl)
  | mutate key change _ ih =>
    exact versioned_of_addsOneVersion ih (addsOneVersion_mutate _ key change)
  | answer uid call _ ih => exact versioned_of_addsOneVersion ih (addsOneVersion_answer _ uid call)

/-- What any number of changes can do: whatever is new carries a version given since. -/
structure Later (store after : Store C) : Prop where
  version : store.version ≤ after.version
  known : ∀ key object, after.lookup key = some object →
    store.lookup key = some object ∨
      ∃ n, store.version < n ∧ object.metadata.resourceVersion = some (Store.versionText n)

theorem later_refl (store : Store C) : Later store store :=
  ⟨Nat.le_refl _, fun _ _ hobject => .inl hobject⟩

theorem later_trans {middle : Store C} (h : Later store middle) (h' : Later middle after) :
    Later store after := by
  refine ⟨Nat.le_trans h.version h'.version, fun key object hobject => ?_⟩
  rcases h'.known key object hobject with hold | ⟨n, hn, hversion⟩
  · exact h.known key object hold
  · exact .inr ⟨n, Nat.lt_of_le_of_lt h.version hn, hversion⟩

theorem later_of_addsOneVersion (h : AddsOneVersion store after) : Later store after := by
  obtain ⟨hversion, place, hplace⟩ := h
  refine ⟨hversion, fun key object hobject => ?_⟩
  rcases hplace key object hobject with hold | ⟨-, hlater, hnew⟩
  · exact .inl hold
  · exact .inr ⟨after.version, hlater, hnew⟩

/-- An object that carries the version of one that was stored before is that one, in its place. -/
theorem eq_of_version_eq {seen : Object C} {place : ObjectKey} (hstore : Reached store)
    (hseen : store.lookup place = some seen) (hlater : Later store after)
    (hobject : after.lookup key = some object)
    (hversion : object.metadata.resourceVersion = seen.metadata.resourceVersion) :
    key = place ∧ object = seen := by
  rcases hlater.known key object hobject with hold | ⟨n, hn, hnew⟩
  · have hplace := (versioned_of_reached hstore).apart key place object seen hold hseen hversion
    subst hplace
    exact ⟨rfl, Option.some.inj (hold.symm.trans hseen)⟩
  · obtain ⟨m, hm, hgiven⟩ := (versioned_of_reached hstore).numbered place seen hseen
    have hsame := versionText_injective
      (Option.some.inj (hnew.symm.trans (hversion.trans hgiven)))
    omega

end Fleet.Proofs.Stores
