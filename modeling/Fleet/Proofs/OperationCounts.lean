import Fleet.Proofs.Versions

namespace Fleet.Proofs.OperationCounts

open Fleet.Proofs.Interference
open Fleet.Proofs.Stores
open Fleet.Proofs.Versions

variable {C : Type}

def place? : Intervention C → Option ObjectKey
  | .insert _ object => some (.ofMetadata object.metadata)
  | .mutate key _ => some key
  | .call _ (.get ..) => none
  | .call _ (.list ..) => none
  | .call _ (.create object) => some (.ofMetadata object.metadata)
  | .call _ (.replace object) => some (.ofMetadata object.metadata)
  | .call _ (.replaceStatus object) => some (.ofMetadata object.metadata)
  | .call _ (.delete ns name _) => some ⟨ns, name⟩

/-- The kinds of writes that count. -/
inductive Write where
  | create
  | replace
  | replaceStatus
  | delete
  deriving DecidableEq

/-- What an operation counts as. Seeding, changing in place and looking do not count. -/
def kind? : Intervention C → Option Write
  | .insert .. => none
  | .mutate .. => none
  | .call _ (.get ..) => none
  | .call _ (.list ..) => none
  | .call _ (.create _) => some .create
  | .call _ (.replace _) => some .replace
  | .call _ (.replaceStatus _) => some .replaceStatus
  | .call _ (.delete ..) => some .delete

def countSuccess (counts : WriteCounts) : Option Write → WriteCounts
  | none => counts
  | some .create => { counts with creates := counts.creates + 1 }
  | some .replace => { counts with replaces := counts.replaces + 1 }
  | some .replaceStatus => { counts with statusWrites := counts.statusWrites + 1 }
  | some .delete => { counts with deletes := counts.deletes + 1 }

def countFailure (counts : WriteCounts) (failure : Failure) : WriteCounts :=
  if failure.isConflict then { counts with conflicts := counts.conflicts + 1 } else counts

/-- What an operation does to a store and its counters. -/
structure CountedByKind (moment : Moment C) : Prop where
  failed : ∀ failure, moment.outcome = .error failure →
    moment.left.objects = moment.found.objects ∧
      moment.left.counts = countFailure moment.found.counts failure
  succeeded : ∀ objects, moment.outcome = .ok objects →
    (∀ key, some key ≠ place? moment.operation →
        moment.left.lookup key = moment.found.lookup key) ∧
      moment.left.counts = countSuccess moment.found.counts (kind? moment.operation)
  /-- What is handed out stays in its place. After a deletion nothing does. -/
  stored : ∀ objects, moment.outcome = .ok objects → ∀ key, place? moment.operation = some key →
    moment.left.lookup key = objects.head?
  looked : moment.looks = true → moment.left = moment.found
  replaced : ∀ object, moment.Replaces object →
    (moment.left.lookup (.ofMetadata object.metadata)).map (·.metadata.uid) =
      (moment.found.lookup (.ofMetadata object.metadata)).map (·.metadata.uid)

/-- Whether an operation seeds an object in a place that was free. -/
def settles (moment : Moment C) : Bool :=
  match moment.operation with
  | .insert _ object => (moment.found.lookup (.ofMetadata object.metadata)).isNone
  | _ => false

def carriesOut (kind : Write) (moment : Moment C) : Bool :=
  kind? moment.operation == some kind && moment.outcome.isOk

def writes (moment : Moment C) : Bool := (kind? moment.operation).isSome && moment.outcome.isOk

def disputes (moment : Moment C) : Bool :=
  match moment.outcome with
  | .ok _ => false
  | .error failure => failure.isConflict

/-- What the counters say is what has been done. -/
structure CountersTally (history : List (Moment C)) (store : Store C) : Prop where
  counts : store.counts =
    { creates := history.countP (carriesOut .create)
      replaces := history.countP (carriesOut .replace)
      statusWrites := history.countP (carriesOut .replaceStatus)
      deletes := history.countP (carriesOut .delete)
      conflicts := history.countP disputes }
  size : store.objects.entries.length + store.counts.deletes =
    history.countP settles + store.counts.creates
  total : store.counts.total = history.countP writes

variable {moment : Moment C} {store : Store C}

/-- What an operation on a store can come to. An object gets into a place by being seeded, changed,
created or replaced. The place was free if it was created, or seeded where there was none. -/
inductive CountedEffect (found : Store C) (operation : Intervention C) :
    Except Failure (List (Object C)) → Store C → Prop where
  | failed {failure : Failure} {after : Store C} (hsettles : settles ⟨found, operation⟩ = false)
      (hobjects : after.objects = found.objects)
      (hcounts : after.counts = countFailure found.counts failure) :
      CountedEffect found operation (.error failure) after
  | looked (objects : List (Object C)) (hsettles : settles ⟨found, operation⟩ = false)
      (hplace : place? operation = none) (hkind : kind? operation = none) :
      CountedEffect found operation (.ok objects) found
  | placed {key : ObjectKey} {written : Object C} {after : Store C}
      (hplace : place? operation = some key) (hkind : kind? operation ≠ some .delete)
      (hroom : (if (found.lookup key).isNone then 1 else 0) =
        (if settles ⟨found, operation⟩ then 1 else 0) +
          if kind? operation = some .create then 1 else 0)
      (hobjects : after.objects = found.objects.insert key written)
      (hcounts : after.counts = countSuccess found.counts (kind? operation)) :
      CountedEffect found operation (.ok [written]) after
  | removed {key : ObjectKey} {object : Object C} {after : Store C}
      (hsettles : settles ⟨found, operation⟩ = false)
      (hplace : place? operation = some key) (hkind : kind? operation = some .delete)
      (hstored : found.lookup key = some object)
      (hobjects : after.objects = found.objects.erase key)
      (hcounts : after.counts = countSuccess found.counts (kind? operation)) :
      CountedEffect found operation (.ok []) after

theorem countedEffect_mutate (found : Store C) (key : ObjectKey) (change : Object C → Object C) :
    CountedEffect found (.mutate key change) ((found.mutate key change).1.map ([·]))
      (found.mutate key change).2 := by
  cases hlookup : found.lookup key with
  | none =>
      rw [mutate_of_missing hlookup]
      exact .failed rfl rfl rfl
  | some stored =>
      rw [mutate_of_stored hlookup]
      exact .placed rfl nofun (by rw [hlookup]; rfl) rfl rfl

theorem countedEffect_get (found : Store C) (uid : String) (ns : Option String) (name : String) :
    CountedEffect found (.call uid (.get ns name)) ((found.fetch ⟨ns, name⟩).map ([·])) found := by
  cases hlookup : found.lookup ⟨ns, name⟩ with
  | none =>
      rw [fetch_of_missing hlookup]
      exact .failed rfl rfl rfl
  | some stored =>
      rw [fetch_of_stored hlookup]
      exact .looked _ rfl rfl rfl

theorem countedEffect_create (found : Store C) (uid : String) (object : Object C) :
    CountedEffect found (.call uid (.create object)) ((found.add uid object).1.map ([·]))
      (found.add uid object).2 := by
  cases hplace : found.lookup (.ofMetadata object.metadata) with
  | some stored =>
      rw [add_of_taken uid hplace]
      exact .failed rfl rfl rfl
  | none =>
      rw [add_of_free uid hplace]
      exact .placed rfl nofun (by rw [hplace]; rfl) rfl rfl

theorem countedEffect_write {operation : Intervention C} {object : Object C}
    {count : WriteCounts → WriteCounts} (found : Store C)
    (hplace : place? operation = some (.ofMetadata object.metadata))
    (hkind : kind? operation = some .replace ∨ kind? operation = some .replaceStatus)
    (hcount : count found.counts = countSuccess found.counts (kind? operation))
    (hsettles : settles ⟨found, operation⟩ = false) :
    CountedEffect found operation ((found.write object count).1.map ([·]))
      (found.write object count).2 := by
  cases replacement_of found object count with
  | missing _ hwrite =>
      rw [hwrite]
      exact .failed hsettles rfl rfl
  | outdated _ _ _ hwrite =>
      rw [hwrite]
      exact .failed hsettles rfl rfl
  | current hlookup _ hwrite =>
      rw [hwrite]
      refine .placed hplace ?_ ?_ rfl hcount
      · rcases hkind with hkind | hkind <;> rw [hkind] <;> decide
      · rcases hkind with hkind | hkind <;> rw [hlookup, hsettles, hkind] <;> rfl

theorem countedEffect_delete (found : Store C) (uid : String) (ns : Option String) (name : String)
    (preconditions : Option Preconditions) :
    CountedEffect found (.call uid (.delete ns name preconditions))
      ((found.remove ⟨ns, name⟩ preconditions).1.map fun _ => [])
      (found.remove ⟨ns, name⟩ preconditions).2 := by
  cases removal_of found ⟨ns, name⟩ preconditions with
  | missing _ hremove =>
      rw [hremove]
      exact .failed rfl rfl rfl
  | refused _ _ hremove =>
      rw [hremove]
      exact .failed rfl rfl rfl
  | removed hlookup _ hremove =>
      rw [hremove]
      exact .removed rfl rfl rfl hlookup rfl rfl

theorem countedEffect_of (moment : Moment C) :
    CountedEffect moment.found moment.operation moment.outcome moment.left := by
  obtain ⟨found, operation⟩ := moment
  cases operation with
  | insert uid object => exact .placed rfl nofun rfl rfl rfl
  | mutate key change => exact countedEffect_mutate found key change
  | call uid request =>
      cases request with
      | get ns name => exact countedEffect_get found uid ns name
      | list ns selector => exact .looked _ rfl rfl rfl
      | create object => exact countedEffect_create found uid object
      | replace object => exact countedEffect_write found rfl (.inl rfl) rfl rfl
      | replaceStatus object => exact countedEffect_write found rfl (.inr rfl) rfl rfl
      | delete ns name preconditions => exact countedEffect_delete found uid ns name preconditions

section Effects

variable {found after : Store C} {operation : Intervention C}

theorem failed_of_countedEffect {failure : Failure}
    (h : CountedEffect found operation (.error failure) after) :
    after.objects = found.objects ∧ after.counts = countFailure found.counts failure ∧
      settles ⟨found, operation⟩ = false := by
  cases h with
  | failed hsettles hobjects hcounts => exact ⟨hobjects, hcounts, hsettles⟩

theorem counts_of_countedEffect {objects : List (Object C)}
    (h : CountedEffect found operation (.ok objects) after) :
    after.counts = countSuccess found.counts (kind? operation) := by
  cases h with
  | looked objects hsettles hplace hkind => rw [hkind, countSuccess]
  | placed hplace hkind hroom hobjects hcounts => exact hcounts
  | removed hsettles hplace hkind hstored hobjects hcounts => exact hcounts

theorem lookup_of_countedEffect {objects : List (Object C)}
    (h : CountedEffect found operation (.ok objects) after) {key : ObjectKey}
    (hkey : place? operation = some key) : after.lookup key = objects.head? := by
  cases h with
  | looked objects hsettles hplace hkind => exact nomatch hplace.symm.trans hkey
  | placed hplace hkind hroom hobjects hcounts =>
      cases hplace.symm.trans hkey
      rw [Store.lookup, hobjects]
      exact get?_insert_self _ _ _
  | removed hsettles hplace hkind hstored hobjects hcounts =>
      cases hplace.symm.trans hkey
      rw [Store.lookup, hobjects]
      exact get?_erase_self _ _

theorem lookup_of_countedEffect_elsewhere {objects : List (Object C)}
    (h : CountedEffect found operation (.ok objects) after) {key : ObjectKey}
    (hkey : place? operation ≠ some key) : after.lookup key = found.lookup key := by
  cases h with
  | looked objects hsettles hplace hkind => rfl
  | placed hplace hkind hroom hobjects hcounts =>
      rw [Store.lookup, hobjects]
      refine get?_insert_of_ne ?_ _ _
      rintro rfl
      exact hkey hplace
  | removed hsettles hplace hkind hstored hobjects hcounts =>
      rw [Store.lookup, hobjects]
      refine get?_erase_of_ne ?_ _
      rintro rfl
      exact hkey hplace

theorem length_of_countedEffect {objects : List (Object C)}
    (h : CountedEffect found operation (.ok objects) after) :
    after.objects.entries.length + (if kind? operation = some .delete then 1 else 0) =
      found.objects.entries.length + ((if settles ⟨found, operation⟩ then 1 else 0) +
        if kind? operation = some .create then 1 else 0) := by
  cases h with
  | looked objects hsettles hplace hkind => simp [hsettles, hkind]
  | placed hplace hkind hroom hobjects hcounts =>
      rw [hobjects, length_insert, if_neg hkind, ← hroom]
      rfl
  | removed hsettles hplace hkind hstored hobjects hcounts =>
      rw [hobjects, hsettles, hkind, ← length_erase hstored]
      rfl

end Effects

theorem uid_lookup_write (store : Store C) (object : Object C)
    (count : WriteCounts → WriteCounts) :
    ((store.write object count).2.lookup (.ofMetadata object.metadata)).map (·.metadata.uid) =
      (store.lookup (.ofMetadata object.metadata)).map (·.metadata.uid) := by
  cases replacement_of store object count with
  | missing _ hwrite => rw [hwrite]
  | outdated _ _ _ hwrite =>
      rw [hwrite]
      rfl
  | current hlookup _ hwrite =>
      rw [hwrite, hlookup]
      exact (congrArg (Option.map _) (lookup_put_self store _ _)).trans rfl

theorem uid_of_replaces {object : Object C} (h : moment.Replaces object) :
    (moment.left.lookup (.ofMetadata object.metadata)).map (·.metadata.uid) =
      (moment.found.lookup (.ofMetadata object.metadata)).map (·.metadata.uid) := by
  obtain ⟨found, operation⟩ := moment
  obtain ⟨uid, rfl | rfl⟩ := h
  · exact uid_lookup_write found object _
  · exact uid_lookup_write found object _

theorem left_of_looks (h : moment.looks = true) : moment.left = moment.found := by
  obtain ⟨found, operation⟩ := moment
  cases operation with
  | insert uid object => contradiction
  | mutate key change => contradiction
  | call uid request => cases request <;> first | rfl | contradiction

theorem counts_left (moment : Moment C) :
    moment.left.counts =
      { creates := moment.found.counts.creates + if carriesOut .create moment then 1 else 0
        replaces := moment.found.counts.replaces + if carriesOut .replace moment then 1 else 0
        statusWrites :=
          moment.found.counts.statusWrites + if carriesOut .replaceStatus moment then 1 else 0
        deletes := moment.found.counts.deletes + if carriesOut .delete moment then 1 else 0
        conflicts := moment.found.counts.conflicts + if disputes moment then 1 else 0 } := by
  have heffect := countedEffect_of moment
  unfold carriesOut disputes
  cases houtcome : moment.outcome with
  | error failure =>
      rw [houtcome] at heffect
      rw [(failed_of_countedEffect heffect).2.1, countFailure]
      simp only [Except.isOk, Except.toBool, Bool.and_false, Bool.false_eq_true, if_false,
        Nat.add_zero]
      split <;> rfl
  | ok objects =>
      rw [houtcome] at heffect
      rw [counts_of_countedEffect heffect]
      simp only [Except.isOk, Except.toBool, Bool.and_true, Bool.false_eq_true, if_false,
        Nat.add_zero]
      cases kind? moment.operation with
      | none => rfl
      | some kind => cases kind <;> rfl

theorem length_left (moment : Moment C) :
    moment.left.objects.entries.length + (if carriesOut .delete moment then 1 else 0) =
      moment.found.objects.entries.length +
        ((if settles moment then 1 else 0) + if carriesOut .create moment then 1 else 0) := by
  have heffect := countedEffect_of moment
  unfold carriesOut
  cases houtcome : moment.outcome with
  | error failure =>
      rw [houtcome] at heffect
      obtain ⟨hobjects, -, hsettles⟩ := failed_of_countedEffect heffect
      have hsettles : settles moment = false := hsettles
      simp [hobjects, hsettles, Except.isOk, Except.toBool]
  | ok objects =>
      rw [houtcome] at heffect
      simpa [Except.isOk, Except.toBool] using length_of_countedEffect heffect

theorem countedByKind (moment : Moment C) : CountedByKind moment := by
  have heffect := countedEffect_of moment
  refine ⟨?_, ?_, ?_, left_of_looks, fun _ => uid_of_replaces⟩
  · intro failure houtcome
    rw [houtcome] at heffect
    exact ⟨(failed_of_countedEffect heffect).1, (failed_of_countedEffect heffect).2.1⟩
  · intro objects houtcome
    rw [houtcome] at heffect
    exact ⟨fun key hkey => lookup_of_countedEffect_elsewhere heffect hkey.symm,
      counts_of_countedEffect heffect⟩
  · intro objects houtcome key hkey
    rw [houtcome] at heffect
    exact lookup_of_countedEffect heffect hkey

variable {history : List (Moment C)}

theorem countP_concat (holds : Moment C → Bool) (history : List (Moment C)) (moment : Moment C) :
    (history ++ [moment]).countP holds = history.countP holds + if holds moment then 1 else 0 := by
  rw [List.countP_append, List.countP_singleton]

theorem writes_eq (moment : Moment C) :
    (if writes moment then 1 else 0) =
      (if carriesOut .create moment then 1 else 0) + (if carriesOut .replace moment then 1 else 0) +
        (if carriesOut .replaceStatus moment then 1 else 0) +
          if carriesOut .delete moment then 1 else 0 := by
  unfold writes carriesOut
  cases kind? moment.operation with
  | none => rfl
  | some kind => cases kind <;> cases moment.outcome.isOk <;> rfl

theorem countersTally_step (h : CountersTally history moment.found) :
    CountersTally (history ++ [moment]) moment.left := by
  constructor
  · rw [counts_left, h.counts]
    simp only [countP_concat]
  · have hsize := h.size
    have hlength := length_left moment
    rw [counts_left, countP_concat]
    dsimp only
    omega
  · have htotal := h.total
    rw [countP_concat, writes_eq, ← htotal, counts_left]
    unfold WriteCounts.total
    dsimp only
    omega

theorem countersTally_run (h : CountersTally history store) (operations : List (Intervention C)) :
    CountersTally (history ++ moments store operations) (disturb store operations) := by
  induction operations generalizing history store with
  | nil => rwa [moments, List.append_nil]
  | cons operation rest ih =>
      have hstep : CountersTally (history ++ [⟨store, operation⟩]) (operation.apply store) :=
        countersTally_step h
      rw [moments, List.append_cons]
      exact ih hstep

theorem countersTally_empty (title : String) : CountersTally [] ({ title } : Store C) :=
  ⟨rfl, rfl, rfl⟩

/-- Every operation is counted by its kind, and after any number of operations on a store that was
empty at first the counters tell how many of each kind have been carried out. -/
theorem countedByKind_and_tally :
    (∀ moment : Moment C, CountedByKind moment) ∧
      ∀ (title : String) (operations : List (Intervention C)),
        CountersTally (moments { title } operations) (disturb { title } operations) :=
  ⟨countedByKind, fun title operations => countersTally_run (countersTally_empty title) operations⟩

end Fleet.Proofs.OperationCounts
