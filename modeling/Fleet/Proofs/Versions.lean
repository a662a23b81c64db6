import Fleet.Proofs.Interference

namespace Fleet.Proofs.Versions

open Fleet.Proofs.Interference
open Fleet.Proofs.Stores

variable {C : Type}

/-- An operation on a store, and the store as the operation finds it. -/
structure Moment (C : Type) where
  found : Store C
  operation : Intervention C

namespace Moment

def left (moment : Moment C) : Store C := moment.operation.apply moment.found

def outcome (moment : Moment C) : Except Failure (List (Object C)) :=
  match moment.operation with
  | .insert uid object => .ok [(moment.found.insert uid object).1]
  | .mutate key change => (moment.found.mutate key change).1.map ([·])
  | .call _ (.get ns name) => (moment.found.fetch ⟨ns, name⟩).map ([·])
  | .call _ (.list ns selector) => .ok (moment.found.select ns selector)
  | .call uid (.create object) => (moment.found.add uid object).1.map ([·])
  | .call _ (.replace object) => (moment.found.write object Store.countReplace).1.map ([·])
  | .call _ (.replaceStatus object) =>
      (moment.found.write object Store.countStatusWrite).1.map ([·])
  | .call _ (.delete ns name preconditions) =>
      (moment.found.remove ⟨ns, name⟩ preconditions).1.map fun _ => []

def Hands (moment : Moment C) (object : Object C) : Prop :=
  ∃ objects, moment.outcome = .ok objects ∧ object ∈ objects

def looks (moment : Moment C) : Bool :=
  match moment.operation with
  | .call _ (.get ..) => true
  | .call _ (.list ..) => true
  | _ => false

/-- The operation writes an object, and hands it to its client as it is stored. -/
def Writes (moment : Moment C) (object : Object C) : Prop :=
  moment.looks = false ∧ moment.Hands object

/-- The operation is to replace the object, or its status. -/
def Replaces (moment : Moment C) (object : Object C) : Prop :=
  ∃ uid, moment.operation = .call uid (.replace object) ∨
    moment.operation = .call uid (.replaceStatus object)

end Moment

def moments : Store C → List (Intervention C) → List (Moment C)
  | _, [] => []
  | store, operation :: rest => ⟨store, operation⟩ :: moments (operation.apply store) rest

/-- The version of an object, read as a number. -/
def versionOf (object : Object C) : Option Nat :=
  object.metadata.resourceVersion.bind String.toNat?

/-- The object is the state that the version was handed out for. -/
def HandedOut (past : List (Moment C)) (version : String) (object : Object C) : Prop :=
  ∃ moment ∈ past, moment.Writes object ∧ object.metadata.resourceVersion = some version

/-- What comes of replacing an object by one that carries a version. -/
structure ReplacesAsVersioned (past : List (Moment C)) (moment : Moment C) (object : Object C)
    (version : String) : Prop where
  succeeds : (∃ written, moment.outcome = .ok [written]) ↔ ∃ stored,
    HandedOut past version stored ∧ moment.found.lookup (.ofMetadata object.metadata) = some stored
  missing : moment.found.lookup (.ofMetadata object.metadata) = none →
    moment.outcome = .error (.notFound moment.found.title object.name)
  outdated : ∀ stored, moment.found.lookup (.ofMetadata object.metadata) = some stored →
    ¬ HandedOut past version stored →
      moment.outcome = .error (.conflict moment.found.title object.name)

/-- A history in which versions order the writes. -/
structure VersionOrdered (history : List (Moment C)) : Prop where
  /-- A version is at most the number of operations. -/
  bounded : ∀ moment ∈ history, ∀ written, moment.Writes written →
    ∃ n ≤ history.length, versionOf written = some n
  grows : history.Pairwise fun earlier later => ∀ old new, earlier.Writes old →
    later.Writes new → ∃ m n, versionOf old = some m ∧ versionOf new = some n ∧ m < n
  judged : ∀ past moment rest, history = past ++ moment :: rest → ∀ object,
    moment.Replaces object → ∀ version, object.metadata.resourceVersion = some version →
      ReplacesAsVersioned past moment object version
  /-- What was read stays in its place until the version that was read is written over. -/
  kept : ∀ past read between write rest,
    history = past ++ read :: (between ++ write :: rest) → ∀ seen object written,
      read.Hands seen → write.Replaces object → write.outcome = .ok [written] →
        object.metadata.resourceVersion = seen.metadata.resourceVersion →
          ∀ moment ∈ between ++ [write],
            moment.found.lookup (.ofMetadata object.metadata) = some seen

variable {store : Store C} {moment : Moment C} {object written : Object C}

theorem versionOf_eq {n : Nat}
    (h : object.metadata.resourceVersion = some (Store.versionText n)) :
    versionOf object = some n := by
  rw [versionOf, h]
  exact Nat.toNat?_repr n

/-- An object is stored under a key as the next version of the store. -/
structure Entered (store : Store C) (written : Object C) (after : Store C) : Prop where
  place : ∃ key, after.objects = store.objects.insert key written
  version : after.version = store.version + 1
  resourceVersion : written.metadata.resourceVersion = some (Store.versionText after.version)

/-- A change that stores no object. It may use up a version, as a change of nothing does. -/
structure Bare (store after : Store C) : Prop where
  objects : ∀ key object, after.lookup key = some object → store.lookup key = some object
  version : after.version ≤ store.version + 1

theorem bare_refl (store : Store C) : Bare store store :=
  ⟨fun _ _ hobject => hobject, Nat.le_succ _⟩

/-- What an attempt to write one object can come to. -/
def WriteAttempt (store : Store C) (result : Except Failure (Object C) × Store C) : Prop :=
  (∃ written, result.1 = .ok written ∧ Entered store written result.2) ∨
    ∃ failure, result.1 = .error failure ∧ Bare store result.2

theorem entered_put (store : Store C) (key : ObjectKey) (object : Object C) (counts : WriteCounts) :
    Entered store (store.stamp object) { store.put key (store.stamp object) with counts } :=
  ⟨⟨key, rfl⟩, rfl, rfl⟩

theorem writeAttempt_add (store : Store C) (uid : String) (object : Object C) :
    WriteAttempt store (store.add uid object) := by
  cases hplace : store.lookup (.ofMetadata object.metadata) with
  | some stored =>
      rw [add_of_taken uid hplace]
      exact .inr ⟨_, rfl, bare_refl store⟩
  | none =>
      rw [add_of_free uid hplace]
      exact .inl ⟨_, rfl, entered_put store _ _ _⟩

theorem writeAttempt_write (store : Store C) (object : Object C)
    (count : WriteCounts → WriteCounts) :
    WriteAttempt store (store.write object count) := by
  cases replacement_of store object count with
  | missing _ hwrite =>
      rw [hwrite]
      exact .inr ⟨_, rfl, bare_refl store⟩
  | outdated _ _ _ hwrite =>
      rw [hwrite]
      exact .inr ⟨_, rfl, fun _ _ hobject => hobject, Nat.le_succ _⟩
  | current _ _ hwrite =>
      rw [hwrite]
      exact .inl ⟨_, rfl, entered_put store _ _ _⟩

theorem writeAttempt_mutate (store : Store C) (key : ObjectKey) (change : Object C → Object C) :
    WriteAttempt store (store.mutate key change) := by
  cases hlookup : store.lookup key with
  | none =>
      rw [mutate_of_missing hlookup]
      exact .inr ⟨_, rfl, fun _ _ hobject => hobject, Nat.le_refl _⟩
  | some stored =>
      rw [mutate_of_stored hlookup]
      exact .inl ⟨_, rfl, entered_put store key _ store.counts⟩

theorem bare_remove (store : Store C) (key : ObjectKey) (preconditions : Option Preconditions) :
    Bare store (store.remove key preconditions).2 := by
  refine ⟨fun _ _ hobject => lookup_of_lookup_remove hobject, ?_⟩
  rw [version_remove]
  exact Nat.le_succ _

/-- What an operation can do: it writes one object and hands it out, or it writes none. -/
theorem entered_or_bare (moment : Moment C) :
    (∃ written, moment.looks = false ∧ moment.outcome = .ok [written] ∧
        Entered moment.found written moment.left) ∨
      (∀ written, ¬ moment.Writes written) ∧ Bare moment.found moment.left := by
  -- Seeding, changing, creating and replacing are attempts to write one object.
  have hattempt : ∀ result : Except Failure (Object C) × Store C, WriteAttempt moment.found result →
      moment.looks = false → moment.outcome = result.1.map ([·]) → moment.left = result.2 →
        (∃ written, moment.looks = false ∧ moment.outcome = .ok [written] ∧
            Entered moment.found written moment.left) ∨
          (∀ written, ¬ moment.Writes written) ∧ Bare moment.found moment.left := by
    rintro result (⟨written, hresult, hentered⟩ | ⟨failure, hresult, hbare⟩) hlooks houtcome hleft
    · rw [hresult] at houtcome
      exact .inl ⟨written, hlooks, houtcome, hleft ▸ hentered⟩
    · rw [hresult] at houtcome
      refine .inr ⟨?_, hleft ▸ hbare⟩
      rintro written ⟨-, objects, hobjects, -⟩
      rw [houtcome] at hobjects
      contradiction
  obtain ⟨found, operation⟩ := moment
  cases operation with
  | insert uid object => exact .inl ⟨_, rfl, rfl, entered_put found _ _ found.counts⟩
  | mutate key change => exact hattempt _ (writeAttempt_mutate found key change) rfl rfl rfl
  | call uid request =>
      cases request with
      | get => exact .inr ⟨fun _ hwrites => absurd hwrites.1 nofun, bare_refl found⟩
      | list => exact .inr ⟨fun _ hwrites => absurd hwrites.1 nofun, bare_refl found⟩
      | create object => exact hattempt _ (writeAttempt_add found uid object) rfl rfl rfl
      | replace object => exact hattempt _ (writeAttempt_write found object _) rfl rfl rfl
      | replaceStatus object => exact hattempt _ (writeAttempt_write found object _) rfl rfl rfl
      | delete ns name preconditions =>
          refine .inr ⟨?_, bare_remove found ⟨ns, name⟩ preconditions⟩
          rintro written ⟨-, objects, hobjects, hmem⟩
          dsimp only [Moment.outcome] at hobjects
          cases hremoved : (found.remove ⟨ns, name⟩ preconditions).1 with
          | error failure =>
              rw [hremoved] at hobjects
              contradiction
          | ok gone =>
              rw [hremoved] at hobjects
              cases hobjects
              contradiction

theorem entered_of_writes (h : moment.Writes written) :
    Entered moment.found written moment.left := by
  rcases entered_or_bare moment with ⟨object, -, houtcome, hentered⟩ | ⟨hnone, -⟩
  · obtain ⟨-, objects, hobjects, hmem⟩ := h
    rw [houtcome] at hobjects
    cases hobjects
    cases List.mem_singleton.mp hmem
    exact hentered
  · exact absurd h (hnone written)

theorem version_left_le (moment : Moment C) : moment.left.version ≤ moment.found.version + 1 := by
  rcases entered_or_bare moment with ⟨object, -, -, hentered⟩ | ⟨-, hbare⟩
  · exact Nat.le_of_eq hentered.version
  · exact hbare.version

theorem stored_or_writes (moment : Moment C) {key : ObjectKey}
    (h : moment.left.lookup key = some object) :
    moment.found.lookup key = some object ∨ moment.Writes object := by
  rcases entered_or_bare moment with ⟨written, hlooks, houtcome, hentered⟩ | ⟨-, hbare⟩
  · obtain ⟨place, hplace⟩ := hentered.place
    rw [Store.lookup, hplace] at h
    by_cases hkey : key = place
    · rw [hkey, get?_insert_self] at h
      cases h
      exact .inr ⟨hlooks, _, houtcome, List.mem_singleton_self _⟩
    · rw [get?_insert_of_ne hkey] at h
      exact .inl h
  · exact .inl (hbare.objects key object h)

theorem stored_of_hands (h : moment.Hands object) :
    ∃ key, moment.left.lookup key = some object := by
  cases hlooks : moment.looks with
  | false =>
      obtain ⟨key, hkey⟩ := (entered_of_writes ⟨hlooks, h⟩).place
      exact ⟨key, by rw [Store.lookup, hkey, get?_insert_self]⟩
  | true =>
      obtain ⟨objects, hobjects, hmem⟩ := h
      obtain ⟨found, operation⟩ := moment
      cases operation with
      | insert => contradiction
      | mutate => contradiction
      | call uid request =>
          cases request with
          | get ns name =>
              refine ⟨⟨ns, name⟩, ?_⟩
              dsimp only [Moment.outcome] at hobjects
              cases hfetch : found.fetch ⟨ns, name⟩ with
              | error failure =>
                  rw [hfetch] at hobjects
                  contradiction
              | ok stored =>
                  rw [hfetch] at hobjects
                  cases hobjects
                  cases List.mem_singleton.mp hmem
                  exact fetch_ok.mp hfetch
          | list ns selector =>
              cases hobjects
              obtain ⟨key, hkey, -⟩ := mem_select.mp hmem
              exact ⟨key, hkey⟩
          | create => contradiction
          | replace => contradiction
          | replaceStatus => contradiction
          | delete => contradiction

/-- A replacement that carries a version goes through exactly on the stored one. -/
theorem outcome_of_replaces {version : String} (h : moment.Replaces object)
    (hversion : object.metadata.resourceVersion = some version) :
    moment.outcome =
      match moment.found.lookup (.ofMetadata object.metadata) with
      | none => .error (.notFound moment.found.title object.name)
      | some stored =>
          if stored.metadata.resourceVersion = some version then
            .ok [moment.found.stamp (Store.identify object stored.metadata.uid)]
          else .error (.conflict moment.found.title object.name) := by
  have hwrite : ∃ count, moment.outcome = (moment.found.write object count).1.map ([·]) := by
    obtain ⟨found, operation⟩ := moment
    obtain ⟨uid, rfl | rfl⟩ := h
    · exact ⟨_, rfl⟩
    · exact ⟨_, rfl⟩
  obtain ⟨count, houtcome⟩ := hwrite
  rw [houtcome]
  cases replacement_of moment.found object count with
  | missing hlookup hwrite =>
      rw [hwrite, hlookup]
      rfl
  | outdated hlookup _ hother hwrite =>
      rw [hversion] at hother
      rw [hwrite, hlookup]
      exact (if_neg (Ne.symm hother)).symm
  | current hlookup hagrees hwrite =>
      rw [hversion] at hagrees
      rw [hwrite, hlookup]
      exact (if_pos (hagrees.resolve_left nofun).symm).symm

variable {operations : List (Intervention C)}

theorem later_left (moment : Moment C) : Later moment.found moment.left :=
  later_of_addsOneVersion (addsOneVersion_apply _ _)

theorem later_of_mem_moments (h : moment ∈ moments store operations) :
    Later store moment.found := by
  induction operations generalizing store with
  | nil => contradiction
  | cons operation rest ih =>
      rcases List.mem_cons.mp h with rfl | hrest
      · exact later_refl store
      · exact later_trans (later_left ⟨store, operation⟩) (ih hrest)

theorem moments_later (store : Store C) (operations : List (Intervention C)) :
    (moments store operations).Pairwise fun earlier later => Later earlier.left later.found := by
  induction operations generalizing store with
  | nil => exact .nil
  | cons operation rest ih => exact .cons (fun _ hmoment => later_of_mem_moments hmoment) (ih _)

theorem reached_of_mem_moments (hstore : Reached store) (h : moment ∈ moments store operations) :
    Reached moment.found := by
  induction operations generalizing store with
  | nil => contradiction
  | cons operation rest ih =>
      rcases List.mem_cons.mp h with rfl | hrest
      · exact hstore
      · exact ih (reached_disturb hstore [operation]) hrest

theorem version_le_of_mem_moments (h : moment ∈ moments store operations) :
    moment.left.version ≤ store.version + (moments store operations).length := by
  induction operations generalizing store with
  | nil => contradiction
  | cons operation rest ih =>
      have hstep : (operation.apply store).version ≤ store.version + 1 :=
        version_left_le ⟨store, operation⟩
      rw [moments, List.length_cons]
      rcases List.mem_cons.mp h with rfl | hrest
      · change (operation.apply store).version ≤ _
        omega
      · have hle := ih hrest
        omega

theorem written_of_stored {past rest : List (Moment C)} {key : ObjectKey}
    (h : moments store operations = past ++ moment :: rest)
    (hobject : moment.found.lookup key = some object) :
    store.lookup key = some object ∨ ∃ earlier ∈ past, earlier.Writes object := by
  induction operations generalizing store past with
  | nil => simp [moments] at h
  | cons operation later ih =>
      cases past with
      | nil =>
          cases h
          exact .inl hobject
      | cons first past =>
          obtain ⟨rfl, hrest⟩ := List.cons.inj h
          rcases ih hrest with hstored | ⟨earlier, hmem, hwrites⟩
          · rcases stored_or_writes ⟨store, operation⟩ hstored with hold | hwrites
            · exact .inl hold
            · exact .inr ⟨_, List.mem_cons_self, hwrites⟩
          · exact .inr ⟨earlier, List.mem_cons_of_mem _ hmem, hwrites⟩

theorem replacesAsVersioned_of_split {title version : String} {past rest : List (Moment C)}
    (h : moments { title } operations = past ++ moment :: rest) (hreplaces : moment.Replaces object)
    (hversion : object.metadata.resourceVersion = some version) :
    ReplacesAsVersioned past moment object version := by
  have houtcome := outcome_of_replaces hreplaces hversion
  have hstored : ∀ {key stored}, moment.found.lookup key = some stored →
      (stored.metadata.resourceVersion = some version ↔ HandedOut past version stored) := by
    intro key stored hstored
    constructor
    · intro hcurrent
      rcases written_of_stored h hstored with hfirst | ⟨earlier, hmem, hwrites⟩
      · exact nomatch hfirst
      · exact ⟨earlier, hmem, hwrites, hcurrent⟩
    · rintro ⟨_, -, -, hcurrent⟩
      exact hcurrent
  refine ⟨⟨?_, ?_⟩, ?_, ?_⟩
  · rintro ⟨written, hwritten⟩
    rw [houtcome] at hwritten
    split at hwritten
    · contradiction
    · rename_i stored hlookup
      split at hwritten
      · rename_i hcurrent
        exact ⟨stored, (hstored hlookup).mp hcurrent, hlookup⟩
      · contradiction
  · rintro ⟨stored, hhanded, hlookup⟩
    rw [houtcome, hlookup]
    exact ⟨_, if_pos ((hstored hlookup).mpr hhanded)⟩
  · intro hmissing
    rw [houtcome, hmissing]
  · intro stored hlookup hother
    rw [houtcome, hlookup]
    exact if_neg fun hcurrent => hother ((hstored hlookup).mp hcurrent)

/-- An object that is found where it was seen, at two moments, is found there at all moments in
between. -/
theorem kept_between {seen : Object C} {middle final : Store C} {key : ObjectKey}
    (hseen : Numbered store seen) (hmiddle : Later store middle) (hfinal : Later middle final)
    (hstored : final.lookup key = some seen) : middle.lookup key = some seen := by
  rcases hfinal.known key seen hstored with hold | ⟨n, hn, hnew⟩
  · exact hold
  · obtain ⟨m, hm, hgiven⟩ := hseen
    have hsame := versionText_injective (Option.some.inj (hgiven.symm.trans hnew))
    have hle := hmiddle.version
    omega

theorem kept_of_split {past between rest : List (Moment C)} {read write : Moment C}
    {seen : Object C} (hstore : Reached store)
    (h : moments store operations = past ++ read :: (between ++ write :: rest))
    (hseen : read.Hands seen) (hreplaces : write.Replaces object)
    (hwritten : write.outcome = .ok [written])
    (hversion : object.metadata.resourceVersion = seen.metadata.resourceVersion) :
    ∀ moment ∈ between ++ [write],
      moment.found.lookup (.ofMetadata object.metadata) = some seen := by
  have hpairwise := h ▸ moments_later store operations
  obtain ⟨hread, hlater⟩ := List.pairwise_cons.mp (List.pairwise_append.mp hpairwise).2.1
  have hmem : read ∈ moments store operations := by simp [h]
  have hleft : Reached read.left :=
    reached_disturb (reached_of_mem_moments hstore hmem) [read.operation]
  obtain ⟨place, hplace⟩ := stored_of_hands hseen
  have hnumbered : Numbered read.left seen :=
    (versioned_of_reached hleft).numbered place seen hplace
  -- The version that is carried is the stored one, so what was seen is still stored.
  have hcurrent : write.found.lookup (.ofMetadata object.metadata) = some seen := by
    obtain ⟨n, -, hgiven⟩ := hnumbered
    rw [outcome_of_replaces hreplaces (hversion.trans hgiven)] at hwritten
    split at hwritten
    · contradiction
    · rename_i stored hlookup
      split at hwritten
      · rename_i hsame
        have heq := eq_of_version_eq hleft hplace (hread write (by simp)) hlookup
          (hsame.trans hgiven.symm)
        rw [hlookup, heq.2]
      · contradiction
  intro moment hmoment
  rcases List.mem_append.mp hmoment with hbetween | hlast
  · have hfinal : Later moment.left write.found :=
      (List.pairwise_append.mp hlater).2.2 moment hbetween write List.mem_cons_self
    exact kept_between hnumbered (hread moment (List.mem_append_left _ hbetween))
      (later_trans (later_left moment) hfinal) hcurrent
  · rw [List.mem_singleton.mp hlast]
    exact hcurrent

/-- Whatever clients do to a store that is empty at first, versions order what they write. -/
theorem versionOrdered_moments (title : String) (operations : List (Intervention C)) :
    VersionOrdered (moments { title } operations) := by
  have hreached : Reached { title : Store C } := .empty title
  refine ⟨?_, ?_, ?_, ?_⟩
  · intro moment hmoment written hwrites
    refine ⟨moment.left.version, ?_, versionOf_eq (entered_of_writes hwrites).resourceVersion⟩
    simpa using version_le_of_mem_moments hmoment
  · refine (moments_later _ operations).imp ?_
    intro earlier later hlater old new hold hnew
    have hentered := entered_of_writes hnew
    refine ⟨_, _, versionOf_eq (entered_of_writes hold).resourceVersion,
      versionOf_eq hentered.resourceVersion, ?_⟩
    calc earlier.left.version ≤ later.found.version := hlater.version
      _ < later.left.version := hentered.version ▸ Nat.lt_succ_self _
  · intro past moment rest hsplit object hreplaces version hversion
    exact replacesAsVersioned_of_split hsplit hreplaces hversion
  · intro past read between write rest hsplit seen object written hseen hreplaces hwritten hversion
    exact kept_of_split hreached hsplit hseen hreplaces hwritten hversion

end Fleet.Proofs.Versions
