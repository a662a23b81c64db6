import Fleet.Proofs.StatusWrites

namespace Fleet.Proofs.StatusTargets

open Fleet.Proofs.Interference
open Fleet.Proofs.Stores

variable {C Spec Status : Type}

def report (object : Object (Managed Spec Status)) (status : Option Status) :
    Object (Managed Spec Status) :=
  { object with content := { object.content with status } }

/-- The object that a status write goes into, if it is carried out. -/
def target? (turn : Turn C) : Option (Object C) :=
  match turn.call with
  | .replaceStatus object =>
      if turn.writes then turn.found.lookup (.ofMetadata object.metadata) else none
  | _ => none

def foundNext (interludes : List (Interlude C)) (store : Store C) : Store C :=
  disturb store (interludes.headD {}).interventions

def targets {α : Type} (run : Run C α) : List (Object C) := run.turns.filterMap target?

/-- The retry takes an object for the one that was seen: the first attempt has come upon something
else, and what is fetched then is still stored when the status is written once more. -/
structure TakenFor (seen taken : Object C) (interludes : List (Interlude C)) (store : Store C) :
    Prop where
  overtaken : ∃ stored, stored ≠ seen ∧
    (foundNext interludes store).lookup (.ofMetadata seen.metadata) = some stored
  fetched : (foundNext interludes.tail (foundNext interludes store).refuse).lookup
    (.ofMetadata seen.metadata) = some taken
  kept : (foundNext interludes.tail.tail
    (foundNext interludes.tail (foundNext interludes store).refuse)).lookup
      (.ofMetadata taken.metadata) = some taken

variable {store found : Store C} {place : ObjectKey} {uid : String} {seen object : Object C}

/-- What comes of writing a status on a version that was seen before. -/
inductive Attempted (seen object : Object C) (uid : String) (found : Store C) : Prop where
  | missing (h : found.lookup (.ofMetadata seen.metadata) = none)
      (hanswer : found.answer uid (.replaceStatus object) =
        (.error (.notFound found.title object.name), found))
  | current (h : found.lookup (.ofMetadata seen.metadata) = some seen) {written : Object C}
      {after : Store C} (hanswer : found.answer uid (.replaceStatus object) = (.ok written, after))
  | outdated {stored : Object C} (h : found.lookup (.ofMetadata seen.metadata) = some stored)
      (hne : stored ≠ seen) (hanswer : found.answer uid (.replaceStatus object) =
        (.error (.conflict found.title object.name), found.refuse))

theorem attempted (hstore : Reached store) (hseen : store.lookup place = some seen)
    (hlater : Later store found) (hobject : object.metadata = seen.metadata) (uid : String) :
    Attempted seen object uid found := by
  have hanswer : found.answer uid (.replaceStatus object) =
      found.write object Store.countStatusWrite := rfl
  cases replacement_of found object Store.countStatusWrite with
  | missing hlookup hwrite =>
      rw [hobject] at hlookup
      exact .missing hlookup (hanswer.trans hwrite)
  | @outdated stored hlookup _ hother hwrite =>
      rw [hobject] at hlookup hother
      refine .outdated hlookup ?_ (hanswer.trans hwrite)
      rintro rfl
      exact hother rfl
  | @current stored hlookup hagrees hwrite =>
      rw [hobject] at hlookup hagrees
      -- Versions tell the objects apart.
      have hsame : stored = seen := by
        rcases hagrees with hnone | hcurrent
        · obtain ⟨n, -, hversion⟩ := (versioned_of_reached hstore).numbered place seen hseen
          exact nomatch hversion.symm.trans hnone
        · exact (eq_of_version_eq hstore hseen hlater hlookup hcurrent.symm).2
      rw [hsame] at hlookup
      exact .current hlookup (hanswer.trans hwrite)

theorem mem_target?_iff (h : Attempted seen object uid found)
    (hobject : object.metadata = seen.metadata) {target : Object C} :
    target ∈ target? ⟨found, uid, .replaceStatus object⟩ ↔
      target = seen ∧ found.lookup (.ofMetadata seen.metadata) = some seen := by
  have hwrites : (⟨found, uid, .replaceStatus object⟩ : Turn C).writes =
      (found.answer uid (.replaceStatus object)).1.isOk := rfl
  unfold target?
  dsimp only
  rw [hwrites, hobject]
  cases h with
  | missing hlookup hanswer =>
      rw [hanswer, hlookup]
      simp [Except.isOk, Except.toBool]
  | current hlookup hanswer =>
      rw [hanswer, hlookup]
      simp [Except.isOk, Except.toBool, eq_comm]
  | outdated hlookup hne hanswer =>
      rw [hanswer, hlookup]
      simp [Except.isOk, Except.toBool, hne]

theorem later_foundNext (interludes : List (Interlude C)) (store : Store C) :
    Later store (foundNext interludes store) :=
  later_disturb store _

theorem reached_foundNext (h : Reached store) (interludes : List (Interlude C)) :
    Reached (foundNext interludes store) :=
  reached_disturb h _

theorem not_mem_target?_get (found : Store C) (uid : String) (ns : Option String) (name : String)
    (object : Object C) : object ∉ target? ⟨found, uid, .get ns name⟩ :=
  Option.not_mem_none object

theorem mem_targets_ask_iff {α : Type} {call : Store.Call C}
    {next : call.Reply → Store.Access C α} {interludes : List (Interlude C)} {target : Object C} :
    target ∈ targets (runAmong (.ask call next) interludes store) ↔
      target ∈ target? ⟨foundNext interludes store, (interludes.headD {}).uid, call⟩ ∨
        target ∈ targets (runAmong
          (next ((foundNext interludes store).answer (interludes.headD {}).uid call).1)
          interludes.tail
          ((foundNext interludes store).answer (interludes.headD {}).uid call).2) := by
  change target ∈ (_ :: _).filterMap target? ↔ _
  rw [List.mem_filterMap]
  simp only [List.mem_cons, exists_eq_or_imp]
  exact or_congr_right List.mem_filterMap.symm

theorem not_mem_targets_done {α : Type} (result : α) (interludes : List (Interlude C))
    (store : Store C) (target : Object C) :
    target ∉ targets (runAmong (.done result) interludes store) :=
  List.not_mem_nil

section Writes

variable {store : Store (Managed Spec Status)} {place : ObjectKey}
  {seen object target : Object (Managed Spec Status)}
  {interludes : List (Interlude (Managed Spec Status))}

/-- The retry goes into what it fetches, if that stays until the write. -/
theorem mem_targets_retryStatus_iff (hstore : Reached store) :
    target ∈ targets (runAmong (Store.retryStatus object) interludes store) ↔
      (foundNext interludes store).lookup (.ofMetadata object.metadata) = some target ∧
        (foundNext interludes.tail (foundNext interludes store)).lookup
          (.ofMetadata target.metadata) = some target := by
  have hanswer : (foundNext interludes store).answer (interludes.headD {}).uid
      (.get object.metadata.namespace object.name) =
        ((foundNext interludes store).fetch (.ofMetadata object.metadata),
          foundNext interludes store) := rfl
  rw [Store.retryStatus, mem_targets_ask_iff, or_iff_right (not_mem_target?_get _ _ _ _ _),
    hanswer]
  cases hstored : (foundNext interludes store).lookup (.ofMetadata object.metadata) with
  | none =>
      rw [fetch_of_missing hstored]
      simp [not_mem_targets_done]
  | some latest =>
      rw [fetch_of_stored hstored]
      dsimp only
      have hattempted := attempted (reached_foundNext hstore interludes) hstored
        (later_foundNext interludes.tail _) (Store.metadata_carryStatus object latest)
        (interludes.tail.headD {}).uid
      rw [Store.replaceStatus, mem_targets_ask_iff,
        or_iff_left (not_mem_targets_done _ _ _ _),
        mem_target?_iff hattempted (Store.metadata_carryStatus object latest), Option.some.injEq]
      constructor
      · rintro ⟨rfl, hkept⟩
        exact ⟨rfl, hkept⟩
      · rintro ⟨rfl, hkept⟩
        exact ⟨rfl, hkept⟩

/-- A status that is to be put on a version seen before goes into that version, or into an object
that is taken for it. -/
theorem mem_targets_persistStatus_iff (hstore : Reached store)
    (hseen : store.lookup place = some seen) (object : Object (Managed Spec Status))
    (hobject : object.metadata = seen.metadata) :
    target ∈ targets (runAmong (Store.persistStatus object) interludes store) ↔
      target = seen ∧
          (foundNext interludes store).lookup (.ofMetadata seen.metadata) = some seen ∨
        TakenFor seen target interludes store := by
  have hattempted := attempted hstore hseen (later_foundNext interludes store) hobject
    (interludes.headD {}).uid
  rw [Store.persistStatus_eq, mem_targets_ask_iff, mem_target?_iff hattempted hobject]
  refine or_congr_right ?_
  -- Only a refusal is followed by a retry.
  cases hattempted with
  | missing hlookup hanswer =>
      rw [hanswer]
      refine iff_of_false (not_mem_targets_done _ _ _ _) fun htaken => ?_
      obtain ⟨stored, -, hstored⟩ := htaken.overtaken
      exact nomatch hlookup.symm.trans hstored
  | current hlookup hanswer =>
      rw [hanswer]
      refine iff_of_false (not_mem_targets_done _ _ _ _) fun htaken => ?_
      obtain ⟨stored, hne, hstored⟩ := htaken.overtaken
      exact hne (Option.some.inj (hstored.symm.trans hlookup))
  | @outdated stored hlookup hne hanswer =>
      rw [hanswer]
      have hleft : Reached (foundNext interludes store).refuse := by
        have hanswered := Reached.answer (interludes.headD {}).uid (.replaceStatus object)
          (reached_foundNext hstore interludes)
        rwa [hanswer] at hanswered
      refine (mem_targets_retryStatus_iff hleft).trans ?_
      rw [hobject]
      constructor
      · rintro ⟨hfetched, hkept⟩
        exact ⟨⟨stored, hne, hlookup⟩, hfetched, hkept⟩
      · rintro ⟨-, hfetched, hkept⟩
        exact ⟨hfetched, hkept⟩

/-- A status that is to be put on a version seen before stays with the object that it is about
exactly if none of another identity is ever taken for that object. -/
theorem targets_uid_eq_iff (hstore : Reached store) (hseen : store.lookup place = some seen)
    (status : Option Status) (interludes : List (Interlude (Managed Spec Status))) :
    (∀ target ∈ targets (runAmong (Store.persistStatus (report seen status)) interludes store),
        target.metadata.uid = seen.metadata.uid) ↔
      ∀ taken, TakenFor seen taken interludes store → taken.metadata.uid = seen.metadata.uid := by
  constructor
  · intro hstays taken htaken
    refine hstays taken ?_
    exact (mem_targets_persistStatus_iff hstore hseen (report seen status) rfl).mpr (.inr htaken)
  · intro hsame target htarget
    rcases (mem_targets_persistStatus_iff hstore hseen (report seen status) rfl).mp htarget with
      ⟨rfl, -⟩ | htaken
    · rfl
    · exact hsame target htaken

end Writes

open Fleet.Proofs.StatusWrites

/-- The printer is given away, and another one takes its name. -/
def exchange : Interlude (Managed String String) :=
  { interventions :=
      [.call "" (.delete (some "lab") "printer" none),
        .call "uid-successor" (.create { printer with content := { spec := "new" } })] }

/-- The printer is changed before the first attempt and given away before the retry. Its status ends
up on its successor. -/
theorem target_uid_ne_after_exchange :
    ¬ ∀ target ∈ targets (runAmong (Store.persistStatus (report printer (some "broken")))
        [hasten, exchange] office), target.metadata.uid = printer.metadata.uid := by
  decide

/-- The successor is spared if it changes before the retry as well. -/
theorem targets_uid_eq_iff_after_exchange :
    (runAmong (Store.persistStatus (report printer (some "broken")))
        [hasten, exchange, hasten] office).turns.map
        (fun turn => (turn.call.method, turn.writes)) =
        [(.replaceStatus, false), (.get, false), (.replaceStatus, false)] ∧
      ((∀ target ∈ targets (runAmong (Store.persistStatus (report printer (some "broken")))
          [hasten, exchange, hasten] office), target.metadata.uid = printer.metadata.uid) ↔
        ∀ taken, TakenFor printer taken [hasten, exchange, hasten] office →
          taken.metadata.uid = printer.metadata.uid) :=
  ⟨by decide, targets_uid_eq_iff (.insert _ _ (.empty _))
    (show office.lookup ⟨some "lab", "printer"⟩ = some printer by decide) (some "broken") _⟩

end Fleet.Proofs.StatusTargets
