import Fleet.Proofs.Interference

namespace Fleet.Proofs.StatusWrites

open Fleet.Proofs.Interference
open Fleet.Proofs.Stores

variable {Spec Status : Type}

/-- A call puts a status on the object that is stored when it is made, and changes nothing else. -/
structure Restates (turn : Turn (Managed Spec Status)) (status : Status)
    (stored written : Object (Managed Spec Status)) : Prop where
  found : turn.found.lookup (.ofMetadata written.metadata) = some stored
  status : written.status = some status
  spec : written.spec = stored.spec
  metadata : written.metadata =
    { stored.metadata with resourceVersion := written.metadata.resourceVersion }
  left : turn.left.objects = turn.found.objects.insert (.ofMetadata written.metadata) written

/-- How often a run writes a status, and what comes of it. -/
structure WritesOnce (status : Status)
    (run : Run (Managed Spec Status) (Except Failure (Object (Managed Spec Status)))) :
    Prop where
  looks : ∀ turn ∈ run.turns, turn.isStatusWrite = false → turn.left = turn.found
  refused : ∀ turn ∈ run.turns, turn.writes = false → turn.left.objects = turn.found.objects
  attempts : (run.turns.filter Turn.isStatusWrite).length ≤ 2
  successes : (run.turns.filter Turn.writes).length ≤ 1
  written : ∀ written, run.result = .ok written → ∃ turn stored,
    run.turns.filter Turn.writes = [turn] ∧ Restates turn status stored written
  failed : ∀ failure, run.result = .error failure → run.turns.filter Turn.writes = []

variable {store found : Store (Managed Spec Status)} {place : ObjectKey} {uid : String}
  {seen written : Object (Managed Spec Status)} {status : Status}

abbrev attempt (found : Store (Managed Spec Status)) (uid : String)
    (seen : Object (Managed Spec Status)) (status : Status) : Turn (Managed Spec Status) :=
  { found, uid, call := .replaceStatus (seen.setStatus status) }

/-- An attempt succeeds only while the version that was seen is stored. -/
theorem restates_of_reply (hstore : Reached store) (hseen : store.lookup place = some seen)
    (hlater : Later store found) (hreply : (attempt found uid seen status).reply = .ok written) :
    Restates (attempt found uid seen status) status seen written := by
  have hwrite : found.write (seen.setStatus status) Store.countStatusWrite =
      (.ok written, (attempt found uid seen status).left) :=
    Prod.ext hreply rfl
  obtain ⟨stored, hstored, hversion, rfl, hobjects, -⟩ := write_ok hwrite
  -- The version is one that the store has given, so it tells the stored object.
  have hsame : stored.metadata.resourceVersion = seen.metadata.resourceVersion := by
    rcases hversion with hnone | hcarried
    · obtain ⟨n, -, hgiven⟩ := (versioned_of_reached hstore).numbered place seen hseen
      exact absurd (hnone.symm.trans hgiven) nofun
    · exact hcarried.symm
  obtain ⟨-, rfl⟩ := eq_of_version_eq hstore hseen hlater hstored hsame
  exact ⟨hstored, rfl, rfl, rfl, hobjects⟩

/-- A turn that writes nothing; unless it is an attempt, it changes nothing at all. -/
structure Idle (turn : Turn (Managed Spec Status)) : Prop where
  writes : turn.writes = false
  objects : turn.left.objects = turn.found.objects
  looks : turn.isStatusWrite = false → turn.left = turn.found

theorem idle_get (found : Store (Managed Spec Status)) (uid : String) (ns : Option String)
    (name : String) : Idle ⟨found, uid, .get ns name⟩ :=
  ⟨rfl, rfl, fun _ => rfl⟩

theorem idle_attempt {failure : Failure}
    (hreply : (attempt found uid seen status).reply = .error failure) :
    Idle (attempt found uid seen status) := by
  have hwrite : found.write (seen.setStatus status) Store.countStatusWrite =
      (.error failure, (attempt found uid seen status).left) :=
    Prod.ext hreply rfl
  refine ⟨?_, (write_error hwrite).1, nofun⟩
  change (attempt found uid seen status).reply.isOk = false
  rw [hreply]
  rfl

theorem writesOnce_of_idle {turns : List (Turn (Managed Spec Status))} (failure : Failure)
    (hidle : ∀ turn ∈ turns, Idle turn)
    (hattempts : (turns.filter Turn.isStatusWrite).length ≤ 2) :
    WritesOnce status ⟨.error failure, turns⟩ := by
  have hnone : turns.filter Turn.writes = [] :=
    List.filter_eq_nil_iff.mpr fun turn hturn => by simp [(hidle turn hturn).writes]
  refine ⟨fun turn hturn => (hidle turn hturn).looks,
    fun turn hturn _ => (hidle turn hturn).objects, hattempts, ?_, ?_, fun _ _ => hnone⟩
  · rw [hnone]
    exact Nat.zero_le _
  · intro written hok
    contradiction

theorem writesOnce_of_attempt {earlier : List (Turn (Managed Spec Status))}
    (hidle : ∀ turn ∈ earlier, Idle turn)
    (hattempts : (earlier.filter Turn.isStatusWrite).length ≤ 1)
    (hstore : Reached store) (hseen : store.lookup place = some seen) (hlater : Later store found) :
    WritesOnce status
      ⟨(attempt found uid seen status).reply, earlier ++ [attempt found uid seen status]⟩ := by
  have htwo : ((earlier ++ [attempt found uid seen status]).filter Turn.isStatusWrite).length ≤
      2 := by
    rw [List.filter_append, List.length_append]
    exact Nat.add_le_add hattempts (List.length_filter_le _ _)
  cases hreply : (attempt found uid seen status).reply with
  | error failure =>
      refine writesOnce_of_idle failure ?_ htwo
      intro turn hturn
      rcases List.mem_append.mp hturn with hold | hlast
      · exact hidle turn hold
      · rw [List.mem_singleton.mp hlast]
        exact idle_attempt hreply
  | ok written =>
      have hwrites : (attempt found uid seen status).writes = true := by
        change (attempt found uid seen status).reply.isOk = true
        rw [hreply]
        rfl
      have hone : (earlier ++ [attempt found uid seen status]).filter Turn.writes =
          [attempt found uid seen status] := by
        have hnone : earlier.filter Turn.writes = [] :=
          List.filter_eq_nil_iff.mpr fun turn hturn => by simp [(hidle turn hturn).writes]
        rw [List.filter_append, hnone, List.nil_append, List.filter_cons_of_pos hwrites,
          List.filter_nil]
      refine ⟨?_, ?_, htwo, ?_, ?_, fun failure hfailed => ?_⟩
      · intro turn hturn
        rcases List.mem_append.mp hturn with hold | hlast
        · exact (hidle turn hold).looks
        · rw [List.mem_singleton.mp hlast]
          exact nofun
      · intro turn hturn hunwritten
        rcases List.mem_append.mp hturn with hold | hlast
        · exact (hidle turn hold).objects
        · rw [List.mem_singleton.mp hlast, hwrites] at hunwritten
          contradiction
      · rw [hone]
        exact Nat.le_refl _
      · rintro _ ⟨⟩
        exact ⟨_, seen, hone, restates_of_reply hstore hseen hlater hreply⟩
      · contradiction

theorem writesOnce_retry {first : Turn (Managed Spec Status)} (hidle : Idle first)
    (hstore : Reached store) (interludes : List (Interlude (Managed Spec Status))) :
    WritesOnce status
      ⟨(runAmong (Store.retryStatus (seen.setStatus status)) interludes store).result,
        first ::
          (runAmong (Store.retryStatus (seen.setStatus status)) interludes store).turns⟩ := by
  let again := seen.setStatus status
  let look := nextTurn interludes store (.get again.metadata.namespace again.name)
  have hfound : Reached look.found := reached_disturb hstore _
  have hidles : ∀ turn ∈ [first, look], Idle turn := by
    simp only [List.mem_cons, List.not_mem_nil, or_false]
    rintro turn (rfl | rfl)
    · exact hidle
    · exact idle_get look.found look.uid _ _
  have hattempts : ([first, look].filter Turn.isStatusWrite).length ≤ 1 :=
    List.length_filter_le Turn.isStatusWrite [first]
  rw [Store.retryStatus, runAmong]
  cases hreply : look.reply with
  | error failure => exact writesOnce_of_idle failure hidles (Nat.le_succ_of_le hattempts)
  | ok latest =>
      have hlatest : look.found.lookup ⟨seen.metadata.namespace, seen.name⟩ = some latest := by
        unfold Turn.reply at hreply
        exact fetch_ok.mp hreply
      have hlater := later_nextTurn interludes.tail look.left
        (.replaceStatus (latest.setStatus status))
      exact writesOnce_of_attempt hidles hattempts hfound hlatest hlater

/-- However others interfere, a status that is put on a version seen before is written at most
once. -/
theorem persistStatus_writesOnce (hstore : Reached store) (hseen : store.lookup place = some seen)
    (status : Status) (interludes : List (Interlude (Managed Spec Status))) :
    WritesOnce status
      (runAmong (Store.persistStatus (seen.setStatus status)) interludes store) := by
  let first := nextTurn interludes store (.replaceStatus (seen.setStatus status))
  rw [Store.persistStatus_eq, runAmong]
  cases hreply : first.reply with
  | ok written =>
      have hlater := later_nextTurn interludes store (.replaceStatus (seen.setStatus status))
      have hrun : WritesOnce status ⟨first.reply, [first]⟩ :=
        writesOnce_of_attempt (fun _ hturn => absurd hturn List.not_mem_nil) (Nat.zero_le _)
          hstore hseen hlater
      rw [hreply] at hrun
      exact hrun
  | error failure =>
      have hidle : Idle first := idle_attempt hreply
      have hleft : Reached first.left := Reached.answer _ _ (reached_disturb hstore _)
      dsimp only
      by_cases hconflict : failure.isConflict = true
      · rw [if_pos hconflict]
        exact writesOnce_retry hidle hleft interludes.tail
      · rw [if_neg hconflict]
        exact writesOnce_of_idle failure (List.forall_mem_singleton.mpr hidle)
          (Nat.le_succ_of_le (List.length_filter_le _ _))

def printer : Object (Managed String String) :=
  { metadata :=
      { name := some "printer", «namespace» := some "lab", uid := some "uid-printer",
        resourceVersion := some "1" }
    content := { spec := "slow" } }

def office : Store (Managed String String) :=
  (Store.insert { title := "devices" } "uid-printer" printer).2

def hasten : Interlude (Managed String String) :=
  { interventions :=
      [.mutate ⟨some "lab", "printer"⟩ fun object =>
        { object with content := { object.content with spec := "fast" } }] }

/-- The first attempt is refused; the second one keeps what the other writer has changed. -/
theorem persistStatus_writesOnce_when_overtaken :
    (runAmong (Store.persistStatus (printer.setStatus "busy")) [hasten] office).turns.map
        (fun turn => (turn.call.method, turn.writes)) =
        [(.replaceStatus, false), (.get, false), (.replaceStatus, true)] ∧
      WritesOnce "busy"
        (runAmong (Store.persistStatus (printer.setStatus "busy")) [hasten] office) :=
  ⟨by decide,
    persistStatus_writesOnce (.insert _ _ (.empty _))
      (show office.lookup ⟨some "lab", "printer"⟩ = some printer by decide) "busy" [hasten]⟩

end Fleet.Proofs.StatusWrites
