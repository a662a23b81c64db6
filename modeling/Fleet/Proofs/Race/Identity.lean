import Fleet.Proofs.Race.History

namespace Fleet.Proofs.Race

open Fleet.Proofs.Heartbeats
open Fleet.Proofs.Judgements
open Fleet.Proofs.Stores

/-- The later version carries the identity of the earlier one, if that was assigned one. -/
def KeepsIdentity (later earlier : Cluster) : Prop :=
  ∀ id, earlier.assignedId? = some id → later.assignedId? = some id

instance (later earlier : Cluster) : Decidable (KeepsIdentity later earlier) :=
  decidable_of_iff (earlier.assignedId?.all fun id => later.assignedId? = some id) <| by
    cases h : earlier.assignedId? <;> simp [KeepsIdentity, h]

variable {task : Task} {notes : Notes} {seen : Cluster} {status : ClusterStatus}

theorem assignedId_start (seen : Cluster) :
    (Draft.start seen).status.assignedId? = seen.assignedId? := by
  change (seen.status.getD default).assignedId? = seen.status.bind _
  cases seen.status <;> rfl

theorem assignedId_addWarnings (seen : Cluster) :
    (Cluster.addWarnings (.start seen)).status.assignedId? = seen.assignedId? := by
  rw [status_addWarnings, assignedId_start]

theorem assignedId_of_derive (h : task.derive notes seen = some status) {id : String}
    (hid : seen.assignedId? = some id) : status.assignedId? = some id := by
  cases task with
  | pass settings =>
      obtain ⟨now, -, hverdict⟩ := verdict_of_derive h
      exact assignedId_of_verdict hverdict ((assignedId_addWarnings seen).trans hid)
  | heartbeat sent received =>
      cases h
      exact (assignedId_start seen).trans hid

theorem drawn_of_derive (h : task.derive notes seen = some status)
    (hnone : seen.assignedId? = none) {id : String} (hid : status.assignedId? = some id) :
    notes.drawn = some id := by
  cases task with
  | pass settings =>
      obtain ⟨now, -, hverdict⟩ := verdict_of_derive h
      have hnew := newId_of_verdict hverdict ((assignedId_addWarnings seen).trans hnone) hid
      cases hdrawn : notes.drawn with
      | none =>
          have hempty : id = "" := by simpa [hdrawn] using hnew.symm
          have hkept := (Option.filter_eq_some_iff.mp hid).2
          simp [hempty] at hkept
      | some drawn => simpa [hdrawn] using hnew
  | heartbeat sent received =>
      cases h
      exact absurd (hid.symm.trans ((assignedId_start seen).trans hnone)) nofun

variable {landing : Landing}

theorem keepsIdentity_refl (cluster : Cluster) : KeepsIdentity cluster cluster := fun _ h => h

theorem keepsIdentity_trans (a b c : Cluster) (hab : KeepsIdentity a b) (hbc : KeepsIdentity b c) :
    KeepsIdentity a c :=
  fun id hid => hab id (hbc id hid)

theorem keepsIdentity_of_seen (h : landing.AccountedFor)
    (hseen : KeepsIdentity landing.seen landing.found) :
    KeepsIdentity landing.written landing.found := by
  intro id hid
  by_cases hmethod : landing.method = .replace
  · change landing.written.status.bind _ = _
    rw [(h.stamped hmethod).2]
    exact hid
  · obtain ⟨status, ⟨hderive, -⟩, hstatus⟩ := h.reported hmethod
    change landing.written.status.bind _ = _
    rw [hstatus]
    exact assignedId_of_derive hderive (hseen id hid)

/-- The retry found an identity, but its status was derived from a version without one. -/
def Landing.Forgetful (landing : Landing) : Prop :=
  landing.isRetry = true ∧ landing.found.assignedId?.isSome = true ∧
    landing.seen.assignedId? = none

theorem pairwise_keepsIdentity {origin : Cluster} {landings : List Landing}
    (hlinked : Linked origin landings) (hfaithful : ∀ landing ∈ landings, landing.AccountedFor)
    (h : ∀ landing ∈ landings, ¬ landing.Forgetful) :
    (versionsOf origin landings).Pairwise KeepsIdentity := by
  induction landings with
  | nil => exact List.pairwise_singleton _ _
  | cons landing earlier ih =>
      have hpairwise := ih hlinked.2.2 (fun other hother => hfaithful other (.tail _ hother))
        fun other hother => h other (.tail _ hother)
      refine (pairwise_versionsOf_iff _ keepsIdentity_refl keepsIdentity_trans hlinked).mpr ?_
      rw [List.forall_mem_cons]
      refine ⟨?_, (pairwise_versionsOf_iff _ keepsIdentity_refl keepsIdentity_trans
        hlinked.2.2).mp hpairwise⟩
      refine keepsIdentity_of_seen (hfaithful landing (.head _)) fun id hid => ?_
      cases hretry : landing.isRetry with
      | false =>
          rw [(hfaithful landing (.head _)).direct hretry]
          exact hid
      | true =>
          cases hseen : landing.seen.assignedId? with
          | none => exact absurd ⟨hretry, by rw [hid]; rfl, hseen⟩ (h landing (.head _))
          | some first =>
              -- By the earlier steps, the identity that was seen is still the newest one.
              have hkept := kept_of_newest keepsIdentity_refl hpairwise hlinked.2.1 first hseen
              rw [← hlinked.1, hid] at hkept
              exact hkept.symm

/-- Drawn identities stay with the writers that have drawn them, until they are stored. -/
structure Unclaimed (scene : Scene) : Prop where
  apart : ∀ (i j : Nat) (a b : Writer) (id : String), scene.writers[i]? = some a →
    scene.writers[j]? = some b → a.notes.drawn = some id → b.notes.drawn = some id → i = j
  unstored : ∀ (i : Nat) (writer : Writer) (id : String), scene.writers[i]? = some writer →
    writer.notes.position ≠ .landed → writer.notes.drawn = some id →
      ∀ version ∈ scene.versions, version.assignedId? ≠ some id
  unfound : ∀ landing ∈ scene.landings, ∀ id, landing.notes.drawn = some id →
    landing.found.assignedId? ≠ some id

variable {scene after : Scene} {index : Nat} {identity : String} {writer : Writer}

theorem getElem?_set_cases {α : Type} {list : List α} {index i : Nat} {new a : α}
    (h : (list.set index new)[i]? = some a) :
    i = index ∧ a = new ∨ i ≠ index ∧ list[i]? = some a := by
  rw [List.getElem?_set] at h
  split at h
  · rename_i heq
    split at h
    · exact .inl ⟨heq.symm, (Option.some.inj h).symm⟩
    · contradiction
  · rename_i hne
    exact .inr ⟨Ne.symm hne, h⟩

theorem drawn_ne_of_isFresh (hfresh : scene.isFresh identity = true)
    (hwriter : writer ∈ scene.writers) : writer.notes.drawn ≠ some identity := by
  have hwriters := (Bool.and_eq_true _ _ ▸ hfresh).2
  exact bne_iff_ne.mp (List.all_eq_true.mp hwriters writer hwriter)

theorem assignedId_ne_of_isFresh (hfresh : scene.isFresh identity = true) {version : Cluster}
    (hversion : version ∈ scene.versions) : version.assignedId? ≠ some identity := by
  have hversions := (Bool.and_eq_true _ _ ▸ hfresh).1
  exact bne_iff_ne.mp (List.all_eq_true.mp hversions version hversion)

theorem apart_set (identity : String) (h : Unclaimed scene)
    (hindex : scene.writers[index]? = some writer) {changed : Writer}
    (hdrawn : changed.notes.drawn = writer.notes.drawn ∨
      changed.notes.drawn = some identity ∧ scene.isFresh identity = true)
    (i j : Nat) (a b : Writer) (id : String)
    (hi : (scene.writers.set index changed)[i]? = some a)
    (hj : (scene.writers.set index changed)[j]? = some b)
    (ha : a.notes.drawn = some id) (hb : b.notes.drawn = some id) : i = j := by
  have hother : ∀ (k : Nat) (other : Writer), scene.writers[k]? = some other →
      other.notes.drawn = some id → changed.notes.drawn = some id → index = k := by
    intro k other hk hid hchanged
    rcases hdrawn with hsame | ⟨hnew, hfresh⟩
    · exact h.apart index k writer other id hindex hk (hsame.symm.trans hchanged) hid
    · rw [Option.some.inj (hchanged.symm.trans hnew)] at hid
      exact absurd hid (drawn_ne_of_isFresh hfresh (List.mem_of_getElem? hk))
  rcases getElem?_set_cases hi with ⟨rfl, rfl⟩ | ⟨-, hiold⟩
  · rcases getElem?_set_cases hj with ⟨rfl, -⟩ | ⟨-, hjold⟩
    · rfl
    · exact hother j b hjold hb ha
  · rcases getElem?_set_cases hj with ⟨rfl, rfl⟩ | ⟨-, hjold⟩
    · exact (hother i a hiold ha hb).symm
    · exact h.apart i j a b id hiold hjold ha hb

/-- A landing stores no identity but one that was stored before or that its writer has drawn. -/
theorem assignedId_of_landing (hfaithful : landing.AccountedFor) {id : String}
    (hid : landing.written.assignedId? = some id) :
    landing.found.assignedId? = some id ∨ landing.seen.assignedId? = some id ∨
      landing.method ≠ .replace ∧ landing.notes.drawn = some id := by
  by_cases hmethod : landing.method = .replace
  · change landing.written.status.bind _ = _ at hid
    rw [(hfaithful.stamped hmethod).2] at hid
    exact .inl hid
  · obtain ⟨status, ⟨hderive, -⟩, hstatus⟩ := hfaithful.reported hmethod
    change landing.written.status.bind _ = _ at hid
    rw [hstatus] at hid
    cases hseen : landing.seen.assignedId? with
    | none => exact .inr (.inr ⟨hmethod, drawn_of_derive hderive hseen hid⟩)
    | some first =>
        have hkept := assignedId_of_derive hderive hseen
        exact .inr (.inl (hkept.symm.trans hid))

theorem unclaimed_of_turn (h : Unclaimed scene)
    (hindex : scene.writers[index]? = some writer)
    (hturn : WriterTurn scene index identity writer after) : Unclaimed after := by
  cases hturn with
  | @quiet store notes program hobjects hversion hdrawn hposition horderly =>
      refine ⟨apart_set identity h hindex hdrawn, ?_, h.unfound⟩
      intro i other id hother hunlanded hid
      rcases getElem?_set_cases hother with ⟨rfl, rfl⟩ | ⟨hne, hold⟩
      · rcases hdrawn with hsame | ⟨hnew, hfresh⟩
        · exact h.unstored _ writer id hindex (fun hlanded => hunlanded (hposition.mpr hlanded))
            (hsame.symm.trans hid)
        · intro version hversion
          rw [Option.some.inj (hid.symm.trans hnew)]
          exact assignedId_ne_of_isFresh hfresh hversion
      · exact h.unstored i other id hold hunlanded hid
  | @landed store notes program method written landing hlanding hobjects hversion hkeyed hnumber
      hfaithful hseen hdrawn hposition hunlanded horderly =>
      subst hlanding
      refine ⟨apart_set "" h hindex (.inl hdrawn), ?_, ?_⟩
      · intro i other id hother hother_unlanded hid
        have hold : ∀ version ∈ scene.versions, version.assignedId? ≠ some id := by
          rcases getElem?_set_cases hother with ⟨rfl, rfl⟩ | ⟨-, hold⟩
          · exact h.unstored _ writer id hindex hunlanded (hdrawn.symm.trans hid)
          · exact h.unstored i other id hold hother_unlanded hid
        refine List.forall_mem_cons.mpr ⟨fun hwritten => ?_, hold⟩
        -- What is stored was stored before, or the writer that landed has drawn it itself.
        rcases assignedId_of_landing hfaithful hwritten with hfound | hseen' | ⟨hmethod, hown⟩
        · exact hold _ (newest_mem_versions scene) hfound
        · exact hold _ hseen hseen'
        · rcases getElem?_set_cases hother with ⟨rfl, rfl⟩ | ⟨hne, hold⟩
          · exact hother_unlanded (hposition.mpr hmethod)
          · exact hne (h.apart i index other writer id hold hindex hid hown)
      · refine List.forall_mem_cons.mpr ⟨fun id hid => ?_, h.unfound⟩
        exact h.unstored index writer id hindex hunlanded hid _ (newest_mem_versions scene)

theorem unclaimed_enroll (h : Unclaimed scene) (task : Task) : Unclaimed (scene.enroll task) := by
  have hcases : ∀ (i : Nat) (other : Writer) (id : String),
      (scene.enroll task).writers[i]? = some other → other.notes.drawn = some id →
        scene.writers[i]? = some other := by
    intro i other id hother hid
    change (scene.writers ++ [_])[i]? = _ at hother
    rw [List.getElem?_append] at hother
    split at hother
    · exact hother
    · rw [List.getElem?_singleton] at hother
      split at hother
      · cases hother
        contradiction
      · contradiction
  refine ⟨fun i j a b id hi hj ha hb => ?_, fun i other id hi hunlanded hid => ?_, h.unfound⟩
  · exact h.apart i j a b id (hcases i a id hi ha) (hcases j b id hj hb) ha hb
  · exact h.unstored i other id (hcases i other id hi hid) hunlanded hid

theorem unclaimed_of_sceneMoved (h : Unclaimed scene) (hmoved : SceneMoved scene after) :
    Unclaimed after := by
  cases hmoved with
  | still => exact h
  | enrolled task hkey => exact unclaimed_enroll h task
  | waited hlater => exact ⟨h.apart, h.unstored, h.unfound⟩
  | turned hwriter hturn => exact unclaimed_of_turn h hwriter hturn

/-- A forgetful retry loses the identity that it finds: drawing it again is out of the question. -/
theorem not_keepsIdentity_of_forgetful (h : Unclaimed scene) (hmem : landing ∈ scene.landings)
    (hfaithful : landing.AccountedFor) (hforgetful : landing.Forgetful) :
    ¬ KeepsIdentity landing.written landing.found := by
  obtain ⟨hretry, hfound, hseen⟩ := hforgetful
  obtain ⟨id, hid⟩ := Option.isSome_iff_exists.mp hfound
  have hmethod : landing.method ≠ .replace := fun hmethod =>
    absurd (hfaithful.stamped hmethod).1 (by simp [hretry])
  obtain ⟨status, ⟨hderive, -⟩, hstatus⟩ := hfaithful.reported hmethod
  intro hkeeps
  have hwritten := hkeeps id hid
  change landing.written.status.bind _ = _ at hwritten
  rw [hstatus] at hwritten
  exact h.unfound landing hmem id (drawn_of_derive hderive hseen hwritten) hid

/-- An identity, once assigned, stays through all later versions exactly if no retry that finds an
identity puts on it a status that was derived from a version without one. -/
theorem identity_kept_iff {store : Store ClusterContent} {origin : Cluster}
    (hstore : Reached store)
    (hstored : store.lookup (.ofMetadata origin.metadata) = some origin) (now : Instant)
    (moves : List Move) :
    ((Scene.opening store origin now).run moves).versions.Pairwise KeepsIdentity ↔
      ∀ landing ∈ ((Scene.opening store origin now).run moves).landings, ¬ landing.Forgetful := by
  have hopen : Unclaimed (Scene.opening store origin now) :=
    ⟨fun _ _ _ _ _ hi => (nomatch hi), fun _ _ _ hi => (nomatch hi), fun _ hmem => (nomatch hmem)⟩
  obtain ⟨hhistory, hunclaimed⟩ := run_induction (raceInvariant_opening hstore hstored now) hopen
    (fun _ _ hmoved h => unclaimed_of_sceneMoved h hmoved) moves
  constructor
  · intro hpairwise landing hlanding hforgetful
    refine not_keepsIdentity_of_forgetful hunclaimed hlanding (hhistory.faithful landing hlanding)
      hforgetful ?_
    exact (pairwise_versionsOf_iff _ keepsIdentity_refl keepsIdentity_trans hhistory.linked).mp
      hpairwise landing hlanding
  · exact pairwise_keepsIdentity hhistory.linked hhistory.faithful

/-- Two passes fetch the new cluster. One of them assigns an identity; the other one is refused and
puts its own status, with its own identity, on what the first one has written. -/
def overtaken : List Move :=
  [.pass {}, .pass {}, .advance 0 "", .advance 1 "", .advance 0 "", .advance 0 "first",
    .advance 0 "", .advance 0 "", .advance 1 "", .advance 1 "second", .advance 1 "",
    .advance 1 "", .advance 1 "", .advance 1 ""]

theorem not_keepsIdentity_of_overtaken :
    ¬ ((Scene.opening register newcomer .epoch).run overtaken).versions.Pairwise
      KeepsIdentity := by
  decide

theorem identity_kept_iff_of_overtaken :
    ((Scene.opening register newcomer .epoch).run overtaken).versions.Pairwise KeepsIdentity ↔
      ∀ landing ∈ ((Scene.opening register newcomer .epoch).run overtaken).landings,
        ¬ landing.Forgetful :=
  identity_kept_iff reached_register lookup_register .epoch overtaken

/-- A heartbeat that has fetched the new cluster before the pass erases the identity. -/
example :
    (((Scene.opening register newcomer .epoch).run
      [.heartbeat firstHeartbeat, .advance 0 "", .pass {}, .advance 1 "", .advance 1 "",
        .advance 1 "first", .advance 1 "", .advance 1 "", .advance 0 "", .advance 0 "",
        .advance 0 ""]).versions.map Cluster.assignedId?) = [none, some "first", none] := by
  decide

end Fleet.Proofs.Race
