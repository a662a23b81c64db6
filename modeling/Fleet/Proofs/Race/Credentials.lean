import Fleet.Proofs.ClusterPhases
import Fleet.Proofs.Race.Arrival

namespace Fleet.Proofs.Race

open Fleet.Cluster (needsId addWarnings)
open Fleet.Proofs.Contract
open Fleet.Proofs.Heartbeats
open Fleet.Proofs.Judgements
open Fleet.Proofs.Ledgers
open Fleet.Proofs.Stores

/-- Identity and phase of a cluster are borne out by its conditions. -/
structure Vouched (status : ClusterStatus) : Prop where
  named : status.conditions.isTrue .init = true → ∃ id, status.clusterId = some id ∧ id ≠ ""
  connected : ClusterPhases.IsConnected status.phase →
    status.conditions.isTrue .init = true ∧ (status.conditions.query .firstConnect).isSome = true ∧
      (status.conditions.query .heartbeat).isSome = true

/-- What holds of every status that is ever derived. -/
structure CredentialsInvariant (status : ClusterStatus) : Prop where
  sound : ClusterPhases.StatusSound status
  /-- Contact is made by a heartbeat, which leaves its own condition. -/
  heard : status.conditions.isTrue .firstConnect = true →
    (status.conditions.query .heartbeat).isSome = true
  named : status.conditions.isTrue .init = true → status.assignedId?.isSome = true

variable {status later : ClusterStatus} {newId : String} {draft : Cluster.StatusDraft}
  {now : Instant}

theorem credentialsInvariant_default : CredentialsInvariant default :=
  ⟨ClusterPhases.statusSound_default, nofun, nofun⟩

theorem isSome_query_of_isTrue {ledger : Ledger ClusterConditionType} {type : ClusterConditionType}
    (h : ledger.isTrue type = true) : (ledger.query type).isSome = true := by
  cases hquery : ledger.query type with
  | some condition => rfl
  | none =>
      rw [Ledger.isTrue, Ledger.check, hquery] at h
      contradiction

theorem vouched_of_credentialsInvariant (h : CredentialsInvariant status) : Vouched status := by
  refine ⟨fun hinit => ?_, fun hconnected => ?_⟩
  · obtain ⟨id, hid⟩ := Option.isSome_iff_exists.mp (h.named hinit)
    obtain ⟨hassigned, hkept⟩ := Option.filter_eq_some_iff.mp hid
    refine ⟨id, hassigned, ?_⟩
    rintro rfl
    contradiction
  · have hcontact := h.sound.connected hconnected
    refine ⟨h.sound.greeted.mpr ?_, isSome_query_of_isTrue hcontact, h.heard hcontact⟩
    intro hunknown
    rw [hunknown] at hconnected
    rcases hconnected with hready | hlost | hcontrol <;> contradiction

theorem isSome_query_set {ledger : Ledger ClusterConditionType} {type : ClusterConditionType}
    (h : (ledger.query type).isSome = true) (other : ClusterConditionType)
    (status : ConditionStatus) (reason message : String) (now : Instant) :
    ((ledger.set other status reason message now).query type).isSome = true := by
  by_cases hsame : type = other
  · subst hsame
    obtain ⟨since, hset⟩ := query_set_self ledger type status reason message now
    rw [hset]
    rfl
  · rw [query_set_of_ne hsame]
    exact h

theorem heard_of_verdict (hcommon : Cluster.isMeta draft.observed = false)
    (hverdict : Verdict newId draft now status)
    (h : draft.status.conditions.isTrue .firstConnect = true →
      (draft.status.conditions.query .heartbeat).isSome = true)
    (hcontact : status.conditions.isTrue .firstConnect = true) :
    (status.conditions.query .heartbeat).isSome = true := by
  have hbefore : draft.status.conditions.isTrue .firstConnect = true := by
    have hconnected := connected_of_verdict hverdict
    rw [hcommon, Bool.false_or] at hconnected
    exact hconnected.symm.trans hcontact
  have hheard := h hbefore
  cases hverdict with
  | ready settings hmeta => simp [hcommon] at hmeta
  | greeted => exact isSome_query_set hheard ..
  | lost => exact isSome_query_set hheard ..
  | placed => exact hheard

theorem named_of_verdict (hcommon : Cluster.isMeta draft.observed = false)
    (hverdict : Verdict newId draft now status) (hnew : needsId draft = true → newId ≠ "")
    (h : draft.status.conditions.isTrue .init = true → draft.status.assignedId?.isSome = true)
    (hinit : status.conditions.isTrue .init = true) : status.assignedId?.isSome = true := by
  cases hassigned : draft.status.assignedId? with
  | some id =>
      rw [assignedId_of_verdict hverdict hassigned]
      rfl
  | none =>
      -- Without an identity the cluster has not been greeted before.
      rw [hassigned] at h
      cases hverdict with
      | ready settings hmeta => simp [hcommon] at hmeta
      | greeted hmeta hunseen =>
          have hneeds : needsId draft = true := by
            simp [needsId, hcommon, hunseen, hassigned]
          change (ClusterStatus.assignedId? { clusterId := if _ then _ else _ }).isSome = true
          rw [hassigned]
          simpa [ClusterStatus.assignedId?, Option.filter_some] using hnew hneeds
      | lost hmeta hheartbeat hlate =>
          have hbefore : draft.status.conditions.isTrue .init = true :=
            (isTrue_set_of_ne (by decide) ..).symm.trans hinit
          exact absurd (h hbefore) Bool.false_ne_true
      | placed hmeta phase => exact absurd (h hinit) Bool.false_ne_true

theorem credentialsInvariant_of_judge {settings : Settings} {judgement : Cluster.Judgement}
    (hcommon : Cluster.isMeta draft.observed = false) (h : CredentialsInvariant draft.status)
    (hnew : needsId draft = true → newId ≠ "")
    (hjudge : Cluster.judge settings newId draft now = some judgement) :
    CredentialsInvariant judgement.draft.status := by
  have hverdict := (judge_cases hjudge).2
  exact
    { sound := ClusterPhases.statusSound_statusAfterPass h.sound
        (ClusterPhases.statusAfterPass_judge hcommon hjudge)
      heard := heard_of_verdict hcommon hverdict h.heard
      named := named_of_verdict hcommon hverdict hnew h.named }

theorem credentialsInvariant_hear (h : CredentialsInvariant status) (sent : Heartbeat)
    (received : Instant) :
    CredentialsInvariant (ClusterPhases.hear sent received status) := by
  refine ⟨ClusterPhases.statusSound_hear h.sound sent received, fun _ => ?_, fun hinit => ?_⟩
  · obtain ⟨heartbeat, -, -, hquery⟩ := query_record_heartbeat sent received status.conditions
    change ((sent.record received status.conditions).query .heartbeat).isSome = true
    rw [hquery]
    rfl
  · exact h.named ((isTrue_record_init sent received status.conditions).symm.trans hinit)

theorem credentialsInvariant_of_derive {task : Task} {notes : Notes} {seen : Cluster}
    (hcommon : Cluster.isMeta seen = false) (h : CredentialsInvariant (seen.status.getD default))
    (hdrawn : notes.drawn ≠ some "") (hderives : Derives task notes seen status) :
    CredentialsInvariant status := by
  obtain ⟨hderive, hprovided⟩ := hderives
  cases task with
  | heartbeat sent received =>
      cases hderive
      exact credentialsInvariant_hear h sent received
  | pass settings =>
      obtain ⟨now, -, hjudge⟩ := Option.bind_eq_some_iff.mp hderive
      obtain ⟨judgement, hjudgement, rfl⟩ := Option.map_eq_some_iff.mp hjudge
      refine credentialsInvariant_of_judge ?_ ?_ (fun hneeds => ?_) hjudgement
      · rw [observed_addWarnings]
        exact hcommon
      · rw [status_addWarnings]
        exact h
      · obtain ⟨id, hid⟩ := Option.isSome_iff_exists.mp (hprovided hneeds)
        rw [hid]
        rintro rfl
        exact hdrawn hid

/-- What holds in every scene if no empty identity is drawn. -/
structure Prepared (scene : Scene) : Prop where
  writers : ∀ writer ∈ scene.writers, writer.notes.drawn ≠ some ""
  landings : ∀ landing ∈ scene.landings, landing.notes.drawn ≠ some ""

variable {scene : Scene} {notes : Notes} {identity : String} {effect : Effect}

theorem drawn_hear (hidentity : identity ≠ "") {reply : effect.Reply}
    {store : Store ClusterContent} (hreply : scene.reply? identity effect = some (reply, store))
    (hdrawn : notes.drawn ≠ some "") : (notes.hear effect reply).drawn ≠ some "" := by
  cases effect with
  | store kind call => cases kind <;> exact hdrawn
  | freshId =>
      change (if _ then _ else _) = _ at hreply
      split at hreply
      · cases hreply
        exact fun hempty => hidentity (Option.some.inj hempty)
      · contradiction
  | clock => exact hdrawn
  | publish regarding event => exact hdrawn
  | notify event => exact hdrawn

theorem prepared_advance (h : Prepared scene) (hidentity : identity ≠ "") (index : Nat) :
    Prepared (scene.advance index identity) := by
  have hturn := Interleaving.turn_advance crew (scene.answer? identity) scene index
  unfold Scene.advance
  generalize crew.advance (scene.answer? identity) scene index = after at hturn
  cases hturn with
  | rests => exact h
  | goesOn hwriter hprogram hanswer =>
      obtain ⟨⟨reply, store⟩, hreply, hanswered⟩ := Option.map_eq_some_iff.mp hanswer
      cases hanswered
      have hdrawn := h.writers _ (List.mem_of_getElem? hwriter)
      refine ⟨?_, fun landing hlanding => ?_⟩
      · exact Interleaving.forall_mem_set h.writers (drawn_hear hidentity hreply hdrawn) index
      · rcases List.mem_append.mp hlanding with hnew | hold
        · obtain ⟨_, -, rfl⟩ := Option.map_eq_some_iff.mp (Option.mem_toList.mp hnew)
          exact hdrawn
        · exact h.landings landing hold

theorem prepared_enroll (h : Prepared scene) (task : Task) : Prepared (scene.enroll task) :=
  ⟨Interleaving.forall_workers_enroll crew h.writers nofun, h.landings⟩

theorem prepared_move (h : Prepared scene) {move : Move}
    (hnamed : ∀ index, move ≠ .advance index "") : Prepared (scene.move move) := by
  cases move with
  | pass settings => exact prepared_enroll h _
  | heartbeat sent =>
      change Prepared (if _ then _ else _)
      split
      · exact prepared_enroll h _
      · exact h
  | wait later =>
      change Prepared (if _ then _ else _)
      split
      · exact h
      · exact ⟨h.writers, h.landings⟩
  | advance index identity =>
      refine prepared_advance h ?_ index
      rintro rfl
      exact hnamed index rfl

theorem prepared_run (h : Prepared scene) {moves : List Move}
    (hnamed : ∀ index, Move.advance index "" ∉ moves) : Prepared (scene.run moves) := by
  refine Interleaving.run_induction (motive := fun _ => Prepared) h
    fun earlier move hearly hreached => prepared_move hreached ?_
  rintro index rfl
  exact hnamed index (hearly.subset (List.mem_append_right _ (List.mem_singleton_self _)))

theorem origin_of_sceneMoved {after : Scene} (hmoved : SceneMoved scene after) :
    after.origin = scene.origin := by
  cases hmoved with
  | still => rfl
  | enrolled task hkey => rfl
  | waited hlater => rfl
  | turned hwriter hturn => cases hturn <;> rfl

/-- Whichever version a landing writes over, what it writes was derived from a settled one. -/
theorem credentialsInvariant_versionsOf {origin : Cluster} {landings : List Landing}
    (hlinked : Linked origin landings) (hfaithful : ∀ landing ∈ landings, landing.AccountedFor)
    (hdrawn : ∀ landing ∈ landings, landing.notes.drawn ≠ some "")
    (hcommon : Cluster.isMeta origin = false) (hnew : origin.status = none) :
    ∀ version ∈ versionsOf origin landings, CredentialsInvariant (version.status.getD default) := by
  induction landings with
  | nil =>
      intro version hversion
      rw [List.mem_singleton.mp hversion, hnew]
      exact credentialsInvariant_default
  | cons landing earlier ih =>
      have hrest := fun other hother => hfaithful other (.tail _ hother)
      have hearlier := ih hlinked.2.2 hrest fun other hother => hdrawn other (.tail _ hother)
      refine List.forall_mem_cons.mpr ⟨?_, hearlier⟩
      have hlast := hfaithful landing (.head _)
      by_cases hmethod : landing.method = .replace
      · rw [(hlast.stamped hmethod).2, hlinked.1]
        exact hearlier _ (newestOf_mem origin earlier)
      · obtain ⟨status, hderives, hstatus⟩ := hlast.reported hmethod
        have hseen := isMeta_versionsOf hlinked.2.2 hrest _ hlinked.2.1
        rw [hstatus]
        exact credentialsInvariant_of_derive (hseen.trans hcommon) (hearlier _ hlinked.2.1)
          (hdrawn landing (.head _)) hderives

/-- The versions that a race leaves behind, and the one that is stored. -/
def Scene.Stores (scene : Scene) (version : Cluster) : Prop :=
  version ∈ scene.versions ∨ scene.store.lookup scene.key = some version

/-- Whatever the order in which passes and heartbeats take their turns, every version of a cluster
that was registered without a status is vouched for. Identities that are drawn are never empty. -/
theorem vouched_of_stores {store : Store ClusterContent} {origin : Cluster}
    (hstore : Reached store)
    (hstored : store.lookup (.ofMetadata origin.metadata) = some origin)
    (hcommon : Cluster.isMeta origin = false) (hnew : origin.status = none) (now : Instant)
    {moves : List Move} (hnamed : ∀ index, Move.advance index "" ∉ moves) (version : Cluster)
    (hversion : ((Scene.opening store origin now).run moves).Stores version) :
    Vouched (version.status.getD default) := by
  obtain ⟨hhistory, horigin⟩ := @run_induction _ (fun scene => scene.origin = origin)
    (raceInvariant_opening hstore hstored now) rfl
      (fun _ _ hmoved h => (origin_of_sceneMoved hmoved).trans h)
    moves
  have hopen : Prepared (Scene.opening store origin now) :=
    ⟨fun _ hwriter => (nomatch hwriter), fun _ hlanding => (nomatch hlanding)⟩
  have hprepared := prepared_run hopen hnamed
  rw [← horigin] at hcommon hnew
  have hsettled :=
    credentialsInvariant_versionsOf hhistory.linked hhistory.faithful hprepared.landings hcommon
      hnew
  refine vouched_of_credentialsInvariant (hsettled version ?_)
  rcases hversion with hmem | hlookup
  · exact hmem
  · cases hhistory.stored.symm.trans hlookup
    exact newest_mem_versions _

/-- A heartbeat and a pass fetch the new cluster. The pass assigns an identity, which the heartbeat
erases; two more passes assign another one and find the cluster ready. -/
def restored : List Move :=
  [.heartbeat firstHeartbeat, .pass {}, .advance 0 "-", .advance 1 "-", .advance 1 "-",
    .advance 1 "first", .advance 1 "-", .advance 1 "-", .advance 0 "-", .advance 0 "-",
    .advance 0 "-", .pass {}, .advance 2 "-", .advance 2 "-", .advance 2 "second", .advance 2 "-",
    .advance 2 "-", .pass {}, .advance 3 "-", .advance 3 "-", .advance 3 "-", .advance 3 "-"]

theorem vouched_of_stores_of_restored :
    (((Scene.opening register newcomer .epoch).run restored).versions.map fun version =>
      (version.assignedId?, (version.status.getD default).phase)) =
        [(some "second", .ready), (some "second", .created), (some "second", .created),
          (none, .unknown), (some "first", .created), (none, .unknown)] ∧
      ∀ version ∈ ((Scene.opening register newcomer .epoch).run restored).versions,
        Vouched (version.status.getD default) := by
  have hnamed : ∀ index, Move.advance index "" ∉ restored := by
    intro index
    simp [restored]
  refine ⟨by decide, fun version hversion => ?_⟩
  exact vouched_of_stores reached_register lookup_register rfl rfl .epoch hnamed version
    (.inl hversion)

end Fleet.Proofs.Race
