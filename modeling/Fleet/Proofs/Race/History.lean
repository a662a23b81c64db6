import Fleet.Proofs.Race.Writers
import Fleet.Proofs.Stores
import Mathlib.Data.List.Nodup

/-!
The history of a race. In every scene that moves lead to, the stored cluster is the version that
the last landing has left, every landing wrote over the version before it, and what it wrote is
accounted for by what its writer had heard. Version numbers tell the versions apart, so only a
retry can write over a version that its writer had not seen.
-/

namespace Fleet.Proofs.Race

open Fleet.Proofs.Contract
open Fleet.Proofs.Stores

/-- Each landing wrote over what the one before it had left, and its writer worked with a version
that there had been. -/
def Linked (origin : Cluster) : List Landing → Prop
  | [] => True
  | landing :: earlier =>
      landing.found = newestOf origin earlier ∧ landing.seen ∈ versionsOf origin earlier ∧
        Linked origin earlier

/-- What was written is accounted for by what the writer had heard. -/
structure Landing.AccountedFor (landing : Landing) : Prop where
  labels : landing.written.metadata.labels = landing.found.metadata.labels
  stamped : landing.method = .replace →
    landing.isRetry = false ∧ landing.written.status = landing.found.status
  reported : landing.method ≠ .replace → ∃ status,
    Derives landing.task landing.notes landing.seen status ∧
      landing.written.status = some status
  direct : landing.isRetry = false → landing.seen = landing.found

/-- What a writer has heard is about versions that there have been. -/
def Grounded (versions : List Cluster) (task : Task) (notes : Notes) : Prop :=
  match notes.position with
  | .holding seen => seen ∈ versions
  | .refused seen offered => seen ∈ versions ∧ Derives task notes seen offered
  | .retrying seen offered latest =>
      seen ∈ versions ∧ Derives task notes seen offered ∧ latest ∈ versions
  | _ => True

/-- What holds of every writer. -/
structure Writer.KeepsRules (writer : Writer) (key : ObjectKey) (versions : List Cluster) :
    Prop where
  keeps : Keeps (writer.task.rules key) (Suits writer.task) writer.program writer.notes
  grounded : Grounded versions writer.task writer.notes

/-- What holds in every scene. -/
structure RaceInvariant (scene : Scene) : Prop where
  stored : scene.store.lookup scene.key = some scene.newest
  keyed : ∀ version ∈ scene.versions, ObjectKey.ofMetadata version.metadata = scene.key
  numbered : ∀ version ∈ scene.versions, Numbered scene.store version
  distinct : (scene.versions.map fun version => version.metadata.resourceVersion).Nodup
  linked : Linked scene.origin scene.landings
  faithful : ∀ landing ∈ scene.landings, landing.AccountedFor
  orderly : ∀ writer ∈ scene.writers, writer.KeepsRules scene.key scene.versions

variable {scene : Scene} {writer : Writer} {versions : List Cluster} {task : Task} {notes : Notes}

theorem newestOf_mem (origin : Cluster) (landings : List Landing) :
    newestOf origin landings ∈ versionsOf origin landings := by
  cases landings with
  | nil => exact List.mem_cons_self
  | cons landing earlier => exact List.mem_cons_self

theorem newest_mem_versions (scene : Scene) : scene.newest ∈ scene.versions :=
  newestOf_mem scene.origin scene.landings

theorem grounded_mono {later : List Cluster} (h : Grounded versions task notes)
    (hsub : ∀ version ∈ versions, version ∈ later) : Grounded later task notes := by
  unfold Grounded at h ⊢
  split at h
  · exact hsub _ h
  · exact ⟨hsub _ h.1, h.2⟩
  · exact ⟨hsub _ h.1, h.2.1, hsub _ h.2.2⟩
  · trivial

theorem eq_of_resourceVersion_eq (h : RaceInvariant scene) {a b : Cluster} (ha : a ∈ scene.versions)
    (hb : b ∈ scene.versions) (heq : a.metadata.resourceVersion = b.metadata.resourceVersion) :
    a = b :=
  List.inj_on_of_nodup_map h.distinct ha hb heq

theorem kept_of_newest {kept : Cluster → Cluster → Prop} (hrefl : ∀ a, kept a a)
    {origin version : Cluster} {landings : List Landing}
    (h : (versionsOf origin landings).Pairwise kept)
    (hversion : version ∈ versionsOf origin landings) :
    kept (newestOf origin landings) version := by
  cases landings with
  | nil =>
      rw [List.mem_singleton.mp hversion]
      exact hrefl origin
  | cons landing earlier =>
      rcases List.mem_cons.mp hversion with rfl | hearlier
      · exact hrefl _
      · exact (List.pairwise_cons.mp h).1 version hearlier

/-- What every landing keeps of the version it found is kept from every version to all later
ones. -/
theorem pairwise_versionsOf_iff (kept : Cluster → Cluster → Prop) (hrefl : ∀ a, kept a a)
    (htrans : ∀ a b c, kept a b → kept b c → kept a c) {origin : Cluster}
    {landings : List Landing} (h : Linked origin landings) :
    (versionsOf origin landings).Pairwise kept ↔
      ∀ landing ∈ landings, kept landing.written landing.found := by
  induction landings with
  | nil => simp [versionsOf]
  | cons landing earlier ih =>
      obtain ⟨hfound, -, hearlier⟩ := h
      have hcons : (versionsOf origin (landing :: earlier)).Pairwise kept ↔
          (∀ version ∈ versionsOf origin earlier, kept landing.written version) ∧
            (versionsOf origin earlier).Pairwise kept := List.pairwise_cons
      rw [hcons, List.forall_mem_cons, ← ih hearlier, hfound]
      refine and_congr_left fun hpairwise => ⟨fun h => h _ (newestOf_mem origin earlier), ?_⟩
      intro hnewest version hversion
      exact htrans _ _ _ hnewest (kept_of_newest hrefl hpairwise hversion)

/-- What a turn of a writer can do: it leaves the stored cluster alone, or a write lands. -/
inductive WriterTurn (scene : Scene) (index : Nat) (identity : String) (writer : Writer) :
    Scene → Prop where
  | quiet {store : Store ClusterContent} {notes : Notes} {program : Pass TaskEnding}
      (hobjects : store.objects = scene.store.objects)
      (hversion : store.version = scene.store.version)
      (hdrawn : notes.drawn = writer.notes.drawn ∨
        notes.drawn = some identity ∧ scene.isFresh identity = true)
      (hposition : notes.position = .landed ↔ writer.notes.position = .landed)
      (horderly : Writer.KeepsRules { writer with notes, program } scene.key scene.versions) :
      WriterTurn scene index identity writer
        { scene with store, writers := scene.writers.set index { writer with notes, program } }
  | landed {store : Store ClusterContent} {notes : Notes} {program : Pass TaskEnding}
      {method : Store.Method} {written : Cluster} {landing : Landing}
      (hlanding : landing =
        { task := writer.task, notes := writer.notes, method, found := scene.newest, written })
      (hobjects : store.objects = scene.store.objects.insert scene.key written)
      (hversion : store.version = scene.store.version + 1)
      (hkeyed : ObjectKey.ofMetadata written.metadata = scene.key)
      (hnumber : written.metadata.resourceVersion =
        some (Store.versionText (scene.store.version + 1)))
      (hfaithful : landing.AccountedFor)
      (hseen : landing.seen ∈ scene.versions)
      (hdrawn : notes.drawn = writer.notes.drawn)
      (hposition : notes.position = .landed ↔ method ≠ .replace)
      (hunlanded : writer.notes.position ≠ .landed)
      (horderly : Writer.KeepsRules { writer with notes, program } scene.key
        (written :: scene.versions)) :
      WriterTurn scene index identity writer
        { scene with
          store
          writers := scene.writers.set index { writer with notes, program }
          landings := landing :: scene.landings }

/-- A write that lands and carries the number of a version was about the newest one. -/
theorem write_lands (h : RaceInvariant scene) {base object written : Cluster}
    {count : WriteCounts → WriteCounts} {after : Store ClusterContent}
    (hbase : base ∈ scene.versions)
    (hplace : ObjectKey.ofMetadata object.metadata = ObjectKey.ofMetadata base.metadata)
    (hcarried : object.metadata.resourceVersion = base.metadata.resourceVersion)
    (hwrite : scene.store.write object count = (.ok written, after)) :
    base = scene.newest ∧
      written = scene.store.stamp (Store.identify object scene.newest.metadata.uid) ∧
      after.objects = scene.store.objects.insert scene.key written ∧
      after.version = scene.store.version + 1 := by
  obtain ⟨stored, hstored, hversion, hwritten, hobjects, hnext⟩ := write_ok hwrite
  rw [hplace, h.keyed base hbase] at hstored hobjects
  rw [h.stored] at hstored
  cases hstored
  obtain ⟨number, -, hnumber⟩ := h.numbered base hbase
  rw [hcarried, hnumber] at hversion
  have hsame : base = scene.newest := by
    refine eq_of_resourceVersion_eq h hbase (newest_mem_versions scene) ?_
    rcases hversion with hnone | heq
    · contradiction
    · exact hnumber.trans heq
  exact ⟨hsame, hwritten, hobjects, hnext⟩

variable {index : Nat} {identity : String} {effect : Effect}
  {next : effect.Reply → Pass TaskEnding}

theorem turn_of_idle (h : writer.KeepsRules scene.key scene.versions)
    (hprogram : writer.program = .ask effect next) {reply : effect.Reply}
    (hwritten : written? effect reply = none)
    (hdrawn : (writer.notes.hear effect reply).drawn = writer.notes.drawn ∨
      (writer.notes.hear effect reply).drawn = some identity ∧ scene.isFresh identity = true)
    (hgrounded : Grounded scene.versions writer.task (writer.notes.hear effect reply))
    {store : Store ClusterContent} (hobjects : store.objects = scene.store.objects)
    (hversion : store.version = scene.store.version) :
    WriterTurn scene index identity writer
      (scene.proceed index writer store effect reply (next reply)) := by
  have hkeeps := h.keeps
  rw [hprogram] at hkeeps
  unfold Scene.proceed Scene.record
  rw [hwritten]
  exact .quiet hobjects hversion hdrawn (hear_landed_iff hwritten) ⟨hkeeps.2 reply, hgrounded⟩

theorem grounded_fetched (h : Grounded versions task notes) {found : Cluster}
    (hfound : found ∈ versions) (ns : Option String) (name : String) :
    Grounded versions task (notes.hear (.store .cluster (.get ns name)) (.ok found)) := by
  unfold Grounded at h
  cases hposition : notes.position with
  | idle =>
      rw [Grounded, hear_fetched hposition]
      exact hfound
  | holding seen =>
      rw [hposition] at h
      rw [Grounded, hear_fetched_late (by simp [hposition]) (by simp [hposition]), hposition]
      exact h
  | refused seen offered =>
      rw [hposition] at h
      rw [Grounded, hear_fetched_again hposition]
      exact ⟨h.1, h.2, hfound⟩
  | retrying seen offered latest =>
      rw [hposition] at h
      rw [Grounded, hear_fetched_late (by simp [hposition]) (by simp [hposition]), hposition]
      exact h
  | landed =>
      rw [Grounded, hear_fetched_late (by simp [hposition]) (by simp [hposition]), hposition]
      trivial

theorem grounded_refused (h : Grounded versions task notes) {object : Cluster}
    {status : ClusterStatus} (hstatus : object.status = some status)
    (hderive : ∀ seen, notes.position = .holding seen → Derives task notes seen status)
    (failure : Failure) :
    Grounded versions task
      (notes.hear (.store .cluster (.replaceStatus object)) (.error failure)) := by
  by_cases hholding : failure.isConflict = true ∧ ∃ seen, notes.position = .holding seen
  · obtain ⟨hconflict, seen, hposition⟩ := hholding
    rw [Grounded, hposition] at h
    rw [Grounded, hear_refused object hposition hconflict hstatus]
    exact ⟨h, hderive seen hposition⟩
  · have hsame := hear_failed notes failure object fun hconflict seen hposition =>
      hholding ⟨hconflict, seen, hposition⟩
    rw [Grounded, hsame]
    exact h

theorem turn_of_get (h : RaceInvariant scene)
    (horderly : writer.KeepsRules scene.key scene.versions)
    {ns : Option String} {name : String}
    {next : Effect.Reply (.store .cluster (.get ns name)) → Pass TaskEnding}
    (hprogram : writer.program = .ask (.store .cluster (.get ns name)) next) :
    WriterTurn scene index identity writer
      (scene.proceed index writer scene.store (.store .cluster (.get ns name))
        (scene.store.fetch ⟨ns, name⟩) (next (scene.store.fetch ⟨ns, name⟩))) := by
  have hkeeps := horderly.keeps
  rw [hprogram] at hkeeps
  have hplace : ⟨ns, name⟩ = scene.key := by
    rcases hkeeps.1 with ⟨-, hkey⟩ | ⟨seen, offered, hposition, hkey⟩
    · exact hkey
    · have hgrounded := horderly.grounded
      rw [Grounded, hposition] at hgrounded
      exact hkey.trans (h.keyed seen hgrounded.1)
  have hfetch : scene.store.fetch ⟨ns, name⟩ = .ok scene.newest := by
    rw [hplace, fetch_of_stored h.stored]
  rw [hfetch]
  exact turn_of_idle horderly hprogram rfl (.inl rfl)
    (grounded_fetched horderly.grounded (newest_mem_versions scene) ns name) rfl rfl

theorem turn_of_landing (seen : Cluster) (h : RaceInvariant scene)
    (horderly : writer.KeepsRules scene.key scene.versions)
    (hprogram : writer.program = .ask effect next) {reply : effect.Reply} {method : Store.Method}
    {base object written : Cluster} {count : WriteCounts → WriteCounts}
    {store : Store ClusterContent} (hwritten : written? effect reply = some (method, written))
    (hwrite : scene.store.write object count = (.ok written, store))
    (hbase : base ∈ scene.versions)
    (hplace : ObjectKey.ofMetadata object.metadata = ObjectKey.ofMetadata base.metadata)
    (hcarried : object.metadata.resourceVersion = base.metadata.resourceVersion)
    (hlabels : object.metadata.labels = base.metadata.labels)
    (hstatus : method = .replace →
      writer.notes.position.isRetry = false ∧ object.status = base.status)
    (hseen : writer.notes.position.seen scene.newest = seen) (hmem : seen ∈ scene.versions)
    (hdirect : writer.notes.position.isRetry = false → seen = base)
    (hderive : method ≠ .replace → ∃ status,
      Derives writer.task writer.notes seen status ∧ object.status = some status)
    (hdrawn : (writer.notes.hear effect reply).drawn = writer.notes.drawn)
    (hposition : (writer.notes.hear effect reply).position = .landed ↔ method ≠ .replace)
    (hunlanded : writer.notes.position ≠ .landed)
    (hgrounded : Grounded (written :: scene.versions) writer.task
      (writer.notes.hear effect reply)) :
    WriterTurn scene index identity writer
      (scene.proceed index writer store effect reply (next reply)) := by
  have hkeeps := horderly.keeps
  rw [hprogram] at hkeeps
  obtain ⟨rfl, rfl, hobjects, hversion⟩ := write_lands h hbase hplace hcarried hwrite
  subst hseen
  unfold Scene.proceed Scene.record
  rw [hwritten]
  exact .landed rfl hobjects hversion (hplace.trans (h.keyed _ hbase)) rfl
    ⟨hlabels, hstatus, hderive, hdirect⟩ hmem hdrawn hposition hunlanded
    ⟨hkeeps.2 reply, hgrounded⟩

theorem turn_of_replace (h : RaceInvariant scene)
    (horderly : writer.KeepsRules scene.key scene.versions)
    {object : Cluster} {next : Effect.Reply (.store .cluster (.replace object)) → Pass TaskEnding}
    (hprogram : writer.program = .ask (.store .cluster (.replace object)) next)
    {reply : Except Failure Cluster} {store : Store ClusterContent}
    (hwrite : scene.store.write object Store.countReplace = (reply, store)) :
    WriterTurn scene index identity writer
      (scene.proceed index writer store (.store .cluster (.replace object)) reply
        (next reply)) := by
  have hkeeps := horderly.keeps
  rw [hprogram] at hkeeps
  obtain ⟨seen, id, hposition, rfl⟩ := hkeeps.1
  have hgrounded := horderly.grounded
  rw [Grounded, hposition] at hgrounded
  cases reply with
  | error failure =>
      obtain ⟨hobjects, hversion⟩ := write_error hwrite
      refine turn_of_idle horderly hprogram rfl (.inl rfl) ?_ hobjects hversion
      exact horderly.grounded
  | ok written =>
      refine turn_of_landing seen h horderly hprogram rfl hwrite hgrounded rfl rfl rfl
        (fun _ => ?_) ?_ hgrounded (fun _ => rfl) ?_ rfl ?_ ?_ ?_
      · rw [hposition]
        exact ⟨rfl, rfl⟩
      · rw [hposition]
        rfl
      · exact fun hmethod => absurd rfl hmethod
      · rw [hear_stamped hposition]
        exact ⟨nofun, fun hmethod => absurd rfl hmethod⟩
      · rw [hposition]
        exact nofun
      · rw [Grounded, hear_stamped hposition]
        exact List.mem_cons_self

theorem turn_of_refusal (horderly : writer.KeepsRules scene.key scene.versions) {object : Cluster}
    {next : Effect.Reply (.store .cluster (.replaceStatus object)) → Pass TaskEnding}
    (hprogram : writer.program = .ask (.store .cluster (.replaceStatus object)) next)
    {status : ClusterStatus} (hstatus : object.status = some status)
    (hderive : ∀ seen, writer.notes.position = .holding seen →
      Derives writer.task writer.notes seen status)
    {failure : Failure} {store : Store ClusterContent}
    (hwrite : scene.store.write object Store.countStatusWrite = (.error failure, store)) :
    WriterTurn scene index identity writer
      (scene.proceed index writer store (.store .cluster (.replaceStatus object))
        (.error failure) (next (.error failure))) := by
  obtain ⟨hobjects, hversion⟩ := write_error hwrite
  refine turn_of_idle horderly hprogram rfl (.inl rfl) ?_ hobjects hversion
  exact grounded_refused horderly.grounded hstatus hderive failure

theorem turn_of_replaceStatus (h : RaceInvariant scene)
    (horderly : writer.KeepsRules scene.key scene.versions) {object : Cluster}
    {next : Effect.Reply (.store .cluster (.replaceStatus object)) → Pass TaskEnding}
    (hprogram : writer.program = .ask (.store .cluster (.replaceStatus object)) next)
    {reply : Except Failure Cluster} {store : Store ClusterContent}
    (hwrite : scene.store.write object Store.countStatusWrite = (reply, store)) :
    WriterTurn scene index identity writer
      (scene.proceed index writer store (.store .cluster (.replaceStatus object)) reply
        (next reply)) := by
  have hkeeps := horderly.keeps
  rw [hprogram] at hkeeps
  have hgrounded := horderly.grounded
  rcases hkeeps.1 with ⟨seen, status, hposition, hderive, rfl⟩ |
    ⟨seen, offered, latest, hposition, rfl⟩
  -- The first attempt writes over the version that the writer has seen.
  · rw [Grounded, hposition] at hgrounded
    cases reply with
    | error failure =>
        refine turn_of_refusal horderly hprogram rfl (fun held hheld => ?_) hwrite
        cases hposition.symm.trans hheld
        exact hderive
    | ok written =>
        refine turn_of_landing seen h horderly hprogram rfl hwrite hgrounded rfl rfl rfl nofun ?_
          hgrounded (fun _ => rfl) (fun _ => ⟨_, hderive, rfl⟩) rfl
          ⟨fun _ => nofun, fun _ => rfl⟩ ?_ trivial
        · rw [hposition]
          rfl
        · rw [hposition]
          exact nofun
  -- The retry writes over a version that it has only fetched.
  · rw [Grounded, hposition] at hgrounded
    obtain ⟨hseen, hderive, hlatest⟩ := hgrounded
    cases reply with
    | error failure =>
        refine turn_of_refusal horderly hprogram rfl (fun held hheld => ?_) hwrite
        cases hposition.symm.trans hheld
    | ok written =>
        refine turn_of_landing seen h horderly hprogram rfl hwrite hlatest rfl rfl rfl nofun ?_
          hseen ?_ (fun _ => ⟨_, hderive, rfl⟩) rfl ⟨fun _ => nofun, fun _ => rfl⟩ ?_ trivial
        · rw [hposition]
          rfl
        · rw [hposition]
          exact nofun
        · rw [hposition]
          exact nofun

/-- The rules leave a writer no other turns. -/
theorem turn_of_reply (h : RaceInvariant scene)
    (horderly : writer.KeepsRules scene.key scene.versions)
    (hprogram : writer.program = .ask effect next) {reply : effect.Reply}
    {store : Store ClusterContent} (hreply : scene.reply? identity effect = some (reply, store)) :
    WriterTurn scene index identity writer
      (scene.proceed index writer store effect reply (next reply)) := by
  have hkeeps := horderly.keeps
  rw [hprogram] at hkeeps
  cases effect with
  | store kind call =>
      cases kind with
      | cluster =>
          -- Writers neither list nor create nor delete clusters.
          have hanswer := Option.some.inj hreply
          cases call with
          | get ns name =>
              obtain ⟨rfl, rfl⟩ := Prod.mk.inj hanswer
              exact turn_of_get h horderly hprogram
          | list ns selector => exact hkeeps.1.elim
          | create object => exact hkeeps.1.elim
          | replace object => exact turn_of_replace h horderly hprogram hanswer
          | replaceStatus object => exact turn_of_replaceStatus h horderly hprogram hanswer
          | delete ns name preconditions => exact hkeeps.1.elim
      | _ => contradiction
  | clock =>
      obtain ⟨rfl, rfl⟩ := Prod.mk.inj (Option.some.inj hreply)
      obtain ⟨seen, hposition⟩ := hkeeps.1
      have hgrounded := horderly.grounded
      rw [Grounded, hposition] at hgrounded
      refine turn_of_idle horderly hprogram rfl (.inl rfl) ?_ rfl rfl
      rw [Grounded, show (writer.notes.hear .clock scene.now).position = _ from hposition]
      exact hgrounded
  | freshId =>
      change (if _ then _ else _) = _ at hreply
      split at hreply
      · rename_i hfresh
        obtain ⟨rfl, rfl⟩ := Prod.mk.inj (Option.some.inj hreply)
        obtain ⟨seen, hposition⟩ := hkeeps.1
        have hgrounded := horderly.grounded
        rw [Grounded, hposition] at hgrounded
        refine turn_of_idle horderly hprogram rfl (.inr ⟨rfl, hfresh⟩) ?_ rfl rfl
        rw [Grounded, show (writer.notes.hear .freshId identity).position = _ from hposition]
        exact hgrounded
      · contradiction
  | publish regarding event =>
      obtain ⟨rfl, rfl⟩ := Prod.mk.inj (Option.some.inj hreply)
      exact turn_of_idle horderly hprogram rfl (.inl rfl) horderly.grounded rfl rfl
  | notify event =>
      obtain ⟨rfl, rfl⟩ := Prod.mk.inj (Option.some.inj hreply)
      exact turn_of_idle horderly hprogram rfl (.inl rfl) horderly.grounded rfl rfl

/-- What a move can do to a scene. -/
inductive SceneMoved (scene : Scene) : Scene → Prop where
  | still : SceneMoved scene scene
  | enrolled (task : Task)
      (hkey : ∀ sent received, task = .heartbeat sent received →
        ⟨some sent.cluster.namespace, sent.cluster.name⟩ = scene.key) :
      SceneMoved scene (scene.enroll task)
  | waited {now : Instant} (hlater : now.isBefore scene.now = false) :
      SceneMoved scene { scene with now }
  | turned {index : Nat} {identity : String} {writer : Writer} {after : Scene}
      (hwriter : scene.writers[index]? = some writer)
      (hturn : WriterTurn scene index identity writer after) : SceneMoved scene after

theorem sceneMoved_of_advance (h : RaceInvariant scene) (index : Nat) (identity : String) :
    SceneMoved scene (scene.advance index identity) := by
  have hturn := Interleaving.turn_advance crew (scene.answer? identity) scene index
  unfold Scene.advance
  generalize crew.advance (scene.answer? identity) scene index = after at hturn
  cases hturn with
  | rests => exact .still
  | goesOn hwriter hprogram hanswer =>
      obtain ⟨⟨reply, store⟩, hreply, hanswered⟩ := Option.map_eq_some_iff.mp hanswer
      cases hanswered
      have horderly := h.orderly _ (List.mem_of_getElem? hwriter)
      exact .turned hwriter (turn_of_reply h horderly hprogram hreply)

theorem sceneMoved_of_move (h : RaceInvariant scene) (move : Move) :
    SceneMoved scene (scene.move move) := by
  cases move with
  | pass settings => exact .enrolled _ fun _ _ htask => nomatch htask
  | heartbeat sent =>
      change SceneMoved scene (if _ then _ else _)
      split
      · rename_i hkey
        refine .enrolled _ ?_
        rintro _ _ ⟨⟩
        exact hkey
      · exact .still
  | wait later =>
      change SceneMoved scene (if _ then _ else _)
      split
      · exact .still
      · rename_i hlater
        exact .waited (eq_false_of_ne_true hlater)
  | advance index identity => exact sceneMoved_of_advance h index identity

theorem raceInvariant_opening {store : Store ClusterContent} {origin : Cluster}
    (hstore : Reached store)
    (hstored : store.lookup (.ofMetadata origin.metadata) = some origin) (now : Instant) :
    RaceInvariant (.opening store origin now) where
  stored := hstored
  keyed version hversion := by
    rw [List.mem_singleton.mp hversion]
    rfl
  numbered version hversion := by
    rw [List.mem_singleton.mp hversion]
    exact (versioned_of_reached hstore).numbered _ origin hstored
  distinct := List.nodup_singleton _
  linked := trivial
  faithful _ hlanding := nomatch hlanding
  orderly _ hwriter := nomatch hwriter

theorem raceInvariant_of_turn (h : RaceInvariant scene) {after : Scene}
    (hturn : WriterTurn scene index identity writer after) : RaceInvariant after := by
  cases hturn with
  | quiet hobjects hversion hdrawn hposition horderly =>
      refine ⟨?_, h.keyed, ?_, h.distinct, h.linked, h.faithful,
        Interleaving.forall_mem_set h.orderly horderly index⟩
      · rw [Store.lookup, hobjects]
        exact h.stored
      · intro version hmem
        exact numbered_mono (h.numbered version hmem) (Nat.le_of_eq hversion.symm)
  | @landed store notes program method written landing hlanding hobjects hversion hkeyed hnumber
      hfaithful hseen hdrawn hposition hunlanded horderly =>
      subst hlanding
      refine ⟨?_, ?_, ?_, ?_, ⟨rfl, hseen, h.linked⟩, ?_, ?_⟩
      · rw [Store.lookup, hobjects]
        exact get?_insert_self _ _ _
      · exact List.forall_mem_cons.mpr ⟨hkeyed, h.keyed⟩
      · refine List.forall_mem_cons.mpr
          ⟨⟨_, Nat.le_of_eq hversion.symm, hnumber⟩, fun version hmem => ?_⟩
        exact numbered_mono (h.numbered version hmem) (hversion ▸ Nat.le_succ _)
      · refine List.nodup_cons.mpr ⟨fun hmem => ?_, h.distinct⟩
        obtain ⟨version, hversion, heq⟩ := List.mem_map.mp hmem
        exact next_ne_of_numbered (h.numbered version hversion) (hnumber.symm.trans heq.symm)
      · exact List.forall_mem_cons.mpr ⟨hfaithful, h.faithful⟩
      · have hothers : ∀ other ∈ scene.writers,
            other.KeepsRules scene.key (written :: scene.versions) := fun other hother =>
          ⟨(h.orderly other hother).keeps,
            grounded_mono (h.orderly other hother).grounded fun _ => List.mem_cons_of_mem _⟩
        exact Interleaving.forall_mem_set hothers horderly index

theorem raceInvariant_enroll (h : RaceInvariant scene) (task : Task)
    (hkey : ∀ sent received, task = .heartbeat sent received →
      ⟨some sent.cluster.namespace, sent.cluster.name⟩ = scene.key) :
    RaceInvariant (scene.enroll task) := by
  have hnew : Writer.KeepsRules ⟨task, {}, task.program scene.key⟩ scene.key scene.versions :=
    ⟨keeps_program task hkey, trivial⟩
  have horderly : ∀ writer ∈ crew.workers (scene.enroll task),
      writer.KeepsRules scene.key scene.versions :=
    Interleaving.forall_workers_enroll crew h.orderly hnew
  exact ⟨h.stored, h.keyed, h.numbered, h.distinct, h.linked, h.faithful, horderly⟩

theorem raceInvariant_of_sceneMoved (h : RaceInvariant scene) {after : Scene}
    (hmoved : SceneMoved scene after) : RaceInvariant after := by
  cases hmoved with
  | still => exact h
  | enrolled task hkey => exact raceInvariant_enroll h task hkey
  | waited hlater =>
      exact ⟨h.stored, h.keyed, h.numbered, h.distinct, h.linked, h.faithful, h.orderly⟩
  | turned hwriter hturn => exact raceInvariant_of_turn h hturn

theorem raceInvariant_move (h : RaceInvariant scene) (move : Move) :
    RaceInvariant (scene.move move) :=
  raceInvariant_of_sceneMoved h (sceneMoved_of_move h move)

theorem run_induction {motive : Scene → Prop} (hhistory : RaceInvariant scene)
    (hopen : motive scene)
    (hmove : ∀ scene after, SceneMoved scene after → motive scene → motive after)
    (moves : List Move) : RaceInvariant (scene.run moves) ∧ motive (scene.run moves) := by
  refine Interleaving.run_induction
    (motive := fun _ reached => RaceInvariant reached ∧ motive reached)
    ⟨hhistory, hopen⟩ fun _ move _ ⟨hhistory, hholds⟩ => ?_
  have hmoved := sceneMoved_of_move hhistory move
  exact ⟨raceInvariant_of_sceneMoved hhistory hmoved, hmove _ _ hmoved hholds⟩

theorem reached_register : Reached register := .insert _ _ (.empty _)

theorem lookup_register : register.lookup (.ofMetadata newcomer.metadata) = some newcomer := by
  decide

end Fleet.Proofs.Race
