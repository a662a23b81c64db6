import Fleet.Proofs.Race.Arrival

namespace Fleet.Proofs.Race

open Fleet.Proofs.Heartbeats
open Fleet.Proofs.Stores

variable {scene after : Scene} {writer : Writer} {index : Nat} {identity : String}

theorem acknowledged_iff {key : ObjectKey} {versions : List Cluster}
    (h : writer.KeepsRules key versions) {t : Instant} :
    writer.acknowledged? = some t ↔
      (∃ sent, writer.task = .heartbeat sent t) ∧ writer.notes.position = .landed := by
  obtain ⟨task, notes, program⟩ := writer
  have hkeeps := h.keeps
  constructor
  · intro hacknowledged
    cases task with
    | pass settings => contradiction
    | heartbeat sent received =>
        cases program with
        | ask effect next => contradiction
        | done ending =>
            change (if ending.isAcknowledged then some received else none) = _ at hacknowledged
            split at hacknowledged
            · rename_i hending
              cases hacknowledged
              have hsuits : Suits (.heartbeat sent t) notes ending := hkeeps
              exact ⟨⟨sent, rfl⟩, (hsuits.mp hending).2⟩
            · contradiction
  · rintro ⟨⟨sent, rfl⟩, hlanded⟩
    cases program with
    | done ending =>
        have hsuits : Suits (.heartbeat sent t) notes ending := hkeeps
        exact if_pos (hsuits.mpr ⟨⟨sent, t, rfl⟩, hlanded⟩)
    | ask effect next => exact absurd hkeeps.1 (not_mayAsk_of_landed hlanded effect)

/-- Writers whose status is stored, and the landings that stored it. -/
structure Recorded (scene : Scene) : Prop where
  stored : ∀ writer ∈ scene.writers, writer.notes.position = .landed →
    ∃ landing ∈ scene.landings, landing.task = writer.task ∧ landing.method ≠ .replace
  accounted : ∀ landing ∈ scene.landings, landing.method ≠ .replace →
    ∃ writer ∈ scene.writers, writer.task = landing.task ∧ writer.notes.position = .landed

theorem mem_set_of_mem {α : Type} {list : List α} {old new a : α}
    (hindex : list[index]? = some old) (ha : a ∈ list) : a = old ∨ a ∈ list.set index new := by
  obtain ⟨i, hi⟩ := List.mem_iff_getElem?.mp ha
  by_cases hsame : index = i
  · rw [← hsame, hindex] at hi
    exact .inl (Option.some.inj hi).symm
  · refine .inr (List.mem_of_getElem? (i := i) ?_)
    rw [List.getElem?_set_ne hsame]
    exact hi

theorem new_mem_set {α : Type} {list : List α} {old : α} (hindex : list[index]? = some old)
    (new : α) : new ∈ list.set index new := by
  obtain ⟨hlt, -⟩ := List.getElem?_eq_some_iff.mp hindex
  exact List.mem_set hlt new

theorem recorded_of_turn (h : Recorded scene) (hindex : scene.writers[index]? = some writer)
    (hturn : WriterTurn scene index identity writer after) : Recorded after := by
  cases hturn with
  | @quiet store notes program hobjects hversion hdrawn hposition horderly =>
      constructor
      · intro other hother hlanded
        rcases List.mem_or_eq_of_mem_set hother with hold | rfl
        · exact h.stored other hold hlanded
        · exact h.stored writer (List.mem_of_getElem? hindex) (hposition.mp hlanded)
      · intro landing hlanding hmethod
        obtain ⟨other, hother, htask, hlanded⟩ := h.accounted landing hlanding hmethod
        rcases mem_set_of_mem hindex hother with rfl | hkept
        · exact ⟨_, new_mem_set hindex _, htask, hposition.mpr hlanded⟩
        · exact ⟨other, hkept, htask, hlanded⟩
  | @landed store notes program method written landing hlanding hobjects hversion hkeyed hnumber
      hfaithful hseen hdrawn hposition hunlanded horderly =>
      subst hlanding
      constructor
      · intro other hother hlanded
        rcases List.mem_or_eq_of_mem_set hother with hold | rfl
        · obtain ⟨landing, hlanding, hstores⟩ := h.stored other hold hlanded
          exact ⟨landing, .tail _ hlanding, hstores⟩
        · exact ⟨_, .head _, rfl, hposition.mp hlanded⟩
      · refine List.forall_mem_cons.mpr ⟨fun hmethod => ?_, fun landing hlanding hmethod => ?_⟩
        · exact ⟨_, new_mem_set hindex _, rfl, hposition.mpr hmethod⟩
        · obtain ⟨other, hother, htask, hlanded⟩ := h.accounted landing hlanding hmethod
          rcases mem_set_of_mem hindex hother with rfl | hkept
          · exact absurd hlanded hunlanded
          · exact ⟨other, hkept, htask, hlanded⟩

theorem recorded_enroll (h : Recorded scene) (task : Task) : Recorded (scene.enroll task) := by
  constructor
  · intro other hother hlanded
    rcases List.mem_append.mp hother with hold | hnew
    · exact h.stored other hold hlanded
    · rw [List.mem_singleton.mp hnew] at hlanded
      contradiction
  · intro landing hlanding hmethod
    obtain ⟨other, hother, hstores⟩ := h.accounted landing hlanding hmethod
    exact ⟨other, List.mem_append_left _ hother, hstores⟩

theorem recorded_of_sceneMoved (h : Recorded scene) (hmoved : SceneMoved scene after) :
    Recorded after := by
  cases hmoved with
  | still => exact h
  | enrolled task hkey => exact recorded_enroll h task
  | waited hlater => exact ⟨h.stored, h.accounted⟩
  | turned hwriter hturn => exact recorded_of_turn h hwriter hturn

/-- The times at which the acknowledged heartbeats were received. -/
def Scene.acknowledged (scene : Scene) : List Instant :=
  scene.writers.filterMap Writer.acknowledged?

/-- The version tells that a heartbeat has arrived, at the given time or later. -/
def RecordsHeartbeat (version : Cluster) (t : Instant) : Prop :=
  (version.status.getD default).conditions.isTrue .firstConnect = true ∧
    ∃ heartbeat ∈ (version.status.getD default).conditions.query .heartbeat,
      heartbeat.lastProbeTime.isBefore t = false

instance (version : Cluster) (t : Instant) : Decidable (RecordsHeartbeat version t) :=
  inferInstanceAs (Decidable (_ ∧ _))

/-- The stored cluster tells of every heartbeat that was acknowledged, and the probe time has not
moved back. -/
def RemembersHeartbeats (scene : Scene) : Prop :=
  (∀ t ∈ scene.acknowledged, ∃ current ∈ scene.store.lookup scene.key, RecordsHeartbeat current t) ∧
    scene.versions.Pairwise fun later earlier =>
      NotBefore (arrivals later).probe (arrivals earlier).probe

instance (scene : Scene) : Decidable (RemembersHeartbeats scene) :=
  inferInstanceAs (Decidable (_ ∧ _))

theorem recordsHeartbeat_of_covers {version : Cluster} {t : Instant}
    (h : (arrivals version).Covers { connected := true, probe := some t }) :
    RecordsHeartbeat version t := by
  obtain ⟨t', ht', hle⟩ := h.2 t rfl
  obtain ⟨heartbeat, hheartbeat, rfl⟩ := Option.map_eq_some_iff.mp ht'
  exact ⟨h.1 rfl, heartbeat, hheartbeat, hle⟩

theorem pairwise_covers (hlinked : Linked scene.origin scene.landings)
    (h : ∀ landing ∈ scene.landings,
      (arrivals landing.written).Covers (arrivals landing.found)) :
    scene.versions.Pairwise fun later earlier => (arrivals later).Covers (arrivals earlier) :=
  (pairwise_versionsOf_iff (fun later earlier => (arrivals later).Covers (arrivals earlier))
    (fun _ => covers_refl _) (fun _ _ _ => covers_trans) hlinked).mpr h

theorem remembersHeartbeats_of_covers (hhistory : RaceInvariant scene) (hrecorded : Recorded scene)
    (h : ∀ landing ∈ scene.landings,
      (arrivals landing.written).Covers (arrivals landing.found)) : RemembersHeartbeats scene := by
  have hpairwise := pairwise_covers hhistory.linked h
  refine ⟨fun t ht => ⟨scene.newest, hhistory.stored, ?_⟩, hpairwise.imp And.right⟩
  obtain ⟨writer, hwriter, hacknowledged⟩ := List.mem_filterMap.mp ht
  obtain ⟨⟨sent, htask⟩, hlanded⟩ := (acknowledged_iff (hhistory.orderly writer hwriter)).mp
    hacknowledged
  obtain ⟨landing, hlanding, hsame, hmethod⟩ := hrecorded.stored writer hwriter hlanded
  obtain ⟨status, ⟨hderive, -⟩, hstatus⟩ := (hhistory.faithful landing hlanding).reported hmethod
  rw [hsame, htask] at hderive
  have hwritten : arrivals landing.written = { connected := true, probe := some t } := by
    rw [arrivals, hstatus]
    exact arrivalsOf_heartbeat hderive
  have hversion : landing.written ∈ versionsOf scene.origin scene.landings :=
    List.mem_append_left _ (List.mem_map_of_mem hlanding)
  have hkept := kept_of_newest (fun version => covers_refl (arrivals version)) hpairwise hversion
  exact recordsHeartbeat_of_covers (hwritten ▸ hkept)

theorem connected_of_remembersHeartbeats (hhistory : RaceInvariant scene)
    (hrecorded : Recorded scene)
    {earlier : List Landing} (hlast : scene.landings = landing :: earlier)
    (h : RemembersHeartbeats scene)
    (hfound : (arrivals landing.found).connected = true) :
    (arrivals landing.written).connected = true := by
  have hlinked := hhistory.linked
  rw [hlast] at hlinked
  have hfaithful : ∀ other ∈ landing :: earlier, other.AccountedFor := hlast ▸ hhistory.faithful
  by_contra hwritten
  have hwritten_mem : landing.written ∈ versionsOf scene.origin (landing :: earlier) := .head _
  have hfound_mem : landing.found ∈ versionsOf scene.origin (landing :: earlier) :=
    .tail _ (hlinked.1 ▸ newestOf_mem scene.origin earlier)
  cases hmeta : Cluster.isMeta scene.origin with
  | false =>
      -- Some heartbeat has connected the cluster, and it was acknowledged.
      obtain ⟨stored, hmem, hmethod, sent, t, htask⟩ := exists_storesHeartbeat hlinked hfaithful
        hmeta hfound_mem hwritten_mem fun heq => hwritten (heq ▸ hfound)
      obtain ⟨writer, hwriter, hsame, hlanded⟩ :=
        hrecorded.accounted stored (hlast ▸ hmem) hmethod
      have hacknowledged : t ∈ scene.acknowledged := by
        refine List.mem_filterMap.mpr ⟨writer, hwriter, ?_⟩
        exact (acknowledged_iff (hhistory.orderly writer hwriter)).mpr
          ⟨⟨sent, hsame.trans htask⟩, hlanded⟩
      obtain ⟨current, hcurrent, htells⟩ := h.1 t hacknowledged
      rw [Option.mem_def, hhistory.stored, Scene.newest, hlast] at hcurrent
      cases hcurrent
      exact hwritten htells.1
  | true =>
      -- Every status of the meta cluster is a connected one.
      by_cases hmethod : landing.method = .replace
      · exact hwritten (arrivals_of_stamp (hfaithful landing (.head _)) hmethod ▸ hfound)
      · obtain ⟨status, ⟨hderive, -⟩, hstatus⟩ := (hfaithful landing (.head _)).reported hmethod
        have hseen := isMeta_versionsOf hlinked hfaithful landing.seen (.tail _ hlinked.2.1)
        rw [arrivals, hstatus, Option.getD_some] at hwritten
        cases htask : landing.task with
        | pass settings =>
            rw [htask] at hderive
            rw [connected_of_derive hderive, hseen, hmeta] at hwritten
            contradiction
        | heartbeat sent received =>
            rw [htask] at hderive
            rw [arrivalsOf_heartbeat hderive] at hwritten
            contradiction

theorem covers_of_remembersHeartbeats (hhistory : RaceInvariant scene) (hrecorded : Recorded scene)
    {earlier : List Landing} (hlast : scene.landings = landing :: earlier)
    (h : RemembersHeartbeats scene) :
    (arrivals landing.written).Covers (arrivals landing.found) := by
  refine ⟨connected_of_remembersHeartbeats hhistory hrecorded hlast h, ?_⟩
  have hlinked := hhistory.linked
  have hsteady := h.2
  rw [hlast] at hlinked
  rw [Scene.versions, hlast] at hsteady
  rw [hlinked.1]
  exact (List.pairwise_cons.mp hsteady).1 _ (newestOf_mem scene.origin earlier)

theorem landings_of_sceneMoved (hmoved : SceneMoved scene after) :
    after.landings = scene.landings ∨
      ∃ landing, after.landings = landing :: scene.landings := by
  cases hmoved with
  | still => exact .inl rfl
  | enrolled task hkey => exact .inl rfl
  | waited hlater => exact .inl rfl
  | turned hwriter hturn =>
      cases hturn with
      | quiet => exact .inl rfl
      | landed => exact .inr ⟨_, rfl⟩

theorem mem_landings_run (hhistory : RaceInvariant scene) {moves : List Move}
    (h : landing ∈ scene.landings) : landing ∈ (scene.run moves).landings := by
  refine (run_induction (motive := fun reached => landing ∈ reached.landings) hhistory h ?_ moves).2
  intro before after hmoved hmem
  rcases landings_of_sceneMoved hmoved with hsame | ⟨other, hnew⟩
  · exact hsame ▸ hmem
  · exact hnew ▸ .tail _ hmem

/-- The landing is one of the start, or was the last one at some point of the run. -/
def Arose (start : Scene) (moves : List Move) (landing : Landing) : Prop :=
  landing ∈ start.landings ∨
    ∃ earlier, earlier <+: moves ∧ ∃ rest, (start.run earlier).landings = landing :: rest

theorem arose_mono {moves longer : List Move} (h : Arose scene moves landing)
    (hearly : moves <+: longer) : Arose scene longer landing := by
  rcases h with hmem | ⟨earlier, hearlier, hlast⟩
  · exact .inl hmem
  · exact .inr ⟨earlier, hearlier.trans hearly, hlast⟩

theorem arose_of_mem_landings (hhistory : RaceInvariant scene) (moves : List Move) :
    RaceInvariant (scene.run moves) ∧
      ∀ landing ∈ (scene.run moves).landings, Arose scene moves landing := by
  refine Interleaving.run_induction (motive := fun made reached =>
    RaceInvariant reached ∧ ∀ landing ∈ reached.landings, Arose scene made landing)
    ⟨hhistory, fun _ hmem => .inl hmem⟩ fun made move _ ⟨hreached, harose⟩ => ?_
  have hmoved := sceneMoved_of_move hreached move
  refine ⟨raceInvariant_of_sceneMoved hreached hmoved, ?_⟩
  have hold : ∀ landing ∈ (scene.run made).landings, Arose scene (made ++ [move]) landing :=
    fun landing hmem => arose_mono (harose landing hmem) (List.prefix_append made [move])
  rcases landings_of_sceneMoved hmoved with hsame | ⟨other, hnew⟩
  · exact hsame ▸ hold
  · rw [hnew]
    have hlast : (scene.run (made ++ [move])).landings = other :: (scene.run made).landings := by
      rw [Scene.run, List.foldl_append]
      exact hnew
    exact List.forall_mem_cons.mpr
      ⟨.inr ⟨made ++ [move], List.prefix_refl _, _, hlast⟩, hold⟩

/-- Acknowledged heartbeats are remembered all along, and the probe time never moves back, exactly
if every status that is put where it may not belong brings at least what it finds there. -/
theorem remembersHeartbeats_iff_covers {store : Store ClusterContent} {origin : Cluster}
    (hstore : Reached store)
    (hstored : store.lookup (.ofMetadata origin.metadata) = some origin) (now : Instant)
    (moves : List Move) :
    (∀ earlier, earlier <+: moves →
      RemembersHeartbeats ((Scene.opening store origin now).run earlier)) ↔
      ∀ landing ∈ ((Scene.opening store origin now).run moves).landings,
        landing.Exposed → landing.brings.Covers (arrivals landing.found) := by
  have hopen : Recorded (Scene.opening store origin now) :=
    ⟨fun _ hmem => (nomatch hmem), fun _ hmem => (nomatch hmem)⟩
  have hopening := raceInvariant_opening hstore hstored now
  have hrun := run_induction hopening hopen
    fun _ _ hmoved h => recorded_of_sceneMoved h hmoved
  constructor
  · intro h landing hlanding
    have hfaithful := (hrun moves).1.faithful landing hlanding
    rw [← covers_written_iff hfaithful]
    rcases (arose_of_mem_landings hopening moves).2 landing hlanding with
      hnone | ⟨earlier, hearly, rest, hlast⟩
    · contradiction
    · exact covers_of_remembersHeartbeats (hrun earlier).1 (hrun earlier).2 hlast (h earlier hearly)
  · rintro h earlier ⟨later, rfl⟩
    refine remembersHeartbeats_of_covers (hrun earlier).1
      (hrun earlier).2 fun landing hlanding => ?_
    have hfaithful := (hrun earlier).1.faithful landing hlanding
    refine (covers_written_iff hfaithful).mpr (h landing ?_)
    rw [Scene.run, List.foldl_append]
    exact mem_landings_run (hrun earlier).1 hlanding

/-- A pass has fetched the new cluster when its first heartbeat is received, taken in and
acknowledged. The pass is refused and puts its own conditions on what the heartbeat has written. -/
def overwritten : List Move :=
  [.pass {}, .heartbeat firstHeartbeat, .advance 0 "", .advance 1 "", .advance 1 "",
    .advance 0 "", .advance 0 "first", .advance 0 "", .advance 0 "", .advance 0 "",
    .advance 0 ""]

theorem not_remembersHeartbeats_of_overwritten :
    ((Scene.opening register newcomer .epoch).run overwritten).writers.all Writer.isDone = true ∧
      ((Scene.opening register newcomer .epoch).run overwritten).acknowledged = [.epoch] ∧
      ¬ RemembersHeartbeats ((Scene.opening register newcomer .epoch).run overwritten) := by
  decide

theorem remembersHeartbeats_iff_covers_of_overwritten :
    (∀ earlier, earlier <+: overwritten →
      RemembersHeartbeats ((Scene.opening register newcomer .epoch).run earlier)) ↔
      ∀ landing ∈ ((Scene.opening register newcomer .epoch).run overwritten).landings,
        landing.Exposed → landing.brings.Covers (arrivals landing.found) :=
  remembersHeartbeats_iff_covers reached_register lookup_register .epoch overwritten

/-- Of two heartbeats, the one that was received first may be written last, and moves the probe time
back. -/
example :
    (((Scene.opening register newcomer .epoch).run
      [.heartbeat firstHeartbeat, .wait ⟨1, 0, by decide⟩, .heartbeat firstHeartbeat,
        .advance 1 "", .advance 1 "", .advance 0 "", .advance 0 ""]).versions.map fun version =>
      (arrivals version).probe.map Instant.second) = [some 0, some 1, none] := by
  decide

end Fleet.Proofs.Race
