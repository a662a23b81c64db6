import Fleet.Proofs.Judgements
import Fleet.Proofs.Rehearsals

/-!
Repeated passes over a cluster. What a judgement makes of a status depends on nothing that a pass
writes besides, and a status that has been judged is judged the same once more. So a cluster comes
to rest: the first pass may greet it, the second one may stamp its identity on it and judge it, and
the third one finds nothing to do.
-/

namespace Fleet.Proofs.ClusterIdempotence

open Fleet.Cluster
open Fleet.Proofs.Judgements
open Fleet.Proofs.Ledgers
open Fleet.Proofs.Rehearsals
open Fleet.Proofs.Stores
open Fleet.Rehearsal

def judgedMeta (now : Instant) (status : ClusterStatus) : ClusterStatus :=
  { status with
    phase := .ready
    conditions := Enumeration.all.foldl
      (fun ledger type => ledger.ensure type .true_ "Ready" "meta cluster ready" now)
      status.conditions }

def greeted (newId : String) (now : Instant) (status : ClusterStatus) : ClusterStatus :=
  { phase := .created
    clusterId := if status.assignedId?.isNone then some newId else status.clusterId
    conditions := status.conditions.set .init .true_ "" "" now }

def judgedGreeted (timeout : Delay) (now : Instant) (status : ClusterStatus) : ClusterStatus :=
  if status.conditions.check .firstConnect .false_ then status
  else
    match status.conditions.query .heartbeat with
    | none => { status with phase := .lost }
    | some heartbeat =>
        if heartbeat.status = .false_ then { status with phase := .lost }
        else if timeout.nanoseconds < heartbeat.lastProbeTime.elapsed now then
          { status with
            phase := .lost
            conditions := status.conditions.set .heartbeat .false_ Event.unhealthy "time out" now }
        else
          { status with
            phase := if (complaints status.conditions).isEmpty then .ready else .outOfControl }

/-- The status of a cluster after it has been judged. -/
def judged (settings : Settings) (cluster : Cluster) (newId : String) (now : Instant)
    (status : ClusterStatus) : ClusterStatus :=
  if isMeta cluster then judgedMeta now status
  else if status.conditions.isTrue .init then
    judgedGreeted (heartbeatTimeout settings cluster) now status
  else greeted newId now status

variable {settings : Settings} {newId newId' : String} {now now' : Instant} {timeout : Delay}
  {status : ClusterStatus} {draft : StatusDraft} {cluster later : Cluster}

/-- The next look at a cluster can be scheduled. Nothing is scheduled by the heartbeats of a meta
cluster. -/
def Schedulable (settings : Settings) (cluster : Cluster) : Prop :=
  isMeta cluster = false → ((heartbeatTimeout settings cluster).add? slack).isSome = true

/-- The judgement that is made of a draft: none of its steps fails. -/
structure Finds (draft : StatusDraft) (judgement : Judgement) (status : ClusterStatus) :
    Prop where
  observed : judgement.draft.observed = draft.observed
  status : judgement.draft.status = status
  failure : judgement.outcome.failure = none

theorem finds_judgeConnected (hpatience : (timeout.add? slack).isSome = true)
    (hcontact : draft.status.conditions.check .firstConnect .false_ = false) :
    ∃ judgement, judgeConnected timeout draft now = some judgement ∧
      Finds draft judgement (judgedGreeted timeout now draft.status) := by
  obtain ⟨patience, hpatience⟩ := Option.isSome_iff_exists.mp hpatience
  cases hquery : draft.status.conditions.query .heartbeat with
  | none =>
      refine ⟨_, by rw [judgeConnected, hquery], rfl, ?_, rfl⟩
      simp [judgedGreeted, hcontact, hquery, setPhase]
  | some heartbeat =>
      simp only [judgeConnected, judgedGreeted, hcontact, hquery, Bool.false_eq_true, if_false]
      by_cases hlost : heartbeat.status = .false_
      · simp only [if_pos hlost]
        exact ⟨_, rfl, rfl, rfl, rfl⟩
      · by_cases hlate : timeout.nanoseconds < heartbeat.lastProbeTime.elapsed now
        · simp only [if_neg hlost, if_pos hlate]
          exact ⟨_, rfl, rfl, rfl, rfl⟩
        · simp only [if_neg hlost, if_neg hlate, judgeCurrent, hpatience, foldl_addEvent]
          exact ⟨_, rfl, rfl, rfl, rfl⟩

theorem finds_judge (draft : StatusDraft) (hpatience : Schedulable settings draft.observed)
    (newId : String) (now : Instant) :
    ∃ judgement, judge settings newId draft now = some judgement ∧
      Finds draft judgement (judged settings draft.observed newId now draft.status) := by
  unfold judge judged
  cases hmeta : isMeta draft.observed with
  | true => exact ⟨_, rfl, rfl, rfl, rfl⟩
  | false =>
      cases hinit : draft.status.conditions.isTrue .init with
      | false => exact ⟨_, rfl, rfl, rfl, rfl⟩
      | true =>
          cases hcontact : draft.status.conditions.check .firstConnect .false_ with
          | true =>
              refine ⟨_, rfl, rfl, ?_, rfl⟩
              simp [judgedGreeted, hcontact]
          | false => exact finds_judgeConnected (hpatience hmeta) hcontact

variable {T : Type} [DecidableEq T]

theorem tells_foldl_ensure (condition : ConditionStatus) (reason message : String) (now : Instant)
    (types : List T) (ledger : Ledger T) {type : T}
    (h : type ∈ types ∨ ledger.tells type condition reason message = true) :
    (types.foldl (fun ledger type => ledger.ensure type condition reason message now)
      ledger).tells type condition reason message = true := by
  induction types generalizing ledger with
  | nil => exact h.resolve_left List.not_mem_nil
  | cons head rest ih =>
      refine ih _ ?_
      by_cases hhead : type = head
      · exact .inr (hhead ▸ tells_ensure_self ledger type condition reason message now)
      · rw [tells_ensure_of_ne hhead]
        exact h.imp_left fun hmem => (List.mem_cons.mp hmem).resolve_left hhead

theorem foldl_ensure_of_tells {condition : ConditionStatus} {reason message : String}
    {types : List T} {ledger : Ledger T}
    (h : ∀ type ∈ types, ledger.tells type condition reason message = true) (now : Instant) :
    types.foldl (fun ledger type => ledger.ensure type condition reason message now) ledger =
      ledger := by
  induction types with
  | nil => rfl
  | cons head rest ih =>
      rw [List.foldl_cons, ensure_of_tells (h head List.mem_cons_self)]
      exact ih fun type htype => h type (List.mem_cons_of_mem head htype)

theorem judgedMeta_judgedMeta (now now' : Instant) (status : ClusterStatus) :
    judgedMeta now' (judgedMeta now status) = judgedMeta now status := by
  have htold : ∀ type ∈ Enumeration.all,
      (judgedMeta now status).conditions.tells type .true_ "Ready" "meta cluster ready" = true :=
    fun type htype => tells_foldl_ensure .true_ _ _ now _ _ (.inl htype)
  exact congrArg (fun conditions => { judgedMeta now status with conditions })
    (foldl_ensure_of_tells htold now')

theorem check_set_heartbeat (conditions : Ledger ClusterConditionType)
    (condition expected : ConditionStatus) (reason message : String) (now : Instant) :
    (conditions.set .heartbeat condition reason message now).check .firstConnect expected =
      conditions.check .firstConnect expected :=
  check_congr (query_set_of_ne (by decide) ..) expected

theorem judgedGreeted_judgedGreeted (timeout : Delay) (now : Instant) (status : ClusterStatus) :
    judgedGreeted timeout now (judgedGreeted timeout now status) =
      judgedGreeted timeout now status := by
  cases hcontact : status.conditions.check .firstConnect .false_ with
  | true => simp [judgedGreeted, hcontact]
  | false =>
      cases hquery : status.conditions.query .heartbeat with
      | none => simp [judgedGreeted, hcontact, hquery]
      | some heartbeat =>
          by_cases hlost : heartbeat.status = .false_
          · simp [judgedGreeted, hcontact, hquery, hlost]
          · by_cases hlate : timeout.nanoseconds < heartbeat.lastProbeTime.elapsed now
            · -- The heartbeats are given up now, and have been given up the next time.
              obtain ⟨since, hsince⟩ := query_set_self status.conditions .heartbeat .false_
                Event.unhealthy "time out" now
              simp [judgedGreeted, hcontact, hquery, hlost, hlate, check_set_heartbeat, hsince]
            · simp [judgedGreeted, hcontact, hquery, hlost, hlate]

theorem isTrue_init_judgedGreeted (timeout : Delay) (now : Instant) (status : ClusterStatus) :
    (judgedGreeted timeout now status).conditions.isTrue .init =
      status.conditions.isTrue .init := by
  unfold judgedGreeted
  split
  · rfl
  · split
    · rfl
    · split
      · rfl
      · split
        · exact isTrue_set_of_ne (by decide) ..
        · rfl

theorem clusterId_judgedGreeted (timeout : Delay) (now : Instant) (status : ClusterStatus) :
    (judgedGreeted timeout now status).clusterId = status.clusterId := by
  unfold judgedGreeted
  split
  · rfl
  · split
    · rfl
    · split
      · rfl
      · split <;> rfl

/-- A cluster that is not to be greeted: it has been, or it stands for the platform. -/
def Familiar (cluster : Cluster) (status : ClusterStatus) : Prop :=
  isMeta cluster = true ∨ status.conditions.isTrue .init = true

theorem familiar_judged (settings : Settings) (cluster : Cluster) (newId : String) (now : Instant)
    (status : ClusterStatus) :
    Familiar cluster (judged settings cluster newId now status) := by
  unfold Familiar judged
  cases isMeta cluster with
  | true => exact .inl rfl
  | false =>
      right
      cases hinit : status.conditions.isTrue .init with
      | true => exact (isTrue_init_judgedGreeted _ now status).trans hinit
      | false => exact isTrue_set_self ..

/-- At one and the same time, a familiar cluster is judged once. -/
theorem judged_judged (h : Familiar cluster status) :
    judged settings cluster newId' now (judged settings cluster newId now status) =
      judged settings cluster newId now status := by
  unfold judged
  cases hmeta : isMeta cluster with
  | true => exact judgedMeta_judgedMeta now now status
  | false =>
      have hinit := h.resolve_left (by simp [hmeta])
      simp [hinit, isTrue_init_judgedGreeted, judgedGreeted_judgedGreeted]

/-- A meta cluster is judged once and for all. -/
theorem judged_judged_meta (hmeta : isMeta cluster = true) :
    judged settings cluster newId' now' (judged settings cluster newId now status) =
      judged settings cluster newId now status := by
  unfold judged
  rw [hmeta]
  exact judgedMeta_judgedMeta now now' status

theorem clusterId_judged (h : Familiar cluster status) :
    (judged settings cluster newId now status).clusterId = status.clusterId := by
  unfold judged
  cases hmeta : isMeta cluster with
  | true => rfl
  | false =>
      have hinit := h.resolve_left (by simp [hmeta])
      rw [hinit]
      exact clusterId_judgedGreeted _ now status

variable {world after : World} {judgement : Judgement}

/-- A later version of a cluster, of which a judgement takes the same view. -/
structure SameSubject (cluster later : Cluster) : Prop where
  place : ObjectKey.ofMetadata later.metadata = .ofMetadata cluster.metadata
  present : later.metadata.deletionTimestamp = cluster.metadata.deletionTimestamp
  common : isMeta later = isMeta cluster
  spec : later.spec = cluster.spec

theorem sameSubject_refl (cluster : Cluster) : SameSubject cluster cluster := ⟨rfl, rfl, rfl, rfl⟩

theorem sameSubject_trans {last : Cluster} (h : SameSubject cluster later)
    (h' : SameSubject later last) :
    SameSubject cluster last :=
  ⟨h'.place.trans h.place, h'.present.trans h.present, h'.common.trans h.common,
    h'.spec.trans h.spec⟩

theorem heartbeatTimeout_of_sameSubject (h : SameSubject cluster later) (settings : Settings) :
    heartbeatTimeout settings later = heartbeatTimeout settings cluster := by
  rw [heartbeatTimeout, h.spec, heartbeatTimeout]

theorem judged_of_sameSubject (h : SameSubject cluster later) (settings : Settings) :
    judged settings later = judged settings cluster := by
  funext newId now status
  rw [judged, judged, h.common, heartbeatTimeout_of_sameSubject h]

theorem schedulable_of_sameSubject (h : SameSubject cluster later)
    (hpatience : Schedulable settings cluster) :
    Schedulable settings later := by
  unfold Schedulable
  rw [h.common, heartbeatTimeout_of_sameSubject h]
  exact hpatience

theorem familiar_of_sameSubject (h : SameSubject cluster later)
    (hfamiliar : Familiar cluster status) :
    Familiar later status :=
  hfamiliar.imp_left h.common.trans

/-- The cluster is stored in its own place, and nothing gets in the way of calls. -/
structure Stored (world : World) (cluster : Cluster) : Prop where
  faults : world.faults = []
  lookup : world.inventory.clusters.lookup (.ofMetadata cluster.metadata) = some cluster

/-- Of the inventory, clusters alone have changed, and no write to them was refused. -/
def Undisputed (world after : World) : Prop :=
  ∃ clusters, after.inventory = { world.inventory with clusters } ∧
    clusters.counts.conflicts = world.inventory.clusters.counts.conflicts

/-- What calls have made of the stored cluster. -/
structure CallsLeave (world : World) (cluster : Cluster) (after : World) (later : Cluster) :
    Prop where
  stored : Stored after later
  alike : SameSubject cluster later
  now : after.now = world.now
  undisputed : Undisputed world after

theorem callsLeave_refl (h : Stored world cluster) : CallsLeave world cluster world cluster :=
  ⟨h, sameSubject_refl cluster, rfl, _, rfl, rfl⟩

theorem callsLeave_trans {last : Cluster} {final : World} (h : CallsLeave world cluster after later)
    (h' : CallsLeave after later final last) : CallsLeave world cluster final last := by
  obtain ⟨clusters, hafter, hconflicts⟩ := h.undisputed
  obtain ⟨clusters', hfinal, hconflicts'⟩ := h'.undisputed
  refine ⟨h'.stored, sameSubject_trans h.alike h'.alike, h'.now.trans h.now, clusters', ?_, ?_⟩
  · rw [hfinal, hafter]
  · rw [hconflicts', hafter]
    exact hconflicts

def LeavesWritten (world : World) (cluster updated : Cluster) (result : Except Failure Cluster)
    (after : World) : Prop :=
  ∃ uid version, result = .ok { updated with
      metadata := { updated.metadata with uid, resourceVersion := version } } ∧
    CallsLeave world cluster after { updated with
      metadata := { updated.metadata with uid, resourceVersion := version } }

/-- An access that puts a version made from the stored one in its place, whatever it counts. -/
theorem ends_put (h : Stored world cluster) {updated : Cluster}
    (halike : SameSubject cluster updated)
    {access : Store.Access ClusterContent (Except Failure Cluster)} {counts : WriteCounts}
    (hrun : access.run serve (world.inventory.clusters, world.drawn) =
      (.ok (world.inventory.clusters.stamp (Store.identify updated cluster.metadata.uid)),
        { world.inventory.clusters.put (.ofMetadata updated.metadata)
            (world.inventory.clusters.stamp (Store.identify updated cluster.metadata.uid)) with
          counts },
        world.drawn))
    (hcounts : counts.conflicts = world.inventory.clusters.counts.conflicts) :
    Ends (Pass.on .cluster access) world (LeavesWritten world cluster updated) := by
  have halike' : SameSubject cluster
      (world.inventory.clusters.stamp (Store.identify updated cluster.metadata.uid)) :=
    ⟨halike.place, halike.present, halike.common, halike.spec⟩
  exact ends_on_of_run h.faults hrun
    ⟨_, _, rfl, ⟨h.faults, lookup_put_self ..⟩, halike', rfl, _, rfl, hcounts⟩

theorem ends_replace (h : Stored world cluster) (updated : Cluster)
    (halike : SameSubject cluster updated)
    (hversion : updated.metadata.resourceVersion = cluster.metadata.resourceVersion) :
    Ends (Pass.on .cluster (Store.replace updated)) world
      (LeavesWritten world cluster updated) := by
  have hlookup : world.inventory.clusters.lookup (.ofMetadata updated.metadata) = some cluster :=
    halike.place ▸ h.lookup
  exact ends_put h halike (run_replace_current hlookup hversion) rfl

theorem ends_persistStatus (h : Stored world cluster) (updated : Cluster)
    (halike : SameSubject cluster updated)
    (hversion : updated.metadata.resourceVersion = cluster.metadata.resourceVersion) :
    Ends (Pass.on .cluster (Store.persistStatus updated)) world
      (LeavesWritten world cluster updated) := by
  have hlookup : world.inventory.clusters.lookup (.ofMetadata updated.metadata) = some cluster :=
    halike.place ▸ h.lookup
  exact ends_put h halike (run_persistStatus hlookup hversion) rfl

/-- The annotations repeat the assigned identity, if there is one. -/
def Stamped (cluster : Cluster) : Prop :=
  ∀ id, assignedId? cluster = some id → cluster.metadata.annotation? idAnnotation = some id

theorem annotation?_annotate (metadata : Metadata) (name value : String) :
    (metadata.annotate name value).annotation? name = some value :=
  get?_insert_self ..

/-- The cluster goes on with its identity stamped on it; one that was stamped before is not
written. -/
theorem ends_stampId (h : Stored world cluster) :
    Ends (Pass.on .cluster (stampId cluster)) world fun result after =>
      ∃ observed, result = .ok observed ∧ CallsLeave world cluster after observed ∧
        observed.content = cluster.content ∧ Stamped observed ∧
          (Stamped cluster → after = world ∧ observed = cluster) := by
  unfold stampId
  cases hid : assignedId? cluster with
  | none =>
      refine ⟨cluster, rfl, callsLeave_refl h, rfl, ?_, fun _ => ⟨rfl, rfl⟩⟩
      intro id hassigned
      rw [hid] at hassigned
      contradiction
  | some id =>
      dsimp only
      by_cases hstamped : cluster.metadata.annotation? idAnnotation = some id
      · rw [if_pos hstamped]
        refine ⟨cluster, rfl, callsLeave_refl h, rfl, ?_, fun _ => ⟨rfl, rfl⟩⟩
        intro other hassigned
        rw [hstamped, ← hid, hassigned]
      · rw [if_neg hstamped]
        refine ends_mono (ends_replace h
          { cluster with metadata := cluster.metadata.annotate idAnnotation id }
          ⟨rfl, rfl, rfl, rfl⟩ rfl) ?_
        rintro _ after ⟨uid, version, rfl, hleaves⟩
        refine ⟨_, rfl, hleaves, rfl, ?_, fun hearlier => absurd (hearlier id hid) hstamped⟩
        intro other hassigned
        have hsame : some id = some other := hid.symm.trans hassigned
        rw [← hsame]
        exact annotation?_annotate cluster.metadata idAnnotation id

/-- The status that a pass computed is stored in the end, and it is written only if it is new. -/
structure Settles (world : World) (cluster : Cluster) (drafted : ClusterStatus) (after : World)
    (later : Cluster) : Prop where
  leaves : CallsLeave world cluster after later
  status : later.status.getD default = drafted
  annotations : later.metadata.annotations = cluster.metadata.annotations
  silent : cluster.status.getD default = drafted → after.inventory = world.inventory

theorem ends_conclude (h : Stored world cluster)
    (hobserved : judgement.draft.observed = cluster) :
    Ends (conclude cluster judgement) world fun outcome after =>
      outcome.failure = judgement.outcome.failure ∧
        ∃ later, Settles world cluster judgement.draft.status after later := by
  refine ends_bind (ends_publishAll _ _ world) ?_
  rintro ⟨⟩ _ ⟨published, rfl⟩
  have hpublished : CallsLeave world cluster { world with published } cluster :=
    ⟨⟨h.faults, h.lookup⟩, sameSubject_refl cluster, rfl, _, rfl, rfl⟩
  dsimp only [Draft.finish]
  rw [hobserved]
  by_cases hsame : cluster.status.getD default = judgement.draft.status
  · rw [if_pos hsame]
    exact ⟨rfl, cluster, hpublished, hsame, rfl, fun _ => rfl⟩
  · rw [if_neg hsame]
    refine ends_bind (ends_persistStatus hpublished.stored _ ⟨rfl, rfl, rfl, rfl⟩ rfl) ?_
    rintro _ after ⟨uid, version, rfl, hleaves⟩
    exact ⟨rfl, _, callsLeave_trans hpublished hleaves, rfl, rfl, fun h => absurd h hsame⟩

/-- What a pass over the stored cluster does. -/
structure JudgesStored (settings : Settings) (world : World) (cluster : Cluster) (after : World)
    (later : Cluster) : Prop where
  leaves : CallsLeave world cluster after later
  status : ∃ newId, later.status.getD default =
    judged settings cluster newId world.now (cluster.status.getD default)
  /-- The identity that the cluster came with is stamped on it. -/
  stamped : ∀ id, assignedId? cluster = some id →
    later.metadata.annotation? idAnnotation = some id
  silent : Stamped cluster →
    (∀ newId, judged settings cluster newId world.now (cluster.status.getD default) =
      cluster.status.getD default) → after.inventory = world.inventory

theorem aggregate_ok {outcome : Outcome} (h : outcome.failure = none) (soon : Delay) :
    ∃ action, outcome.aggregate soon = .ok action := by
  unfold Outcome.aggregate
  rw [h]
  cases outcome.nextDelay soon with
  | none => exact ⟨_, rfl⟩
  | some delay => exact ⟨_, rfl⟩

theorem ends_reconcile (h : Stored world cluster)
    (hpresent : cluster.metadata.deletionTimestamp = none)
    (hpatience : Schedulable settings cluster) :
    Ends (reconcile settings cluster) world fun result after =>
      (∃ action, result = .finished (.ok action)) ∧
        ∃ later, JudgesStored settings world cluster after later := by
  unfold reconcile
  rw [hpresent, if_neg (by decide)]
  refine ends_bind (ends_stampId h) ?_
  rintro _ stamped ⟨observed, rfl, hstamped, hcontent, hannotated, hidle⟩
  have hstatus : observed.status = cluster.status := congrArg Managed.status hcontent
  refine ends_bind (ends_observe settings observed stamped) ?_
  rintro _ _ ⟨⟨newId, rfl⟩, drawn, rfl⟩
  have hdrawn : CallsLeave world cluster { stamped with drawn } observed :=
    callsLeave_trans hstamped
      ⟨⟨hstamped.stored.faults, hstamped.stored.lookup⟩, sameSubject_refl observed,
      rfl, _, rfl, rfl⟩
  have hpatience : Schedulable settings (addWarnings (.start observed)).observed := by
    rw [observed_addWarnings]
    exact schedulable_of_sameSubject hstamped.alike hpatience
  obtain ⟨judgement, hjudge, hobserved, hjudged, hfailure⟩ :=
    finds_judge (addWarnings (.start observed)) hpatience newId stamped.now
  rw [observed_addWarnings] at hobserved
  rw [observed_addWarnings, status_addWarnings, Draft.start, judged_of_sameSubject hstamped.alike,
    hstamped.now] at hjudged
  rw [hjudge]
  refine ends_bind (ends_conclude hdrawn.stored hobserved) ?_
  rintro outcome after ⟨hok, later, hsettles⟩
  obtain ⟨action, haction⟩ := aggregate_ok (hok.trans hfailure) settings.requeueSoon
  refine ⟨⟨action, congrArg PassResult.finished haction⟩, later,
    callsLeave_trans hdrawn hsettles.leaves, ⟨newId, ?_⟩, ?_, ?_⟩
  · rw [hsettles.status, hjudged]
    exact congrArg (fun status => judged settings cluster newId world.now (status.getD default))
      hstatus
  · intro id hassigned
    have hassigned' : assignedId? observed = some id := by
      rw [assignedId?, hstatus]
      exact hassigned
    rw [Metadata.annotation?, hsettles.annotations]
    exact hannotated id hassigned'
  · intro hearlier hquiet
    obtain ⟨rfl, rfl⟩ := hidle hearlier
    exact hsettles.silent (hjudged.trans (hquiet newId)).symm

/-- One pass over the cluster that is stored under a key, at a given time. -/
def passOver (settings : Settings) (key : ObjectKey) (world : World) (now : Instant) :
    Option PassResult × World :=
  match world.inventory.clusters.lookup key with
  | none => (none, { world with now })
  | some cluster =>
      let (result, after) := { world with now }.perform (reconcile settings cluster)
      (some result, after)

/-- A pass that finds its cluster, ends without an error, and meets no conflict. -/
structure EndsWithoutConflict (before : World) (pass : Option PassResult × World) : Prop where
  finished : ∃ action, pass.1 = some (.finished (.ok action))
  undisputed : ∀ kind, (pass.2.inventory.store kind).counts.conflicts =
    (before.inventory.store kind).counts.conflicts

theorem conflicts_of_undisputed (h : Undisputed world after) (kind : Kind) :
    (after.inventory.store kind).counts.conflicts =
      (world.inventory.store kind).counts.conflicts := by
  obtain ⟨clusters, hafter, hconflicts⟩ := h
  rw [hafter]
  cases kind with
  | cluster => exact hconflicts
  | _ => rfl

structure Attended (settings : Settings) (key : ObjectKey) (world : World) (cluster : Cluster) :
    Prop where
  stored : Stored world cluster
  place : ObjectKey.ofMetadata cluster.metadata = key
  present : cluster.metadata.deletionTimestamp = none
  patience : Schedulable settings cluster

theorem attended_of_callsLeave {key : ObjectKey} (h : Attended settings key world cluster)
    (hleaves : CallsLeave world cluster after later) : Attended settings key after later :=
  ⟨hleaves.stored, hleaves.alike.place.trans h.place, hleaves.alike.present.trans h.present,
    schedulable_of_sameSubject hleaves.alike h.patience⟩

theorem judgesStored_passOver {key : ObjectKey} (h : Attended settings key world cluster)
    (now : Instant) :
    EndsWithoutConflict world (passOver settings key world now) ∧
      ∃ later, JudgesStored settings { world with now } cluster (passOver settings key world now).2
          later ∧
        Attended settings key (passOver settings key world now).2 later := by
  have hnow : Attended settings key { world with now } cluster :=
    ⟨⟨h.stored.faults, h.stored.lookup⟩, h.place, h.present, h.patience⟩
  obtain ⟨⟨action, haction⟩, later, hpasses⟩ := ends_reconcile hnow.stored h.present h.patience
  have hlookup : world.inventory.clusters.lookup key = some cluster := h.place ▸ h.stored.lookup
  unfold passOver
  rw [hlookup]
  refine ⟨⟨⟨action, congrArg some haction⟩, fun kind => ?_⟩, later, hpasses,
    attended_of_callsLeave hnow hpasses.leaves⟩
  exact conflicts_of_undisputed hpasses.leaves.undisputed kind

theorem assignedId?_eq (cluster : Cluster) :
    assignedId? cluster = (cluster.status.getD default).assignedId? := by
  unfold assignedId?
  cases cluster.status with
  | none => rfl
  | some status => rfl

theorem stamped_of_judgesStored (h : Familiar cluster (cluster.status.getD default))
    (hpasses : JudgesStored settings world cluster after later) : Stamped later := by
  obtain ⟨newId, hstatus⟩ := hpasses.status
  have hsame : assignedId? later = assignedId? cluster := by
    rw [assignedId?_eq, assignedId?_eq, hstatus, ClusterStatus.assignedId?, clusterId_judged h,
      ClusterStatus.assignedId?]
  intro id hassigned
  exact hpasses.stamped id (hsame ▸ hassigned)

theorem at_rest_of_meta (hmeta : isMeta cluster = true)
    (hpasses : JudgesStored settings world cluster after later) (now : Instant) :
    Stamped later ∧ ∀ newId, judged settings later newId now (later.status.getD default) =
      later.status.getD default := by
  obtain ⟨newId, hstatus⟩ := hpasses.status
  refine ⟨stamped_of_judgesStored (.inl hmeta) hpasses, fun newId' => ?_⟩
  rw [hstatus, judged_of_sameSubject hpasses.leaves.alike]
  exact judged_judged_meta hmeta

/-- A familiar cluster that has been passed over is at rest at that time. -/
theorem at_rest_of_familiar (h : Familiar cluster (cluster.status.getD default))
    (hpasses : JudgesStored settings world cluster after later) :
    Stamped later ∧ ∀ newId, judged settings later newId world.now (later.status.getD default) =
      later.status.getD default := by
  obtain ⟨newId, hstatus⟩ := hpasses.status
  refine ⟨stamped_of_judgesStored h hpasses, fun newId' => ?_⟩
  rw [hstatus, judged_of_sameSubject hpasses.leaves.alike]
  exact judged_judged h

theorem familiar_of_judgesStored (hpasses : JudgesStored settings world cluster after later) :
    Familiar later (later.status.getD default) := by
  obtain ⟨newId, hstatus⟩ := hpasses.status
  rw [hstatus]
  exact familiar_of_sameSubject hpasses.leaves.alike (familiar_judged ..)

/-- Three passes at the same time over a cluster that is stored under its own namespace and name all
succeed, and the third one changes nothing, the counts of writes included. Over a meta cluster
already the second pass changes nothing, whatever the times of the passes. -/
theorem inventory_third_passOver (settings : Settings) {key : ObjectKey}
    (hfaults : world.faults = [])
    (hstored : world.inventory.clusters.lookup key = some cluster)
    (hplace : ObjectKey.ofMetadata cluster.metadata = key)
    (hpresent : cluster.metadata.deletionTimestamp = none)
    (hpatience : Schedulable settings cluster) :
    (∀ now,
      let first := passOver settings key world now
      let second := passOver settings key first.2 now
      let third := passOver settings key second.2 now
      EndsWithoutConflict world first ∧ EndsWithoutConflict first.2 second ∧
        EndsWithoutConflict second.2 third ∧ third.2.inventory = second.2.inventory) ∧
      (isMeta cluster = true → ∀ t t',
        let first := passOver settings key world t
        let second := passOver settings key first.2 t'
        second.2.inventory = first.2.inventory) := by
  have hattended : Attended settings key world cluster :=
    ⟨⟨hfaults, hplace ▸ hstored⟩, hplace, hpresent, hpatience⟩
  constructor
  · intro now first second third
    obtain ⟨hfirst, one, hone, hattended⟩ := judgesStored_passOver hattended now
    obtain ⟨hsecond, two, htwo, hattended⟩ := judgesStored_passOver hattended now
    obtain ⟨hthird, three, hthree, -⟩ := judgesStored_passOver hattended now
    obtain ⟨hstamped, hquiet⟩ := at_rest_of_familiar (familiar_of_judgesStored hone) htwo
    exact ⟨hfirst, hsecond, hthird, hthree.silent hstamped hquiet⟩
  · intro hmeta t t' first second
    obtain ⟨-, one, hone, hattended⟩ := judgesStored_passOver hattended t
    obtain ⟨-, two, htwo, -⟩ := judgesStored_passOver hattended t'
    obtain ⟨hstamped, hquiet⟩ := at_rest_of_meta hmeta hone t'
    exact htwo.silent hstamped hquiet

/-- A cluster whose agent had connected before the controller saw it, and was not heard of again. -/
def straggler : Cluster where
  metadata :=
    { name := some "cellar", «namespace» := some "lab", uid := some "uid-cellar"
      resourceVersion := some "1" }
  content :=
    { spec := {}
      status := some
        { conditions :=
            ⟨[.at_ .firstConnect .true_ "" "" .epoch, .at_ .heartbeat .true_ "" "" .epoch]⟩ } }

def stragglerWorld : World := (({ now := .epoch } : World).insert .cluster straggler).2

def stragglerKey : ObjectKey := ⟨some "lab", "cellar"⟩

/-- The writes to clusters after each of three passes, one hour after the agent was heard of. -/
def stragglerWrites : List Nat :=
  let first := passOver {} stragglerKey stragglerWorld ⟨3600, 0, by decide⟩
  let second := passOver {} stragglerKey first.2 ⟨3600, 0, by decide⟩
  let third := passOver {} stragglerKey second.2 ⟨3600, 0, by decide⟩
  [first, second, third].map fun pass => pass.2.inventory.clusters.counts.total

/-- The straggler is greeted first, then stamped and given up, and then left alone. -/
theorem inventory_third_passOver_of_straggler :
    stragglerWorld.faults = [] ∧
      stragglerWorld.inventory.clusters.lookup stragglerKey = some straggler ∧
      ObjectKey.ofMetadata straggler.metadata = stragglerKey ∧
      straggler.metadata.deletionTimestamp = none ∧ Schedulable {} straggler ∧
      stragglerWrites = [1, 3, 3] ∧
      ∀ now,
        let first := passOver {} stragglerKey stragglerWorld now
        let second := passOver {} stragglerKey first.2 now
        let third := passOver {} stragglerKey second.2 now
        EndsWithoutConflict stragglerWorld first ∧ EndsWithoutConflict first.2 second ∧
          EndsWithoutConflict second.2 third ∧ third.2.inventory = second.2.inventory := by
  have hpatience : Schedulable {} straggler := fun _ => by decide
  exact ⟨rfl, by rfl, rfl, rfl, hpatience, by rfl,
    (inventory_third_passOver {} rfl rfl rfl rfl hpatience).1⟩

end Fleet.Proofs.ClusterIdempotence
