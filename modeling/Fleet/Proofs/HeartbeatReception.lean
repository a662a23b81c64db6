import Fleet.Proofs.HeartbeatTimeout
import Fleet.Proofs.Heartbeats
import Fleet.Proofs.Rehearsals
import Fleet.Proofs.Stores

namespace Fleet.Proofs.HeartbeatReception

open Fleet.Cluster
open Fleet.Proofs.HeartbeatTimeout
open Fleet.Proofs.Heartbeats
open Fleet.Proofs.Judgements
open Fleet.Proofs.Ledgers
open Fleet.Proofs.Rehearsals
open Fleet.Proofs.Stores

variable {settings : Settings} {cluster : Cluster} {status : ClusterStatus} {sent : Heartbeat}
  {received : Instant} {ledger : Ledger ClusterConditionType} {type : ClusterConditionType}

theorem failingMessage_set_self (ledger : Ledger ClusterConditionType) (type : ClusterConditionType)
    (status : ConditionStatus) (reason message : String) (now : Instant) :
    failingMessage (ledger.set type status reason message now) type =
      if status = .false_ then some message else none := by
  obtain ⟨since, hset⟩ := query_set_self ledger type status reason message now
  unfold failingMessage
  rw [hset]

theorem failingMessage_congr {a b : Ledger ClusterConditionType} (h : a.query type = b.query type) :
    failingMessage a type = failingMessage b type := by
  unfold failingMessage
  rw [h]

theorem failingMessage_record_resourceSync (sent : Heartbeat) (received : Instant)
    (ledger : Ledger ClusterConditionType) :
    failingMessage (sent.record received ledger) .resourceSync =
      if sent.failures.isEmpty then none else some ("; ".intercalate sent.failures) := by
  rw [Heartbeat.record, failingMessage_congr (query_recordCommand_of_ne (by decide) ..),
    Heartbeat.recordResources]
  split
  · exact failingMessage_set_self ..
  · exact failingMessage_set_self ..

theorem failingMessage_record_commandApply (sent : Heartbeat) (received : Instant)
    (ledger : Ledger ClusterConditionType) :
    failingMessage (sent.record received ledger) .commandApply =
      match sent.commandResult with
      | some result => if result.ok then none else some result.message
      | none => failingMessage ledger .commandApply := by
  rw [Heartbeat.record, Heartbeat.recordCommand]
  cases sent.commandResult with
  | none =>
      exact failingMessage_congr <| (query_recordResources_of_ne (by decide) ..).trans
        (query_recordArrival_of_ne (by decide) (by decide) ..)
  | some result =>
      dsimp only
      rw [failingMessage_set_self]
      cases result.ok <;> rfl

variable {store after : Store ClusterContent} {drawn drawn' : Nat} {response : HeartbeatResponse}

def placeOf (sent : Heartbeat) : ObjectKey := ⟨some sent.cluster.namespace, sent.cluster.name⟩

theorem run_ingest_of_absent (h : store.lookup (placeOf sent) = none) :
    (sent.ingest received).run serve (store, drawn) =
      (.ok (sent.reject ("cluster " ++ sent.cluster.namespace ++ "/" ++ sent.cluster.name ++
        " is not registered")), store, drawn) := by
  change Program.run serve (Program.bind (Store.find _ _) _) _ = _
  rw [Program.run_bind, run_find]
  change store.lookup ⟨_, _⟩ = _ at h
  dsimp only
  rw [h]
  rfl

theorem run_ingest_of_stored (h : store.lookup (placeOf sent) = some cluster) :
    (sent.ingest received).run serve (store, drawn) =
      if sent.mismatches cluster then
        (.ok (sent.reject "cluster ID does not match the registered cluster"), store, drawn)
      else
        let (written, state) :=
          (Store.persistStatus (sent.applyTo received cluster)).run serve (store, drawn)
        (written.map fun _ => sent.accept cluster, state) := by
  change Program.run serve (Program.bind (Store.find _ _) _) _ = _
  rw [Program.run_bind, run_find]
  change store.lookup ⟨_, _⟩ = _ at h
  dsimp only
  rw [h]
  dsimp only
  split
  · rfl
  · change Program.run serve (Program.bind (Store.persistStatus _) _) _ = _
    rw [Program.run_bind]
    cases ((Store.persistStatus (sent.applyTo received cluster)).run serve (store, drawn)).1 with
    | error failure => rfl
    | ok written => rfl

theorem lookup_of_accepted (hstored : store.lookup (placeOf sent) = some cluster)
    (hplace : .ofMetadata cluster.metadata = placeOf sent)
    (hingest : (sent.ingest received).run serve (store, drawn) = (.ok response, after, drawn'))
    (haccepted : response.ok = true) :
    after.lookup (placeOf sent) =
      some (store.stamp (Store.identify (sent.applyTo received cluster) cluster.metadata.uid)) := by
  have hlookup : store.lookup (.ofMetadata (sent.applyTo received cluster).metadata) =
      some cluster := (congrArg store.lookup hplace).trans hstored
  rw [run_ingest_of_stored hstored] at hingest
  split at hingest
  · cases congrArg Prod.fst hingest
    contradiction
  · rw [run_persistStatus hlookup rfl] at hingest
    have hafter : _ = after := congrArg (fun result => result.2.1) hingest
    rw [← hafter, ← hplace]
    exact lookup_put_self store _ _

theorem connected_of_accepted (hcommon : isMeta cluster = false)
    (hstatus : cluster.status = some status) (hinit : status.conditions.isTrue .init = true)
    (store : Store ClusterContent) (sent : Heartbeat) (received : Instant) :
    ∃ heartbeat : Condition ClusterConditionType, heartbeat.status = .true_ ∧
      heartbeat.lastProbeTime = received ∧
      Connected (store.stamp (Store.identify (sent.applyTo received cluster) cluster.metadata.uid))
        { status with conditions := sent.record received status.conditions } heartbeat := by
  obtain ⟨heartbeat, htrue, hprobe, hquery⟩ :=
    query_record_heartbeat sent received status.conditions
  refine ⟨heartbeat, htrue, hprobe, hcommon, ?_, ?_, ?_, hquery⟩
  · change (sent.applyTo received cluster).status = _
    unfold Heartbeat.applyTo
    rw [hstatus]
    rfl
  · exact (isTrue_record_init sent received status.conditions).trans hinit
  · exact check_of_isTrue (isTrue_record_firstConnect sent received status.conditions) (by decide)

/-- The warning about a type of condition, if the ledger tells that it fails. -/
def alarm (ledger : Ledger ClusterConditionType) (type : ClusterConditionType) (what : String) :
    List Event :=
  match ledger.query type with
  | some condition =>
      if condition.status = .false_ then [.warning Event.unexpected (what ++ condition.message)]
      else []
  | none => []

/-- The heartbeat reports a resource that fails. -/
def ReportsFailure (sent : Heartbeat) : Prop :=
  ∃ report ∈ sent.resources, ∃ condition ∈ report.conditions, condition.status = "False"

/-- The last command that is known of went wrong. -/
def CommandFailed (sent : Heartbeat) (before : Ledger ClusterConditionType) : Prop :=
  (∃ result, sent.commandResult = some result ∧ result.ok = false) ∨
    sent.commandResult = none ∧
      ∃ condition, before.query .commandApply = some condition ∧ condition.status = .false_

/-- A judgement goes by what the last heartbeat has told. -/
structure Heeds (sent : Heartbeat) (before told : Ledger ClusterConditionType)
    (judgement : Judgement) : Prop where
  phase : judgement.draft.status.phase = .ready ∨ judgement.draft.status.phase = .outOfControl
  outOfControl : judgement.draft.status.phase = .outOfControl ↔
    ReportsFailure sent ∨ CommandFailed sent before
  events : judgement.draft.events =
    alarm told .resourceSync "resource sync error: " ++
      alarm told .commandApply "cluster command apply error: "

theorem alarm_eq (ledger : Ledger ClusterConditionType) (type : ClusterConditionType)
    (what : String) :
    alarm ledger type what =
      ((failingMessage ledger type).map fun message =>
        Event.warning Event.unexpected (what ++ message)).toList := by
  unfold alarm failingMessage
  cases ledger.query type with
  | none => rfl
  | some condition =>
      dsimp only
      split <;> rfl

theorem map_complaints (ledger : Ledger ClusterConditionType) :
    (complaints ledger).map (.warning Event.unexpected) =
      alarm ledger .resourceSync "resource sync error: " ++
        alarm ledger .commandApply "cluster command apply error: " := by
  rw [alarm_eq, alarm_eq, complaints, List.map_append]
  cases failingMessage ledger .resourceSync <;> cases failingMessage ledger .commandApply <;> rfl

theorem isEmpty_complaints_eq_false_iff (ledger : Ledger ClusterConditionType) :
    (complaints ledger).isEmpty = false ↔
      (failingMessage ledger .resourceSync).isSome = true ∨
        (failingMessage ledger .commandApply).isSome = true := by
  unfold complaints
  cases failingMessage ledger .resourceSync <;> cases failingMessage ledger .commandApply <;> simp

theorem reportsFailure_iff (sent : Heartbeat) :
    ReportsFailure sent ↔ sent.failures.isEmpty = false := by
  unfold ReportsFailure Heartbeat.failures ResourceReport.failing?
  simp

theorem isSome_record_resourceSync (sent : Heartbeat) (received : Instant)
    (before : Ledger ClusterConditionType) :
    (failingMessage (sent.record received before) .resourceSync).isSome = true ↔
      ReportsFailure sent := by
  rw [failingMessage_record_resourceSync, reportsFailure_iff]
  cases sent.failures.isEmpty <;> simp

theorem isSome_failingMessage_iff (ledger : Ledger ClusterConditionType)
    (type : ClusterConditionType) :
    (failingMessage ledger type).isSome = true ↔
      ∃ condition, ledger.query type = some condition ∧ condition.status = .false_ := by
  unfold failingMessage
  cases ledger.query type with
  | none => simp
  | some condition => by_cases hstatus : condition.status = .false_ <;> simp [hstatus]

theorem isSome_record_commandApply (sent : Heartbeat) (received : Instant)
    (before : Ledger ClusterConditionType) :
    (failingMessage (sent.record received before) .commandApply).isSome = true ↔
      CommandFailed sent before := by
  rw [failingMessage_record_commandApply, CommandFailed]
  cases sent.commandResult with
  | none => simpa using isSome_failingMessage_iff before .commandApply
  | some result => cases hresult : result.ok <;> simp [hresult]

variable {timeout patience : Delay} {now : Instant} {judgement : Judgement} {times : List Instant}
  {heartbeat : Condition ClusterConditionType}

theorem heeds_of_waits {before : Ledger ClusterConditionType}
    (h : Waits timeout heartbeat (sent.record received before) now judgement) :
    Heeds sent before (sent.record received before) judgement := by
  have hfailing : (complaints (sent.record received before)).isEmpty = false ↔
      ReportsFailure sent ∨ CommandFailed sent before := by
    rw [isEmpty_complaints_eq_false_iff, isSome_record_resourceSync, isSome_record_commandApply]
  refine ⟨?_, ?_, h.events.trans (map_complaints _)⟩
  · rw [h.phase]
    split
    · exact .inl rfl
    · exact .inr rfl
  · rw [h.phase, ← hfailing]
    cases (complaints (sent.record received before)).isEmpty <;> simp

/-- Passes over a cluster that is stored under its own namespace and name go by what an accepted
heartbeat has told, as long as no more time than the timeout has elapsed since it was received. This
is the time by which the passes themselves judge: none has elapsed for a pass that comes earlier. -/
theorem passes_heed_of_accepted (hstored : store.lookup (placeOf sent) = some cluster)
    (hplace : .ofMetadata cluster.metadata = placeOf sent) (hcommon : isMeta cluster = false)
    (hstatus : cluster.status = some status) (hinit : status.conditions.isTrue .init = true)
    (hingest : (sent.ingest received).run serve (store, drawn) = (.ok response, after, drawn'))
    (haccepted : response.ok = true)
    (hpatience : (heartbeatTimeout settings cluster).add? slack = some patience)
    (htimes : ∀ now ∈ times,
      received.elapsed now ≤ (heartbeatTimeout settings cluster).nanoseconds)
    (newId : String) :
    ∃ stored told judgements,
      after.lookup (placeOf sent) = some stored ∧ stored.status = some told ∧
      passes settings newId stored times = some judgements ∧
      judgements.length = times.length ∧
      ∀ judgement ∈ judgements, Heeds sent status.conditions told.conditions judgement := by
  obtain ⟨heartbeat, htrue, rfl, hconnected⟩ :=
    connected_of_accepted hcommon hstatus hinit store sent received
  have hbeats : heartbeat.status ≠ .false_ := by
    rw [htrue]
    decide
  obtain ⟨judgements, hpasses, hwatched⟩ :=
    watched_passes hconnected hbeats hpatience newId times
  refine ⟨_, _, judgements, lookup_of_accepted hstored hplace hingest haccepted,
    hconnected.reported, hpasses, hwatched.length, ?_⟩
  intro judgement hjudgement
  obtain ⟨i, hi⟩ := List.getElem?_of_mem hjudgement
  have hlength : i < times.length := hwatched.length ▸ (List.getElem?_eq_some_iff.mp hi).1
  refine heeds_of_waits (hwatched.waits i _ judgement (List.getElem?_eq_getElem hlength) hi ?_)
  intro past hpast
  exact Nat.not_lt.mpr (htimes past (List.mem_of_mem_take hpast))

/-- A cluster that was lost after its first heartbeat, as it is stored. -/
def lostCellar : Cluster :=
  (Store.insert { title := Kind.cluster.title } "uid-cellar"
    ((silentSince .epoch).setStatus { lastReport .epoch with phase := .lost })).1

def registry : Store ClusterContent :=
  (Store.insert { title := Kind.cluster.title } "uid-cellar"
    ((silentSince .epoch).setStatus { lastReport .epoch with phase := .lost })).2

def complaint : Heartbeat :=
  { cluster := { «namespace» := "lab", name := "cellar" }
    resources :=
      [{ gvk := { version := "v1", kind := "Pod" }
         resource := "web"
         conditions := [{ type := "Ready", status := "False", message := "crashed" }] }]
    time := 0 }

theorem passes_heed_of_complaint :
    ∃ stored told judgements,
      ((complaint.ingest ⟨100, 0, by decide⟩).run serve (registry, 0)).2.1.lookup
        (placeOf complaint) = some stored ∧
      stored.status = some told ∧
      passes {} "" stored [⟨110, 0, by decide⟩, ⟨130, 0, by decide⟩] = some judgements ∧
      judgements.length = 2 ∧
      ∀ judgement ∈ judgements,
        Heeds complaint (lastReport .epoch).conditions told.conditions judgement := by
  have hstored : registry.lookup (placeOf complaint) = some lostCellar := by decide
  have hingest : (complaint.ingest ⟨100, 0, by decide⟩).run serve (registry, 0) =
      (.ok (complaint.accept lostCellar), _, _) := rfl
  exact passes_heed_of_accepted hstored (by decide) rfl rfl rfl hingest rfl
    (show (heartbeatTimeout {} lostCellar).add? slack = some (.ofSeconds 31) by decide)
      (by decide) ""

end Fleet.Proofs.HeartbeatReception
