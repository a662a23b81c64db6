import Fleet.Heartbeat.Endpoint
import Fleet.Proofs.HeartbeatReception

namespace Fleet.Proofs.HeartbeatAdmission

open Fleet.Cluster
open Fleet.Proofs.HeartbeatReception
open Fleet.Proofs.HeartbeatTimeout
open Fleet.Proofs.Heartbeats
open Fleet.Proofs.Ledgers
open Fleet.Proofs.Rehearsals
open Fleet.Proofs.Stores
open Fleet.Rehearsal

variable {sent : Heartbeat} {cluster : Cluster} {store : Store ClusterContent} {drawn : Nat}
  {received : Instant}

/-- The identity of a cluster; it is empty if none has been assigned. -/
def idOf (cluster : Cluster) : String := (cluster.status.bind ClusterStatus.clusterId).getD ""

/-- The heartbeat claims another identity than the one that has been assigned. -/
def Mismatched (sent : Heartbeat) (cluster : Cluster) : Prop :=
  idOf cluster ≠ "" ∧ sent.cluster.clusterId ≠ "" ∧ sent.cluster.clusterId ≠ idOf cluster

def TurnedDown (store : Store ClusterContent) (sent : Heartbeat) : Prop :=
  store.lookup (placeOf sent) = none ∨
    ∃ cluster, store.lookup (placeOf sent) = some cluster ∧ Mismatched sent cluster

/-- The cluster that the heartbeat is about goes by the name that it is stored under. -/
def RecipientSelfKeyed (store : Store ClusterContent) (sent : Heartbeat) : Prop :=
  ∀ cluster, store.lookup (placeOf sent) = some cluster →
    .ofMetadata cluster.metadata = placeOf sent

theorem assignedId?_cases (cluster : Cluster) :
    assignedId? cluster = none ∧ idOf cluster = "" ∨
      assignedId? cluster = some (idOf cluster) ∧ idOf cluster ≠ "" := by
  unfold assignedId? idOf
  cases cluster.status with
  | none => exact .inl ⟨rfl, rfl⟩
  | some status =>
      change status.clusterId.filter _ = none ∧ status.clusterId.getD "" = "" ∨
        status.clusterId.filter _ = some (status.clusterId.getD "") ∧
          status.clusterId.getD "" ≠ ""
      cases status.clusterId with
      | none => exact .inl ⟨rfl, rfl⟩
      | some id =>
          by_cases hid : id = ""
          · subst hid
            exact .inl ⟨rfl, rfl⟩
          · exact .inr ⟨by simp [Option.filter, hid], hid⟩

theorem getD_assignedId? (cluster : Cluster) : (assignedId? cluster).getD "" = idOf cluster := by
  rcases assignedId?_cases cluster with ⟨hnone, hid⟩ | ⟨hsome, -⟩
  · rw [hnone, hid]
    rfl
  · rw [hsome]
    rfl

theorem mismatches_iff (sent : Heartbeat) (cluster : Cluster) :
    sent.mismatches cluster = true ↔ Mismatched sent cluster := by
  unfold Heartbeat.mismatches Mismatched
  rcases assignedId?_cases cluster with ⟨hnone, hid⟩ | ⟨hsome, hid⟩
  · simp [hnone, hid]
  · simp [hsome, hid]

theorem turnedDown_iff_of_stored (hstored : store.lookup (placeOf sent) = some cluster) :
    TurnedDown store sent ↔ sent.mismatches cluster = true := by
  rw [mismatches_iff, TurnedDown, hstored]
  simp

def FirstFailing (report : ResourceReport) (condition : ReportedCondition) : Prop :=
  ∃ before after, report.conditions = before ++ condition :: after ∧
    condition.status = "False" ∧ ∀ earlier ∈ before, earlier.status ≠ "False"

/-- The resources that fail, in the order of the report, each with the first condition that is
false. -/
structure ListsFailing (sent : Heartbeat) (failing : List (ResourceReport × ReportedCondition)) :
    Prop where
  reports : failing.map Prod.fst =
    sent.resources.filter fun report =>
      report.conditions.any fun condition => condition.status == "False"
  first : ∀ entry ∈ failing, FirstFailing entry.1 entry.2

def line (entry : ResourceReport × ReportedCondition) : String :=
  entry.1.gvk.kind ++ " " ++ entry.1.resource ++ ": " ++ entry.2.message

def failing (reports : List ResourceReport) : List (ResourceReport × ReportedCondition) :=
  reports.filterMap fun report => report.failing?.map fun condition => (report, condition)

theorem failures_eq (sent : Heartbeat) : sent.failures = (failing sent.resources).map line := by
  unfold Heartbeat.failures failing
  rw [List.map_filterMap]
  congr 1
  funext report
  cases report.failing? with
  | none => rfl
  | some condition => rfl

theorem map_fst_failing (reports : List ResourceReport) :
    (failing reports).map Prod.fst =
      reports.filter fun report =>
        report.conditions.any fun condition => condition.status == "False" := by
  induction reports with
  | nil => rfl
  | cons report rest ih =>
      have hany : (report.conditions.any fun condition => condition.status == "False") =
          report.failing?.isSome := (List.isSome_find? ..).symm
      unfold failing at ih ⊢
      rw [List.filterMap_cons, List.filter_cons, hany]
      cases report.failing? with
      | none => exact ih
      | some condition => exact congrArg (report :: ·) ih

theorem firstFailing_of_failing? {report : ResourceReport} {condition : ReportedCondition}
    (h : report.failing? = some condition) : FirstFailing report condition := by
  obtain ⟨hfalse, before, after, hsplit, hbefore⟩ := List.find?_eq_some_iff_append.mp h
  refine ⟨before, after, hsplit, eq_of_beq hfalse, fun earlier hearlier => ?_⟩
  have hne := hbefore earlier hearlier
  simpa using hne

theorem listsFailing_failing (sent : Heartbeat) : ListsFailing sent (failing sent.resources) := by
  refine ⟨map_fst_failing sent.resources, fun entry hentry => ?_⟩
  obtain ⟨report, -, hreport⟩ := List.mem_filterMap.mp hentry
  obtain ⟨condition, hfailing, rfl⟩ := Option.map_eq_some_iff.mp hreport
  exact firstFailing_of_failing? hfailing

/-- What the conditions of a cluster tell after a heartbeat. -/
structure RecordsReport (sent : Heartbeat) (before after : Ledger ClusterConditionType) : Prop where
  init : after.query .init = before.query .init
  sync : ∃ sync failing, after.query .resourceSync = some sync ∧
    (sync.status = .false_ ↔ ReportsFailure sent) ∧ ListsFailing sent failing ∧
    (sync.status = .false_ → sync.message = "; ".intercalate (failing.map line))

theorem query_record_resourceSync (sent : Heartbeat) (received : Instant)
    (ledger : Ledger ClusterConditionType) :
    ∃ sync, (sent.record received ledger).query .resourceSync = some sync ∧
      sync.status = .ofBool sent.failures.isEmpty ∧
      (sync.status = .false_ → sync.message = "; ".intercalate sent.failures) := by
  rw [Heartbeat.record, query_recordCommand_of_ne (by decide), Heartbeat.recordResources]
  cases sent.failures.isEmpty with
  | true =>
      obtain ⟨since, hset⟩ := query_set_self (Heartbeat.recordArrival received ledger)
        .resourceSync .true_ "Synced" "" received
      have hsynced : ConditionStatus.true_ ≠ .false_ := by decide
      exact ⟨_, hset, rfl, fun hfalse => absurd hfalse hsynced⟩
  | false =>
      obtain ⟨since, hset⟩ := query_set_self (Heartbeat.recordArrival received ledger)
        .resourceSync .false_ "ResourceNotSynced" ("; ".intercalate sent.failures) received
      exact ⟨_, hset, rfl, fun _ => rfl⟩

theorem recordsReport_record (sent : Heartbeat) (received : Instant)
    (ledger : Ledger ClusterConditionType) :
    RecordsReport sent ledger (sent.record received ledger) := by
  obtain ⟨sync, hquery, hstatus, hmessage⟩ := query_record_resourceSync sent received ledger
  have hfails : sync.status = .false_ ↔ ReportsFailure sent := by
    rw [hstatus, reportsFailure_iff]
    cases sent.failures.isEmpty <;> decide
  rw [failures_eq] at hmessage
  refine ⟨?_, sync, _, hquery, hfails, listsFailing_failing sent, hmessage⟩
  exact (query_record_of_arrival (by decide) (by decide)).trans
    (query_recordArrival_of_ne (by decide) (by decide) received ledger)

example :
    ((complaint.record .epoch .empty).query .resourceSync).map Condition.message =
      some "Pod web: crashed" := by
  decide

/-- The later version of a cluster differs in its version and in its conditions only. -/
structure Updates (sent : Heartbeat) (cluster later : Cluster) : Prop where
  metadata : { later.metadata with resourceVersion := cluster.metadata.resourceVersion } =
    cluster.metadata
  spec : later.content.spec = cluster.content.spec
  status : ∃ conditions, later.status = some { cluster.status.getD default with conditions } ∧
    RecordsReport sent (cluster.status.getD default).conditions conditions

/-- How a heartbeat that is let in is answered, and what it leaves in the store. -/
structure Accepts (sent : Heartbeat) (cluster : Cluster) (store : Store ClusterContent)
    (response : HeartbeatResponse) (after : Store ClusterContent) : Prop where
  ok : response.ok = true
  identity : response.cluster = { sent.cluster with clusterId := idOf cluster }
  others : ∀ place, place ≠ placeOf sent → after.lookup place = store.lookup place
  updated : ∃ later, after.lookup (placeOf sent) = some later ∧ Updates sent cluster later

/-- How a heartbeat is dealt with, and what it leaves behind. -/
structure Admits (sent : Heartbeat) (state : Store ClusterContent × Nat)
    (result : Except Failure HeartbeatResponse × Store ClusterContent × Nat) : Prop where
  rejects : TurnedDown state.1 sent → ∃ response, result = (.ok response, state) ∧
    response.ok = false
  turnedDown : ∀ response, result.1 = .ok response → response.ok = false → TurnedDown state.1 sent
  accepts : ¬ TurnedDown state.1 sent → RecipientSelfKeyed state.1 sent →
    ∃ cluster response, state.1.lookup (placeOf sent) = some cluster ∧
      result.1 = .ok response ∧ Accepts sent cluster state.1 response result.2.1

/-- Whatever becomes of the write, the heartbeat is not turned down any more. -/
theorem ok_of_matches {response : HeartbeatResponse}
    (hstored : store.lookup (placeOf sent) = some cluster)
    (hmatches : sent.mismatches cluster = false)
    (h : ((sent.ingest received).run serve (store, drawn)).1 = .ok response) :
    response.ok = true := by
  rw [run_ingest_of_stored hstored, hmatches] at h
  generalize (Store.persistStatus (sent.applyTo received cluster)).run serve (store, drawn) =
    result at h
  obtain ⟨written, state⟩ := result
  cases written with
  | error failure => exact nomatch h
  | ok written =>
      cases h
      rfl

theorem updates_applyTo (store : Store ClusterContent) (sent : Heartbeat) (received : Instant)
    (cluster : Cluster) :
    Updates sent cluster
      (store.stamp (Store.identify (sent.applyTo received cluster) cluster.metadata.uid)) :=
  ⟨rfl, rfl, _, rfl, recordsReport_record sent received _⟩

theorem accepts_of_recipientSelfKeyed (hstored : store.lookup (placeOf sent) = some cluster)
    (hplace : .ofMetadata cluster.metadata = placeOf sent)
    (hmatches : sent.mismatches cluster = false) (received : Instant) (drawn : Nat) :
    ∃ after, (sent.ingest received).run serve (store, drawn) =
        (.ok (sent.accept cluster), after, drawn) ∧
      Accepts sent cluster store (sent.accept cluster) after := by
  have hlookup : store.lookup (.ofMetadata (sent.applyTo received cluster).metadata) =
      some cluster := (congrArg store.lookup hplace).trans hstored
  have hsame : .ofMetadata (sent.applyTo received cluster).metadata = placeOf sent := hplace
  rw [run_ingest_of_stored hstored, hmatches, run_persistStatus hlookup rfl, hsame]
  refine ⟨_, rfl, rfl, ?_, fun place hne => lookup_put_of_ne hne store _, ?_⟩
  · exact congrArg (fun id => { sent.cluster with clusterId := id }) (getD_assignedId? cluster)
  · exact ⟨_, lookup_put_self store _ _, updates_applyTo store sent received cluster⟩

theorem admits_ingest (sent : Heartbeat) (received : Instant) (store : Store ClusterContent)
    (drawn : Nat) :
    Admits sent (store, drawn) ((sent.ingest received).run serve (store, drawn)) := by
  cases hstored : store.lookup (placeOf sent) with
  | none =>
      have hdown : TurnedDown store sent := .inl hstored
      rw [run_ingest_of_absent hstored]
      exact ⟨fun _ => ⟨_, rfl, rfl⟩, fun _ _ _ => hdown, fun hnot => absurd hdown hnot⟩
  | some cluster =>
      have hdown := turnedDown_iff_of_stored hstored
      cases hmismatches : sent.mismatches cluster with
      | true =>
          rw [run_ingest_of_stored hstored, hmismatches]
          exact ⟨fun _ => ⟨_, rfl, rfl⟩, fun _ _ _ => hdown.mpr hmismatches,
            fun hnot => absurd (hdown.mpr hmismatches) hnot⟩
      | false =>
          refine ⟨fun h => ?_, ?_, fun _ hplaced => ?_⟩
          · exact nomatch hmismatches.symm.trans (hdown.mp h)
          · rintro response hresponse hok
            exact nomatch hok.symm.trans (ok_of_matches hstored hmismatches hresponse)
          · obtain ⟨after, hrun, haccepts⟩ :=
              accepts_of_recipientSelfKeyed hstored
                (hplaced cluster hstored) hmismatches received drawn
            rw [hrun]
            exact ⟨cluster, _, hstored, rfl, haccepts⟩

/-- The request posts the heartbeat to the endpoint, in a form that can be decoded. -/
structure Posts (request : Endpoint.Request) (sent : Heartbeat) : Prop where
  path : Endpoint.pathOf request.target = Endpoint.heartbeatPath
  method : request.method = "POST"
  announced : Endpoint.announcesJson request = true
  size : request.body.utf8ByteSize ≤ Endpoint.bodyLimit
  decoded : Heartbeat.decoder.read request.body = .ok sent

/-- The status of a reply tells how the heartbeat was dealt with. -/
structure Replies (handled : Except Failure HeartbeatResponse) (reply : Network.Response) :
    Prop where
  accepted : reply.status = 200 ↔ ∃ response, handled = .ok response ∧ response.ok = true
  rejected : reply.status = 409 ↔ ∃ response, handled = .ok response ∧ response.ok = false
  failed : reply.status = 500 ↔ ∃ failure, handled = .error failure

/-- A heartbeat is taken in at the time that the clock tells, wherever the calls are answered. -/
def handle {σ : Type} (answer : (effect : Effect) → σ → effect.Reply × σ) (sent : Heartbeat)
    (state : σ) : Except Failure HeartbeatResponse × σ :=
  (Pass.on .cluster (sent.ingest (answer .clock state).1)).run answer (answer .clock state).2

/-- What a request that posts a heartbeat comes to. -/
structure Serves (request : Endpoint.Request) (sent : Heartbeat) : Prop where
  replies : ∀ {σ : Type} (answer : (effect : Effect) → σ → effect.Reply × σ) (state : σ),
    Replies (handle answer sent state).1 ((Endpoint.serve request).run answer state).1 ∧
      (handle answer sent state).2 = ((Endpoint.serve request).run answer state).2
  rejected : ∀ world : World, world.faults = [] →
    ((world.perform (Endpoint.serve request)).1.status = 409 ↔
      TurnedDown world.inventory.clusters sent)
  accepted : ∀ world : World, world.faults = [] → RecipientSelfKeyed world.inventory.clusters sent →
    ((world.perform (Endpoint.serve request)).1.status = 200 ↔
      ¬ TurnedDown world.inventory.clusters sent)

variable {request : Endpoint.Request}

theorem replies_respond (handled : Except Failure HeartbeatResponse) :
    Replies handled (Endpoint.respond handled) := by
  cases handled with
  | error failure => constructor <;> simp [Endpoint.respond]
  | ok response => cases hok : response.ok <;> constructor <;> simp [Endpoint.respond, hok]

theorem serve_of_posts (h : Posts request sent) :
    Endpoint.serve request =
      Pass.clock >>= fun now =>
        Pass.on .cluster (sent.ingest now) >>= fun handled => pure (Endpoint.respond handled) := by
  have hreceive : Endpoint.serve request = Endpoint.receive request := by
    unfold Endpoint.serve
    dsimp only
    rw [h.path, h.method]
    rfl
  rw [hreceive, Endpoint.receive, h.announced, if_neg (by decide), if_neg (Nat.not_lt.mpr h.size),
    h.decoded]

theorem run_serve_of_posts {σ : Type} (h : Posts request sent)
    (answer : (effect : Effect) → σ → effect.Reply × σ) (state : σ) :
    (Endpoint.serve request).run answer state =
      (Endpoint.respond (handle answer sent state).1, (handle answer sent state).2) := by
  rw [serve_of_posts h]
  change Program.run answer (Program.bind (Pass.on .cluster _) _) (answer .clock state).2 = _
  rw [Program.run_bind]
  rfl

theorem handle_of_faultless {world : World} (h : world.faults = []) (sent : Heartbeat) :
    (handle World.answer sent world).1 =
      ((sent.ingest world.now).run serve (world.inventory.clusters, world.drawn)).1 :=
  congrArg Prod.fst
    (perform_on h _ : world.perform (Pass.on .cluster (sent.ingest world.now)) = _)

theorem serves_of_posts (h : Posts request sent) : Serves request sent := by
  have hreplies : ∀ {σ : Type} (answer : (effect : Effect) → σ → effect.Reply × σ) (state : σ),
      Replies (handle answer sent state).1 ((Endpoint.serve request).run answer state).1 := by
    intro σ answer state
    rw [run_serve_of_posts h]
    exact replies_respond _
  constructor
  · intro σ answer state
    exact ⟨hreplies answer state, congrArg Prod.snd (run_serve_of_posts h answer state).symm⟩
  · intro world hfaults
    have hadmits := admits_ingest sent world.now world.inventory.clusters world.drawn
    refine (hreplies World.answer world).rejected.trans ?_
    rw [handle_of_faultless hfaults]
    constructor
    · rintro ⟨response, hresponse, hok⟩
      exact hadmits.turnedDown response hresponse hok
    · intro hdown
      obtain ⟨response, hrun, hok⟩ := hadmits.rejects hdown
      exact ⟨response, congrArg Prod.fst hrun, hok⟩
  · intro world hfaults hplaced
    have hadmits := admits_ingest sent world.now world.inventory.clusters world.drawn
    refine (hreplies World.answer world).accepted.trans ?_
    rw [handle_of_faultless hfaults]
    constructor
    · rintro ⟨response, hresponse, hok⟩ hdown
      obtain ⟨rejection, hrun, hrejection⟩ := hadmits.rejects hdown
      cases hresponse.symm.trans (congrArg Prod.fst hrun)
      exact nomatch hok.symm.trans hrejection
    · intro hnot
      obtain ⟨cluster, response, -, hresponse, haccepts⟩ := hadmits.accepts hnot hplaced
      exact ⟨response, hresponse, haccepts.ok⟩

/-- A heartbeat is turned down only if it is about no cluster or claims a wrong identity, and then
leaves everything as it was; else it changes the conditions of its cluster and nothing besides. The
endpoint replies accordingly. -/
theorem admits_ingest_and_serves (sent : Heartbeat) :
    (∀ received store drawn,
      Admits sent (store, drawn) ((sent.ingest received).run serve (store, drawn))) ∧
    ∀ request, Posts request sent → Serves request sent :=
  ⟨admits_ingest sent, fun _ hposts => serves_of_posts hposts⟩

/-- A heartbeat of the lost cluster that claims no identity. -/
def heartbeatRequest : Endpoint.Request where
  method := "POST"
  target := "/api/v1/heartbeat"
  contentType := some "application/json"
  body := firstHeartbeat.toJson.write

theorem admits_ingest_and_serves_at_registry :
    ¬ TurnedDown registry firstHeartbeat ∧ RecipientSelfKeyed registry firstHeartbeat ∧
      Admits firstHeartbeat (registry, 0) ((firstHeartbeat.ingest .epoch).run serve (registry, 0)) ∧
      Posts heartbeatRequest firstHeartbeat ∧ Serves heartbeatRequest firstHeartbeat := by
  have hstored : registry.lookup (placeOf firstHeartbeat) = some lostCellar := by decide
  have hposts : Posts heartbeatRequest firstHeartbeat :=
    ⟨by decide, rfl, by decide, by decide, ok_of_toOption (by decide +kernel)⟩
  refine ⟨?_, ?_, (admits_ingest_and_serves firstHeartbeat).1 .epoch registry 0, hposts,
    (admits_ingest_and_serves firstHeartbeat).2 heartbeatRequest hposts⟩
  · rw [turnedDown_iff_of_stored hstored]
    decide
  · intro cluster hcluster
    cases hstored.symm.trans hcluster
    decide

/-- The registry after the cluster has been given another name in its place. -/
def relabelled : Store ClusterContent :=
  (registry.mutate (placeOf firstHeartbeat) fun cluster =>
    { cluster with metadata := { cluster.metadata with name := some "attic" } }).2

/-- A cluster that was renamed in its place is found by its heartbeat, but cannot be written. -/
theorem ingest_fails_at_relabelled :
    Reached relabelled ∧ ¬ TurnedDown relabelled firstHeartbeat ∧
      ((firstHeartbeat.ingest .epoch).run serve (relabelled, 0)).1 =
        .error (.notFound "Cluster" "attic") := by
  refine ⟨.mutate _ _ (.insert _ _ (.empty _)), ?_, by rfl⟩
  rintro (hnone | ⟨cluster, hcluster, -, hclaims, -⟩)
  · exact nomatch hnone
  · exact hclaims rfl

end Fleet.Proofs.HeartbeatAdmission
