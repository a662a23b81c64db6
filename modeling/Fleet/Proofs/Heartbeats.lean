import Fleet.Heartbeat.Ingest
import Fleet.Proofs.Ledgers

namespace Fleet.Proofs.Heartbeats

open Fleet.Proofs.Ledgers

variable {sent : Heartbeat} {received : Instant} {ledger : Ledger ClusterConditionType}
  {type : ClusterConditionType}

theorem query_recordArrival_of_ne (hheartbeat : type ≠ .heartbeat) (hcontact : type ≠ .firstConnect)
    (received : Instant) (ledger : Ledger ClusterConditionType) :
    (Heartbeat.recordArrival received ledger).query type = ledger.query type := by
  unfold Heartbeat.recordArrival
  dsimp only
  split
  · exact query_set_of_ne hheartbeat ..
  · exact (query_set_of_ne hcontact ..).trans (query_set_of_ne hheartbeat ..)

theorem query_recordResources_of_ne (hsync : type ≠ .resourceSync) (sent : Heartbeat)
    (received : Instant) (ledger : Ledger ClusterConditionType) :
    (sent.recordResources received ledger).query type = ledger.query type := by
  unfold Heartbeat.recordResources
  dsimp only
  split <;> exact query_set_of_ne hsync ..

theorem query_recordCommand_of_ne (hcommand : type ≠ .commandApply) (sent : Heartbeat)
    (received : Instant) (ledger : Ledger ClusterConditionType) :
    (sent.recordCommand received ledger).query type = ledger.query type := by
  unfold Heartbeat.recordCommand
  split
  · rfl
  · exact query_set_of_ne hcommand ..

theorem query_record_of_arrival (hsync : type ≠ .resourceSync) (hcommand : type ≠ .commandApply) :
    (sent.record received ledger).query type =
      (Heartbeat.recordArrival received ledger).query type :=
  (query_recordCommand_of_ne hcommand ..).trans (query_recordResources_of_ne hsync ..)

theorem query_record_heartbeat_eq (sent : Heartbeat) (received : Instant)
    (ledger : Ledger ClusterConditionType) :
    (sent.record received ledger).query .heartbeat =
      some (enter (ledger.query .heartbeat)
        (.at_ .heartbeat .true_ "HeartbeatReceived" "" received)) := by
  have harrival : (Heartbeat.recordArrival received ledger).query .heartbeat =
      (ledger.set .heartbeat .true_ "HeartbeatReceived" "" received).query .heartbeat := by
    unfold Heartbeat.recordArrival
    dsimp only
    split
    · rfl
    · exact query_set_of_ne (by decide) ..
  rw [query_record_of_arrival (by decide) (by decide), harrival, query_set_self_eq]

theorem query_record_heartbeat (sent : Heartbeat) (received : Instant)
    (ledger : Ledger ClusterConditionType) :
    ∃ heartbeat : Condition ClusterConditionType, heartbeat.status = .true_ ∧
      heartbeat.lastProbeTime = received ∧
      (sent.record received ledger).query .heartbeat = some heartbeat := by
  obtain ⟨since, hsince⟩ := enter_eq (ledger.query .heartbeat)
    (.at_ .heartbeat .true_ "HeartbeatReceived" "" received)
  exact ⟨_, rfl, rfl, (query_record_heartbeat_eq sent received ledger).trans (congrArg some hsince)⟩

theorem query_record_firstConnect (sent : Heartbeat) (received : Instant)
    (ledger : Ledger ClusterConditionType) :
    (sent.record received ledger).query .firstConnect =
      if ledger.isTrue .firstConnect then ledger.query .firstConnect
      else
        some (enter (ledger.query .firstConnect)
          (.at_ .firstConnect .true_ "FirstHeartbeat" "" received)) := by
  have hheartbeat : (ledger.set .heartbeat .true_ "HeartbeatReceived" "" received).query
      .firstConnect = ledger.query .firstConnect := query_set_of_ne (by decide) ..
  rw [query_record_of_arrival (by decide) (by decide)]
  unfold Heartbeat.recordArrival
  dsimp only
  rw [isTrue_congr hheartbeat]
  split
  · exact hheartbeat
  · rw [query_set_self_eq, hheartbeat]

theorem isTrue_record_firstConnect (sent : Heartbeat) (received : Instant)
    (ledger : Ledger ClusterConditionType) :
    (sent.record received ledger).isTrue .firstConnect = true := by
  rw [isTrue_congr (query_record_of_arrival (by decide) (by decide))]
  unfold Heartbeat.recordArrival
  dsimp only
  split
  · assumption
  · exact isTrue_set_self ..

theorem isTrue_record_init (sent : Heartbeat) (received : Instant)
    (ledger : Ledger ClusterConditionType) :
    (sent.record received ledger).isTrue .init = ledger.isTrue .init :=
  isTrue_congr <| (query_record_of_arrival (by decide) (by decide)).trans
    (query_recordArrival_of_ne (by decide) (by decide) received ledger)

/-- The heartbeat by which a cluster without an identity makes itself known. -/
def firstHeartbeat : Heartbeat :=
  { cluster := { «namespace» := "lab", name := "cellar" }, time := 0 }

end Fleet.Proofs.Heartbeats
