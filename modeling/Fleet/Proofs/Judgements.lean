import Fleet.Cluster.Controller
import Fleet.Proofs.Ledgers
import Fleet.Proofs.Rehearsals

namespace Fleet.Proofs.Judgements

open Fleet.Cluster
open Fleet.Proofs.Ledgers
open Fleet.Proofs.Rehearsals
open Fleet.Rehearsal

variable {settings : Settings} {newId : String} {draft : StatusDraft} {now : Instant}
  {judgement : Judgement}

theorem foldl_addEvent {α : Type} (event : α → Event) (list : List α) (draft : StatusDraft) :
    list.foldl (fun draft a => draft.addEvent (event a)) draft =
      { draft with events := draft.events ++ list.map event } := by
  induction list generalizing draft with
  | nil => simp
  | cons a rest ih =>
      rw [List.foldl_cons, ih (draft.addEvent (event a))]
      simp [Draft.addEvent]

theorem observed_addWarnings (draft : StatusDraft) :
    (addWarnings draft).observed = draft.observed := by
  rw [addWarnings, foldl_addEvent]

theorem status_addWarnings (draft : StatusDraft) : (addWarnings draft).status = draft.status := by
  rw [addWarnings, foldl_addEvent]

/-- How a cluster that has been heard of is judged. -/
inductive Assessed (timeout : Delay) (draft : StatusDraft) (now : Instant) : Judgement → Prop
  | unheard (h : draft.status.conditions.query .heartbeat = none) :
      Assessed timeout draft now { draft := setPhase draft .lost, outcome := .empty }
  | givenUp {heartbeat : Condition ClusterConditionType}
      (h : draft.status.conditions.query .heartbeat = some heartbeat)
      (hlost : heartbeat.status = .false_) :
      Assessed timeout draft now { draft := setPhase draft .lost, outcome := .empty }
  | late {heartbeat : Condition ClusterConditionType}
      (h : draft.status.conditions.query .heartbeat = some heartbeat)
      (hbeats : heartbeat.status ≠ .false_)
      (hlate : timeout.nanoseconds < heartbeat.lastProbeTime.elapsed now) :
      Assessed timeout draft now (lose draft now)
  | current {heartbeat : Condition ClusterConditionType}
      (h : draft.status.conditions.query .heartbeat = some heartbeat)
      (hbeats : heartbeat.status ≠ .false_) {phase : ClusterPhase}
      (hphase : phase = .ready ∨ phase = .outOfControl) (events : List Event) (outcome : Outcome) :
      Assessed timeout draft now { draft := { setPhase draft phase with events }, outcome }

/-- How a common cluster is judged. -/
inductive Diagnosed (settings : Settings) (newId : String) (draft : StatusDraft) (now : Instant) :
    Judgement → Prop
  | greeted (hinit : draft.status.conditions.isTrue .init = false) :
      Diagnosed settings newId draft now (greet newId draft now)
  | waiting (hinit : draft.status.conditions.isTrue .init = true)
      (hcontact : draft.status.conditions.check .firstConnect .false_ = true) :
      Diagnosed settings newId draft now { draft, outcome := .empty }
  | connected {judgement : Judgement} (hinit : draft.status.conditions.isTrue .init = true)
      (hcontact : draft.status.conditions.check .firstConnect .false_ = false)
      (h : Assessed (heartbeatTimeout settings draft.observed) draft now judgement) :
      Diagnosed settings newId draft now judgement

theorem assessed_of_judgeConnected {timeout : Delay}
    (h : judgeConnected timeout draft now = some judgement) :
    Assessed timeout draft now judgement := by
  unfold judgeConnected at h
  split at h
  · rename_i heartbeat hheartbeat
    split at h
    · rename_i hlost
      cases h
      exact .givenUp hheartbeat hlost
    · rename_i hbeats
      dsimp only at h
      split at h
      · rename_i hlate
        cases h
        exact .late hheartbeat hbeats hlate
      · unfold judgeCurrent at h
        obtain ⟨patience, -, rfl⟩ := Option.map_eq_some_iff.mp h
        rw [foldl_addEvent]
        refine .current hheartbeat hbeats ?_ _ _
        split
        · exact .inl rfl
        · exact .inr rfl
  · rename_i hnone
    cases h
    exact .unheard hnone

theorem diagnosed_of_judge (hcommon : isMeta draft.observed = false)
    (h : judge settings newId draft now = some judgement) :
    Diagnosed settings newId draft now judgement := by
  unfold judge at h
  rw [hcommon, if_neg Bool.false_ne_true] at h
  split at h
  · rename_i hinit
    rw [Bool.not_eq_true'] at hinit
    cases h
    exact .greeted hinit
  · rename_i hinit
    rw [Bool.not_eq_true', Bool.not_eq_false] at hinit
    split at h
    · rename_i hcontact
      cases h
      exact .waiting hinit hcontact
    · rename_i hcontact
      exact .connected hinit (Bool.eq_false_iff.mpr hcontact) (assessed_of_judgeConnected h)

/-- What may become of the status under judgement. -/
inductive Verdict (newId : String) (draft : StatusDraft) (now : Instant) : ClusterStatus → Prop
  | ready (settings : Settings) (h : isMeta draft.observed = true) :
      Verdict newId draft now (judgeMeta settings draft now).draft.status
  | greeted (h : isMeta draft.observed = false)
      (hinit : draft.status.conditions.isTrue .init = false) :
      Verdict newId draft now (greet newId draft now).draft.status
  | lost (h : isMeta draft.observed = false) {heartbeat : Condition ClusterConditionType}
      (hheartbeat : draft.status.conditions.query .heartbeat = some heartbeat)
      (hlate : 0 < heartbeat.lastProbeTime.elapsed now) :
      Verdict newId draft now (lose draft now).draft.status
  | placed (h : isMeta draft.observed = false) (phase : ClusterPhase) :
      Verdict newId draft now { draft.status with phase }

theorem verdict_of_assessed {timeout : Delay} (hcommon : isMeta draft.observed = false)
    (h : Assessed timeout draft now judgement) :
    judgement.draft.observed = draft.observed ∧
      Verdict newId draft now judgement.draft.status := by
  cases h with
  | unheard => exact ⟨rfl, .placed hcommon .lost⟩
  | givenUp => exact ⟨rfl, .placed hcommon .lost⟩
  | late hheartbeat _ hlate => exact ⟨rfl, .lost hcommon hheartbeat (Nat.zero_lt_of_lt hlate)⟩
  | current => exact ⟨rfl, .placed hcommon _⟩

/-- A judgement is about the cluster that was observed, and there are four things that it can do to
the status. -/
theorem judge_cases (h : judge settings newId draft now = some judgement) :
    judgement.draft.observed = draft.observed ∧
      Verdict newId draft now judgement.draft.status := by
  cases hcommon : isMeta draft.observed with
  | true =>
      unfold judge at h
      rw [hcommon, if_pos rfl] at h
      cases h
      exact ⟨rfl, .ready settings hcommon⟩
  | false =>
      cases diagnosed_of_judge hcommon h with
      | greeted hinit => exact ⟨rfl, .greeted hcommon hinit⟩
      | waiting => exact ⟨rfl, .placed hcommon draft.status.phase⟩
      | connected _ _ h => exact verdict_of_assessed hcommon h

theorem ends_observe (settings : Settings) (cluster : Cluster) (world : World) :
    Ends (observe settings cluster) world fun result after =>
      (∃ newId, result = judge settings newId (addWarnings (.start cluster)) world.now) ∧
        ∃ drawn, after = { world with drawn } := by
  refine ends_bind (ends_clock world) ?_
  rintro now _ ⟨rfl, rfl⟩
  by_cases hneeds : needsId (addWarnings (.start cluster)) = true
  · rw [if_pos hneeds]
    exact ⟨⟨_, rfl⟩, _, rfl⟩
  · rw [if_neg hneeds]
    exact ⟨⟨"", rfl⟩, _, rfl⟩

variable {status : ClusterStatus}

theorem assignedId_of_verdict (h : Verdict newId draft now status) {id : String}
    (hid : draft.status.assignedId? = some id) : status.assignedId? = some id := by
  cases h with
  | ready settings hmeta => exact hid
  | greeted hmeta hinit =>
      change ClusterStatus.assignedId? { clusterId := if _ then _ else _ } = _
      rw [hid]
      exact hid
  | lost hmeta hheartbeat hlate => exact hid
  | placed hmeta phase => exact hid

theorem newId_of_verdict (h : Verdict newId draft now status)
    (hnone : draft.status.assignedId? = none) {id : String}
    (hid : status.assignedId? = some id) : newId = id := by
  cases h with
  | ready settings hmeta => exact absurd (hid.symm.trans hnone) nofun
  | greeted hmeta hinit =>
      change ClusterStatus.assignedId? { clusterId := if _ then _ else _ } = _ at hid
      rw [hnone] at hid
      exact (Option.filter_eq_some_iff.mp hid).1 |> Option.some.inj
  | lost hmeta hheartbeat hlate => exact absurd (hid.symm.trans hnone) nofun
  | placed hmeta phase => exact absurd (hid.symm.trans hnone) nofun

variable {cluster : Cluster} {heartbeat : Condition ClusterConditionType} {patience : Delay}

/-- A cluster that has been greeted, whose agent has connected, and the last word on its
heartbeats. -/
structure Connected (cluster : Cluster) (status : ClusterStatus)
    (heartbeat : Condition ClusterConditionType) : Prop where
  common : isMeta cluster = false
  reported : cluster.status = some status
  init : status.conditions.isTrue .init = true
  contact : status.conditions.check .firstConnect .false_ = false
  heartbeat : status.conditions.query .heartbeat = some heartbeat

theorem connected_setStatus (h : Connected cluster status heartbeat) {later : ClusterStatus}
    (hconditions : later.conditions = status.conditions) :
    Connected (cluster.setStatus later) later heartbeat :=
  ⟨h.common, rfl, hconditions ▸ h.init, hconditions ▸ h.contact, hconditions ▸ h.heartbeat⟩

theorem judge_connected (h : Connected cluster status heartbeat) :
    judge settings newId (.start cluster) now =
      judgeConnected (heartbeatTimeout settings cluster) { observed := cluster, status } now := by
  have hstart : Draft.start cluster = { observed := cluster, status } := by
    rw [Draft.start, h.reported]
    rfl
  rw [hstart]
  unfold judge
  dsimp only
  rw [h.common, h.init, h.contact]
  rfl

theorem judge_current (h : Connected cluster status heartbeat) (hbeats : heartbeat.status ≠ .false_)
    (hpatience : (heartbeatTimeout settings cluster).add? slack = some patience)
    (htime : heartbeat.lastProbeTime.elapsed now ≤
      (heartbeatTimeout settings cluster).nanoseconds) :
    judge settings newId (.start cluster) now = some
      { draft :=
          { observed := cluster
            status :=
              { status with
                phase := if (complaints status.conditions).isEmpty then .ready else .outOfControl }
            events := (complaints status.conditions).map (.warning Event.unexpected) }
        outcome :=
          Outcome.empty.withDelay (patience.after (heartbeat.lastProbeTime.elapsed now)) } := by
  rw [judge_connected h, judgeConnected]
  dsimp only
  rw [h.heartbeat]
  dsimp only
  rw [if_neg hbeats, if_neg (Nat.not_lt.mpr htime), judgeCurrent, hpatience, foldl_addEvent]
  rfl

theorem judge_late (h : Connected cluster status heartbeat) (hbeats : heartbeat.status ≠ .false_)
    (htime : (heartbeatTimeout settings cluster).nanoseconds <
      heartbeat.lastProbeTime.elapsed now) :
    judge settings newId (.start cluster) now =
      some (lose { observed := cluster, status } now) := by
  rw [judge_connected h, judgeConnected]
  dsimp only
  rw [h.heartbeat]
  dsimp only
  rw [if_neg hbeats, if_pos htime]

theorem judge_given_up (h : Connected cluster status heartbeat)
    (hlost : heartbeat.status = .false_) :
    judge settings newId (.start cluster) now =
      some { draft := setPhase { observed := cluster, status } .lost, outcome := .empty } := by
  rw [judge_connected h, judgeConnected]
  dsimp only
  rw [h.heartbeat]
  exact if_pos hlost

end Fleet.Proofs.Judgements
