import Fleet.Proofs.Judgements

namespace Fleet.Proofs.JudgementInputs

open Fleet.Cluster
open Fleet.Proofs.Judgements
open Fleet.Proofs.Ledgers

variable {settings : Settings} {newId : String} {draft : StatusDraft} {now : Instant}
  {judgement : Judgement}

/-- What a judgement takes from an entry of the ledger. -/
structure Testimony where
  status : ConditionStatus
  message : String
  lastProbeTime : Instant
  deriving DecidableEq

/-- What a judgement takes from the ledger. -/
structure Testimonies where
  heartbeat : Option Testimony
  resourceSync : Option Testimony
  commandApply : Option Testimony
  deriving DecidableEq

/-- The first entry of a type is the one that counts. -/
def testimonyOn (type : ClusterConditionType) (conditions : Ledger ClusterConditionType) :
    Option Testimony :=
  (conditions.query type).map fun condition =>
    { status := condition.status
      message := condition.message
      lastProbeTime := condition.lastProbeTime }

def evidenceIn (conditions : Ledger ClusterConditionType) :
    Testimonies :=
  { heartbeat := testimonyOn .heartbeat conditions
    resourceSync := testimonyOn .resourceSync conditions
    commandApply := testimonyOn .commandApply conditions }

/-- What follows from the evidence. -/
structure Finding where
  phase : ClusterPhase
  events : List Event := []
  outcome : Outcome := .empty
  /-- Whether the heartbeats are given up, which is noted in the ledger. -/
  givesUp : Bool := false

def failure? (testimony : Option Testimony) : Option String :=
  testimony.bind fun testimony =>
    if testimony.status = .false_ then some testimony.message else none

def failures (evidence : Testimonies) : List String :=
  ((failure? evidence.resourceSync).map ("resource sync error: " ++ ·)).toList ++
    ((failure? evidence.commandApply).map ("cluster command apply error: " ++ ·)).toList

/-- The finding on a cluster that has been heard of. There is none if the next look cannot be
scheduled. -/
def find (timeout : Delay) (evidence : Testimonies) (now : Instant) : Option Finding :=
  match evidence.heartbeat with
  | none => some { phase := .lost }
  | some heartbeat =>
      if heartbeat.status = .false_ then some { phase := .lost }
      else if timeout.nanoseconds < heartbeat.lastProbeTime.elapsed now then
        some
          { phase := .lost
            events := [.warning Event.unhealthy "cluster heartbeat timeout"]
            givesUp := true }
      else
        (timeout.add? slack).map fun patience =>
          { phase := if (failures evidence).isEmpty then .ready else .outOfControl
            events := (failures evidence).map (.warning Event.unexpected)
            outcome :=
              Outcome.empty.withDelay (patience.after (heartbeat.lastProbeTime.elapsed now)) }

def enact (draft : StatusDraft) (now : Instant) (finding : Finding) : Judgement :=
  let conditions :=
    if finding.givesUp then
      draft.status.conditions.set .heartbeat .false_ Event.unhealthy "time out" now
    else draft.status.conditions
  { draft :=
      { draft with
        status := { draft.status with phase := finding.phase, conditions }
        events := draft.events ++ finding.events }
    outcome := finding.outcome }

theorem failingMessage_eq (conditions : Ledger ClusterConditionType)
    (type : ClusterConditionType) :
    failingMessage conditions type = failure? (testimonyOn type conditions) := by
  unfold failingMessage testimonyOn failure?
  cases conditions.query type <;> rfl

theorem complaints_eq (conditions : Ledger ClusterConditionType) :
    complaints conditions = failures (evidenceIn conditions) := by
  unfold complaints failures
  rw [failingMessage_eq, failingMessage_eq]
  rfl

/-- A judgement enacts what is found from the evidence. -/
theorem judgeConnected_eq (timeout : Delay) (draft : StatusDraft) (now : Instant) :
    judgeConnected timeout draft now =
      (find timeout (evidenceIn draft.status.conditions) now).map (enact draft now) := by
  have hheartbeat : (evidenceIn draft.status.conditions).heartbeat =
      testimonyOn .heartbeat draft.status.conditions := rfl
  unfold judgeConnected find
  rw [hheartbeat, testimonyOn]
  cases draft.status.conditions.query .heartbeat with
  | none => simp [enact, setPhase]
  | some heartbeat =>
      dsimp only [Option.map_some]
      split
      · simp [enact, setPhase]
      · split
        · rfl
        · rw [judgeCurrent, complaints_eq, foldl_addEvent, Option.map_map]
          rfl

/-- The cluster has been greeted, and a first contact is on record that has not failed. -/
structure Contacted (draft : StatusDraft) : Prop where
  common : isMeta draft.observed = false
  init : draft.status.conditions.isTrue .init = true
  contact : ∃ contact, draft.status.conditions.query .firstConnect = some contact ∧
    contact.status ≠ .false_

theorem judge_of_contacted (h : Contacted draft) :
    judge settings newId draft now =
      (find (heartbeatTimeout settings draft.observed) (evidenceIn draft.status.conditions)
        now).map (enact draft now) := by
  obtain ⟨contact, hcontact, hstatus⟩ := h.contact
  have hchecked : draft.status.conditions.check .firstConnect .false_ = false := by
    unfold Ledger.check
    rw [hcontact]
    exact beq_eq_false_iff_ne.mpr hstatus
  rw [← judgeConnected_eq]
  unfold judge
  rw [h.common, h.init, hchecked]
  rfl

/-- Two clusters are given the same time, and tell the same. -/
structure SameEvidence (settings settings' : Settings) (draft draft' : StatusDraft) : Prop where
  timeout : heartbeatTimeout settings draft.observed = heartbeatTimeout settings' draft'.observed
  evidence : evidenceIn draft.status.conditions = evidenceIn draft'.status.conditions

/-- Two judgements say the same. -/
structure Concur (draft draft' : StatusDraft) (judgement judgement' : Judgement) : Prop where
  phase : judgement.draft.status.phase = judgement'.draft.status.phase
  events : ∃ events, judgement.draft.events = draft.events ++ events ∧
    judgement'.draft.events = draft'.events ++ events
  outcome : judgement.outcome = judgement'.outcome

/-- Of the conditions only two are ever touched, each of them in one direction. -/
inductive Touched (before after : Ledger ClusterConditionType) : Prop where
  | same : after = before → Touched before after
  | init : Rewritten .init .true_ before.conditions after.conditions → Touched before after
  | heartbeat : Rewritten .heartbeat .false_ before.conditions after.conditions →
      Touched before after

theorem touched_of_diagnosed (h : Diagnosed settings newId draft now judgement) :
    Touched draft.status.conditions judgement.draft.status.conditions := by
  cases h with
  | greeted => exact .init (rewritten_set draft.status.conditions .init .true_ "" "" now)
  | waiting => exact .same rfl
  | connected _ _ hassessed =>
      cases hassessed with
      | unheard => exact .same rfl
      | givenUp => exact .same rfl
      | late =>
          exact .heartbeat
            (rewritten_set draft.status.conditions .heartbeat .false_ Event.unhealthy "time out"
              now)
      | current => exact .same rfl

theorem find_isSome {timeout : Delay} (h : (timeout.add? slack).isSome) (evidence : Testimonies)
    (now : Instant) : (find timeout evidence now).isSome := by
  unfold find
  split
  · rfl
  · split
    · rfl
    · split
      · rfl
      · rw [Option.isSome_map]
        exact h

theorem judge_isSome (hcommon : isMeta draft.observed = false)
    (h : ((heartbeatTimeout settings draft.observed).add? slack).isSome) :
    (judge settings newId draft now).isSome := by
  unfold judge
  rw [hcommon, if_neg Bool.false_ne_true]
  split
  · rfl
  · split
    · rfl
    · rw [judgeConnected_eq, Option.isSome_map]
      exact find_isSome h _ now

/-- A judgement touches no condition but those on the greeting and on the heartbeats, and two
clusters that have been heard of and tell the same at the same time are judged the same. -/
theorem judge_touched_and_concur (hcommon : isMeta draft.observed = false)
    (h : ((heartbeatTimeout settings draft.observed).add? slack).isSome) (newId : String)
    (now : Instant) :
    ∃ judgement, judge settings newId draft now = some judgement ∧
      Touched draft.status.conditions judgement.draft.status.conditions ∧
      ∀ settings' newId' draft', Contacted draft → Contacted draft' →
        SameEvidence settings settings' draft draft' →
          ∃ judgement', judge settings' newId' draft' now = some judgement' ∧
            Concur draft draft' judgement judgement' := by
  obtain ⟨judgement, hjudgement⟩ := Option.isSome_iff_exists.mp (judge_isSome hcommon h)
  refine ⟨judgement, hjudgement, touched_of_diagnosed (diagnosed_of_judge hcommon hjudgement), ?_⟩
  intro settings' newId' draft' hcontacted hcontacted' halike
  rw [judge_of_contacted hcontacted] at hjudgement
  obtain ⟨finding, hfinding, rfl⟩ := Option.map_eq_some_iff.mp hjudgement
  refine ⟨enact draft' now finding, ?_, rfl, ⟨finding.events, rfl, rfl⟩, rfl⟩
  rw [judge_of_contacted hcontacted', ← halike.timeout, ← halike.evidence, hfinding]
  rfl

def entry (type : ClusterConditionType) (status : ConditionStatus) (message : String)
    (since : Instant) : Condition ClusterConditionType :=
  { type, status, message, lastProbeTime := .epoch, lastTransitionTime := since }

def steady : Cluster :=
  { metadata := { name := some "cellar", «namespace» := some "lab" }
    content :=
      { spec := { timeoutSeconds := 30 }
        status := some
          { phase := .ready
            clusterId := some "uid-cellar"
            conditions :=
              ⟨[entry .init .true_ "" .epoch, entry .firstConnect .true_ "" .epoch,
                entry .heartbeat .true_ "" .epoch, entry .resourceSync .false_ "disk" .epoch]⟩ } } }

/-- A cluster that was lost before. Its ledger is in another order and repeats itself. -/
def revived : Cluster :=
  { metadata := { name := some "attic", «namespace» := some "lab" }
    content :=
      { spec := { publicIPs := ["10.1.0.1"] }
        status := some
          { phase := .lost
            conditions :=
              ⟨[entry .resourceSync .false_ "disk" ⟨45, 0, by decide⟩,
                { entry .heartbeat .true_ "" ⟨45, 0, by decide⟩ with reason := "Reconnected" },
                entry .heartbeat .false_ "time out" .epoch,
                entry .firstConnect .unknown "" .epoch, entry .init .true_ "" .epoch]⟩ } } }

theorem judge_touched_and_concur_of_revived :
    isMeta steady = false ∧ ((heartbeatTimeout {} steady).add? slack).isSome ∧
      Contacted (.start steady) ∧ Contacted (.start revived) ∧
      SameEvidence {} {} (.start steady) (.start revived) ∧
      ∃ judgement judgement', judge {} "" (.start steady) .epoch = some judgement ∧
        judge {} "uid-attic" (.start revived) .epoch = some judgement' ∧
          Concur (.start steady) (.start revived) judgement judgement' := by
  have hsteady : Contacted (.start steady) := ⟨by decide, by decide, _, rfl, by decide⟩
  have hrevived : Contacted (.start revived) := ⟨by decide, by decide, _, rfl, by decide⟩
  have halike : SameEvidence {} {} (.start steady) (.start revived) := ⟨by decide, by decide⟩
  have hpatience : ((heartbeatTimeout {} steady).add? slack).isSome := by decide
  obtain ⟨judgement, hjudgement, -, hothers⟩ :=
    judge_touched_and_concur hsteady.common hpatience "" .epoch
  obtain ⟨judgement', hjudgement', hconcur⟩ :=
    hothers {} "uid-attic" (.start revived) hsteady hrevived halike
  exact ⟨hsteady.common, hpatience, hsteady, hrevived, halike, judgement, judgement', hjudgement,
    hjudgement', hconcur⟩

end Fleet.Proofs.JudgementInputs
