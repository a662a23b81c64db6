import Fleet.Cluster.Basic
import Fleet.Pass.Draft
import Fleet.Pass.Outcome
import Fleet.Settings

/-!
Judging the health of a cluster. The judgement only reads the conditions that heartbeats have left
behind, and decides the phase from how long ago the last one arrived and from what it reported:

* a cluster seen for the first time gets an identity and waits, in phase *created*;
* from the first heartbeat on it is *ready* while heartbeats arrive within the timeout, and
  *out of control* if they report failing resources or commands;
* it is *lost* once they stop.
-/

namespace Fleet.Cluster

abbrev StatusDraft := Draft ClusterSpec ClusterStatus

/-- How long to wait beyond the timeout before looking again. -/
def slack : Delay := .ofSeconds 1

/-- The heartbeat timeout of a cluster: its own or the operator's. -/
def heartbeatTimeout (settings : Settings) (cluster : Cluster) : Delay :=
  cluster.spec.timeoutOverride.getD settings.heartbeatTimeout

structure Judgement where
  draft : StatusDraft
  outcome : Outcome

def setCondition (draft : StatusDraft) (type : ClusterConditionType) (status : ConditionStatus)
    (reason message : String) (now : Instant) : StatusDraft :=
  let conditions := draft.status.conditions.set type status reason message now
  { draft with status := { draft.status with conditions } }

def setPhase (draft : StatusDraft) (phase : ClusterPhase) : StatusDraft :=
  { draft with status := { draft.status with phase } }

def judgeMeta (settings : Settings) (draft : StatusDraft) (now : Instant) : Judgement :=
  let timeout := draft.observed.spec.timeoutOverride.getD settings.metaCluster.timeout
  let conditions :=
    Enumeration.all.foldl
      (fun ledger type => ledger.ensure type .true_ "Ready" "meta cluster ready" now)
      draft.status.conditions
  { draft := { draft with status := { draft.status with phase := .ready, conditions } }
    outcome := Outcome.empty.withDelay timeout }

/-- Whether a judgement has to assign an identity. -/
def needsId (draft : StatusDraft) : Bool :=
  !isMeta draft.observed && !draft.status.conditions.isTrue .init &&
    draft.status.assignedId?.isNone

/-- Greets a cluster that is seen for the first time. An identity that it already has is kept. -/
def greet (newId : String) (draft : StatusDraft) (now : Instant) : Judgement :=
  let clusterId :=
    if draft.status.assignedId?.isNone then some newId else draft.status.clusterId
  let draft := setPhase { draft with status := { draft.status with clusterId } } .created
  let draft := setCondition draft .init .true_ "" "" now
  { draft := draft.addEvent (.normal Event.created "wait for first heartbeat")
    outcome := Outcome.empty.withSoon }

def failingMessage (conditions : Ledger ClusterConditionType) (type : ClusterConditionType) :
    Option String :=
  match conditions.query type with
  | some condition => if condition.status = .false_ then some condition.message else none
  | none => none

/-- What keeps a cluster whose heartbeats are current from being ready. -/
def complaints (conditions : Ledger ClusterConditionType) : List String :=
  ((failingMessage conditions .resourceSync).map ("resource sync error: " ++ ·)).toList ++
    ((failingMessage conditions .commandApply).map ("cluster command apply error: " ++ ·)).toList

/-- Gives up on a cluster whose last heartbeat is too long ago. -/
def lose (draft : StatusDraft) (now : Instant) : Judgement :=
  let draft := setCondition (setPhase draft .lost) .heartbeat .false_ Event.unhealthy "time out" now
  { draft := draft.addEvent (.warning Event.unhealthy "cluster heartbeat timeout")
    outcome := .empty }

/-- Judges a cluster whose heartbeats are current. The next look is due when the timeout has
passed; that moment may lie too far ahead to be scheduled. -/
def judgeCurrent (timeout : Delay) (elapsed : Nat) (draft : StatusDraft) : Option Judgement :=
  let failing := complaints draft.status.conditions
  let draft := setPhase draft (if failing.isEmpty then .ready else .outOfControl)
  let draft :=
    failing.foldl (fun draft message => draft.addEvent (.warning Event.unexpected message)) draft
  (timeout.add? slack).map fun patience =>
    { draft, outcome := Outcome.empty.withDelay (patience.after elapsed) }

/-- Judges a cluster that has sent a heartbeat before. A heartbeat from the future counts as just
received. -/
def judgeConnected (timeout : Delay) (draft : StatusDraft) (now : Instant) : Option Judgement :=
  match draft.status.conditions.query .heartbeat with
  | some heartbeat =>
      if heartbeat.status = .false_ then
        some { draft := setPhase draft .lost, outcome := .empty }
      else
        let elapsed := heartbeat.lastProbeTime.elapsed now
        if timeout.nanoseconds < elapsed then some (lose draft now)
        else judgeCurrent timeout elapsed draft
  | none => some { draft := setPhase draft .lost, outcome := .empty }

/-- Judges a cluster at the given time. `newId` is the identity to assign if one is needed. There
is no judgement if the next look cannot be scheduled. -/
def judge (settings : Settings) (newId : String) (draft : StatusDraft) (now : Instant) :
    Option Judgement :=
  if isMeta draft.observed then some (judgeMeta settings draft now)
  else if !draft.status.conditions.isTrue .init then some (greet newId draft now)
  else if draft.status.conditions.check .firstConnect .false_ then
    some { draft, outcome := .empty }
  else judgeConnected (heartbeatTimeout settings draft.observed) draft now

end Fleet.Cluster
