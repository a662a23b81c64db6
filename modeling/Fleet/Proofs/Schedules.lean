import Fleet.Proofs.ClusterIdempotence
import Fleet.Proofs.JudgementInputs

namespace Fleet.Proofs.Schedules

open Fleet.Cluster
open Fleet.Proofs.ClusterIdempotence (Schedulable)
open Fleet.Proofs.JudgementInputs
open Fleet.Proofs.Judgements

variable {settings : Settings} {newId : String} {draft : StatusDraft} {now : Instant}
  {judgement : Judgement} {timeout : Delay} {evidence : Testimonies} {finding : Finding}

/-- The calendar is so short that the time between any two points in time is a delay. -/
theorem elapsed_lt_limit (earlier later : Instant) : earlier.elapsed later < Delay.limit := by
  have hfirst : Instant.firstSecond = -8334601228800 := by decide
  have hlast : Instant.lastSecond = 8210266876799 := by decide
  obtain ⟨hearlier, -, -, -⟩ := earlier.admitted
  obtain ⟨-, hlater, hnanosecond, -⟩ := later.admitted
  unfold Instant.elapsed Instant.nanoseconds Delay.limit
  simp only [UInt64.size, Instant.nanosecondsPerSecond] at *
  split <;> split <;> omega

/-- The phases of a cluster whose heartbeats are current. -/
def IsAlive (phase : ClusterPhase) : Prop := phase = .ready ∨ phase = .outOfControl

/-- A delay of at least a second, and of at most a second more than the timeout. -/
structure Timely (timeout delay : Delay) : Prop where
  patient : slack.nanoseconds ≤ delay.nanoseconds
  prompt : delay.nanoseconds ≤ timeout.nanoseconds + slack.nanoseconds

theorem timely_after {patience : Delay} (hpatience : timeout.add? slack = some patience)
    {passed : Nat} (hcurrent : passed ≤ timeout.nanoseconds) :
    Timely timeout (patience.after passed) := by
  unfold Delay.add? at hpatience
  split at hpatience
  · cases hpatience
    constructor
    · change slack.nanoseconds ≤ timeout.nanoseconds + slack.nanoseconds - passed
      omega
    · exact Nat.sub_le _ _
  · contradiction

theorem timely_of_find (h : find timeout evidence now = some finding)
    (halive : IsAlive finding.phase) :
    ∃ delay, finding.outcome = Outcome.empty.withDelay delay ∧ Timely timeout delay := by
  have hlost : ¬ IsAlive .lost := by rintro (hready | hcontrol) <;> contradiction
  unfold find at h
  split at h
  · cases h
    exact absurd halive hlost
  · split at h
    · cases h
      exact absurd halive hlost
    · split at h
      · cases h
        exact absurd halive hlost
      · rename_i hcurrent
        obtain ⟨patience, hpatience, rfl⟩ := Option.map_eq_some_iff.mp h
        exact ⟨_, rfl, timely_after hpatience (Nat.le_of_not_lt hcurrent)⟩

/-- The cluster has been greeted, and its first contact is false or not on record. -/
def Awaited (draft : StatusDraft) : Prop :=
  draft.status.conditions.isTrue .init = true ∧
    draft.status.conditions.check .firstConnect .false_ = true

theorem timely_of_judgeConnected (h : judgeConnected timeout draft now = some judgement)
    (halive : IsAlive judgement.draft.status.phase) :
    ∃ delay, judgement.outcome = Outcome.empty.withDelay delay ∧ Timely timeout delay := by
  rw [judgeConnected_eq] at h
  obtain ⟨finding, hfinding, rfl⟩ := Option.map_eq_some_iff.mp h
  exact timely_of_find hfinding halive

theorem judge_of_common (hcommon : isMeta draft.observed = false) :
    judge settings newId draft now =
      if draft.status.conditions.isTrue .init = false then some (greet newId draft now)
      else if draft.status.conditions.check .firstConnect .false_ then
        some { draft, outcome := .empty }
      else judgeConnected (heartbeatTimeout settings draft.observed) draft now := by
  unfold judge
  rw [hcommon, if_neg Bool.false_ne_true]
  simp only [Bool.not_eq_true']

theorem judge_of_awaited (hcommon : isMeta draft.observed = false) (hawaited : Awaited draft) :
    judge settings newId draft now = some { draft, outcome := .empty } := by
  rw [judge_of_common hcommon, hawaited.1, if_neg (by decide), if_pos hawaited.2]

theorem timely_of_judge (hcommon : isMeta draft.observed = false) (hawaited : ¬ Awaited draft)
    (h : judge settings newId draft now = some judgement)
    (halive : IsAlive judgement.draft.status.phase) :
    ∃ delay, judgement.outcome = Outcome.empty.withDelay delay ∧
      Timely (heartbeatTimeout settings draft.observed) delay := by
  rw [judge_of_common hcommon] at h
  split at h
  · cases h
    rcases halive with hready | hcontrol <;> contradiction
  · rename_i hinit
    rw [Bool.not_eq_false] at hinit
    split at h
    · rename_i hcontact
      exact absurd ⟨hinit, hcontact⟩ hawaited
    · exact timely_of_judgeConnected h halive

theorem judge_isSome_of_schedulable (h : Schedulable settings draft.observed) (newId : String)
    (now : Instant) : (judge settings newId draft now).isSome := by
  cases hcommon : isMeta draft.observed with
  | true =>
      unfold judge
      rw [hcommon]
      rfl
  | false => exact judge_isSome hcommon (h hcommon)

/-- What is scheduled for a common cluster after a judgement. -/
structure Scheduled (settings : Settings) (draft : StatusDraft) (judgement : Judgement) :
    Prop where
  /-- A cluster that is found alive is looked at again in time. -/
  alive : ¬ Awaited draft → IsAlive judgement.draft.status.phase →
    ∃ delay, judgement.outcome.aggregate settings.requeueSoon = .ok (.requeue delay) ∧
      Timely (heartbeatTimeout settings draft.observed) delay
  /-- A cluster that is waited for is left as it is until it changes. -/
  awaited : Awaited draft → judgement.draft = draft ∧
    judgement.outcome.aggregate settings.requeueSoon = .ok .awaitChange

/-- Every cluster can be judged at any time, if its next look can be scheduled at all. The time
since its last heartbeat is a delay, and the next look is scheduled by it. -/
theorem judge_scheduled (draft : StatusDraft) (hpatience : Schedulable settings draft.observed)
    (newId : String) (now : Instant) :
    ∃ judgement, judge settings newId draft now = some judgement ∧
      (∀ heartbeat, draft.status.conditions.query .heartbeat = some heartbeat →
        heartbeat.lastProbeTime.elapsed now < Delay.limit) ∧
      (isMeta draft.observed = false → Scheduled settings draft judgement) := by
  obtain ⟨judgement, hjudgement⟩ :=
    Option.isSome_iff_exists.mp (judge_isSome_of_schedulable hpatience newId now)
  refine ⟨judgement, hjudgement, fun heartbeat _ => elapsed_lt_limit _ now, fun hcommon => ?_⟩
  constructor
  · intro hawaited halive
    obtain ⟨delay, houtcome, htimely⟩ := timely_of_judge hcommon hawaited hjudgement halive
    refine ⟨delay, ?_, htimely⟩
    rw [houtcome]
    rfl
  · intro hawaited
    rw [judge_of_awaited hcommon hawaited] at hjudgement
    cases hjudgement
    exact ⟨rfl, rfl⟩

/-- A cluster with the longest timeout after which a look can still be scheduled. Its last heartbeat
lies in the future. -/
def enduring : Cluster :=
  { metadata := { name := some "cellar", «namespace» := some "lab" }
    content :=
      { spec := { timeoutSeconds := 18446744073709551614 }
        status := some
          { conditions :=
              ⟨[entry .init .true_ "" .epoch, entry .firstConnect .true_ "" .epoch,
                { entry .heartbeat .true_ "" .epoch with
                  lastProbeTime := ⟨86400, 0, by decide⟩ }]⟩ } } }

theorem judge_scheduled_of_enduring :
    Schedulable {} enduring ∧
      ∃ judgement delay, judge {} "" (.start enduring) .epoch = some judgement ∧
        judgement.draft.status.phase = .ready ∧
        judgement.outcome.aggregate (.ofSeconds 1) = .ok (.requeue delay) ∧
        Timely (.ofSeconds 18446744073709551614) delay := by
  have hpatience : Schedulable {} enduring := fun _ => by decide
  obtain ⟨judgement, hjudgement, -, hscheduled⟩ :=
    judge_scheduled (.start enduring) hpatience "" .epoch
  have hawaited : ¬ Awaited (.start enduring) := fun h => absurd h.2 (by decide)
  have hphase : judgement.draft.status.phase = .ready := by
    cases hjudgement
    rfl
  obtain ⟨delay, haction, htimely⟩ := (hscheduled (by decide)).alive hawaited (.inl hphase)
  exact ⟨hpatience, judgement, delay, hjudgement, hphase, haction, htimely⟩

/-- A cluster that counts as ready although its agent has not connected. -/
def presumed (contact : List (Condition ClusterConditionType)) : Cluster :=
  { metadata := { name := some "cellar", «namespace» := some "lab" }
    content :=
      { spec := {}
        status := some
          { phase := .ready, conditions := ⟨entry .init .true_ "" .epoch :: contact⟩ } } }

/-- It is left ready and no other look at it is scheduled, whether its first contact is false or not
on record. -/
theorem presumed_not_scheduled :
    (Settings.validate {}).toOption = some () ∧
      ∀ contact ∈ [[], [entry .firstConnect .false_ "" .epoch]],
        isMeta (presumed contact) = false ∧
          ∃ judgement, judge {} "" (.start (presumed contact)) .epoch = some judgement ∧
            judgement.draft.status.phase = .ready ∧
            judgement.outcome.aggregate (.ofSeconds 1) = .ok .awaitChange := by
  refine ⟨by decide, fun contact hcontact => ?_⟩
  simp only [List.mem_cons, List.not_mem_nil, or_false] at hcontact
  rcases hcontact with rfl | rfl
  · exact ⟨rfl, _, rfl, rfl, rfl⟩
  · exact ⟨rfl, _, rfl, rfl, rfl⟩

end Fleet.Proofs.Schedules
