import Fleet.Proofs.Judgements

namespace Fleet.Proofs.HeartbeatTimeout

open Fleet.Cluster
open Fleet.Proofs.Judgements
open Fleet.Proofs.Ledgers

/-- Passes at the given times, each over the cluster with the status that the one before has
left. -/
def passes (settings : Settings) (newId : String) :
    Cluster → List Instant → Option (List Judgement)
  | _, [] => some []
  | cluster, now :: later => do
      let judgement ← judge settings newId (.start cluster) now
      let rest ← passes settings newId (cluster.setStatus judgement.draft.status) later
      return judgement :: rest

variable {settings : Settings} {newId : String} {cluster : Cluster} {status : ClusterStatus}
  {heartbeat : Condition ClusterConditionType} {timeout patience : Delay} {now : Instant}
  {later times : List Instant} {judgement : Judgement} {rest judgements : List Judgement}
  {ledger : Ledger ClusterConditionType}

theorem passes_cons (hjudge : judge settings newId (.start cluster) now = some judgement)
    (hrest : passes settings newId (cluster.setStatus judgement.draft.status) later = some rest) :
    passes settings newId cluster (now :: later) = some (judgement :: rest) := by
  rw [passes, hjudge]
  change (passes settings newId (cluster.setStatus judgement.draft.status) later).bind _ = _
  rw [hrest]
  rfl

/-- More than the timeout has passed since the last heartbeat. -/
def Late (timeout : Delay) (heartbeat : Condition ClusterConditionType) (now : Instant) : Prop :=
  timeout.nanoseconds < heartbeat.lastProbeTime.elapsed now

/-- A judgement that finds the heartbeats current. It goes by the conditions, and leaves them as
they are. -/
structure Waits (timeout : Delay) (heartbeat : Condition ClusterConditionType)
    (ledger : Ledger ClusterConditionType) (now : Instant) (judgement : Judgement) : Prop where
  phase : judgement.draft.status.phase =
    if (complaints ledger).isEmpty then .ready else .outOfControl
  conditions : judgement.draft.status.conditions = ledger
  events : judgement.draft.events = (complaints ledger).map (.warning Event.unexpected)
  delay : ∃ delay, judgement.outcome = Outcome.empty.withDelay delay ∧
    heartbeat.lastProbeTime.elapsed now + delay.nanoseconds =
      timeout.nanoseconds + slack.nanoseconds

structure JudgesLost (ledger : Ledger ClusterConditionType) (now : Instant)
    (judgement : Judgement) : Prop where
  phase : judgement.draft.status.phase = .lost
  conditions : judgement.draft.status.conditions =
    ledger.set .heartbeat .false_ Event.unhealthy "time out" now
  events : judgement.draft.events = [.warning Event.unhealthy "cluster heartbeat timeout"]
  outcome : judgement.outcome = .empty

structure Rests (status : ClusterStatus) (judgement : Judgement) : Prop where
  status : judgement.draft.status = status
  events : judgement.draft.events = []
  outcome : judgement.outcome = .empty

/-- What the passes over a silent cluster come to, whatever their times are. -/
structure Watched (timeout : Delay) (heartbeat : Condition ClusterConditionType)
    (ledger : Ledger ClusterConditionType) (times : List Instant)
    (judgements : List Judgement) : Prop where
  length : judgements.length = times.length
  waits : ∀ (i : Nat) now judgement, times[i]? = some now → judgements[i]? = some judgement →
    (∀ past ∈ times.take (i + 1), ¬ Late timeout heartbeat past) →
      Waits timeout heartbeat ledger now judgement
  givesUp : ∀ (i : Nat) now judgement, times[i]? = some now → judgements[i]? = some judgement →
    Late timeout heartbeat now → (∀ past ∈ times.take i, ¬ Late timeout heartbeat past) →
      JudgesLost ledger now judgement
  rests : ∀ (i : Nat) previous judgement, judgements[i]? = some previous →
    judgements[i + 1]? = some judgement →
      (∃ past ∈ times.take (i + 1), Late timeout heartbeat past) →
      previous.draft.status.phase = .lost ∧ Rests previous.draft.status judgement

theorem waits_judge (h : Connected cluster status heartbeat) (hbeats : heartbeat.status ≠ .false_)
    (hpatience : (heartbeatTimeout settings cluster).add? slack = some patience)
    (htime : ¬ Late (heartbeatTimeout settings cluster) heartbeat now) (newId : String) :
    ∃ judgement, judge settings newId (.start cluster) now = some judgement ∧
      Waits (heartbeatTimeout settings cluster) heartbeat status.conditions now judgement := by
  have htime := Nat.not_lt.mp htime
  refine ⟨_, judge_current h hbeats hpatience htime, rfl, rfl, rfl, _, rfl, ?_⟩
  unfold Delay.add? at hpatience
  split at hpatience
  · cases hpatience
    change _ + (_ + _ - _) = _
    omega
  · contradiction

theorem judgesLost_lose (draft : StatusDraft) (hquiet : draft.events = []) (now : Instant) :
    JudgesLost draft.status.conditions now (lose draft now) := by
  refine ⟨rfl, rfl, ?_, rfl⟩
  change draft.events ++ _ = _
  rw [hquiet]
  rfl

theorem connected_lose (h : Connected cluster status heartbeat) (now : Instant) :
    ∃ lost : Condition ClusterConditionType, lost.status = .false_ ∧
      Connected (cluster.setStatus (lose { observed := cluster, status } now).draft.status)
        (lose { observed := cluster, status } now).draft.status lost := by
  obtain ⟨since, hlost⟩ := query_set_self status.conditions .heartbeat .false_ Event.unhealthy
    "time out" now
  refine ⟨_, rfl, h.common, rfl, ?_, ?_, hlost⟩
  · exact (isTrue_set_of_ne (by decide) status.conditions _ _ _ now).trans h.init
  · exact (check_congr (query_set_of_ne (by decide) status.conditions _ _ _ now) _).trans h.contact

theorem passes_given_up (h : Connected cluster status heartbeat)
    (hheartbeat : heartbeat.status = .false_) (hphase : status.phase = .lost)
    (settings : Settings) (newId : String) (times : List Instant) :
    passes settings newId cluster times =
      some (times.map fun _ =>
        { draft := { observed := cluster, status }, outcome := .empty }) := by
  have hstatus : { status with phase := .lost } = status := by rw [← hphase]
  have hcluster : cluster.setStatus status = cluster := by
    have hcontent : { cluster.content with status := some status } = cluster.content := by
      rw [← h.reported]
    rw [Object.setStatus, hcontent]
  induction times with
  | nil => rfl
  | cons now later ih =>
      refine passes_cons ?_ ?_
      · rw [judge_given_up h hheartbeat, setPhase, hstatus]
      · dsimp only
        rw [hcluster, ih]

theorem watched_nil : Watched timeout heartbeat ledger [] [] :=
  ⟨rfl, fun _ _ _ htime => absurd htime (by simp), fun _ _ _ htime => absurd htime (by simp),
    fun _ _ _ hprevious => absurd hprevious (by simp)⟩

theorem watched_cons_of_waits
    (hwaits : Waits timeout heartbeat ledger now judgement)
    (htime : ¬ Late timeout heartbeat now)
    (hrest : Watched timeout heartbeat ledger later rest) :
    Watched timeout heartbeat ledger (now :: later) (judgement :: rest) := by
  refine ⟨by simp [hrest.length], ?_, ?_, ?_⟩
  · rintro (_ | i) time found htime hfound hnone
    · cases htime
      cases hfound
      exact hwaits
    · exact hrest.waits i time found htime hfound fun past hpast => hnone past (.tail _ hpast)
  · rintro (_ | i) time found htime hfound hlate hnone
    · cases htime
      contradiction
    · exact hrest.givesUp i time found htime hfound hlate fun past hpast =>
        hnone past (.tail _ hpast)
  · rintro (_ | i) previous found hprevious hfound ⟨past, hpast, hlate⟩
    · rcases hpast with _ | ⟨_, hpast⟩
      · contradiction
      · contradiction
    · rcases hpast with _ | ⟨_, hpast⟩
      · contradiction
      · exact hrest.rests i previous found hprevious hfound ⟨past, hpast, hlate⟩

theorem watched_cons_of_judgesLost
    (hgivesUp : JudgesLost ledger now judgement) (htime : Late timeout heartbeat now)
    (hlength : rest.length = later.length)
    (hrest : ∀ found ∈ rest, Rests judgement.draft.status found) :
    Watched timeout heartbeat ledger (now :: later) (judgement :: rest) := by
  refine ⟨by simp [hlength], ?_, ?_, ?_⟩
  · intro i time found _ _ hnone
    exact absurd htime (hnone now (List.mem_of_mem_head? rfl))
  · rintro (_ | i) time found hnow hfound _ hnone
    · cases hnow
      cases hfound
      exact hgivesUp
    · exact absurd htime (hnone now (.head _))
  · intro i previous found hprevious hfound _
    have hfound := hrest found (List.mem_of_getElem? hfound)
    -- All later passes leave the status as it was left when the cluster was given up.
    have hstatus : previous.draft.status = judgement.draft.status := by
      rcases i with _ | i
      · cases hprevious
        rfl
      · exact (hrest previous (List.mem_of_getElem? hprevious)).status
    rw [hstatus]
    exact ⟨hgivesUp.phase, hfound⟩

/-- However often a silent cluster is passed over, every pass comes to a judgement. -/
theorem watched_passes (h : Connected cluster status heartbeat)
    (hbeats : heartbeat.status ≠ .false_)
    (hpatience : (heartbeatTimeout settings cluster).add? slack = some patience)
    (newId : String) (times : List Instant) :
    ∃ judgements, passes settings newId cluster times = some judgements ∧
      Watched (heartbeatTimeout settings cluster) heartbeat status.conditions times
        judgements := by
  induction times generalizing cluster status with
  | nil =>
      exact ⟨[], rfl, watched_nil⟩
  | cons now later ih =>
      by_cases htime : Late (heartbeatTimeout settings cluster) heartbeat now
      · have hgivesUp := judgesLost_lose { observed := cluster, status } rfl now
        obtain ⟨lost, hfalse, hconnected⟩ := connected_lose h now
        have hpasses := passes_given_up hconnected hfalse hgivesUp.phase settings newId later
        refine ⟨_, passes_cons (judge_late h hbeats htime) hpasses, ?_⟩
        refine watched_cons_of_judgesLost hgivesUp htime (List.length_map _) ?_
        intro found hfound
        obtain ⟨-, -, rfl⟩ := List.mem_map.mp hfound
        exact ⟨rfl, rfl, rfl⟩
      · obtain ⟨judgement, hjudge, hwaits⟩ := waits_judge h hbeats hpatience htime newId
        have hconnected := connected_setStatus h hwaits.conditions
        obtain ⟨rest, hpasses, hrest⟩ := ih hconnected hpatience
        rw [hwaits.conditions] at hrest
        exact ⟨judgement :: rest, passes_cons hjudge hpasses,
          watched_cons_of_waits hwaits htime hrest⟩

theorem lost_of_late (h : Watched timeout heartbeat ledger times judgements) {i : Nat}
    (hnow : times[i]? = some now) (hjudgement : judgements[i]? = some judgement)
    (hlate : Late timeout heartbeat now) :
    judgement.draft.status.phase = .lost ∧ judgement.outcome = .empty := by
  by_cases hfirst : ∀ past ∈ times.take i, ¬ Late timeout heartbeat past
  · have hgivesUp := h.givesUp i now judgement hnow hjudgement hlate hfirst
    exact ⟨hgivesUp.phase, hgivesUp.outcome⟩
  · have hpast : ∃ past ∈ times.take i, Late timeout heartbeat past := by
      simpa using hfirst
    rcases i with _ | i
    · obtain ⟨past, hnone, -⟩ := hpast
      contradiction
    · have hlength := (List.getElem?_eq_some_iff.mp hjudgement).1
      have hprevious := List.getElem?_eq_getElem (Nat.lt_of_succ_lt hlength)
      obtain ⟨hphase, hrests⟩ := h.rests i _ judgement hprevious hjudgement hpast
      exact ⟨hrests.status ▸ hphase, hrests.outcome⟩

section Clock

variable {earlier late : Instant}

theorem elapsed_of_not_leap (hearlier : earlier.isLeap = false) (hlate : late.isLeap = false) :
    earlier.elapsed late = (late.nanoseconds - earlier.nanoseconds).toNat := by
  unfold Instant.elapsed
  simp [hearlier, hlate]

theorem nanoseconds_le_of_not_leap (hearlier : earlier.isLeap = false)
    (hordered : late.isBefore earlier = false) : earlier.nanoseconds ≤ late.nanoseconds := by
  have hnanosecond : earlier.nanosecond < Instant.nanosecondsPerSecond := by
    simpa [Instant.isLeap] using hearlier
  simp only [Instant.isBefore, Bool.or_eq_false_iff, decide_eq_false_iff_not, Int.not_lt,
    Bool.and_eq_false_iff, beq_eq_false_iff_ne, Nat.not_lt] at hordered
  simp only [Instant.nanoseconds, Instant.nanosecondsPerSecond] at *
  omega

end Clock

/-- Times in order, none of them in a leap second. -/
structure Ordinary (heartbeat : Condition ClusterConditionType) (times : List Instant) : Prop where
  probe : heartbeat.lastProbeTime.isLeap = false
  whole : ∀ now ∈ times, now.isLeap = false
  ordered : times.Pairwise fun earlier later => later.isBefore earlier = false

def deadline (timeout : Delay) (heartbeat : Condition ClusterConditionType) : Int :=
  heartbeat.lastProbeTime.nanoseconds + timeout.nanoseconds

/-- What the passes over a silent cluster come to at ordinary times. -/
structure Punctual (timeout : Delay) (heartbeat : Condition ClusterConditionType)
    (ledger : Ledger ClusterConditionType) (times : List Instant)
    (judgements : List Judgement) : Prop where
  waits : ∀ (i : Nat) now judgement, times[i]? = some now → judgements[i]? = some judgement →
    now.nanoseconds ≤ deadline timeout heartbeat →
      Waits timeout heartbeat ledger now judgement ∧
        (heartbeat.lastProbeTime.nanoseconds ≤ now.nanoseconds →
          ∃ delay, judgement.outcome = Outcome.empty.withDelay delay ∧
            now.nanoseconds + delay.nanoseconds =
              deadline timeout heartbeat + slack.nanoseconds)
  lost : ∀ (i : Nat) now judgement, times[i]? = some now → judgements[i]? = some judgement →
    deadline timeout heartbeat < now.nanoseconds →
      judgement.draft.status.phase = .lost ∧ judgement.outcome = .empty
  givesUp : ∀ (i : Nat) now judgement, times[i]? = some now → judgements[i]? = some judgement →
    deadline timeout heartbeat < now.nanoseconds →
      (∀ past ∈ times.take i, past.nanoseconds ≤ deadline timeout heartbeat) →
        JudgesLost ledger now judgement
  rests : ∀ (i : Nat) previous judgement, judgements[i]? = some previous →
    judgements[i + 1]? = some judgement →
      (∃ past ∈ times.take (i + 1), deadline timeout heartbeat < past.nanoseconds) →
        Rests previous.draft.status judgement
  /-- A pass at the time that an earlier one has scheduled finds the cluster lost. -/
  scheduled : ∀ (i j : Nat) earlier now first judgement delay,
    times[i]? = some earlier → judgements[i]? = some first →
      times[j]? = some now → judgements[j]? = some judgement →
        heartbeat.lastProbeTime.nanoseconds ≤ earlier.nanoseconds →
          first.outcome.delay = some delay →
            now.nanoseconds = earlier.nanoseconds + delay.nanoseconds →
              judgement.draft.status.phase = .lost

theorem late_iff_of_not_leap (hprobe : heartbeat.lastProbeTime.isLeap = false)
    (hnow : now.isLeap = false) :
    Late timeout heartbeat now ↔ deadline timeout heartbeat < now.nanoseconds := by
  unfold Late deadline
  rw [elapsed_of_not_leap hprobe hnow]
  omega

theorem nanoseconds_le_of_ordinary (h : Ordinary heartbeat times) {i : Nat} {past : Instant}
    (hnow : times[i]? = some now) (hpast : past ∈ times.take (i + 1)) :
    past.nanoseconds ≤ now.nanoseconds := by
  have htake : times.take (i + 1) = times.take i ++ [now] := by
    rw [List.take_add_one, hnow]
    rfl
  have hordered := (h.ordered.sublist (List.take_sublist (i + 1) times))
  rw [htake] at hordered hpast
  rcases List.mem_append.mp hpast with hearlier | hlast
  · exact nanoseconds_le_of_not_leap (h.whole past (List.mem_of_mem_take hearlier))
      ((List.pairwise_append.mp hordered).2.2 past hearlier now (.head _))
  · exact Int.le_of_eq (congrArg Instant.nanoseconds (List.mem_singleton.mp hlast))

theorem current_of_ordinary (h : Ordinary heartbeat times) {i : Nat} (hnow : times[i]? = some now)
    (htime : now.nanoseconds ≤ deadline timeout heartbeat) :
    ∀ past ∈ times.take (i + 1), ¬ Late timeout heartbeat past := by
  intro past hpast
  rw [late_iff_of_not_leap h.probe (h.whole past (List.mem_of_mem_take hpast)), Int.not_lt]
  exact Int.le_trans (nanoseconds_le_of_ordinary h hnow hpast) htime

theorem due_of_waits (hwaits : Waits timeout heartbeat ledger now judgement)
    (hprobe : heartbeat.lastProbeTime.isLeap = false) (hnow : now.isLeap = false)
    (hordered : heartbeat.lastProbeTime.nanoseconds ≤ now.nanoseconds) :
    ∃ delay, judgement.outcome = Outcome.empty.withDelay delay ∧
      now.nanoseconds + delay.nanoseconds = deadline timeout heartbeat + slack.nanoseconds := by
  obtain ⟨delay, houtcome, hdelay⟩ := hwaits.delay
  refine ⟨delay, houtcome, ?_⟩
  rw [elapsed_of_not_leap hprobe hnow] at hdelay
  unfold deadline
  omega

theorem punctual_of_watched (hwatched : Watched timeout heartbeat ledger times judgements)
    (h : Ordinary heartbeat times) : Punctual timeout heartbeat ledger times judgements := by
  have hlate : ∀ now ∈ times, (Late timeout heartbeat now ↔
      deadline timeout heartbeat < now.nanoseconds) :=
    fun now hnow => late_iff_of_not_leap h.probe (h.whole now hnow)
  have hwaits : ∀ (i : Nat) now judgement, times[i]? = some now →
      judgements[i]? = some judgement → now.nanoseconds ≤ deadline timeout heartbeat →
        Waits timeout heartbeat ledger now judgement :=
    fun i now judgement hnow hjudgement htime =>
      hwatched.waits i now judgement hnow hjudgement (current_of_ordinary h hnow htime)
  have hlost : ∀ (i : Nat) now judgement, times[i]? = some now →
      judgements[i]? = some judgement → deadline timeout heartbeat < now.nanoseconds →
        judgement.draft.status.phase = .lost ∧ judgement.outcome = .empty :=
    fun i now judgement hnow hjudgement htime => lost_of_late hwatched hnow hjudgement
      ((hlate now (List.mem_of_getElem? hnow)).mpr htime)
  refine ⟨?_, hlost, ?_, ?_, ?_⟩
  · intro i now judgement hnow hjudgement htime
    have hwaits := hwaits i now judgement hnow hjudgement htime
    exact ⟨hwaits, due_of_waits hwaits h.probe (h.whole now (List.mem_of_getElem? hnow))⟩
  · intro i now judgement hnow hjudgement htime hnone
    refine hwatched.givesUp i now judgement hnow hjudgement
      ((hlate now (List.mem_of_getElem? hnow)).mpr htime) fun past hpast => ?_
    rw [hlate past (List.mem_of_mem_take hpast), Int.not_lt]
    exact hnone past hpast
  · intro i previous judgement hprevious hjudgement ⟨past, hpast, htime⟩
    exact (hwatched.rests i previous judgement hprevious hjudgement
      ⟨past, hpast, (hlate past (List.mem_of_mem_take hpast)).mpr htime⟩).2
  · intro i j earlier now first judgement delay hearlier hfirst hnow hjudgement hprobe hasked hdue
    refine (hlost j now judgement hnow hjudgement ?_).1
    -- Only a pass that has found the heartbeats current schedules another one.
    by_cases htime : earlier.nanoseconds ≤ deadline timeout heartbeat
    · obtain ⟨due, houtcome, hsum⟩ := due_of_waits (hwaits i earlier first hearlier hfirst htime)
        h.probe (h.whole earlier (List.mem_of_getElem? hearlier)) hprobe
      rw [houtcome] at hasked
      cases hasked
      have hslack : 0 < slack.nanoseconds := by decide
      omega
    · rw [(hlost i earlier first hearlier hfirst (Int.not_le.mp htime)).2] at hasked
      contradiction

/-- A connected cluster whose heartbeats stop is passed over until it is found lost, once, at the
time scheduled for that. -/
theorem passes_watched_and_punctual (h : Connected cluster status heartbeat)
    (hbeats : heartbeat.status ≠ .false_)
    (hpatience : (heartbeatTimeout settings cluster).add? slack = some patience)
    (newId : String) (times : List Instant) :
    ∃ judgements, passes settings newId cluster times = some judgements ∧
      Watched (heartbeatTimeout settings cluster) heartbeat status.conditions times judgements ∧
      (Ordinary heartbeat times →
        Punctual (heartbeatTimeout settings cluster) heartbeat status.conditions times
          judgements) := by
  obtain ⟨judgements, hpasses, hwatched⟩ := watched_passes h hbeats hpatience newId times
  exact ⟨judgements, hpasses, hwatched, punctual_of_watched hwatched⟩

def greeting : Condition ClusterConditionType := .at_ .init .true_ "" "" .epoch

def lastBeat (probe : Instant) : Condition ClusterConditionType :=
  .at_ .heartbeat .true_ "HeartbeatReceived" "" probe

def contact (probe : Instant) : Condition ClusterConditionType :=
  .at_ .firstConnect .true_ "FirstHeartbeat" "" probe

def lastReport (probe : Instant) : ClusterStatus :=
  { phase := .ready
    clusterId := some "first"
    conditions := ⟨[greeting, lastBeat probe, contact probe]⟩ }

def silentSince (probe : Instant) : Cluster :=
  { metadata := { name := some "cellar", «namespace» := some "lab" }
    content := { spec := { publicIPs := ["10.0.0.1"] }, status := some (lastReport probe) } }

theorem connected_silentSince (probe : Instant) :
    Connected (silentSince probe) (lastReport probe) (lastBeat probe) :=
  ⟨rfl, rfl, rfl, rfl, rfl⟩

/-- Ten seconds after the heartbeat, at the time scheduled then, and a minute after it. -/
def glances : List Instant := [⟨10, 0, by decide⟩, ⟨31, 0, by decide⟩, ⟨60, 0, by decide⟩]

theorem passes_watched_and_punctual_at_glances :
    Ordinary (lastBeat .epoch) glances ∧
      ∃ judgements, passes {} "" (silentSince .epoch) glances = some judgements ∧
        Watched (heartbeatTimeout {} (silentSince .epoch)) (lastBeat .epoch)
          (lastReport .epoch).conditions glances judgements ∧
        (Ordinary (lastBeat .epoch) glances →
          Punctual (heartbeatTimeout {} (silentSince .epoch)) (lastBeat .epoch)
            (lastReport .epoch).conditions glances judgements) := by
  have hpatience : (heartbeatTimeout {} (silentSince .epoch)).add? slack =
      some (.ofSeconds 31) := by decide
  exact ⟨⟨by decide, by decide, by decide⟩,
    passes_watched_and_punctual (connected_silentSince .epoch) (by decide) hpatience "" glances⟩

def midLeap : Instant := ⟨1483228799, 1500000000, by decide⟩

def afterLeap : Instant := ⟨1483228800, 250000000, by decide⟩

/-- After a heartbeat that comes in a leap second, the next look is scheduled for a time that is not
one moment after the deadline. -/
theorem delay_misses_deadline_after_leap :
    afterLeap.isBefore midLeap = false ∧
      midLeap.elapsed afterLeap ≤ (heartbeatTimeout {} (silentSince midLeap)).nanoseconds ∧
      ((passes {} "" (silentSince midLeap) [afterLeap]).map fun judgements =>
        judgements.map fun judgement => judgement.outcome.delay) =
        some [some (.ofSeconds 31)] ∧
      afterLeap.later? 31 ≠ midLeap.later? 31 := by
  decide

end Fleet.Proofs.HeartbeatTimeout
