import Fleet.Proofs.ClusterPhases

namespace Fleet.Proofs.AgentContact

open Fleet.Cluster
open Fleet.Proofs.ClusterPhases
open Fleet.Proofs.HeartbeatTimeout
open Fleet.Proofs.Heartbeats
open Fleet.Proofs.Judgements
open Fleet.Proofs.Ledgers
open Fleet.Proofs.Race

/-- The agent has connected, its last heartbeat is too long ago, and the cluster has not been given
up yet. -/
structure Lapses (timeout : Delay) (status : ClusterStatus) (now : Instant) : Prop where
  init : status.conditions.isTrue .init = true
  contact : status.conditions.check .firstConnect .false_ = false
  late : ∃ heartbeat, status.conditions.query .heartbeat = some heartbeat ∧
    heartbeat.status ≠ .false_ ∧ Late timeout heartbeat now

/-- A pass over the cluster gives it up. -/
def TimesOut (settings : Settings) (now : Instant) (cluster : Cluster) : Prop :=
  cluster.metadata.deletionTimestamp.isSome = false ∧
    Lapses (heartbeatTimeout settings cluster) (cluster.status.getD default) now

variable {settings : Settings} {newId : String} {draft : StatusDraft} {now : Instant}
  {judgement : Judgement} {cluster : Cluster} {later : ClusterStatus}

theorem judge_of_lapses (hcommon : isMeta draft.observed = false)
    (h : Lapses (heartbeatTimeout settings draft.observed) draft.status now) :
    judge settings newId draft now = some (lose draft now) := by
  obtain ⟨heartbeat, hheartbeat, hbeats, hlate⟩ := h.late
  have hconnected : judge settings newId draft now =
      judgeConnected (heartbeatTimeout settings draft.observed) draft now := by
    unfold judge
    rw [hcommon, h.init, h.contact]
    rfl
  rw [hconnected, judgeConnected, hheartbeat]
  exact (if_neg hbeats).trans (if_pos hlate)

/-- A judgement that does not give the cluster up leaves the heartbeats as they are. -/
theorem query_heartbeat_of_judge (hcommon : isMeta draft.observed = false)
    (hlapses : ¬ Lapses (heartbeatTimeout settings draft.observed) draft.status now)
    (h : judge settings newId draft now = some judgement) :
    judgement.draft.status.conditions.query .heartbeat =
      draft.status.conditions.query .heartbeat := by
  cases diagnosed_of_judge hcommon h with
  | greeted => exact query_set_of_ne (by decide) ..
  | waiting => rfl
  | connected hinit hcontact h =>
      cases h with
      | unheard => rfl
      | givenUp => rfl
      | late hheartbeat hbeats hlate =>
          exact absurd ⟨hinit, hcontact, _, hheartbeat, hbeats, hlate⟩ hlapses
      | current => rfl

theorem query_firstConnect_of_passed (h : Passed settings now cluster later) :
    later.conditions.query .firstConnect =
      (cluster.status.getD default).conditions.query .firstConnect := by
  cases statusAfterPass_of_passed h with
  | kept => rfl
  | greeted hinit hphase hgreeted hrest => exact hrest .firstConnect (by decide)
  | lost hinit hcontact hphase hsilent hrest => exact hrest .firstConnect (by decide)
  | current => rfl

theorem query_heartbeat_of_timesOut (h : Passed settings now cluster later)
    (htimes : TimesOut settings now cluster) :
    ∃ given, later.conditions.query .heartbeat = some given ∧ given.status = .false_ := by
  have hlose : ∀ {newId draft}, Drafts cluster draft →
      judge settings newId draft now = some (lose draft now) := by
    intro newId draft hdraft
    refine judge_of_lapses hdraft.common ?_
    rw [hdraft.status, heartbeatTimeout, hdraft.spec]
    exact htimes.2
  cases h with
  | departing hdeparting =>
      rw [htimes.1] at hdeparting
      contradiction
  | unscheduled hdraft hnone =>
      rw [hlose hdraft] at hnone
      contradiction
  | judged hpresent hdraft hjudge =>
      cases hjudge.symm.trans (hlose hdraft)
      obtain ⟨since, hset⟩ :=
        query_set_self _ ClusterConditionType.heartbeat .false_ Event.unhealthy "time out" now
      exact ⟨_, hset, rfl⟩

theorem query_heartbeat_of_passed (h : Passed settings now cluster later)
    (htimes : ¬ TimesOut settings now cluster) :
    later.conditions.query .heartbeat =
      (cluster.status.getD default).conditions.query .heartbeat := by
  cases h with
  | departing => rfl
  | unscheduled => rfl
  | judged hpresent hdraft hjudge =>
      rw [← hdraft.status]
      refine query_heartbeat_of_judge hdraft.common (fun hlapses => htimes ⟨hpresent, ?_⟩) hjudge
      rw [hdraft.status, heartbeatTimeout, hdraft.spec] at hlapses
      exact hlapses

/-- The turn is a heartbeat, received at the given time, that is accepted. -/
def HearsAt (run : Run) (n : Nat) (received : Instant) : Prop :=
  ∃ sent now, run.turns[n]? = some (.work (.heartbeat sent received) now) ∧
    acknowledges run.home (run.worldAt n) (.work (.heartbeat sent received) now) = true

/-- The turn is a pass that gives the cluster up. -/
def PassTimesOut (run : Run) (n : Nat) : Prop :=
  ∃ settings now cluster, run.turns[n]? = some (.work (.pass settings) now) ∧
    (run.worldAt n).inventory.clusters.lookup run.home = some cluster ∧
    TimesOut settings now cluster

/-- The first contact, as it is entered when a heartbeat is received. -/
def firstContact (received : Instant) : Condition ClusterConditionType :=
  .at_ .firstConnect .true_ "FirstHeartbeat" "" received

/-- After each heartbeat that was accepted, the cluster has been given up again. -/
def Lapsed (run : Run) (n : Nat) : Prop :=
  ∀ k < n, run.Hears k → ∃ j, k < j ∧ j < n ∧ PassTimesOut run j

/-- The condition goes back to the last heartbeat that was accepted, and to the first one since the
cluster was given up the last time. -/
structure Beats (run : Run) (n : Nat) (heartbeat : Condition ClusterConditionType) : Prop where
  last : ∃ last < n, HearsAt run last heartbeat.lastProbeTime ∧
    ∀ k, last < k → k < n → ¬ run.Hears k
  first : ∃ first < n, HearsAt run first heartbeat.lastTransitionTime ∧ Lapsed run first ∧
    ∀ k, first < k → k < n → ¬ PassTimesOut run k

/-- What is remembered of the agent throughout a run. -/
structure RemembersAgent (run : Run) : Prop where
  contact : ∀ m n received, HearsAt run m received → (∀ k < m, ¬ run.Hears k) → m < n →
    (run.statusAt n).conditions.query .firstConnect = some (firstContact received)
  heartbeat : ∀ n heartbeat, (run.statusAt n).conditions.query .heartbeat = some heartbeat →
    heartbeat.status = .true_ → Beats run n heartbeat

/-- A run that begins with a cluster whose agent has not been heard of. -/
structure Unheard (run : Run) : Prop where
  opens : run.ClusterRegistered
  contact : (run.statusAt 0).conditions.query .firstConnect = none
  heartbeat : (run.statusAt 0).conditions.query .heartbeat = none

variable {run : Run} {n : Nat} {received : Instant}
  {contact heartbeat : Option (Condition ClusterConditionType)}

theorem hears_of_hearsAt (h : HearsAt run n received) : run.Hears n := by
  obtain ⟨sent, now, hturn, haccepted⟩ := h
  exact ⟨sent, received, now, hturn, haccepted⟩

theorem eq_of_hearsAt {other : Instant} (h : HearsAt run n received) (h' : HearsAt run n other) :
    received = other := by
  obtain ⟨sent, now, hturn, -⟩ := h
  obtain ⟨sent', now', hturn', -⟩ := h'
  cases hturn.symm.trans hturn'
  rfl

theorem not_passTimesOut_of_hears (h : run.Hears n) : ¬ PassTimesOut run n := by
  obtain ⟨sent, received, now, hturn, -⟩ := h
  rintro ⟨settings, now', cluster, hturn', -⟩
  cases hturn.symm.trans hturn'

/-- What a turn does to the conditions that tell of the agent. -/
inductive Marks (run : Run) (n : Nat) (before after : Ledger ClusterConditionType) : Prop
  | heard {received : Instant} (h : HearsAt run n received) (sent : Heartbeat)
      (hafter : after = sent.record received before)
  | gaveUp (h : PassTimesOut run n) (hhears : ¬ run.Hears n)
      (hcontact : after.query .firstConnect = before.query .firstConnect)
      (hgiven : ∃ given, after.query .heartbeat = some given ∧ given.status = .false_)
  | quiet (hhears : ¬ run.Hears n) (h : ¬ PassTimesOut run n)
      (hcontact : after.query .firstConnect = before.query .firstConnect)
      (hheartbeat : after.query .heartbeat = before.query .heartbeat)

theorem marks_at (h : run.ClusterRegistered) (n : Nat) :
    Marks run n (run.statusAt n).conditions (run.statusAt (n + 1)).conditions := by
  obtain ⟨cluster, hstands, hstatus, hturned⟩ := turned_at h n
  rw [hstatus]
  generalize run.statusAt (n + 1) = later at hturned
  cases hturned with
  | kept hpasses hhears =>
      refine .quiet hhears ?_ rfl rfl
      rintro ⟨settings, now, _, hturn, -⟩
      exact hpasses ⟨settings, now, hturn⟩
  | passed settings now hturn hpassed =>
      have hhears : ¬ run.Hears n := by
        rintro ⟨sent, received, now', hturn', -⟩
        cases hturn.symm.trans hturn'
      have hcontact := query_firstConnect_of_passed hpassed
      by_cases htimes : TimesOut settings now cluster
      · exact .gaveUp ⟨settings, now, cluster, hturn, hstands.stored, htimes⟩ hhears hcontact
          (query_heartbeat_of_timesOut hpassed htimes)
      · refine .quiet hhears ?_ hcontact (query_heartbeat_of_passed hpassed htimes)
        rintro ⟨settings', now', cluster', hturn', hlookup, htimes'⟩
        cases hturn.symm.trans hturn'
        cases hstands.stored.symm.trans hlookup
        exact htimes htimes'
  | heard sent received now hturn haccepted =>
      exact .heard ⟨sent, now, hturn, haccepted⟩ sent rfl

inductive Met (run : Run) (n : Nat) : Option (Condition ClusterConditionType) → Prop
  | never (h : ∀ k < n, ¬ run.Hears k) : Met run n none
  | since {m : Nat} {received : Instant} (hm : m < n) (h : HearsAt run m received)
      (hfirst : ∀ k < m, ¬ run.Hears k) : Met run n (some (firstContact received))

theorem forall_lt_succ {holds : Nat → Prop} (h : ∀ k < n, holds k) (hn : holds n) :
    ∀ k < n + 1, holds k := by
  intro k hk
  rcases Nat.lt_succ_iff_lt_or_eq.mp hk with hlt | rfl
  · exact h k hlt
  · exact hn

theorem forall_between_succ {m : Nat} {holds : Nat → Prop} (h : ∀ k, m < k → k < n → holds k)
    (hn : holds n) : ∀ k, m < k → k < n + 1 → holds k := by
  intro k hmk hk
  rcases Nat.lt_succ_iff_lt_or_eq.mp hk with hlt | rfl
  · exact h k hmk hlt
  · exact hn

theorem forall_between_self {holds : Nat → Prop} : ∀ k, n < k → k < n + 1 → holds k :=
  fun _ hnk hk => absurd hk (Nat.not_lt.mpr hnk)

theorem met_succ_of_not_hears (h : Met run n contact) (hn : ¬ run.Hears n) :
    Met run (n + 1) contact := by
  cases h with
  | never hnever => exact .never (forall_lt_succ hnever hn)
  | since hm hhears hfirst => exact .since (Nat.lt_succ_of_lt hm) hhears hfirst

theorem met_succ {before after : Ledger ClusterConditionType}
    (h : Met run n (before.query .firstConnect)) (hmarks : Marks run n before after) :
    Met run (n + 1) (after.query .firstConnect) := by
  cases hmarks with
  | gaveUp _ hhears hcontact _ => exact hcontact ▸ met_succ_of_not_hears h hhears
  | quiet hhears _ hcontact _ => exact hcontact ▸ met_succ_of_not_hears h hhears
  | heard hhears sent hafter =>
      rw [hafter, query_record_firstConnect, Ledger.isTrue, Ledger.check]
      generalize before.query .firstConnect = contact at h
      cases h with
      | never hnever => exact .since (Nat.lt_succ_self n) hhears hnever
      | since hm hhears hfirst => exact .since (Nat.lt_succ_of_lt hm) hhears hfirst

inductive Pulse (run : Run) (n : Nat) : Option (Condition ClusterConditionType) → Prop
  | never (h : ∀ k < n, ¬ run.Hears k) : Pulse run n none
  | stopped {given : Condition ClusterConditionType} (hstatus : given.status = .false_)
      (h : Lapsed run n) : Pulse run n (some given)
  | beating {heartbeat : Condition ClusterConditionType} (hstatus : heartbeat.status = .true_)
      (h : Beats run n heartbeat) : Pulse run n (some heartbeat)

theorem lapsed_of_never (h : ∀ k < n, ¬ run.Hears k) : Lapsed run n :=
  fun k hk hhears => absurd hhears (h k hk)

theorem lapsed_succ (h : Lapsed run n) (hn : ¬ run.Hears n) : Lapsed run (n + 1) := by
  refine forall_lt_succ (fun k hk hhears => ?_) fun hhears => absurd hhears hn
  obtain ⟨j, hkj, hjn, hgives⟩ := h k hk hhears
  exact ⟨j, hkj, Nat.lt_succ_of_lt hjn, hgives⟩

theorem lapsed_of_passTimesOut (h : PassTimesOut run n) (hn : ¬ run.Hears n) : Lapsed run (n + 1) :=
  forall_lt_succ (fun _ hk _ => ⟨n, hk, Nat.lt_succ_self n, h⟩) fun hhears => absurd hhears hn

theorem beats_first (h : Lapsed run n) (hhears : HearsAt run n received) :
    Beats run (n + 1) (.at_ .heartbeat .true_ "HeartbeatReceived" "" received) :=
  ⟨⟨n, Nat.lt_succ_self n, hhears, forall_between_self⟩,
    n, Nat.lt_succ_self n, hhears, h, forall_between_self⟩

theorem beats_again {heartbeat : Condition ClusterConditionType} (h : Beats run n heartbeat)
    (hhears : HearsAt run n received) {condition : Condition ClusterConditionType}
    (hprobe : condition.lastProbeTime = received)
    (hsince : condition.lastTransitionTime = heartbeat.lastTransitionTime) :
    Beats run (n + 1) condition := by
  obtain ⟨first, hfirst, hheard, hlapsed, hnever⟩ := h.first
  have hkept : ¬ PassTimesOut run n := not_passTimesOut_of_hears (hears_of_hearsAt hhears)
  exact ⟨⟨n, Nat.lt_succ_self n, hprobe ▸ hhears, forall_between_self⟩,
    first, Nat.lt_succ_of_lt hfirst, hsince ▸ hheard, hlapsed, forall_between_succ hnever hkept⟩

theorem beats_succ {heartbeat : Condition ClusterConditionType} (h : Beats run n heartbeat)
    (hhears : ¬ run.Hears n) (hgives : ¬ PassTimesOut run n) : Beats run (n + 1) heartbeat := by
  obtain ⟨last, hlast, hheard, hnone⟩ := h.last
  obtain ⟨first, hfirst, hheard', hlapsed, hnever⟩ := h.first
  exact ⟨⟨last, Nat.lt_succ_of_lt hlast, hheard, forall_between_succ hnone hhears⟩,
    first, Nat.lt_succ_of_lt hfirst, hheard', hlapsed, forall_between_succ hnever hgives⟩

theorem pulse_succ {before after : Ledger ClusterConditionType}
    (h : Pulse run n (before.query .heartbeat)) (hmarks : Marks run n before after) :
    Pulse run (n + 1) (after.query .heartbeat) := by
  cases hmarks with
  | gaveUp hgives hhears _ hgiven =>
      obtain ⟨given, hquery, hstatus⟩ := hgiven
      exact hquery ▸ .stopped hstatus (lapsed_of_passTimesOut hgives hhears)
  | quiet hhears hgives _ hheartbeat =>
      rw [hheartbeat]
      generalize before.query .heartbeat = heartbeat at h
      cases h with
      | never hnever => exact .never (forall_lt_succ hnever hhears)
      | stopped hstatus hlapsed => exact .stopped hstatus (lapsed_succ hlapsed hhears)
      | beating hstatus hbeats => exact .beating hstatus (beats_succ hbeats hhears hgives)
  | heard hhears sent hafter =>
      rw [hafter, query_record_heartbeat_eq]
      generalize before.query .heartbeat = heartbeat at h
      cases h with
      | never hnever => exact .beating rfl (beats_first (lapsed_of_never hnever) hhears)
      | stopped hstatus hlapsed =>
          have hstarts : ConditionStatus.false_ ≠ .true_ := by decide
          rw [enter_of_ne (hstatus ▸ hstarts)]
          exact .beating rfl (beats_first hlapsed hhears)
      | beating hstatus hbeats =>
          rw [enter_of_eq hstatus]
          exact .beating rfl (beats_again hbeats hhears rfl rfl)

theorem met_at (h : Unheard run) (n : Nat) :
    Met run n ((run.statusAt n).conditions.query .firstConnect) := by
  induction n with
  | zero => exact h.contact ▸ .never fun _ hk => absurd hk (Nat.not_lt_zero _)
  | succ n ih => exact met_succ ih (marks_at h.opens n)

theorem pulse_at (h : Unheard run) (n : Nat) :
    Pulse run n ((run.statusAt n).conditions.query .heartbeat) := by
  induction n with
  | zero => exact h.heartbeat ▸ .never fun _ hk => absurd hk (Nat.not_lt_zero _)
  | succ n ih => exact pulse_succ ih (marks_at h.opens n)

/-- In whatever order heartbeats and passes come, and whatever their times are: the first contact is
never touched again, and a heartbeat that is true tells when the agent was last heard of, and since
when it has not been given up. -/
theorem remembersAgent_of_unheard (h : Unheard run) : RemembersAgent run := by
  constructor
  · intro m n received hhears hfirst hmn
    have hmet := met_at h n
    generalize (run.statusAt n).conditions.query .firstConnect = contact at hmet
    cases hmet with
    | never hnever => exact absurd (hears_of_hearsAt hhears) (hnever m hmn)
    | @since m' received' hm' hhears' hfirst' =>
        have hsame : m = m' := by
          apply Nat.le_antisymm
          · exact Nat.not_lt.mp fun hlt => hfirst m' hlt (hears_of_hearsAt hhears')
          · exact Nat.not_lt.mp fun hlt => hfirst' m hlt (hears_of_hearsAt hhears)
        subst hsame
        rw [eq_of_hearsAt hhears hhears']
  · intro n heartbeat hheartbeat hstatus
    have hpulse := pulse_at h n
    rw [hheartbeat] at hpulse
    cases hpulse with
    | stopped hgiven => exact nomatch hgiven.symm.trans hstatus
    | beating _ hbeats => exact hbeats

def reunion : Run :=
  { lostAndFound with
    turns := lostAndFound.turns ++
      [.work (.heartbeat firstHeartbeat ⟨14, 0, by decide⟩) .epoch] }

theorem remembersAgent_of_reunion :
    Unheard reunion ∧
      ((reunion.statusAt 9).conditions.query .heartbeat).map
        (fun heartbeat => (heartbeat.lastTransitionTime.second, heartbeat.lastProbeTime.second)) =
        some (12, 14) ∧
      RemembersAgent reunion := by
  have hunheard : Unheard reunion := by
    refine ⟨⟨⟨_, ⟨rfl, rfl, rfl, rfl⟩⟩, fun sent received now hmem => ?_⟩, by rfl, by rfl⟩
    simp only [reunion, lostAndFound, List.cons_append, List.nil_append, List.mem_cons,
      List.not_mem_nil, Turn.work.injEq, reduceCtorEq, false_and, false_or, or_false,
      Task.heartbeat.injEq] at hmem
    rcases hmem with ⟨⟨rfl, -⟩, -⟩ | ⟨⟨rfl, -⟩, -⟩ | ⟨⟨rfl, -⟩, -⟩ <;> rfl
  exact ⟨hunheard, by rfl, remembersAgent_of_unheard hunheard⟩

end Fleet.Proofs.AgentContact
