import Fleet.Proofs.ClusterIdempotence
import Fleet.Proofs.HeartbeatReception
import Fleet.Proofs.Race.Basic

namespace Fleet.Proofs.ClusterPhases

open Fleet.Cluster
open Fleet.Proofs.HeartbeatReception
open Fleet.Proofs.Heartbeats
open Fleet.Proofs.Judgements
open Fleet.Proofs.Ledgers
open Fleet.Proofs.Race
open Fleet.Proofs.Rehearsals
open Fleet.Proofs.Stores
open Fleet.Rehearsal

/-- The phases of a cluster whose agent has connected. -/
def IsConnected (phase : ClusterPhase) : Prop :=
  phase = .ready ∨ phase = .lost ∨ phase = .outOfControl

inductive ClusterPhaseEdge : ClusterPhase → ClusterPhase → Prop
  | greeted : ClusterPhaseEdge .unknown .created
  | connected {phase : ClusterPhase} (h : IsConnected phase) : ClusterPhaseEdge .created phase
  | judged {before after : ClusterPhase} (hbefore : IsConnected before)
      (hafter : IsConnected after) : ClusterPhaseEdge before after

/-- Heartbeats have been given up, or none is known of. -/
def Silent (status : ClusterStatus) : Prop := status.conditions.check .heartbeat .false_ = true

/-- What a pass may make of a status, identity and times apart. -/
inductive StatusAfterPass (status : ClusterStatus) : ClusterStatus → Prop
  | kept : StatusAfterPass status status
  | greeted {later : ClusterStatus} (hinit : status.conditions.isTrue .init = false)
      (hphase : later.phase = .created) (hgreeted : later.conditions.isTrue .init = true)
      (hrest : ∀ type, type ≠ .init →
        later.conditions.query type = status.conditions.query type) : StatusAfterPass status later
  | lost {later : ClusterStatus} (hinit : status.conditions.isTrue .init = true)
      (hcontact : status.conditions.check .firstConnect .false_ = false)
      (hphase : later.phase = .lost) (hsilent : Silent later)
      (hrest : ∀ type, type ≠ .heartbeat →
        later.conditions.query type = status.conditions.query type) : StatusAfterPass status later
  | current {phase : ClusterPhase} (hinit : status.conditions.isTrue .init = true)
      (hcontact : status.conditions.check .firstConnect .false_ = false)
      (hbeats : ¬ Silent status) (hphase : phase = .ready ∨ phase = .outOfControl) :
      StatusAfterPass status { status with phase }

variable {settings : Settings} {newId : String} {draft : StatusDraft} {now : Instant}
  {judgement : Judgement} {status later : ClusterStatus}

theorem statusAfterPass_lose (hinit : draft.status.conditions.isTrue .init = true)
    (hcontact : draft.status.conditions.check .firstConnect .false_ = false) (now : Instant) :
    StatusAfterPass draft.status (lose draft now).draft.status := by
  refine .lost hinit hcontact rfl ?_ fun type htype => query_set_of_ne htype ..
  exact check_set_self draft.status.conditions .heartbeat .false_ Event.unhealthy "time out" now _

theorem statusAfterPass_of_assessed {timeout : Delay}
    (hinit : draft.status.conditions.isTrue .init = true)
    (hcontact : draft.status.conditions.check .firstConnect .false_ = false)
    (h : Assessed timeout draft now judgement) :
    StatusAfterPass draft.status judgement.draft.status := by
  cases h with
  | unheard hnone =>
      refine .lost hinit hcontact rfl ?_ fun _ _ => rfl
      change Ledger.check draft.status.conditions _ _ = true
      rw [Ledger.check, hnone]
      rfl
  | givenUp hheartbeat hlost =>
      refine .lost hinit hcontact rfl ?_ fun _ _ => rfl
      change Ledger.check draft.status.conditions _ _ = true
      rw [Ledger.check, hheartbeat]
      exact beq_iff_eq.mpr hlost
  | late => exact statusAfterPass_lose hinit hcontact now
  | current hheartbeat hbeats hphase =>
      refine .current hinit hcontact ?_ hphase
      rw [Silent, Ledger.check, hheartbeat]
      exact fun hsilent => hbeats (beq_iff_eq.mp hsilent)

theorem statusAfterPass_judge (hcommon : isMeta draft.observed = false)
    (h : judge settings newId draft now = some judgement) :
    StatusAfterPass draft.status judgement.draft.status := by
  cases diagnosed_of_judge hcommon h with
  | greeted hinit =>
      exact .greeted hinit rfl (isTrue_set_self ..) fun type htype => query_set_of_ne htype ..
  | waiting => exact .kept
  | connected hinit hcontact h => exact statusAfterPass_of_assessed hinit hcontact h

/-- How phase and conditions agree as long as nobody else writes the status. -/
structure StatusSound (status : ClusterStatus) : Prop where
  greeted : status.conditions.isTrue .init = true ↔ status.phase ≠ .unknown
  connected : IsConnected status.phase → status.conditions.isTrue .firstConnect = true
  contact : status.conditions.query .firstConnect = none ∨
    status.conditions.isTrue .firstConnect = true

theorem statusSound_default : StatusSound default := by
  refine ⟨by decide, ?_, .inl rfl⟩
  rintro (hready | hlost | hcontrol) <;> contradiction

theorem contact_of_check (h : StatusSound status)
    (hcheck : status.conditions.check .firstConnect .false_ = false) :
    status.conditions.isTrue .firstConnect = true := by
  refine h.contact.resolve_left fun hnone => ?_
  rw [Ledger.check, hnone] at hcheck
  contradiction

theorem statusSound_statusAfterPass (h : StatusSound status)
    (hjudged : StatusAfterPass status later) : StatusSound later := by
  cases hjudged with
  | kept => exact h
  | greeted hinit hphase hgreeted hrest =>
      have hcontact := hrest .firstConnect (by decide)
      refine ⟨?_, ?_, ?_⟩
      · rw [hgreeted, hphase]
        decide
      · rw [hphase]
        rintro (hready | hlost | hcontrol) <;> contradiction
      · rw [hcontact, isTrue_congr hcontact]
        exact h.contact
  | lost hinit hcontact hphase hsilent hrest =>
      have hfirst := hrest .firstConnect (by decide)
      refine ⟨?_, fun _ => ?_, ?_⟩
      · rw [isTrue_congr (hrest .init (by decide)), hinit, hphase]
        decide
      · rw [isTrue_congr hfirst]
        exact contact_of_check h hcontact
      · rw [hfirst, isTrue_congr hfirst]
        exact h.contact
  | current hinit hcontact hbeats hphase =>
      have hfirst := contact_of_check h hcontact
      refine ⟨?_, fun _ => hfirst, h.contact⟩
      rcases hphase with rfl | rfl <;> exact ⟨fun _ => nofun, fun _ => hinit⟩

theorem created_or_connected {phase : ClusterPhase} (h : phase ≠ .unknown) :
    phase = .created ∨ IsConnected phase := by
  unfold IsConnected
  cases phase <;> simp_all

theorem clusterPhaseEdge_of_connected (h : StatusSound status)
    (hinit : status.conditions.isTrue .init = true)
    {phase : ClusterPhase} (hphase : IsConnected phase) : ClusterPhaseEdge status.phase phase := by
  rcases created_or_connected (h.greeted.mp hinit) with hcreated | hconnected
  · rw [hcreated]
    exact .connected hphase
  · exact .judged hconnected hphase

theorem clusterPhaseEdge_of_statusAfterPass (h : StatusSound status)
    (hjudged : StatusAfterPass status later) :
    later.phase = status.phase ∨ ClusterPhaseEdge status.phase later.phase := by
  cases hjudged with
  | kept => exact .inl rfl
  | greeted hinit hphase hgreeted hrest =>
      have hunknown : status.phase = .unknown := Decidable.byContradiction fun hknown =>
        absurd (h.greeted.mpr hknown) (by simp [hinit])
      rw [hphase, hunknown]
      exact .inr .greeted
  | lost hinit hcontact hphase hsilent hrest =>
      rw [hphase]
      exact .inr (clusterPhaseEdge_of_connected h hinit (.inr (.inl rfl)))
  | current hinit hcontact hbeats hphase =>
      refine .inr (clusterPhaseEdge_of_connected h hinit ?_)
      rcases hphase with rfl | rfl
      · exact .inl rfl
      · exact .inr (.inr rfl)

variable {home : ObjectKey} {world : World} {cluster observed : Cluster} {sent : Heartbeat}
  {received : Instant}

/-- The cluster is stored in its own place, and nothing gets in the way of calls. -/
structure Stands (home : ObjectKey) (world : World) (cluster : Cluster) : Prop where
  faults : world.faults = []
  stored : world.inventory.clusters.lookup home = some cluster
  place : .ofMetadata cluster.metadata = home
  common : isMeta cluster = false

def Lands (home : ObjectKey) (content : ClusterContent) (result : Except Failure Cluster)
    (after : World) : Prop :=
  ∃ stored, result = .ok stored ∧ stored.content = content ∧ Stands home after stored

theorem stored_of_stands (h : Stands home world cluster) :
    ClusterIdempotence.Stored world cluster :=
  ⟨h.faults, h.place ▸ h.stored⟩

theorem stands_of_callsLeave {after : World} {later : Cluster} (h : Stands home world cluster)
    (hleaves : ClusterIdempotence.CallsLeave world cluster after later) :
    Stands home after later := by
  have hplace : .ofMetadata later.metadata = home := hleaves.alike.place.trans h.place
  exact ⟨hleaves.stored.faults, hplace ▸ hleaves.stored.lookup, hplace,
    hleaves.alike.common.trans h.common⟩

theorem ends_persistStatus (h : Stands home world cluster) (updated : Cluster)
    (halike : ClusterIdempotence.SameSubject cluster updated)
    (hversion : updated.metadata.resourceVersion = cluster.metadata.resourceVersion) :
    Ends (Pass.on .cluster (Store.persistStatus updated)) world (Lands home updated.content) := by
  refine ends_mono
    (ClusterIdempotence.ends_persistStatus (stored_of_stands h) updated halike hversion) ?_
  rintro _ after ⟨uid, version, rfl, hleaves⟩
  exact ⟨_, rfl, rfl, stands_of_callsLeave h hleaves⟩

theorem ends_stampId (h : Stands home world cluster) :
    Ends (Pass.on .cluster (stampId cluster)) world (Lands home cluster.content) := by
  refine ends_mono (ClusterIdempotence.ends_stampId (stored_of_stands h)) ?_
  rintro _ after ⟨observed, rfl, hleaves, hcontent, -⟩
  exact ⟨observed, rfl, hcontent, stands_of_callsLeave h hleaves⟩

theorem ends_observe (h : Stands home world observed) (settings : Settings) :
    Ends (observe settings observed) world fun result after =>
      (∃ newId, result = judge settings newId (addWarnings (.start observed)) world.now) ∧
        Stands home after observed := by
  refine ends_mono (Judgements.ends_observe settings observed world) ?_
  rintro result _ ⟨hjudge, drawn, rfl⟩
  exact ⟨hjudge, h.faults, h.stored, h.place, h.common⟩

theorem ends_conclude (h : Stands home world observed)
    (hobserved : judgement.draft.observed = observed) :
    Ends (conclude observed judgement) world fun _ after =>
      ∃ later, Stands home after later ∧ later.status.getD default = judgement.draft.status := by
  refine ends_mono (ClusterIdempotence.ends_conclude (stored_of_stands h) hobserved) ?_
  rintro outcome after ⟨-, later, hsettles⟩
  exact ⟨later, stands_of_callsLeave h hsettles.leaves, hsettles.status⟩

def StatusSatisfies (home : ObjectKey) (after : World) (holds : ClusterStatus → Prop) : Prop :=
  ∃ later, Stands home after later ∧ holds (later.status.getD default)

structure Drafts (cluster : Cluster) (draft : StatusDraft) : Prop where
  common : isMeta draft.observed = false
  spec : draft.observed.spec = cluster.spec
  status : draft.status = cluster.status.getD default

/-- What a pass makes of the status of a cluster. Nothing is judged of a cluster that is being
deleted, nor if the next look cannot be scheduled. -/
inductive Passed (settings : Settings) (now : Instant) (cluster : Cluster) : ClusterStatus → Prop
  | departing (h : cluster.metadata.deletionTimestamp.isSome = true) :
      Passed settings now cluster (cluster.status.getD default)
  | unscheduled {newId : String} {draft : StatusDraft} (hdraft : Drafts cluster draft)
      (h : judge settings newId draft now = none) :
      Passed settings now cluster (cluster.status.getD default)
  | judged {newId : String} {draft : StatusDraft} {judgement : Judgement}
      (hpresent : cluster.metadata.deletionTimestamp.isSome = false)
      (hdraft : Drafts cluster draft) (h : judge settings newId draft now = some judgement) :
      Passed settings now cluster judgement.draft.status

theorem statusAfterPass_of_passed (h : Passed settings now cluster later) :
    StatusAfterPass (cluster.status.getD default) later := by
  cases h with
  | departing => exact .kept
  | unscheduled => exact .kept
  | judged hpresent hdraft h => exact hdraft.status ▸ statusAfterPass_judge hdraft.common h

theorem ends_reconcile (h : Stands home world cluster) (settings : Settings) :
    Ends (reconcile settings cluster) world fun _ after =>
      StatusSatisfies home after (Passed settings world.now cluster) := by
  unfold reconcile
  split
  · rename_i hdeparting
    exact ⟨cluster, ⟨h.faults, h.stored, h.place, h.common⟩, .departing hdeparting⟩
  · rename_i hpresent
    refine ends_bind (ends_and (ends_stampId h) (ends_now h.faults _)) ?_
    rintro _ stamped ⟨⟨observed, rfl, hcontent, hstamped⟩, hnow⟩
    have hstatus : observed.status = cluster.status := congrArg Managed.status hcontent
    have hdrafts : Drafts cluster (addWarnings (.start observed)) :=
      ⟨by rw [observed_addWarnings]; exact hstamped.common,
        by rw [observed_addWarnings]; exact congrArg Managed.spec hcontent,
        by rw [status_addWarnings, Draft.start, hstatus]⟩
    refine ends_bind (ends_observe hstamped settings) ?_
    rintro result seen ⟨⟨newId, hjudge⟩, hseen⟩
    rw [hnow] at hjudge
    cases result with
    | none => exact ⟨observed, hseen, hstatus ▸ .unscheduled hdrafts hjudge.symm⟩
    | some judgement =>
        have hobserved := (judge_cases hjudge.symm).1
        rw [observed_addWarnings] at hobserved
        refine ends_bind (ends_conclude hseen hobserved) ?_
        rintro outcome after ⟨later, hlater, hdrafted⟩
        refine ⟨later, hlater, ?_⟩
        rw [hdrafted]
        exact .judged (Bool.eq_false_iff.mpr hpresent) hdrafts hjudge.symm

def hear (sent : Heartbeat) (received : Instant) (status : ClusterStatus) : ClusterStatus :=
  { status with conditions := sent.record received status.conditions }

/-- The heartbeat is either acknowledged and recorded, or turned down without a trace. -/
def TakesIn (home : ObjectKey) (sent : Heartbeat) (received : Instant) (status : ClusterStatus)
    (result : Except Failure HeartbeatResponse) (after : World) : Prop :=
  (TaskEnding.answered result).isAcknowledged = true ∧
      StatusSatisfies home after (· = hear sent received status) ∨
    (TaskEnding.answered result).isAcknowledged = false ∧ StatusSatisfies home after (· = status)

theorem ends_find (h : Stands home world cluster) :
    Ends (Pass.on .cluster (Store.find home.namespace home.name)) world fun result after =>
      result = .ok (some cluster) ∧ world = after := by
  unfold Ends
  rw [perform_find h.faults]
  exact ⟨congrArg Except.ok h.stored, rfl⟩

theorem ends_ingest (h : Stands home world cluster) (hsent : placeOf sent = home)
    (received : Instant) :
    Ends (Pass.on .cluster (sent.ingest received)) world
      (TakesIn home sent received (cluster.status.getD default)) := by
  subst hsent
  unfold Heartbeat.ingest
  rw [on_bind]
  refine ends_bind (ends_find h) ?_
  rintro _ _ ⟨rfl, rfl⟩
  dsimp only
  split
  · exact .inr ⟨rfl, cluster, h, rfl⟩
  · rw [on_bind]
    refine ends_bind (ends_persistStatus h _ ⟨rfl, rfl, rfl, rfl⟩ rfl) ?_
    rintro _ after ⟨stored, rfl, hcontent, hstands⟩
    refine .inl ⟨rfl, stored, hstands, ?_⟩
    exact congrArg (fun content => content.status.getD default) hcontent

/-- What comes about between two moments of a run: nothing, a pass, or an accepted heartbeat. -/
inductive Step (passes hears : Prop) (status : ClusterStatus) : ClusterStatus → Prop
  | kept : Step passes hears status status
  | judged {later : ClusterStatus} (hpasses : passes) (h : StatusAfterPass status later) :
      Step passes hears status later
  | heard (hhears : hears) (sent : Heartbeat) (received : Instant) :
      Step passes hears status (hear sent received status)

variable {passes hears : Prop}

theorem statusSound_hear (h : StatusSound status) (sent : Heartbeat) (received : Instant) :
    StatusSound (hear sent received status) := by
  have hcontact : (hear sent received status).conditions.isTrue .firstConnect = true :=
    isTrue_record_firstConnect sent received status.conditions
  refine ⟨?_, fun _ => hcontact, .inr hcontact⟩
  have hinit : (hear sent received status).conditions.isTrue .init =
      status.conditions.isTrue .init := isTrue_record_init sent received status.conditions
  rw [hinit]
  exact h.greeted

theorem statusSound_step (h : StatusSound status) (hstep : Step passes hears status later) :
    StatusSound later := by
  cases hstep with
  | kept => exact h
  | judged hpasses hjudged => exact statusSound_statusAfterPass h hjudged
  | heard hhears sent received => exact statusSound_hear h sent received

theorem phase_step (h : StatusSound status) (hstep : Step passes hears status later) :
    later.phase = status.phase ∨ passes ∧ ClusterPhaseEdge status.phase later.phase := by
  cases hstep with
  | kept => exact .inl rfl
  | judged hpasses hjudged =>
    exact (clusterPhaseEdge_of_statusAfterPass h hjudged).imp_right fun hallowed =>
      ⟨hpasses, hallowed⟩
  | heard => exact .inl rfl

theorem contact_step (hstep : Step passes hears status later)
    (hcontact : later.conditions.isTrue .firstConnect = true) :
    status.conditions.isTrue .firstConnect = true ∨ hears := by
  cases hstep with
  | kept => exact .inl hcontact
  | judged hpasses hjudged =>
      cases hjudged with
      | kept => exact .inl hcontact
      | greeted hinit hphase hgreeted hrest =>
          exact .inl (isTrue_congr (hrest .firstConnect (by decide)) ▸ hcontact)
      | lost hinit hchecked hphase hsilent hrest =>
          exact .inl (isTrue_congr (hrest .firstConnect (by decide)) ▸ hcontact)
      | current => exact .inl hcontact
  | heard hhears => exact .inr hhears

theorem contact_of_left (h : StatusSound status) (hstep : Step passes hears status later)
    (hcreated : status.phase = .created) (hleft : later.phase ≠ .created) :
    status.conditions.isTrue .firstConnect = true := by
  cases hstep with
  | kept => contradiction
  | judged hpasses hjudged =>
      cases hjudged with
      | kept => contradiction
      | greeted hinit hphase => contradiction
      | lost hinit hchecked => exact contact_of_check h hchecked
      | current hinit hchecked => exact contact_of_check h hchecked
  | heard => contradiction

theorem silent_step (hstep : Step passes hears status later) (hsilent : Silent status) :
    Silent later ∨ hears := by
  cases hstep with
  | kept => exact .inl hsilent
  | judged hpasses hjudged =>
      cases hjudged with
      | kept => exact .inl hsilent
      | greeted hinit hphase hgreeted hrest =>
          exact .inl ((check_congr (hrest .heartbeat (by decide)) _).trans hsilent)
      | lost hinit hchecked hphase hlater => exact .inl hlater
      | current hinit hchecked hbeats => contradiction
  | heard hhears => exact .inr hhears

theorem silent_of_lost (hstep : Step passes hears status later) (hbefore : status.phase ≠ .lost)
    (hlost : later.phase = .lost) : Silent later := by
  cases hstep with
  | kept => contradiction
  | judged hpasses hjudged =>
      cases hjudged with
      | kept => contradiction
      | greeted hinit hphase => exact nomatch hphase.symm.trans hlost
      | lost hinit hchecked hphase hsilent => exact hsilent
      | current hinit hchecked hbeats hphase =>
          rcases hphase with rfl | rfl <;> contradiction
  | heard => contradiction

theorem not_silent_of_found (h : StatusSound status) (hstep : Step passes hears status later)
    (hlost : status.phase = .lost) (hfound : later.phase ≠ .lost) : ¬ Silent status := by
  cases hstep with
  | kept => contradiction
  | judged hpasses hjudged =>
      cases hjudged with
      | kept => contradiction
      | greeted hinit =>
          have hgreeted := h.greeted.mpr (hlost ▸ nofun)
          exact nomatch hinit.symm.trans hgreeted
      | lost hinit hchecked hphase => contradiction
      | current hinit hchecked hbeats => exact hbeats
  | heard => contradiction

inductive Turn where
  /-- A pass is made, or a heartbeat taken in, from beginning to end. -/
  | work (task : Task) (now : Instant)
  /-- The user changes what the cluster should be, its timeout for one. -/
  | edit (spec : ClusterSpec)

def withSpec (spec : ClusterSpec) (cluster : Cluster) : Cluster :=
  { cluster with content := { cluster.content with spec } }

def turn (home : ObjectKey) (world : World) : Turn → World
  | .work task now => ({ world with now }.perform (task.program home)).2
  | .edit spec => (world.mutate .cluster home (withSpec spec)).2

def acknowledges (home : ObjectKey) (world : World) : Turn → Bool
  | .work task now => ({ world with now }.perform (task.program home)).1.isAcknowledged
  | .edit _ => false

/-- Turns that are taken one after the other, for the cluster stored under a key. -/
structure Run where
  home : ObjectKey
  origin : World
  turns : List Turn

namespace Run

variable (run : Run)

def worldAt (n : Nat) : World := (run.turns.take n).foldl (turn run.home) run.origin

/-- The status after the first turns; an absent one counts as the default one. -/
def statusAt (n : Nat) : ClusterStatus :=
  (((run.worldAt n).inventory.clusters.lookup run.home).bind fun cluster =>
    cluster.status).getD default

def phaseAt (n : Nat) : ClusterPhase := (run.statusAt n).phase

def Passes (n : Nat) : Prop := ∃ settings now, run.turns[n]? = some (.work (.pass settings) now)

/-- A turn is a heartbeat that is accepted. -/
def Hears (n : Nat) : Prop :=
  ∃ sent received now, run.turns[n]? = some (.work (.heartbeat sent received) now) ∧
    acknowledges run.home (run.worldAt n) (.work (.heartbeat sent received) now) = true

/-- The cluster is registered, it is not the meta cluster, and all heartbeats are its own. -/
structure ClusterRegistered : Prop where
  registered : ∃ cluster, Stands run.home run.origin cluster
  own : ∀ sent received now, .work (.heartbeat sent received) now ∈ run.turns →
    placeOf sent = run.home

/-- The cluster has just been registered, it is not the meta cluster, and all heartbeats are its
own. -/
structure Begins : Prop where
  registered : ∃ cluster, Stands run.home run.origin cluster ∧ cluster.status = none
  own : ∀ sent received now, .work (.heartbeat sent received) now ∈ run.turns →
    placeOf sent = run.home

end Run

variable {run : Run} {n : Nat}

theorem statusSatisfies_edit (h : Stands home world cluster) (spec : ClusterSpec) :
    StatusSatisfies home (turn home world (.edit spec)) (· = cluster.status.getD default) := by
  have hturn : turn home world (.edit spec) = world.setStore .cluster
      (world.inventory.clusters.mutate home (withSpec spec)).2 := mutate_snd ..
  rw [hturn]
  exact ⟨_, ⟨h.faults, lookup_mutate_self h.stored _, h.place, h.common⟩, rfl⟩

theorem statusSatisfies_pass (h : Stands home world cluster) (settings : Settings) (now : Instant) :
    StatusSatisfies home (turn home world (.work (.pass settings) now))
      (Passed settings now cluster) := by
  have h : Stands home { world with now } cluster := ⟨h.faults, h.stored, h.place, h.common⟩
  have hends : Ends ((Task.pass settings).program home) { world with now } fun _ after =>
      StatusSatisfies home after (Passed settings now cluster) := by
    refine ends_bind (ends_find h) ?_
    rintro _ _ ⟨rfl, rfl⟩
    exact ends_bind (ends_reconcile h settings) fun _ _ hafter => hafter
  exact hends

theorem takesIn_heartbeat (h : Stands home world cluster) (hsent : placeOf sent = home)
    (received now : Instant) :
    let taken := Turn.work (.heartbeat sent received) now
    acknowledges home world taken = true ∧
        StatusSatisfies home (turn home world taken)
          (· = hear sent received (cluster.status.getD default)) ∨
      acknowledges home world taken = false ∧
        StatusSatisfies home (turn home world taken) (· = cluster.status.getD default) := by
  have h : Stands home { world with now } cluster := ⟨h.faults, h.stored, h.place, h.common⟩
  have hends : Ends ((Task.heartbeat sent received).program home) { world with now }
      fun ending after =>
        ending.isAcknowledged = true ∧
            StatusSatisfies home after (· = hear sent received (cluster.status.getD default)) ∨
          ending.isAcknowledged = false ∧
            StatusSatisfies home after (· = cluster.status.getD default) :=
    ends_bind (ends_ingest h hsent received) fun _ _ htaken => htaken
  exact hends

theorem statusSatisfies_mono {holds holds' : ClusterStatus → Prop}
    (h : StatusSatisfies home world holds)
    (himp : ∀ status, holds status → holds' status) : StatusSatisfies home world holds' := by
  obtain ⟨later, hstands, hlater⟩ := h
  exact ⟨later, hstands, himp _ hlater⟩

theorem worldAt_succ_of_some {next : Turn} (h : run.turns[n]? = some next) :
    run.worldAt (n + 1) = turn run.home (run.worldAt n) next := by
  unfold Run.worldAt
  rw [List.take_add_one, h, List.foldl_append]
  rfl

theorem worldAt_succ_of_none (h : run.turns[n]? = none) : run.worldAt (n + 1) = run.worldAt n := by
  unfold Run.worldAt
  rw [List.take_add_one, h, List.foldl_append]
  rfl

inductive Turned (run : Run) (n : Nat) (cluster : Cluster) : ClusterStatus → Prop
  | kept (hpasses : ¬ run.Passes n) (hhears : ¬ run.Hears n) :
      Turned run n cluster (cluster.status.getD default)
  | passed {later : ClusterStatus} (settings : Settings) (now : Instant)
      (hturn : run.turns[n]? = some (.work (.pass settings) now))
      (h : Passed settings now cluster later) : Turned run n cluster later
  | heard (sent : Heartbeat) (received now : Instant)
      (hturn : run.turns[n]? = some (.work (.heartbeat sent received) now))
      (haccepted : acknowledges run.home (run.worldAt n) (.work (.heartbeat sent received) now) =
        true) : Turned run n cluster (hear sent received (cluster.status.getD default))

theorem statusSatisfies_turned (h : run.ClusterRegistered)
    (hstands : Stands run.home (run.worldAt n) cluster) :
    StatusSatisfies run.home (run.worldAt (n + 1)) (Turned run n cluster) := by
  cases hnext : run.turns[n]? with
  | none =>
      rw [worldAt_succ_of_none hnext]
      exact ⟨cluster, hstands, .kept (by simp [Run.Passes, hnext]) (by simp [Run.Hears, hnext])⟩
  | some next =>
      rw [worldAt_succ_of_some hnext]
      cases next with
      | edit spec =>
          refine statusSatisfies_mono (statusSatisfies_edit hstands spec) ?_
          rintro _ rfl
          exact .kept (by simp [Run.Passes, hnext]) (by simp [Run.Hears, hnext])
      | work task now =>
          cases task with
          | pass settings =>
              exact statusSatisfies_mono (statusSatisfies_pass hstands settings now)
                fun _ hpassed => .passed settings now hnext hpassed
          | heartbeat sent received =>
              have hsent := h.own sent received now (List.mem_of_getElem? hnext)
              rcases takesIn_heartbeat hstands hsent received now with
                ⟨haccepted, hafter⟩ | ⟨hrejected, hafter⟩
              · refine statusSatisfies_mono hafter ?_
                rintro _ rfl
                exact .heard sent received now hnext haccepted
              · refine statusSatisfies_mono hafter ?_
                rintro _ rfl
                refine .kept (by simp [Run.Passes, hnext]) ?_
                rintro ⟨other, received', now', hother, haccepted⟩
                cases hnext.symm.trans hother
                exact nomatch haccepted.symm.trans hrejected

theorem step_of_turned (h : Turned run n cluster later) :
    Step (run.Passes n) (run.Hears n) (cluster.status.getD default) later := by
  cases h with
  | kept => exact .kept
  | passed settings now hturn h =>
    exact .judged ⟨settings, now, hturn⟩ (statusAfterPass_of_passed h)
  | heard sent received now hturn haccepted =>
      exact .heard ⟨sent, received, now, hturn, haccepted⟩ sent received

theorem clusterRegistered_of_begins (h : run.Begins) : run.ClusterRegistered := by
  obtain ⟨cluster, hstands, -⟩ := h.registered
  exact ⟨⟨cluster, hstands⟩, h.own⟩

theorem statusAt_of_stands (h : Stands run.home (run.worldAt n) cluster) :
    run.statusAt n = cluster.status.getD default := by
  unfold Run.statusAt
  rw [h.stored]
  rfl

theorem exists_stands (h : run.ClusterRegistered) (n : Nat) :
    ∃ cluster, Stands run.home (run.worldAt n) cluster := by
  induction n with
  | zero => exact h.registered
  | succ n ih =>
      obtain ⟨cluster, hstands⟩ := ih
      obtain ⟨later, hlater, -⟩ := statusSatisfies_turned h hstands
      exact ⟨later, hlater⟩

theorem turned_at (h : run.ClusterRegistered) (n : Nat) :
    ∃ cluster, Stands run.home (run.worldAt n) cluster ∧
      run.statusAt n = cluster.status.getD default ∧
      Turned run n cluster (run.statusAt (n + 1)) := by
  obtain ⟨cluster, hstands⟩ := exists_stands h n
  obtain ⟨later, hlater, hturned⟩ := statusSatisfies_turned h hstands
  exact ⟨cluster, hstands, statusAt_of_stands hstands, statusAt_of_stands hlater ▸ hturned⟩

theorem statusAt_zero (h : run.Begins) : run.statusAt 0 = default := by
  obtain ⟨cluster, hstands, hstatus⟩ := h.registered
  have hzero : Stands run.home (run.worldAt 0) cluster := hstands
  rw [statusAt_of_stands hzero, hstatus]
  rfl

theorem step_at (h : run.Begins) (n : Nat) :
    Step (run.Passes n) (run.Hears n) (run.statusAt n) (run.statusAt (n + 1)) := by
  obtain ⟨cluster, -, hstatus, hturned⟩ := turned_at (clusterRegistered_of_begins h) n
  exact hstatus ▸ step_of_turned hturned

theorem statusSound_at (h : run.Begins) (n : Nat) : StatusSound (run.statusAt n) := by
  induction n with
  | zero => exact statusAt_zero h ▸ statusSound_default
  | succ n ih => exact statusSound_step ih (step_at h n)

theorem exists_hears_of_contact (h : run.Begins)
    (hcontact : (run.statusAt n).conditions.isTrue .firstConnect = true) :
    ∃ m < n, run.Hears m := by
  induction n with
  | zero =>
      rw [statusAt_zero h] at hcontact
      contradiction
  | succ n ih =>
      rcases contact_step (step_at h n) hcontact with hearlier | hheard
      · obtain ⟨m, hm, hheard⟩ := ih hearlier
        exact ⟨m, Nat.lt_succ_of_lt hm, hheard⟩
      · exact ⟨n, Nat.lt_succ_self n, hheard⟩

/-- From the moment the cluster is lost it is silent, until a heartbeat is accepted. -/
theorem silent_or_heard (h : run.Begins) {m : Nat} (hbefore : run.phaseAt m ≠ .lost)
    (hlost : run.phaseAt (m + 1) = .lost) (hn : m < n) :
    Silent (run.statusAt n) ∨ ∃ k, m < k ∧ k < n ∧ run.Hears k := by
  induction hn with
  | refl => exact .inl (silent_of_lost (step_at h m) hbefore hlost)
  | @step n hn ih =>
      rcases ih with hsilent | ⟨k, hmk, hkn, hheard⟩
      · rcases silent_step (step_at h n) hsilent with hlater | hheard
        · exact .inl hlater
        · exact .inr ⟨n, hn, Nat.lt_succ_self n, hheard⟩
      · exact .inr ⟨k, hmk, Nat.lt_succ_of_lt hkn, hheard⟩

theorem isConnected_of_clusterPhaseEdge {before after : ClusterPhase}
    (h : ClusterPhaseEdge before after)
    (hbefore : IsConnected before) : IsConnected after := by
  cases h with
  | greeted => rcases hbefore with hready | hlost | hcontrol <;> contradiction
  | connected hafter => exact hafter
  | judged _ hafter => exact hafter

theorem isConnected_step (h : run.Begins) (hconnected : IsConnected (run.phaseAt n)) :
    IsConnected (run.phaseAt (n + 1)) := by
  rcases phase_step (statusSound_at h n) (step_at h n) with hsame | ⟨-, hallowed⟩
  · have hphase : run.phaseAt (n + 1) = run.phaseAt n := hsame
    exact hphase ▸ hconnected
  · exact isConnected_of_clusterPhaseEdge hallowed hconnected

/-- The order in which a cluster goes through its phases. -/
structure FollowsPhaseOrder (run : Run) : Prop where
  starts : run.phaseAt 0 = .unknown
  moves : ∀ n, run.phaseAt (n + 1) = run.phaseAt n ∨
    run.Passes n ∧ ClusterPhaseEdge (run.phaseAt n) (run.phaseAt (n + 1))
  /-- A cluster that has been connected is never again merely created, or unknown. -/
  connected : ∀ m n, m ≤ n → IsConnected (run.phaseAt m) → IsConnected (run.phaseAt n)
  contact : ∀ n, run.phaseAt n = .created → run.phaseAt (n + 1) ≠ .created →
    ∃ m < n, run.Hears m
  /-- A cluster that turn `m` has lost, and that turn `n` finds again, was heard of in between. -/
  found : ∀ m n, m < n → run.phaseAt m ≠ .lost →
    (∀ k, m < k → k ≤ n → run.phaseAt k = .lost) → run.phaseAt (n + 1) ≠ .lost →
      ∃ k, m < k ∧ k < n ∧ run.Hears k

/-- As long as passes and heartbeats come one after the other, the cluster goes through its phases
in order, however they are ordered themselves and whenever they come. -/
theorem followsPhaseOrder_of_begins (h : run.Begins) : FollowsPhaseOrder run := by
  refine ⟨?_, ?_, ?_, ?_, ?_⟩
  · unfold Run.phaseAt
    rw [statusAt_zero h]
    rfl
  · exact fun n => phase_step (statusSound_at h n) (step_at h n)
  · intro m n hmn hconnected
    induction hmn with
    | refl => exact hconnected
    | step hmn ih => exact isConnected_step h ih
  · intro n hcreated hleft
    exact exists_hears_of_contact h
      (contact_of_left (statusSound_at h n) (step_at h n) hcreated hleft)
  · intro m n hmn hbefore hlost hfound
    have hsilent := silent_or_heard h hbefore (hlost (m + 1) (Nat.lt_succ_self m) hmn) hmn
    refine hsilent.resolve_left ?_
    exact not_silent_of_found (statusSound_at h n) (step_at h n)
      (hlost n hmn (Nat.le_refl n)) hfound

/-- A cluster that connects, falls silent after its timeout has been shortened, and is heard of
again. -/
def lostAndFound : Run where
  home := ⟨some "lab", "cellar"⟩
  origin := (({ now := .epoch } : World).insert .cluster newcomer).2
  turns :=
    [.work (.pass {}) .epoch, .work (.heartbeat firstHeartbeat .epoch) .epoch,
      .work (.pass {}) .epoch, .edit { timeoutSeconds := 5 },
      .work (.pass {}) ⟨9, 0, by decide⟩, .work (.pass {}) ⟨11, 0, by decide⟩,
      .work (.heartbeat firstHeartbeat ⟨12, 0, by decide⟩) .epoch,
      .work (.pass {}) ⟨13, 0, by decide⟩]

theorem followsPhaseOrder_of_lostAndFound :
    lostAndFound.Begins ∧
      (List.range 9).map lostAndFound.phaseAt =
        [.unknown, .created, .created, .ready, .ready, .lost, .lost, .lost, .ready] ∧
      FollowsPhaseOrder lostAndFound := by
  have hbegins : lostAndFound.Begins := by
    refine ⟨⟨_, ⟨rfl, rfl, rfl, rfl⟩, rfl⟩, fun sent received now hmem => ?_⟩
    simp only [lostAndFound, List.mem_cons, List.not_mem_nil, Turn.work.injEq, reduceCtorEq,
      false_and, false_or, or_false, Task.heartbeat.injEq] at hmem
    rcases hmem with ⟨⟨rfl, -⟩, -⟩ | ⟨⟨rfl, -⟩, -⟩ <;> rfl
  exact ⟨hbegins, by rfl, followsPhaseOrder_of_begins hbegins⟩

end Fleet.Proofs.ClusterPhases
