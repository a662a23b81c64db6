import Fleet.Proofs.Heartbeats
import Fleet.Proofs.Race.History

namespace Fleet.Proofs.Race

open Fleet.Proofs.Heartbeats
open Fleet.Proofs.Judgements
open Fleet.Proofs.Ledgers
open Fleet.Proofs.Stores

@[ext]
structure Arrivals where
  /-- A first heartbeat has arrived. -/
  connected : Bool
  /-- When the condition on heartbeats was last probed. -/
  probe : Option Instant

def arrivalsOf (ledger : Ledger ClusterConditionType) : Arrivals :=
  { connected := ledger.isTrue .firstConnect
    probe := (ledger.query .heartbeat).map Condition.lastProbeTime }

/-- What a version tells about heartbeats; a missing status tells nothing. -/
def arrivals (cluster : Cluster) : Arrivals :=
  arrivalsOf (cluster.status.getD default).conditions

/-- A time has not moved back: it has not gone either. -/
def NotBefore (later earlier : Option Instant) : Prop :=
  ∀ t ∈ earlier, ∃ t' ∈ later, t'.isBefore t = false

instance (later earlier : Option Instant) : Decidable (NotBefore later earlier) :=
  inferInstanceAs (Decidable (∀ t ∈ earlier, ∃ t' ∈ later, t'.isBefore t = false))

/-- Nothing that was told earlier is lost. -/
def Arrivals.Covers (later earlier : Arrivals) : Prop :=
  (earlier.connected = true → later.connected = true) ∧ NotBefore later.probe earlier.probe

instance (later earlier : Arrivals) : Decidable (later.Covers earlier) :=
  inferInstanceAs (Decidable (_ ∧ _))

theorem isBefore_self (t : Instant) : t.isBefore t = false := by
  simp [Instant.isBefore]

theorem isBefore_trans {a b c : Instant} (hab : a.isBefore b = false) (hbc : b.isBefore c = false) :
    a.isBefore c = false := by
  simp only [Instant.isBefore, Bool.or_eq_false_iff, Bool.and_eq_false_imp, decide_eq_false_iff_not,
    beq_iff_eq] at hab hbc ⊢
  omega

theorem notBefore_refl (time : Option Instant) : NotBefore time time :=
  fun t ht => ⟨t, ht, isBefore_self t⟩

theorem notBefore_trans {a b c : Option Instant} (hab : NotBefore a b) (hbc : NotBefore b c) :
    NotBefore a c := by
  intro t ht
  obtain ⟨t', ht', hle⟩ := hbc t ht
  obtain ⟨t'', ht'', hle'⟩ := hab t' ht'
  exact ⟨t'', ht'', isBefore_trans hle' hle⟩

theorem covers_refl (a : Arrivals) : a.Covers a := ⟨id, notBefore_refl a.probe⟩

theorem covers_trans {a b c : Arrivals} (hab : a.Covers b) (hbc : b.Covers c) : a.Covers c :=
  ⟨hab.1 ∘ hbc.1, notBefore_trans hab.2 hbc.2⟩

theorem probe_set_heartbeat (ledger : Ledger ClusterConditionType) (status : ConditionStatus)
    (reason message : String) (now : Instant) :
    (arrivalsOf (ledger.set .heartbeat status reason message now)).probe = some now := by
  obtain ⟨since, hsince⟩ := query_set_self ledger .heartbeat status reason message now
  simp [arrivalsOf, hsince]

theorem probe_set_of_ne {type : ClusterConditionType} (h : .heartbeat ≠ type)
    (ledger : Ledger ClusterConditionType) (status : ConditionStatus) (reason message : String)
    (now : Instant) :
    (arrivalsOf (ledger.set type status reason message now)).probe = (arrivalsOf ledger).probe :=
  congrArg (Option.map _) (query_set_of_ne h ledger status reason message now)

theorem connected_set_of_ne {type : ClusterConditionType} (h : .firstConnect ≠ type)
    (ledger : Ledger ClusterConditionType) (status : ConditionStatus) (reason message : String)
    (now : Instant) :
    (arrivalsOf (ledger.set type status reason message now)).connected =
      (arrivalsOf ledger).connected :=
  isTrue_set_of_ne h ledger status reason message now

theorem probe_ensure {ledger : Ledger ClusterConditionType} (type : ClusterConditionType)
    (status : ConditionStatus) (reason message : String) {now : Instant}
    (h : NotBefore (some now) (arrivalsOf ledger).probe) :
    NotBefore (arrivalsOf (ledger.ensure type status reason message now)).probe
        (arrivalsOf ledger).probe ∧
      NotBefore (some now) (arrivalsOf (ledger.ensure type status reason message now)).probe := by
  unfold Ledger.ensure
  split
  · exact ⟨notBefore_refl _, h⟩
  · by_cases htype : .heartbeat = type
    · subst htype
      rw [probe_set_heartbeat]
      exact ⟨h, notBefore_refl _⟩
    · rw [probe_set_of_ne htype]
      exact ⟨notBefore_refl _, h⟩

theorem probe_foldl_ensure (types : List ClusterConditionType)
    {ledger : Ledger ClusterConditionType} {status : ConditionStatus} {reason message : String}
    {now : Instant} (h : NotBefore (some now) (arrivalsOf ledger).probe) :
    NotBefore (arrivalsOf (types.foldl
      (fun ledger type => ledger.ensure type status reason message now) ledger)).probe
        (arrivalsOf ledger).probe := by
  induction types generalizing ledger with
  | nil => exact notBefore_refl _
  | cons type rest ih =>
      obtain ⟨hkept, hnow⟩ := probe_ensure type status reason message h
      exact notBefore_trans (ih hnow) hkept

theorem isTrue_foldl_ensure {types : List ClusterConditionType} {type : ClusterConditionType}
    {ledger : Ledger ClusterConditionType}
    (h : type ∈ types ∨ ledger.isTrue type = true) (reason message : String) (now : Instant) :
    (types.foldl (fun ledger type => ledger.ensure type .true_ reason message now)
      ledger).isTrue type = true := by
  induction types generalizing ledger with
  | nil => exact h.resolve_left List.not_mem_nil
  | cons first rest ih =>
      refine ih ?_
      by_cases hfirst : type = first
      · rw [hfirst, isTrue_ensure_self]
        exact .inr rfl
      · rw [isTrue_ensure_of_ne hfirst]
        exact h.imp_left fun hmem => (List.mem_cons.mp hmem).resolve_left hfirst

variable {newId : String} {draft : Cluster.StatusDraft} {now : Instant} {status : ClusterStatus}

theorem connected_of_verdict (h : Verdict newId draft now status) :
    (arrivalsOf status.conditions).connected =
      (Cluster.isMeta draft.observed || (arrivalsOf draft.status.conditions).connected) := by
  cases h with
  | ready settings hmeta =>
      rw [hmeta, Bool.true_or]
      have hall : ClusterConditionType.firstConnect ∈ Enumeration.all := by decide
      exact isTrue_foldl_ensure (.inl hall) _ _ _
  | greeted hmeta hinit =>
      rw [hmeta, Bool.false_or]
      exact connected_set_of_ne (by decide) _ _ _ _ _
  | lost hmeta hheartbeat hlate =>
      rw [hmeta, Bool.false_or]
      exact connected_set_of_ne (by decide) _ _ _ _ _
  | placed hmeta phase =>
      rw [hmeta, Bool.false_or]

/-- A judgement that does not come before the last heartbeat loses nothing. -/
theorem covers_of_verdict (h : Verdict newId draft now status)
    (hnow : NotBefore (some now) (arrivalsOf draft.status.conditions).probe) :
    (arrivalsOf status.conditions).Covers (arrivalsOf draft.status.conditions) := by
  refine ⟨fun hconnected => ?_, ?_⟩
  · rw [connected_of_verdict h, hconnected, Bool.or_true]
  · cases h with
    | ready settings hmeta => exact probe_foldl_ensure _ hnow
    | greeted hmeta hinit =>
        change NotBefore (arrivalsOf (Ledger.set _ .init _ _ _ _)).probe _
        rw [probe_set_of_ne (by decide)]
        exact notBefore_refl _
    | lost hmeta hheartbeat hlate =>
        change NotBefore (arrivalsOf (Ledger.set _ .heartbeat _ _ _ _)).probe _
        rw [probe_set_heartbeat]
        exact hnow
    | placed hmeta phase => exact notBefore_refl _

theorem arrivalsOf_record (sent : Heartbeat) (received : Instant)
    (ledger : Ledger ClusterConditionType) :
    arrivalsOf (sent.record received ledger) = { connected := true, probe := some received } := by
  obtain ⟨heartbeat, -, hprobe, hquery⟩ := query_record_heartbeat sent received ledger
  refine Arrivals.ext (isTrue_record_firstConnect sent received ledger) ?_
  change ((sent.record received ledger).query .heartbeat).map _ = some received
  rw [hquery, ← hprobe]
  rfl

variable {task : Task} {notes : Notes} {seen : Cluster} {landing : Landing}

/-- When a writer came by its news: heartbeats when they are received, passes when they read the
clock. -/
def Task.time? (notes : Notes) : Task → Option Instant
  | .pass _ => notes.clock
  | .heartbeat _ received => some received

/-- What a writer has to tell, going by the version that it worked with. -/
def Landing.brings (landing : Landing) : Arrivals :=
  arrivalsOf ((landing.task.derive landing.notes landing.seen).getD default).conditions

/-- A status is put where it may not belong: over a version that the writer had not worked with, or
over later news. -/
def Landing.Exposed (landing : Landing) : Prop :=
  landing.method ≠ .replace ∧
    (landing.isRetry = true ∨
      ¬ NotBefore (landing.task.time? landing.notes) (arrivals landing.found).probe)

theorem connected_of_derive {settings : Settings}
    (h : (Task.pass settings).derive notes seen = some status) :
    (arrivalsOf status.conditions).connected =
      (Cluster.isMeta seen || (arrivals seen).connected) := by
  obtain ⟨now, -, hverdict⟩ := verdict_of_derive h
  rw [connected_of_verdict hverdict, observed_addWarnings, status_addWarnings]
  rfl

theorem arrivalsOf_heartbeat {sent : Heartbeat} {received : Instant}
    (h : (Task.heartbeat sent received).derive notes seen = some status) :
    arrivalsOf status.conditions = { connected := true, probe := some received } := by
  cases h
  exact arrivalsOf_record sent received _

theorem covers_of_derive (h : task.derive notes seen = some status)
    (htime : NotBefore (task.time? notes) (arrivals seen).probe) :
    (arrivalsOf status.conditions).Covers (arrivals seen) := by
  cases task with
  | pass settings =>
      obtain ⟨now, hclock, hverdict⟩ := verdict_of_derive h
      have hcovers := covers_of_verdict hverdict
      rw [status_addWarnings] at hcovers
      refine hcovers ?_
      rw [← hclock]
      exact htime
  | heartbeat sent received =>
      rw [arrivalsOf_heartbeat h]
      exact ⟨fun _ => rfl, htime⟩

theorem arrivals_of_stamp (h : landing.AccountedFor) (hmethod : landing.method = .replace) :
    arrivals landing.written = arrivals landing.found := by
  rw [arrivals, (h.stamped hmethod).2]
  rfl

theorem arrivals_of_report (h : landing.AccountedFor) (hmethod : landing.method ≠ .replace) :
    arrivals landing.written = landing.brings := by
  obtain ⟨status, ⟨hderive, -⟩, hstatus⟩ := h.reported hmethod
  rw [arrivals, hstatus, Landing.brings, hderive]

theorem covers_of_not_exposed (h : landing.AccountedFor) (hexposed : ¬ landing.Exposed) :
    (arrivals landing.written).Covers (arrivals landing.found) := by
  by_cases hmethod : landing.method = .replace
  · rw [arrivals_of_stamp h hmethod]
    exact covers_refl _
  · obtain ⟨status, ⟨hderive, -⟩, hstatus⟩ := h.reported hmethod
    have hretry : landing.isRetry = false := by
      rw [← Bool.not_eq_true]
      exact fun hretry => hexposed ⟨hmethod, .inl hretry⟩
    have htime : NotBefore (landing.task.time? landing.notes) (arrivals landing.found).probe :=
      not_not.mp fun hlate => hexposed ⟨hmethod, .inr hlate⟩
    have hcovers := covers_of_derive hderive (h.direct hretry ▸ htime)
    rw [h.direct hretry] at hcovers
    rw [arrivals, hstatus]
    exact hcovers

theorem covers_written_iff (h : landing.AccountedFor) :
    (arrivals landing.written).Covers (arrivals landing.found) ↔
      (landing.Exposed → landing.brings.Covers (arrivals landing.found)) := by
  constructor
  · intro hcovers hexposed
    rw [← arrivals_of_report h hexposed.1]
    exact hcovers
  · intro hbrings
    by_cases hexposed : landing.Exposed
    · rw [arrivals_of_report h hexposed.1]
      exact hbrings hexposed
    · exact covers_of_not_exposed h hexposed

theorem isMeta_versionsOf {origin : Cluster} {landings : List Landing}
    (hlinked : Linked origin landings) (hfaithful : ∀ landing ∈ landings, landing.AccountedFor) :
    ∀ version ∈ versionsOf origin landings, Cluster.isMeta version = Cluster.isMeta origin := by
  induction landings with
  | nil =>
      intro version hversion
      rw [List.mem_singleton.mp hversion]
  | cons landing earlier ih =>
      have hearlier := ih hlinked.2.2 fun other hother => hfaithful other (.tail _ hother)
      refine List.forall_mem_cons.mpr ⟨?_, hearlier⟩
      rw [← hearlier _ (newestOf_mem origin earlier), ← hlinked.1]
      unfold Cluster.isMeta Metadata.label?
      rw [(hfaithful landing (.head _)).labels]

/-- The landing that stored the status of a heartbeat. -/
def Landing.StoresHeartbeat (landing : Landing) : Prop :=
  landing.method ≠ .replace ∧ ∃ sent received, landing.task = .heartbeat sent received

theorem connected_of_landing {origin : Cluster} {earlier : List Landing}
    (hlinked : Linked origin (landing :: earlier)) (hfaithful : landing.AccountedFor)
    (hmeta : Cluster.isMeta landing.seen = false) (h : ¬ landing.StoresHeartbeat) :
    ∃ version ∈ versionsOf origin earlier,
      (arrivals landing.written).connected = (arrivals version).connected := by
  by_cases hmethod : landing.method = .replace
  · refine ⟨landing.found, hlinked.1 ▸ newestOf_mem origin earlier, ?_⟩
    rw [arrivals_of_stamp hfaithful hmethod]
  · refine ⟨landing.seen, hlinked.2.1, ?_⟩
    obtain ⟨status, ⟨hderive, -⟩, hstatus⟩ := hfaithful.reported hmethod
    cases htask : landing.task with
    | heartbeat sent received => exact absurd ⟨hmethod, sent, received, htask⟩ h
    | pass settings =>
        rw [htask] at hderive
        rw [arrivals, hstatus, Option.getD_some, connected_of_derive hderive, hmeta,
          Bool.false_or]

/-- Only heartbeats make the difference between being connected and not. -/
theorem exists_storesHeartbeat {origin : Cluster} {landings : List Landing}
    (hlinked : Linked origin landings) (hfaithful : ∀ landing ∈ landings, landing.AccountedFor)
    (hmeta : Cluster.isMeta origin = false) {a b : Cluster}
    (ha : a ∈ versionsOf origin landings) (hb : b ∈ versionsOf origin landings)
    (hne : (arrivals a).connected ≠ (arrivals b).connected) :
    ∃ landing ∈ landings, landing.StoresHeartbeat := by
  induction landings generalizing a b with
  | nil =>
      rw [List.mem_singleton.mp ha, List.mem_singleton.mp hb] at hne
      contradiction
  | cons landing earlier ih =>
      by_cases hstores : landing.StoresHeartbeat
      · exact ⟨landing, .head _, hstores⟩
      · have hearlier := fun other hother => hfaithful other (.tail _ hother)
        have hseen : Cluster.isMeta landing.seen = false :=
          (isMeta_versionsOf hlinked.2.2 hearlier _ hlinked.2.1).trans hmeta
        obtain ⟨same, hsame, hconnected⟩ :=
          connected_of_landing hlinked (hfaithful landing (.head _)) hseen hstores
        have hbefore : ∀ version ∈ versionsOf origin (landing :: earlier),
            ∃ before ∈ versionsOf origin earlier,
              (arrivals version).connected = (arrivals before).connected :=
          List.forall_mem_cons.mpr ⟨⟨same, hsame, hconnected⟩, fun version h => ⟨version, h, rfl⟩⟩
        -- The last landing makes no difference, so the induction goes on before it.
        obtain ⟨a', ha', hconnecteda⟩ := hbefore a ha
        obtain ⟨b', hb', hconnectedb⟩ := hbefore b hb
        rw [hconnecteda, hconnectedb] at hne
        obtain ⟨other, hother, hfound⟩ := ih hlinked.2.2 hearlier ha' hb' hne
        exact ⟨other, .tail _ hother, hfound⟩

end Fleet.Proofs.Race
