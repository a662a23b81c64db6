import Fleet.Proofs.Experiment.SettledSteps
import Fleet.Proofs.Separation

/-!
The steps of a pass over an experiment do not get in each other's way. Each step runs an errand with
the store of its own kind, and neither the errand nor what the step tells of it depends on how the
other steps went.
-/

namespace Fleet.Proofs.Experiment.StepIsolation

open Fleet.Experiment
open Fleet.Proofs.Experiment.Readiness
open Fleet.Proofs.Experiment.Reports
open Fleet.Proofs.Experiment.SettledSteps
open Fleet.Proofs.Separation

variable {α β C : Type} {kind : Kind} {surroundings : Surroundings} {settings : Settings}
  {progress : Progress} {log : Log}

/-- What is left of a pass once everything the experiment depends on has been fetched. -/
def carryOn (settings : Settings) (now : Instant) (draft : StatusDraft)
    (dependents : Dependents) : Pass (Except Failure Action) := do
  let progress ← runDependents settings { draft, dependents, outcome := .empty }
  let outcome ←
    conclude (updateConnection progress.draft progress.dependents now) progress.outcome
  return outcome.aggregate settings.requeueSoon

theorem reconcile_eq_carryOn {experiment : Experiment}
    (hdeleted : experiment.metadata.deletionTimestamp = none) :
    reconcile settings experiment = (do
      let now ← Pass.clock
      let draft := greet (.start experiment) now
      match ← resolve experiment with
      | .error failure =>
          let outcome ← conclude (draft.addEvent (.warning Event.unexpected failure.message))
            (Outcome.empty.withFailure "resolve" failure)
          return outcome.aggregate settings.requeueSoon
      | .ok dependents => carryOn settings now draft dependents) := by
  unfold reconcile runSteps
  rw [hdeleted, if_neg (by decide), bind_assoc]
  refine congrArg (bind Pass.clock) (funext fun now => ?_)
  dsimp only
  rw [observed_greet, bind_assoc]
  refine congrArg (bind (resolve experiment)) (funext fun found => ?_)
  cases found with
  | error failure => rfl
  | ok dependents =>
      dsimp only
      rw [steps_eq, bind_assoc]
      rfl

def failureOf : Except Failure α → Option Failure
  | .ok _ => none
  | .error failure => some failure

/-- Carries out a plan, if it could be made; tells the failure. -/
def attempt : Except Failure (ResourcePlan C) → Store.Access C (Option Failure)
  | .error failure => .done (some failure)
  | .ok plan => do return failureOf (← plan.reconcile).outcome

/-- The failure of a delete; that the object is gone is none. -/
def refusal : Except Failure Unit → Option Failure
  | .ok () => none
  | .error failure => if failure.isNotFound then none else some failure

def removal (pod : Pod) : Store.Access PodContent (Option Failure) := do
  let preconditions := Preconditions.sameObject pod.metadata
  return refusal (← Store.delete pod.metadata.namespace pod.name (some preconditions))

/-- Deletes pods, all of them; tells the first failure. -/
def removals : List Pod → Store.Access PodContent (Option Failure)
  | [] => .done none
  | pod :: rest => do
      let failure ← removal pod
      let later ← removals rest
      return failure.or later

def volumeErrand (settings : Settings) (experiment : Experiment) :
    Store.Access VolumeContent (Option Failure) :=
  attempt ((expectedVolume experiment settings.dataVolume).map (volumePlan experiment))

def claimErrand (settings : Settings) (experiment : Experiment) :
    Store.Access ClaimContent (Option Failure) :=
  attempt ((expectedClaim experiment settings.dataVolume).map (claimPlan experiment))

def ingressErrand (experiment : Experiment) (dependents : Dependents) :
    Store.Access ServiceContent (Option Failure) :=
  attempt (.ok (ingressPlan experiment
    (expectedService experiment dependents.template dependents.cluster.spec.ingressIPs)))

def podErrand (settings : Settings) (experiment : Experiment) (dependents : Dependents) :
    Store.Access PodContent (Option Failure) :=
  if experiment.spec.pause then removals dependents.pods
  else
    match dependents.pods with
    | [] =>
        attempt ((expectedPod experiment dependents.template settings.dataVolume).map
          (podPlan experiment))
    | _ :: _ => .done none

/-- What a pass does with the store of each kind before it writes the status. It is settled when the
pass sets out. -/
def errand (settings : Settings) (experiment : Experiment) (dependents : Dependents) :
    (kind : Kind) → Store.Access kind.Content (Option Failure)
  | .volume => volumeErrand settings experiment
  | .claim => claimErrand settings experiment
  | .service => ingressErrand experiment dependents
  | .pod => podErrand settings experiment dependents
  | .cluster | .experiment | .template | .node | .configMap => .done none

def failed (progress : Progress) : Option Failure := progress.outcome.failure.map Prod.snd

theorem failed_withStep (progress : Progress) (step : String) (result : Except Failure α) :
    failed (progress.withStep step result) = (failed progress).or (failureOf result) := by
  unfold failed Progress.withStep
  cases result with
  | ok value => exact Option.or_none.symm
  | error failure =>
      change (progress.outcome.failure <|> some (step, failure)).map Prod.snd = _
      cases progress.outcome.failure <;> rfl

/-- A step runs an errand and tells how it failed. -/
structure RunsErrand (surroundings : Surroundings) (kind : Kind)
    (errand : Store.Access kind.Content (Option Failure)) (progress : Progress) (log : Log)
    (result : Progress) (after : Log) : Prop where
  calls : after.calls =
    Function.update log.calls kind (surroundings.ask kind errand (log.calls kind)).2
  failed : failed result =
    (failed progress).or (surroundings.ask kind errand (log.calls kind)).1
  observed : result.draft.observed = progress.draft.observed

/-- Of what was resolved, a step replaces at most the volume, the claim and the service. -/
def LeavesRest (progress result : Progress) : Prop :=
  ∃ volume claim ingress,
    result.dependents = { progress.dependents with volume, claim, ingress }

theorem runsErrand_idle {result : Progress} {failure : Option Failure}
    (hfailed : failed result = (failed progress).or failure)
    (hobserved : result.draft.observed = progress.draft.observed) :
    RunsErrand surroundings kind (.done failure) progress log result log where
  calls := (Function.update_eq_self ..).symm
  failed := hfailed
  observed := hobserved

theorem runsErrand_plan {plan : ResourcePlan kind.Content}
    {report : Reconciled kind.Content → Progress}
    (hfailed : ∀ reconciled, failed (report reconciled) =
      (failed progress).or (failureOf reconciled.outcome))
    (hobserved : ∀ reconciled, (report reconciled).draft.observed = progress.draft.observed) :
    RunsErrand surroundings kind (attempt (.ok plan)) progress log
      (surroundings.run (Pass.on kind plan.reconcile >>= fun reconciled =>
        pure (report reconciled)) log).1
      (surroundings.run (Pass.on kind plan.reconcile >>= fun reconciled =>
        pure (report reconciled)) log).2 := by
  have hattempt (earlier : List (Store.Call kind.Content)) :
      surroundings.ask kind (attempt (.ok plan)) earlier =
        (failureOf (surroundings.ask kind plan.reconcile earlier).1.outcome,
          (surroundings.ask kind plan.reconcile earlier).2) :=
    ask_bind plan.reconcile _ earlier
  rw [run_bind, run_on]
  refine ⟨?_, ?_, hobserved _⟩
  · rw [hattempt]
    rfl
  · rw [hattempt]
    exact hfailed _

theorem runsErrand_volume :
    RunsErrand surroundings .volume (volumeErrand settings progress.draft.observed) progress log
      (surroundings.run (reconcileVolume settings progress) log).1
      (surroundings.run (reconcileVolume settings progress) log).2 := by
  unfold volumeErrand reconcileVolume
  cases hexpected : expectedVolume progress.experiment settings.dataVolume with
  | error failure => exact runsErrand_idle (failed_withStep progress _ _) rfl
  | ok expected =>
      refine runsErrand_plan (fun reconciled => ?_) (fun reconciled => ?_)
      · rw [failed_withStep]
        dsimp only
        split <;> rfl
      · dsimp only [Progress.withStep]
        split <;> rfl

theorem leavesRest_volume :
    LeavesRest progress (surroundings.run (reconcileVolume settings progress) log).1 := by
  unfold reconcileVolume
  split
  · exact ⟨_, _, _, rfl⟩
  · rw [run_bind]
    change LeavesRest progress (Progress.withStep _ _ _)
    dsimp only [Progress.withStep]
    split <;> exact ⟨_, _, _, rfl⟩

theorem runsErrand_claim :
    RunsErrand surroundings .claim (claimErrand settings progress.draft.observed) progress log
      (surroundings.run (reconcileClaim settings progress) log).1
      (surroundings.run (reconcileClaim settings progress) log).2 := by
  unfold claimErrand reconcileClaim
  cases hexpected : expectedClaim progress.experiment settings.dataVolume with
  | error failure => exact runsErrand_idle (failed_withStep progress _ _) rfl
  | ok expected => exact runsErrand_plan (fun _ => failed_withStep ..) (fun _ => rfl)

theorem leavesRest_claim :
    LeavesRest progress (surroundings.run (reconcileClaim settings progress) log).1 := by
  unfold reconcileClaim
  split
  · exact ⟨_, _, _, rfl⟩
  · rw [run_bind]
    exact ⟨_, _, _, rfl⟩

theorem runsErrand_ingress :
    RunsErrand surroundings .service (ingressErrand progress.draft.observed progress.dependents)
      progress log (surroundings.run (reconcileIngress progress) log).1
      (surroundings.run (reconcileIngress progress) log).2 := by
  unfold ingressErrand reconcileIngress
  refine runsErrand_plan (fun reconciled => ?_) (fun reconciled => ?_)
  · rw [failed_withStep, foldl_addEvent]
    rfl
  · rw [foldl_addEvent]
    rfl

theorem leavesRest_ingress :
    LeavesRest progress (surroundings.run (reconcileIngress progress) log).1 := by
  unfold reconcileIngress
  rw [run_bind]
  exact ⟨_, _, _, rfl⟩

/-- What an errand comes to depends on the calls made before, on the failure told before, and on
nothing else of the past. -/
theorem runsErrand_congr {errand : Store.Access kind.Content (Option Failure)}
    {progress' result : Progress} {log' after : Log}
    (h : RunsErrand surroundings kind errand progress' log' result after)
    (hcalls : log'.calls = log.calls) (hfailed : failed progress' = failed progress)
    (hobserved : progress'.draft.observed = progress.draft.observed) :
    RunsErrand surroundings kind errand progress log result after where
  calls := hcalls ▸ h.calls
  failed := hfailed ▸ hcalls ▸ h.failed
  observed := h.observed.trans hobserved

theorem RunsErrand.andThen {first second : Store.Access kind.Content (Option Failure)}
    {middle result : Progress} {between after : Log}
    (hfirst : RunsErrand surroundings kind first progress log middle between)
    (hsecond : RunsErrand surroundings kind second middle between result after) :
    RunsErrand surroundings kind
      (do
        let failure ← first
        let later ← second
        return failure.or later)
      progress log result after := by
  -- The second errand sets out from the calls of the first.
  have hbetween : between.calls kind = (surroundings.ask kind first (log.calls kind)).2 := by
    rw [hfirst.calls, Function.update_self]
  have hboth : surroundings.ask kind
      (do
        let failure ← first
        let later ← second
        return failure.or later) (log.calls kind) =
      ((surroundings.ask kind first (log.calls kind)).1.or
          (surroundings.ask kind second (between.calls kind)).1,
        (surroundings.ask kind second (between.calls kind)).2) := by
    rw [ask_bind, ask_bind, hbetween]
    rfl
  refine ⟨?_, ?_, hsecond.observed.trans hfirst.observed⟩
  · rw [hboth, hsecond.calls, hbetween, hfirst.calls, Function.update_idem]
  · rw [hboth, hsecond.failed, hfirst.failed, Option.or_assoc]

def noteRefusal (progress : Progress) (answer : Except Failure Unit) : Progress :=
  match refusal answer with
  | none => progress
  | some failure => progress.withStep "delete-env-pod" (.error failure : Except _ Unit)

theorem failed_noteRefusal (progress : Progress) (answer : Except Failure Unit) :
    failed (noteRefusal progress answer) = (failed progress).or (refusal answer) := by
  unfold noteRefusal
  split
  · rename_i hnone
    rw [hnone, Option.or_none]
  · rename_i failure hsome
    rw [hsome, failed_withStep]
    rfl

theorem observed_noteRefusal (progress : Progress) (answer : Except Failure Unit) :
    (noteRefusal progress answer).draft.observed = progress.draft.observed := by
  unfold noteRefusal
  split <;> rfl

theorem deletePods_cons (progress : Progress) (pod : Pod) (rest : List Pod) :
    deletePods progress (pod :: rest) = (do
      let preconditions := Preconditions.sameObject pod.metadata
      let answer ←
        Pass.on .pod (Store.delete pod.metadata.namespace pod.name (some preconditions))
      deletePods (noteRefusal progress answer) rest) := by
  rw [deletePods]
  refine congrArg (bind _) (funext fun answer => ?_)
  cases answer with
  | ok gone => rfl
  | error failure =>
      dsimp only [noteRefusal, refusal]
      cases failure.isNotFound <;> rfl

theorem runsErrand_removal (pod : Pod) :
    let deletion := surroundings.run (Pass.on .pod (Store.delete pod.metadata.namespace pod.name
      (some (Preconditions.sameObject pod.metadata)))) log
    RunsErrand surroundings .pod (removal pod) progress log (noteRefusal progress deletion.1)
      deletion.2 := by
  intro deletion
  refine ⟨?_, failed_noteRefusal .., observed_noteRefusal ..⟩
  dsimp only [deletion]
  rw [run_on]
  rfl

theorem runsErrand_deletePods (pods : List Pod) :
    RunsErrand surroundings .pod (removals pods) progress log
      (surroundings.run (deletePods progress pods) log).1
      (surroundings.run (deletePods progress pods) log).2 := by
  induction pods generalizing progress log with
  | nil => exact runsErrand_idle Option.or_none.symm rfl
  | cons pod rest ih =>
      rw [deletePods_cons, run_bind]
      exact (runsErrand_removal pod).andThen ih

theorem runsErrand_startWorkload :
    RunsErrand surroundings .pod
      (attempt ((expectedPod progress.experiment progress.dependents.template
        settings.dataVolume).map (podPlan progress.experiment)))
      progress log (surroundings.run (startWorkload settings progress) log).1
      (surroundings.run (startWorkload settings progress) log).2 := by
  unfold startWorkload
  dsimp only
  cases hexpected : expectedPod progress.experiment progress.dependents.template
    settings.dataVolume with
  | error failure => exact runsErrand_idle (failed_withStep progress _ _) rfl
  | ok expected =>
      refine runsErrand_plan (fun reconciled => ?_) (fun reconciled => ?_)
      · rw [failed_withStep]
        split <;> rfl
      · dsimp only [Progress.withStep]
        split <;> rfl

theorem runsErrand_workload :
    RunsErrand surroundings .pod (podErrand settings progress.draft.observed progress.dependents)
      progress log (surroundings.run (reconcileWorkload settings progress) log).1
      (surroundings.run (reconcileWorkload settings progress) log).2 := by
  have hclock : (surroundings.run Pass.clock log).2.calls = log.calls := rfl
  unfold podErrand reconcileWorkload
  rw [run_bind]
  generalize surroundings.run Pass.clock log = looked at hclock
  by_cases hpause : progress.experiment.spec.pause = true
  · rw [if_pos hpause, if_pos hpause]
    obtain ⟨houtcome, hobserved⟩ := kept_notePause looked.1 progress
    exact runsErrand_congr (runsErrand_deletePods _) hclock
      (congrArg (fun outcome => outcome.failure.map Prod.snd) houtcome) hobserved
  · rw [if_neg hpause, if_neg hpause]
    cases progress.dependents.pods with
    | nil => exact runsErrand_congr runsErrand_startWorkload hclock rfl rfl
    | cons pod rest =>
        obtain ⟨houtcome, hobserved⟩ := kept_followPod looked.1 pod progress
        have hidle : RunsErrand surroundings .pod (.done none) progress looked.2
            (followPod looked.1 pod progress) looked.2 :=
          runsErrand_idle
            ((congrArg (fun outcome => outcome.failure.map Prod.snd) houtcome).trans
              Option.or_none.symm) hobserved
        exact runsErrand_congr hidle hclock rfl rfl

section Pass

variable {now : Instant} {draft : StatusDraft} {dependents : Dependents}

/-- What a step replaces among what was resolved is nothing that an errand goes by. -/
theorem errand_of_leavesRest {experiment : Experiment} {result : Progress}
    (h : LeavesRest progress result) :
    errand settings experiment result.dependents =
      errand settings experiment progress.dependents := by
  obtain ⟨_, _, _, hdependents⟩ := h
  rw [hdependents]
  funext kind
  cases kind <;> rfl

theorem leavesRest_trans {middle result : Progress} (h : LeavesRest progress middle)
    (hnext : LeavesRest middle result) : LeavesRest progress result := by
  obtain ⟨_, _, _, hmiddle⟩ := h
  obtain ⟨volume, claim, ingress, hresult⟩ := hnext
  exact ⟨volume, claim, ingress, by rw [hresult, hmiddle]⟩

/-- What the errand for a kind comes to if no other is run: the failure, and the calls made. -/
def verdict (surroundings : Surroundings) (settings : Settings) (experiment : Experiment)
    (dependents : Dependents) (log : Log) (kind : Kind) :
    Option Failure × List (Store.Call kind.Content) :=
  surroundings.ask kind (errand settings experiment dependents kind) (log.calls kind)

/-- The errands for some kinds have been run, each as if it were the only one. -/
structure HasRun (surroundings : Surroundings) (settings : Settings) (start : Progress)
    (log : Log) (kinds : List Kind) (progress : Progress) (after : Log) : Prop where
  calls : ∀ kind, after.calls kind =
    if kind ∈ kinds then
      (verdict surroundings settings start.draft.observed start.dependents log kind).2
    else log.calls kind
  failed : failed progress = (failed start).or (kinds.findSome? fun kind =>
    (verdict surroundings settings start.draft.observed start.dependents log kind).1)
  observed : progress.draft.observed = start.draft.observed

/-- One more errand is run. It is the one that was settled at the start, since no step before has
touched what it goes by. -/
theorem HasRun.next {kinds : List Kind} {start result : Progress} {between after : Log}
    (h : HasRun surroundings settings start log kinds progress between)
    (hrest : LeavesRest start progress) (hnew : kind ∉ kinds)
    (hstep : RunsErrand surroundings kind
      (errand settings progress.draft.observed progress.dependents kind) progress between result
      after) :
    HasRun surroundings settings start log (kinds ++ [kind]) result after := by
  have hbefore : between.calls kind = log.calls kind := by
    rw [h.calls, if_neg hnew]
  rw [h.observed, errand_of_leavesRest hrest] at hstep
  refine ⟨fun other => ?_, ?_, hstep.observed.trans h.observed⟩
  · rw [hstep.calls, hbefore]
    by_cases hother : other = kind
    · subst hother
      rw [Function.update_self, if_pos (by simp)]
      rfl
    · rw [Function.update_of_ne hother, h.calls]
      simp only [List.mem_append, List.mem_singleton, hother, or_false]
  · rw [hstep.failed, hbefore, h.failed, List.findSome?_append, List.findSome?_singleton,
      Option.or_assoc]
    rfl

def stepKinds : List Kind := [.volume, .claim, .service, .pod]

theorem hasRun_runDependents (start : Progress) :
    HasRun surroundings settings start log stepKinds
      (surroundings.run (runDependents settings start) log).1
      (surroundings.run (runDependents settings start) log).2 := by
  have hstart : HasRun surroundings settings start log [] start log :=
    ⟨fun _ => rfl, Option.or_none.symm, rfl⟩
  unfold runDependents
  rw [run_bind, run_bind, run_bind]
  have hvolume := hstart.next ⟨_, _, _, rfl⟩ (by decide) runsErrand_volume
  have hclaim := hvolume.next leavesRest_volume (by decide) runsErrand_claim
  have hingress := hclaim.next (leavesRest_trans leavesRest_volume leavesRest_claim) (by decide)
    runsErrand_ingress
  exact hingress.next
    (leavesRest_trans (leavesRest_trans leavesRest_volume leavesRest_claim) leavesRest_ingress)
    (by decide) runsErrand_workload

def drafted (surroundings : Surroundings) (settings : Settings) (now : Instant)
    (draft : StatusDraft) (dependents : Dependents) (log : Log) : StatusDraft :=
  let progress :=
    (surroundings.run (runDependents settings { draft, dependents, outcome := .empty }) log).1
  updateConnection progress.draft progress.dependents now

def statusErrand (draft : StatusDraft) : Store.Access ExperimentContent (Option Failure) :=
  match draft.finish.persist with
  | none => .done none
  | some updated => do return failureOf (← Store.persistStatus updated)

theorem run_conclude (draft : StatusDraft) (outcome : Outcome) :
    let concluded := surroundings.run (conclude draft outcome) log
    let written := surroundings.ask .experiment (statusErrand draft) (log.calls .experiment)
    concluded.2.calls = Function.update log.calls .experiment written.2 ∧
      concluded.1.failure.map Prod.snd = (outcome.failure.map Prod.snd).or written.1 := by
  unfold conclude statusErrand
  dsimp only
  rw [run_bind]
  have hcalls : (surroundings.run (Pass.publishAll (Kind.experiment.reference draft.observed)
      draft.finish.events) log).2.calls = log.calls := calls_publishAll ..
  generalize surroundings.run (Pass.publishAll (Kind.experiment.reference draft.observed)
    draft.finish.events) log = published at hcalls ⊢
  cases draft.finish.persist with
  | none =>
      rw [← hcalls]
      exact ⟨(Function.update_eq_self ..).symm, Option.or_none.symm⟩
  | some updated =>
      dsimp only
      rw [run_bind, run_on, ask_bind, hcalls]
      dsimp only
      generalize surroundings.ask .experiment (Store.persistStatus updated)
        (log.calls .experiment) = answered
      obtain ⟨failure | stored, calls⟩ := answered
      · constructor
        · change Function.update published.2.calls .experiment calls = _
          rw [hcalls]
          rfl
        · change (outcome.failure <|> some ("persist-status", failure)).map Prod.snd = _
          cases outcome.failure <;> rfl
      · constructor
        · change Function.update published.2.calls .experiment calls = _
          rw [hcalls]
          rfl
        · exact Option.or_none.symm

theorem aggregate_eq_error {outcome : Outcome} {soon : Delay} {failure : Failure} :
    outcome.aggregate soon = .error failure ↔ outcome.failure.map Prod.snd = some failure := by
  unfold Outcome.aggregate
  cases outcome.failure with
  | none =>
      dsimp only
      split <;> simp
  | some told => simp

/-- How writing the status ends, if nothing else was asked of the store of experiments. -/
def statusVerdict (surroundings : Surroundings) (settings : Settings) (now : Instant)
    (draft : StatusDraft) (dependents : Dependents) (log : Log) :
    Option Failure × List (Store.Call ExperimentContent) :=
  surroundings.ask .experiment
    (statusErrand (drafted surroundings settings now draft dependents log))
    (log.calls .experiment)

/-- How a pass fails: for volume, claim, ingress, workload and the status, in this order, the
failure if there is one. -/
def failures (surroundings : Surroundings) (settings : Settings) (now : Instant)
    (draft : StatusDraft) (dependents : Dependents) (log : Log) : List (Option Failure) :=
  stepKinds.map (fun kind =>
      (verdict surroundings settings draft.observed dependents log kind).1) ++
    [(statusVerdict surroundings settings now draft dependents log).1]

/-- What the run of a pass comes to. -/
structure CarriesOn (surroundings : Surroundings) (settings : Settings) (now : Instant)
    (draft : StatusDraft) (dependents : Dependents) (log : Log)
    (ended : Except Failure Action × Log) : Prop where
  calls : ∀ kind, kind ≠ .experiment → ended.2.calls kind =
    (verdict surroundings settings draft.observed dependents log kind).2
  written : ended.2.calls .experiment =
    (statusVerdict surroundings settings now draft dependents log).2
  failed : ∀ failure, ended.1 = .error failure ↔
    (failures surroundings settings now draft dependents log).findSome? id = some failure

theorem run_carryOn_eq :
    let ran :=
      surroundings.run (runDependents settings { draft, dependents, outcome := .empty }) log
    let concluded := surroundings.run (conclude
      (drafted surroundings settings now draft dependents log) ran.1.outcome) ran.2
    surroundings.run (carryOn settings now draft dependents) log =
      (concluded.1.aggregate settings.requeueSoon, concluded.2) := by
  unfold carryOn
  rw [run_bind, run_bind]
  rfl

theorem run_carryOn :
    CarriesOn surroundings settings now draft dependents log
      (surroundings.run (carryOn settings now draft dependents) log) := by
  have hran : HasRun surroundings settings { draft, dependents, outcome := .empty } log stepKinds
      _ _ := hasRun_runDependents _
  have hconcluded (ran : Progress × Log) := @run_conclude surroundings ran.2
    (drafted surroundings settings now draft dependents log) ran.1.outcome
  rw [run_carryOn_eq]
  generalize surroundings.run (runDependents settings { draft, dependents, outcome := .empty }) log
    = ran at hran ⊢
  specialize hconcluded ran
  dsimp only at hconcluded ⊢
  -- No step has called the store of experiments, so the write finds its log as it was.
  have hbefore : ran.2.calls .experiment = log.calls .experiment := by
    rw [hran.calls, if_neg (by decide)]
  rw [hbefore] at hconcluded
  generalize surroundings.run (conclude (drafted surroundings settings now draft dependents log)
    ran.1.outcome) ran.2 = concluded at hconcluded ⊢
  obtain ⟨hcalls, hfailed⟩ := hconcluded
  refine ⟨fun kind hkind => ?_, ?_, fun failure => ?_⟩
  · rw [hcalls, Function.update_of_ne hkind, hran.calls]
    split
    · rfl
    · rename_i hidle
      cases kind <;> first | rfl | exact absurd (by decide) hidle
  · rw [hcalls, Function.update_self]
    rfl
  · refine aggregate_eq_error.trans ?_
    rw [hfailed, failures, List.findSome?_append, List.findSome?_map, List.findSome?_singleton]
    change (failed _).or _ = _ ↔ _
    rw [hran.failed]
    rfl

/-- A step asks the same of its store, whatever becomes of the others. -/
theorem calls_carryOn_congr {a b : Surroundings} (h : a.AgreeBut kind b) {other : Kind}
    (hother : other ≠ kind) (hexperiment : other ≠ .experiment) :
    (a.run (carryOn settings now draft dependents) log).2.calls other =
      (b.run (carryOn settings now draft dependents) log).2.calls other := by
  rw [run_carryOn.calls other hexperiment, run_carryOn.calls other hexperiment]
  exact congrArg Prod.snd (ask_congr h hother _ _)

/-- A pass that begins with the given log finds all that its experiment depends on. -/
structure ResolvesTo (surroundings : Surroundings) (experiment : Experiment) (log : Log)
    (now : Instant) (dependents : Dependents) (resolved : Log) : Prop where
  time : surroundings.time log.looks = now
  found : surroundings.run (resolve experiment) { log with looks := log.looks + 1 } =
    (.ok dependents, resolved)

section Reconcile

variable {experiment : Experiment} {resolved : Log}
  (hdeleted : experiment.metadata.deletionTimestamp = none)

include hdeleted

theorem run_reconcile_of_resolvesTo
    (h : ResolvesTo surroundings experiment log now dependents resolved) :
    surroundings.run (reconcile settings experiment) log =
      surroundings.run (carryOn settings now (greet (.start experiment) now) dependents)
        resolved := by
  have hclock : surroundings.run Pass.clock log = (now, { log with looks := log.looks + 1 }) :=
    Prod.ext h.time rfl
  rw [reconcile_eq_carryOn hdeleted, run_bind, hclock, run_bind, h.found]

theorem carriesOn_reconcile (h : ResolvesTo surroundings experiment log now dependents resolved) :
    CarriesOn surroundings settings now (greet (.start experiment) now) dependents resolved
      (surroundings.run (reconcile settings experiment) log) := by
  rw [run_reconcile_of_resolvesTo hdeleted h]
  exact run_carryOn

/-- Two passes that find the same ask the same of every store but the one that answers them
differently, and but for the status that they write. -/
theorem calls_reconcile_congr {a b : Surroundings} (hagree : a.AgreeBut kind b)
    (ha : ResolvesTo a experiment log now dependents resolved)
    (hb : ResolvesTo b experiment log now dependents resolved) {other : Kind}
    (hother : other ≠ kind) (hexperiment : other ≠ .experiment) :
    (a.run (reconcile settings experiment) log).2.calls other =
      (b.run (reconcile settings experiment) log).2.calls other := by
  rw [run_reconcile_of_resolvesTo hdeleted ha, run_reconcile_of_resolvesTo hdeleted hb]
  exact calls_carryOn_congr hagree hother hexperiment

end Reconcile

end Pass

end Fleet.Proofs.Experiment.StepIsolation
