import Fleet.Proofs.Experiment.Origins
import Fleet.Proofs.PlanOutcomes

namespace Fleet.Proofs.Experiment.SuccessfulPasses

open Fleet.Experiment
open Fleet.Proofs.Contract
open Fleet.Proofs.Convergence
open Fleet.Proofs.Experiment.Idempotence
open Fleet.Proofs.Experiment.Labels
open Fleet.Proofs.Experiment.Observation
open Fleet.Proofs.Experiment.Origins
open Fleet.Proofs.Experiment.Plans
open Fleet.Proofs.Experiment.Readiness
open Fleet.Proofs.Experiment.Reports
open Fleet.Proofs.Experiment.SettledSteps
open Fleet.Proofs.Experiment.Steps
open Fleet.Proofs.Experiment.WorkloadReadiness
open Fleet.Proofs.PlanOutcomes
open Fleet.Proofs.Rehearsals
open Fleet.Proofs.Stores
open Fleet.Rehearsal

section Plan

variable {C : Type} {plan : ResourcePlan C} {store middle after : Store C} {drawn : Nat}
  {name : String} {key : ObjectKey}

/-- Every object is still there under its key, and still has its identity. -/
def Preserves (store after : Store C) : Prop :=
  ∀ key object, store.lookup key = some object →
    ∃ later, after.lookup key = some later ∧ later.metadata.uid = object.metadata.uid

theorem preserves_refl (store : Store C) : Preserves store store :=
  fun _ object hobject => ⟨object, hobject, rfl⟩

theorem preserves_trans (h : Preserves store middle) (h' : Preserves middle after) :
    Preserves store after := by
  intro key object hobject
  obtain ⟨between, hbetween, hsame⟩ := h key object hobject
  obtain ⟨later, hlater, hsame'⟩ := h' key between hbetween
  exact ⟨later, hlater, hsame'.trans hsame⟩

/-- An object is stored under a key, and nothing has been lost or misplaced for it. -/
structure Upholds (key : ObjectKey) (store after : Store C) : Prop where
  stored : ∃ object, after.lookup key = some object
  preserves : Preserves store after
  placed : SelfKeyed store → SelfKeyed after

theorem upholds_of_insert {object : Object C}
    (hobjects : after.objects = store.objects.insert key object)
    (hplaced : ObjectKey.ofMetadata object.metadata = key)
    (hsame : ∀ old, store.lookup key = some old → object.metadata.uid = old.metadata.uid) :
    Upholds key store after := by
  have hself : after.lookup key = some object := by
    rw [Store.lookup, hobjects]
    exact get?_insert_self ..
  have hother : ∀ other, other ≠ key → after.lookup other = store.lookup other := by
    intro other hne
    rw [Store.lookup, hobjects]
    exact get?_insert_of_ne hne ..
  refine ⟨⟨object, hself⟩, fun other found hfound => ?_, fun hall other found hfound => ?_⟩
  · by_cases hkey : other = key
    · subst hkey
      exact ⟨object, hself, hsame found hfound⟩
    · exact ⟨found, (hother other hkey).trans hfound, rfl⟩
  · by_cases hkey : other = key
    · subst hkey
      cases hself.symm.trans hfound
      exact hplaced
    · exact hall other found ((hother other hkey).symm.trans hfound)

/-- A plan that nothing can stop: it has no checks, and it updates in place. -/
structure UncheckedPlan (plan : ResourcePlan C) : Prop where
  recreates : plan.needRecreate = none
  prepares : plan.preCreate = none
  checks : plan.postUpdate = none
  updated : ∀ actual, wantsUpdate plan actual = true →
    ∃ object, (plan.beforeUpdate plan.stamped actual).1 = .ok object ∧
      ObjectKey.ofMetadata object.metadata = ObjectKey.ofMetadata actual.metadata ∧
        object.metadata.resourceVersion = actual.metadata.resourceVersion

theorem upholds_converge (h : UncheckedPlan plan) (hname : plan.target = .ok name)
    (hplaced : SelfKeyed store) :
    (∃ action, (plan.converge.run serve (store, drawn)).1.1 = .ok action) ∧
      Upholds (place plan name) store (plan.converge.run serve (store, drawn)).2.1 := by
  have hplace := ofMetadata_stamped hname
  cases hlookup : store.lookup (place plan name) with
  | none =>
      have hfree : store.lookup (.ofMetadata plan.stamped.metadata) = none := hplace.symm ▸ hlookup
      rw [run_converge_absent hname hlookup]
      refine ⟨⟨_, (run_createExpected_of_ok drawn (beforeCreate_of_none h.prepares _) hfree
        .created []).1⟩, ?_⟩
      rw [run_createExpected h.prepares]
      have hobjects : (store.add (identity (drawn + 1)) plan.stamped).2.objects =
          store.objects.insert (place plan name)
            (store.stamp (Store.identify plan.stamped (some (identity (drawn + 1))))) := by
        rw [add_of_free _ hfree, hplace]
        rfl
      refine upholds_of_insert hobjects hplace fun old hold => ?_
      rw [hlookup] at hold
      contradiction
  | some actual =>
      rw [run_converge_present h.recreates hname hlookup]
      cases hwants : wantsUpdate plan actual with
      | false =>
          exact ⟨⟨_, rfl⟩, ⟨⟨actual, hlookup⟩, preserves_refl store, id⟩⟩
      | true =>
          obtain ⟨object, hobject, hmetadata, hversion⟩ := h.updated actual hwants
          have hkey : ObjectKey.ofMetadata object.metadata = place plan name :=
            hmetadata.trans (hplaced _ actual hlookup)
          have hwritten := write_current Store.countReplace (hkey.symm ▸ hlookup) hversion
          rw [if_pos rfl]
          have houtcome := (run_update_of_written drawn (notesOf plan actual) hobject hwritten).1
          rw [ResourcePlan.afterUpdate, h.checks] at houtcome
          refine ⟨⟨_, houtcome⟩, ?_⟩
          rw [run_update _ hobject, hwritten, hkey]
          refine upholds_of_insert rfl hkey fun old hold => ?_
          cases hlookup.symm.trans hold
          rfl

theorem ends_upheld {kind : Kind} {plan : ResourcePlan kind.Content} {world : World}
    (hfaults : world.faults = []) (h : UncheckedPlan plan) (hname : plan.target = .ok name)
    (hplaced : SelfKeyed (world.inventory.store kind)) :
    Ends (Pass.on kind plan.reconcile) world fun reconciled after =>
      (∃ action, reconciled.outcome = .ok action) ∧
        Upholds (place plan name) (world.inventory.store kind) (after.inventory.store kind) := by
  refine ends_on hfaults ?_
  rw [run_reconcile]
  simp only [withStore, Inventory.store_setStore]
  exact upholds_converge h hname hplaced

theorem uncheckedPlan_of_needUpdate (hrecreates : plan.needRecreate = none)
    (hprepares : plan.preCreate = none) (hchecks : plan.postUpdate = none)
    (hupdates : plan.needUpdate = none) : UncheckedPlan plan := by
  refine ⟨hrecreates, hprepares, hchecks, fun actual hwants => ?_⟩
  rw [wantsUpdate_of_needUpdate hupdates] at hwants
  contradiction

theorem uncheckedPlan_of_patch {patch : Object C → Object C → Object C}
    (hrecreates : plan.needRecreate = none) (hprepares : plan.preCreate = none)
    (hchecks : plan.postUpdate = none)
    (hpatches : plan.preUpdate = some fun expected actual => .ok (patch expected actual))
    (hmetadata : ∀ expected actual, (patch expected actual).metadata = actual.metadata) :
    UncheckedPlan plan := by
  refine ⟨hrecreates, hprepares, hchecks, fun actual _ => ?_⟩
  refine ⟨patch plan.stamped actual, beforeUpdate_of_patch hpatches hmetadata actual, ?_, ?_⟩
  · rw [hmetadata]
  · rw [hmetadata]

end Plan

section Steps

variable {settings : Settings} {experiment : Experiment} {progress : Progress} {world : World}
  {home : ObjectKey}

theorem uncheckedPlan_volumePlan (expected : Volume) :
    UncheckedPlan (volumePlan experiment expected) := by
  refine uncheckedPlan_of_patch (needRecreate_ownedBy ..) (preCreate_ownedBy ..)
    (postUpdate_ownedBy ..)
    (preUpdate_ownedBy ..) fun expected actual => ?_
  unfold withHostPath
  split <;> rfl

theorem uncheckedPlan_claimPlan (expected : Claim) :
    UncheckedPlan (claimPlan experiment expected) :=
  uncheckedPlan_of_needUpdate (needRecreate_ownedBy ..) (preCreate_ownedBy ..)
    (postUpdate_ownedBy ..)
    (needUpdate_ownedBy ..)

theorem uncheckedPlan_ingressPlan (expected : Service) :
    UncheckedPlan (ingressPlan experiment expected) :=
  uncheckedPlan_of_patch (needRecreate_ownedBy ..) (preCreate_ownedBy ..) (postUpdate_ownedBy ..)
    (preUpdate_ownedBy ..) fun _ _ => rfl

theorem outcome_withStep_ok {α : Type} {step : String} {result : Except Failure α}
    (h : ∃ value, result = .ok value) :
    (progress.withStep step result).outcome = progress.outcome := by
  obtain ⟨value, rfl⟩ := h
  rfl

theorem target_of_name {C : Type} {plan : ResourcePlan C} {name : String}
    (hproblems : plan.problems = []) (hname : plan.expected.metadata.name = some name)
    (hnonempty : name.isEmpty = false) : plan.target = .ok name := by
  unfold ResourcePlan.target
  rw [hproblems]
  dsimp only
  rw [hname]
  dsimp only
  rw [hnonempty, if_neg Bool.false_ne_true]

theorem isEmpty_volumeName {name : String} (h : volumeName experiment = .ok name) :
    name.isEmpty = false := by
  unfold volumeName at h
  cases hidentity : identity? experiment with
  | error failure =>
      rw [hidentity] at h
      contradiction
  | ok uid =>
      rw [hidentity] at h
      cases h
      simp

section Data

variable (hfaults : world.faults = []) (howns : Owns home progress.experiment)

include hfaults howns

theorem ends_volume_upheld {name : String} (hname : volumeName progress.experiment = .ok name)
    (hplaced : SelfKeyed world.inventory.volumes) :
    Ends (reconcileVolume settings progress) world fun result after =>
      result.outcome = progress.outcome ∧
        Upholds ⟨none, name⟩ world.inventory.volumes after.inventory.volumes := by
  have hnonempty := isEmpty_volumeName hname
  unfold reconcileVolume
  rw [expectedVolume, hname]
  refine ends_bind (ends_upheld hfaults (uncheckedPlan_volumePlan _)
    (target_ownedBy howns (target_of_name rfl rfl hnonempty)) hplaced) ?_
  rintro reconciled after ⟨hok, hupholds⟩
  rw [place, namespace_stamped, volumePlan, expected_ownedBy] at hupholds
  refine ⟨?_, hupholds⟩
  refine (outcome_withStep_ok hok).trans ?_
  dsimp only
  split <;> rfl

theorem ends_claim_upheld {name : String} (hname : volumeName progress.experiment = .ok name)
    (hplaced : SelfKeyed world.inventory.claims) :
    Ends (reconcileClaim settings progress) world fun result after =>
      result.outcome = progress.outcome ∧
        Upholds ⟨home.namespace, claimName progress.experiment⟩ world.inventory.claims
          after.inventory.claims := by
  have hnonempty : (claimName progress.experiment).isEmpty = false := by
    simp [claimName]
  unfold reconcileClaim
  rw [expectedClaim, hname]
  refine ends_bind (ends_upheld hfaults (uncheckedPlan_claimPlan _)
    (target_ownedBy howns (target_of_name rfl rfl hnonempty)) hplaced) ?_
  rintro reconciled after ⟨hok, hupholds⟩
  rw [place, namespace_stamped, claimPlan, expected_ownedBy] at hupholds
  obtain rfl := howns.place
  exact ⟨outcome_withStep_ok hok, hupholds⟩

theorem ends_ingress_upheld (hplaced : SelfKeyed world.inventory.services) :
    Ends (reconcileIngress progress) world fun result after =>
      result.outcome = progress.outcome ∧
        Upholds (servicePlace home progress.dependents.template.content.protocolName)
          world.inventory.services after.inventory.services := by
  have htarget := target_ingressPlan howns progress.dependents.template
    progress.dependents.cluster.spec.ingressIPs
  unfold reconcileIngress
  refine ends_bind (ends_upheld hfaults (uncheckedPlan_ingressPlan _) htarget hplaced) ?_
  rintro reconciled after ⟨hok, hupholds⟩
  rw [place_ingressPlan howns] at hupholds
  refine ⟨?_, hupholds⟩
  refine (outcome_withStep_ok hok).trans ?_
  rw [foldl_addEvent]

end Data

/-- A delete that meets the pod itself, or nothing in its place, can only fail to find it. -/
theorem isNotFound_of_remove {pods : Store PodContent} {pod : Pod}
    (hmet : ∀ found, pods.lookup (.ofMetadata pod.metadata) = some found → found = pod)
    {failure : Failure} (hfailure : (pods.remove (.ofMetadata pod.metadata)
      (some (.sameObject pod.metadata))).1 = .error failure) : failure.isNotFound = true := by
  cases hlookup : pods.lookup (.ofMetadata pod.metadata) with
  | none =>
      rw [remove_of_missing hlookup] at hfailure
      cases hfailure
      rfl
  | some found =>
      obtain rfl := hmet found hlookup
      rw [remove_sameObject hlookup] at hfailure
      contradiction

theorem ends_deletePods_ok (hfaults : world.faults = []) {pods : List Pod}
    (hlisted : ∀ pod ∈ pods, ∀ found,
      world.inventory.pods.lookup (.ofMetadata pod.metadata) = some found → found = pod) :
    Ends (deletePods progress pods) world fun result _ => result.outcome = progress.outcome := by
  induction pods generalizing world with
  | nil => rfl
  | cons pod rest ih =>
      -- What is still listed after the delete has been listed before.
      have hrest : Ends (deletePods progress rest) (without world pod) fun result _ =>
          result.outcome = progress.outcome :=
        ih hfaults fun other hother found hfound =>
          hlisted other (List.mem_cons_of_mem pod hother) found (lookup_of_lookup_remove hfound)
      refine ends_deletePods_cons hfaults hrest fun failure hfailure hfailed => ?_
      have hgone := isNotFound_of_remove (hlisted pod List.mem_cons_self) hfailure
      exact nomatch hgone.symm.trans hfailed

/-- What becomes of the pods: while the experiment is paused those that are listed go away and
nothing comes; otherwise one is made where there was none. -/
structure Manages (home : ObjectKey) (experiment : Experiment) (pods after : Store PodContent) :
    Prop where
  paused : experiment.spec.pause = true → podsOf experiment after = [] ∧
    ∀ key pod, after.lookup key = some pod → pods.lookup key = some pod
  started : experiment.spec.pause = false → podsOf experiment pods = [] →
    ∃ uid pod, ObjectKey.ofMetadata pod.metadata = home ∧
      pod.metadata.labels = some (dependentLabels experiment) ∧ after = (pods.add uid pod).2
  followed : experiment.spec.pause = false → podsOf experiment pods ≠ [] → after = pods

theorem ends_pauseWorkload_managed (hfaults : world.faults = [])
    (hpause : progress.experiment.spec.pause = true)
    (hplaced : SelfKeyed world.inventory.pods)
    (hpods : progress.dependents.pods = podsOf progress.experiment world.inventory.pods) :
    Ends (pauseWorkload world.now progress) world fun result after =>
      result.outcome = progress.outcome ∧
        Manages home progress.experiment world.inventory.pods after.inventory.pods := by
  have hlisted : ∀ pod ∈ progress.dependents.pods, ∀ found,
      world.inventory.pods.lookup (.ofMetadata pod.metadata) = some found → found = pod := by
    intro pod hpod found hfound
    obtain ⟨key, hlookup, -⟩ := mem_select.mp (hpods ▸ hpod)
    rw [hplaced key pod hlookup, hlookup] at hfound
    exact (Option.some.inj hfound).symm
  -- Nothing that a pause settles depends on the settings.
  have hpaused : Ends (pauseWorkload world.now progress) world fun result after =>
      SeesTo {} progress result world after := ends_pauseWorkload hfaults hpods hpause
  refine ends_mono (ends_and hpaused
    (ends_and (ends_deletePods_ok hfaults hlisted) (ends_deletePods_from hfaults _ _))) ?_
  rintro result after ⟨hsees, houtcome, hsubset⟩
  refine ⟨houtcome.trans (kept_notePause world.now progress).1,
    ⟨fun _ => ⟨(hsees.attains.reached hplaced).paused hpause, hsubset⟩, ?_, ?_⟩⟩
  · rw [hpause]
    exact nofun
  · rw [hpause]
    exact nofun

theorem expectedPod_of_image (experiment : Experiment) {template : Template}
    (himage : template.content.podTemplate.image.isEmpty = false) (settings : DataVolumeSettings) :
    ∃ expected, expectedPod experiment template settings = .ok expected := by
  unfold expectedPod
  dsimp only
  rw [himage, if_neg Bool.false_ne_true]
  exact ⟨_, rfl⟩

section Workload

variable (hfaults : world.faults = []) (howns : Owns home progress.experiment)

include hfaults howns

theorem ends_startWorkload_fresh (hname : home.name ≠ "")
    (himage : progress.dependents.template.content.podTemplate.image.isEmpty = false)
    (hfree : world.inventory.pods.lookup home = none) :
    Ends (startWorkload settings progress) world fun result after =>
      result.outcome = progress.outcome ∧
        ∃ uid pod, ObjectKey.ofMetadata pod.metadata = home ∧
          pod.metadata.labels = some (dependentLabels progress.experiment) ∧
            after.inventory.pods = (world.inventory.pods.add uid pod).2 := by
  obtain ⟨expected, hexpected⟩ :=
    expectedPod_of_image progress.experiment himage settings.dataVolume
  let plan := podPlan progress.experiment expected
  have hexpectedName : expected.metadata.name = some home.name :=
    (expectedPod_eq hexpected).1.trans (congrArg some (congrArg ObjectKey.name howns.place))
  have htarget : plan.target = .ok home.name :=
    target_ownedBy howns (target_of_name rfl hexpectedName (by simpa using hname))
  have hplace : place plan home.name = home :=
    (place_podPlan hexpected htarget).trans howns.place
  have hstamped : ObjectKey.ofMetadata plan.stamped.metadata = home :=
    (ofMetadata_stamped htarget).trans hplace
  have hplanned : Ends (Pass.on .pod plan.reconcile) world fun reconciled after =>
      (∃ action, reconciled.outcome = .ok action) ∧ after.inventory.pods =
        (world.inventory.pods.add (identity (world.drawn + 1)) plan.stamped).2 := by
    have hprepares : plan.preCreate = none := preCreate_ownedBy ..
    refine ends_on hfaults ?_
    rw [run_reconcile, run_converge_absent htarget (hplace.symm ▸ hfree)]
    exact ⟨⟨_, (run_createExpected_of_ok world.drawn (beforeCreate_of_none hprepares _)
      (hstamped.symm ▸ hfree) .created []).1⟩, run_createExpected hprepares _ _ _⟩
  unfold startWorkload
  dsimp only
  rw [hexpected]
  refine ends_bind hplanned ?_
  rintro reconciled after ⟨hok, hadded⟩
  refine ⟨?_, _, _, hstamped, ?_, hadded⟩
  · refine (outcome_withStep_ok hok).trans ?_
    dsimp only
    split <;> rfl
  · have hplanExpected : plan.expected = expected := expected_ownedBy ..
    rw [labels_stamped, hplanExpected]
    exact labels_expectedPod hexpected

theorem ends_workload_managed (hname : home.name ≠ "")
    (himage : progress.dependents.template.content.podTemplate.image.isEmpty = false)
    (hplaced : SelfKeyed world.inventory.pods)
    (hpods : progress.dependents.pods = podsOf progress.experiment world.inventory.pods)
    (hfree : podsOf progress.experiment world.inventory.pods = [] →
      world.inventory.pods.lookup home = none) :
    Ends (reconcileWorkload settings progress) world fun result after =>
      result.outcome = progress.outcome ∧
        Manages home progress.experiment world.inventory.pods after.inventory.pods := by
  refine ends_bind (ends_clock world) ?_
  rintro _ _ ⟨rfl, rfl⟩
  cases hpause : progress.experiment.spec.pause with
  | true => exact ends_pauseWorkload_managed hfaults hpause hplaced hpods
  | false =>
      rw [if_neg Bool.false_ne_true]
      cases hlisted : progress.dependents.pods with
      | nil =>
          have hnone := hpods.symm.trans hlisted
          refine ends_mono (ends_startWorkload_fresh hfaults howns hname himage (hfree hnone)) ?_
          rintro result after ⟨houtcome, hadded⟩
          exact ⟨houtcome, ⟨by rw [hpause]; exact nofun, fun _ _ => hadded,
            fun _ hsome => absurd hnone hsome⟩⟩
      | cons pod rest =>
          have hsome : podsOf progress.experiment world.inventory.pods ≠ [] := by
            rw [← hpods, hlisted]
            exact List.cons_ne_nil _ _
          exact ⟨(kept_followPod world.now pod progress).1, ⟨by rw [hpause]; exact nofun,
            fun _ hnone => absurd hnone hsome, fun _ _ => rfl⟩⟩

end Workload

end Steps

section Pass

variable {settings : Settings} {experiment : Experiment} {world : World} {home : ObjectKey}
  {cluster : Cluster} {template : Template} {name : String}

/-- An experiment that can have objects of its own. -/
structure Eligible (home : ObjectKey) (experiment : Experiment) : Prop where
  owns : Owns home experiment
  housed : home.namespace.isSome
  plain : Plain home.name
  named : home.name ≠ ""
  identified : experiment.metadata.uid ≠ some ""

/-- An experiment is stored with everything it needs. No pod has got the experiment's name but one
with its label. -/
structure Furnished (home : ObjectKey) (experiment : Experiment) (inventory : Inventory) : Prop
    extends Eligible home experiment where
  stored : inventory.experiments.lookup home = some experiment
  cluster : ∃ cluster, inventory.clusters.lookup
    ⟨home.namespace, experiment.spec.clusterName⟩ = some cluster
  template : ∃ template, inventory.templates.lookup
    ⟨home.namespace, experiment.spec.template⟩ = some template ∧
      template.content.podTemplate.image.isEmpty = false
  labelled : ∀ pod, inventory.pods.lookup home = some pod →
    pod.metadata.label? nameLabel = some home.name

/-- The experiment is not being deleted, and all objects are stored under their own names. -/
structure Staged (home : ObjectKey) (experiment : Experiment) (inventory : Inventory) : Prop
    extends Furnished home experiment inventory where
  alive : experiment.metadata.deletionTimestamp = none
  pods : SelfKeyed inventory.pods
  volumes : SelfKeyed inventory.volumes
  claims : SelfKeyed inventory.claims
  services : SelfKeyed inventory.services

structure Tends (home : ObjectKey) (experiment : Experiment) (template : Template) (name : String)
    (before after : Inventory) : Prop where
  volumes : Upholds ⟨none, name⟩ before.volumes after.volumes
  claims : Upholds ⟨home.namespace, claimName experiment⟩ before.claims after.claims
  services : Upholds (servicePlace home template.content.protocolName) before.services
    after.services
  pods : Manages home experiment before.pods after.pods

theorem lookup_of_unlisted {inventory : Inventory} (h : Staged home experiment inventory)
    (hnone : podsOf experiment inventory.pods = []) : inventory.pods.lookup home = none := by
  obtain rfl := h.owns.place
  cases hlookup : inventory.pods.lookup (.ofMetadata experiment.metadata) with
  | none => rfl
  | some pod =>
      have hlisted : pod ∈ podsOf experiment inventory.pods := by
        refine mem_select.mpr ⟨_, hlookup, .inr rfl, ?_⟩
        rintro _ ⟨⟩
        exact (selects_selectorOf h.plain _).mpr (h.labelled pod hlookup)
      rw [hnone] at hlisted
      contradiction

theorem ends_runDependents_tends (hfaults : world.faults = []) {draft : StatusDraft}
    (h : Staged home draft.observed world.inventory)
    (hbound : InputsFound world.inventory draft.observed cluster template name)
    (himage : template.content.podTemplate.image.isEmpty = false) (outcome : Outcome) :
    Ends (runDependents settings
        ⟨draft, dependentsIn world.inventory draft.observed cluster template name, outcome⟩) world
      fun result after => result.outcome = outcome ∧
        Tends home draft.observed template name world.inventory after.inventory := by
  have howns := h.owns
  have hunlisted := lookup_of_unlisted h
  have hpodsPlaced := h.pods
  have hservicesPlaced := h.services
  have hclaimsPlaced := h.claims
  obtain ⟨observed, status, events⟩ := draft
  refine ends_bind (ends_and (ends_reconcileVolume hfaults hbound.volume)
    (ends_volume_upheld hfaults howns hbound.volume h.volumes)) ?_
  rintro ⟨⟨_, _, events⟩, _, _⟩ after ⟨⟨⟨⟨volumes, rfl⟩, -, -⟩, ⟨⟩, ⟨⟩, ⟨⟩⟩, ⟨⟩, hvolumes⟩
  refine ends_bind (ends_and (ends_reconcileClaim hfaults hbound.volume)
    (ends_claim_upheld hfaults howns hbound.volume hclaimsPlaced)) ?_
  rintro ⟨⟨_, _, events⟩, _, _⟩ after ⟨⟨⟨⟨claims, rfl⟩, -, -⟩, ⟨⟩, ⟨⟩, ⟨⟩⟩, ⟨⟩, hclaims⟩
  refine ends_bind (ends_and (ends_reconcileIngress hfaults)
    (ends_ingress_upheld hfaults howns hservicesPlaced)) ?_
  rintro ⟨⟨_, _, events⟩, _, _⟩ after ⟨⟨⟨⟨services, rfl⟩, -, -⟩, ⟨⟩, ⟨⟩, ⟨⟩⟩, ⟨⟩, hservices⟩
  refine ends_mono (ends_and (ends_reconcileWorkload hfaults rfl)
    (ends_workload_managed hfaults howns h.named himage hpodsPlaced rfl hunlisted)) ?_
  rintro result after ⟨hsees, houtcome, hpods⟩
  obtain ⟨⟨pods, rfl⟩, -, -⟩ := hsees.attains
  exact ⟨houtcome, hvolumes, hclaims, hservices, hpods⟩

structure Reported (experiment : Experiment) (pods : List Pod) (status : ExperimentStatus) :
    Prop where
  coherent : Coherent status
  follows : FollowsWorkload experiment.spec pods status
  volume : status.conditions.isTrue .volumeCreated = true

theorem coherent_runSteps
    (hcoherent : ∀ status, experiment.status = some status → Coherent status) :
    Ends (runSteps settings (.start experiment)) world fun result _ =>
      Coherent result.1.status := by
  obtain ⟨⟨⟩, hresult⟩ :=
    exists_suits_of_keeps (keeps_runSteps hcoherent settings) World.answer world
  exact hresult

theorem needed_of_lookup {inventory : Inventory} {kind : Kind} {ns : Option String} {name : String}
    {found : Object kind.Content} (h : (inventory.store kind).lookup ⟨ns, name⟩ = some found) :
    needed inventory kind ns name = .ok found := by
  unfold needed
  rw [h]

theorem inputsFound_of_staged {inventory : Inventory} (h : Staged home experiment inventory) :
    ∃ cluster template name, InputsFound inventory experiment cluster template name ∧
      template.content.podTemplate.image.isEmpty = false := by
  obtain rfl := h.owns.place
  obtain ⟨cluster, hcluster⟩ := h.cluster
  obtain ⟨template, htemplate, himage⟩ := h.template
  obtain ⟨uid, huid⟩ := Option.isSome_iff_exists.mp h.owns.uid
  have hvolume : volumeName experiment = .ok ("pv-" ++ uid) := by
    have hnonempty : uid ≠ "" := fun hempty => h.identified (hempty ▸ huid)
    simp [volumeName, identity?, huid, Option.filter, hnonempty, Except.map]
  exact ⟨cluster, template, _, ⟨needed_of_lookup hcluster, needed_of_lookup htemplate, hvolume⟩,
    himage⟩

structure CompletesSteps (home : ObjectKey) (experiment : Experiment) (template : Template)
    (name : String) (world : World) (result : StatusDraft × Outcome) (after : World) : Prop where
  ok : result.2 = .empty
  reported : Reported experiment (podsOf experiment world.inventory.pods) result.1.status
  tends : Tends home experiment template name world.inventory after.inventory
  only : ∃ volumes claims services pods drawn, after =
    { world with inventory := { world.inventory with volumes, claims, services, pods }, drawn }

theorem volumeExists_of_tends {before after : Inventory} {dependents : Dependents}
    (howns : Owns home experiment) (h : Tends home experiment template name before after)
    (hdependents : ∃ pods, dependents =
      { dependentsIn after experiment cluster template name with pods }) :
    volumeExists dependents = true := by
  obtain rfl := howns.place
  obtain ⟨pods, rfl⟩ := hdependents
  refine Bool.and_eq_true_iff.mpr ⟨?_, ?_⟩
  · exact Option.isSome_iff_exists.mpr h.volumes.stored
  · exact Option.isSome_iff_exists.mpr h.claims.stored

theorem completesSteps_of_runsSteps {greeted : ExperimentStatus} {notes : List Event}
    {progress : Progress}
    {after : World} (howns : Owns home experiment)
    (hinitialized : greeted.conditions.isTrue .initialized = true)
    (hcarries : RunsSteps settings cluster template name ⟨experiment, greeted, notes⟩ progress world
      after)
    (hok : progress.outcome = .empty)
    (htends : Tends home experiment template name world.inventory after.inventory)
    (hcoherent : Coherent (updateConnection progress.draft progress.dependents world.now).status) :
    CompletesSteps home experiment template name world
      (updateConnection progress.draft progress.dependents world.now, progress.outcome) after := by
  have hobserved : progress.draft.observed = experiment := hcarries.observed
  have hfollows : FollowsWorkload progress.draft.observed.spec
    (podsOf experiment world.inventory.pods)
      progress.draft.status := by
    rw [hobserved]
    exact hcarries.follows hinitialized
  have hexists : volumeExists progress.dependents = true :=
    volumeExists_of_tends howns htends hcarries.dependents
  refine ⟨hok, ⟨hcoherent, ?_, ?_⟩, htends, hcarries.only⟩
  · -- The pods are of no account to the connection.
    have htells : TellsAll _ { progress.dependents with
        pods := podsOf experiment world.inventory.pods } _ :=
      tellsAll_updateConnection hfollows world.now
    rw [hobserved] at htells
    exact htells.follows
  · exact (isTrue_volumeCreated_deriveReadiness _ _ world.now).trans hexists

theorem ends_runSteps_completesSteps (hfaults : world.faults = [])
    (h : Staged home experiment world.inventory)
    (hcoherent : ∀ status, experiment.status = some status → Coherent status)
    (hbound : InputsFound world.inventory experiment cluster template name)
    (himage : template.content.podTemplate.image.isEmpty = false) :
    Ends (runSteps settings (.start experiment)) world fun result after =>
      CompletesSteps home experiment template name world result after := by
  obtain ⟨greeted, notes, hgreet, hinitialized, -⟩ :=
    greet_eq experiment (experiment.status.getD default) [] world.now
  have hsteps : Ends (runSteps settings (.start experiment)) world fun result after =>
      Coherent result.1.status →
        CompletesSteps home experiment template name world result after := by
    unfold runSteps
    refine ends_bind (ends_clock world) ?_
    rintro _ _ ⟨rfl, rfl⟩
    dsimp only [Draft.start]
    rw [hgreet]
    refine ends_bind (ends_resolve hfaults experiment) ?_
    rintro found _ ⟨rfl, rfl⟩
    rw [observe_of_inputsFound hbound]
    dsimp only
    rw [steps_eq]
    have hdependents : Ends (runDependents settings ⟨⟨experiment, greeted, notes⟩,
        dependentsIn world.inventory experiment cluster template name, .empty⟩) world
          fun result after => RunsSteps settings cluster template name ⟨experiment, greeted, notes⟩
              result world after ∧
            result.outcome = .empty ∧
              Tends home experiment template name world.inventory after.inventory :=
      ends_and (ends_runDependents hfaults hbound .empty)
        (ends_runDependents_tends hfaults h hbound himage .empty)
    refine ends_bind hdependents ?_
    rintro result after ⟨hcarries, hok, htends⟩ hfinal
    exact completesSteps_of_runsSteps h.owns hinitialized hcarries hok htends hfinal
  -- That the final status is coherent holds whatever the stores reply.
  exact ends_mono (ends_and hsteps (coherent_runSteps hcoherent)) fun _ _ hboth =>
    hboth.1 hboth.2

theorem ends_conclude_ok (hfaults : world.faults = [])
    (hstored : world.inventory.experiments.lookup (.ofMetadata experiment.metadata) =
      some experiment) {draft : StatusDraft} (hobserved : draft.observed = experiment)
    (outcome : Outcome) :
    Ends (conclude draft outcome) world fun result _ => result = outcome := by
  unfold conclude
  refine ends_bind (ends_publishAll _ _ world) ?_
  rintro ⟨⟩ _ ⟨published, rfl⟩
  dsimp only [Draft.finish]
  rw [hobserved]
  split
  · rfl
  · rename_i updated hupdated
    have hwritten : updated = experiment.setStatus draft.status := by
      split at hupdated
      · contradiction
      · exact (Option.some.inj hupdated).symm
    have hfaults : ({ world with published } : World).faults = [] := hfaults
    have hpersisted : Ends (Pass.on .experiment (Store.persistStatus updated))
        { world with published } fun answer _ => ∃ stored, answer = .ok stored := by
      have hplace : world.inventory.experiments.lookup
          (.ofMetadata (experiment.setStatus draft.status).metadata) = some experiment := hstored
      rw [hwritten]
      exact ends_on hfaults ⟨_, congrArg Prod.fst (run_persistStatus hplace rfl)⟩
    refine ends_bind hpersisted ?_
    rintro _ after ⟨stored, rfl⟩
    rfl

structure Succeeds (home : ObjectKey) (experiment : Experiment) (template : Template)
    (name : String) (before : Inventory) (result : Except Failure Action) (after : World) :
    Prop where
  ok : result = .ok .awaitChange
  tends : Tends home experiment template name before after.inventory
  stored : ∃ version status,
    after.inventory.experiments.lookup home = some (restated experiment version status) ∧
      Reported experiment (podsOf experiment before.pods) (status.getD default)
  faults : after.faults = []
  clusters : after.inventory.clusters = before.clusters
  templates : after.inventory.templates = before.templates

theorem ends_reconcile_succeeds (hfaults : world.faults = [])
    (h : Staged home experiment world.inventory)
    (hcoherent : ∀ status, experiment.status = some status → Coherent status)
    (hbound : InputsFound world.inventory experiment cluster template name)
    (himage : template.content.podTemplate.image.isEmpty = false) :
    Ends (reconcile settings experiment) world fun result after =>
      Succeeds home experiment template name world.inventory result after := by
  have hplace := h.owns.place
  unfold reconcile
  rw [h.alive, if_neg (by decide)]
  refine ends_bind (ends_and (ends_runSteps hfaults (.start experiment))
    (ends_runSteps_completesSteps hfaults h hcoherent hbound himage)) ?_
  rintro ⟨draft, outcome⟩ middle ⟨hcourse, hfulfils⟩
  have hstored : middle.inventory.experiments.lookup (.ofMetadata experiment.metadata) =
      some experiment := by
    rw [hcourse.experiments, hplace]
    exact h.stored
  refine ends_bind (ends_and (ends_conclude hcourse.faults hstored hcourse.observed outcome)
    (ends_conclude_ok hcourse.faults hstored hcourse.observed outcome)) ?_
  rintro result after ⟨hconcludes, houtcome⟩
  obtain ⟨experiments, hothers⟩ := hconcludes.only
  obtain ⟨version, told, hafter, htold⟩ := hconcludes.stored
  obtain ⟨_, _, _, _, _, hmiddle⟩ := hfulfils.only
  change Succeeds home experiment template name world.inventory
    (result.aggregate settings.requeueSoon) after
  refine ⟨?_, ?_, ⟨version, told, hplace ▸ hafter, htold ▸ hfulfils.reported⟩, hconcludes.faults,
    ?_, ?_⟩
  · have hok : outcome = .empty := hfulfils.ok
    rw [houtcome, hok]
    rfl
  · obtain ⟨hvolumes, hclaims, hservices, hpods⟩ := hfulfils.tends
    rw [hothers]
    exact ⟨hvolumes, hclaims, hservices, hpods⟩
  · rw [hothers, hmiddle]
  · rw [hothers, hmiddle]

end Pass

end Fleet.Proofs.Experiment.SuccessfulPasses
