import Fleet.Proofs.Experiment.Labels
import Fleet.Proofs.Experiment.WorkloadReadiness

namespace Fleet.Proofs.Experiment.Origins

open Fleet.Experiment
open Fleet.Proofs.Convergence
open Fleet.Proofs.Experiment.Idempotence
open Fleet.Proofs.Experiment.Labels
open Fleet.Proofs.Experiment.Observation
open Fleet.Proofs.Experiment.Plans
open Fleet.Proofs.Experiment.SettledSteps
open Fleet.Proofs.Experiment.Steps
open Fleet.Proofs.Experiment.WorkloadReadiness
open Fleet.Proofs.Rehearsals
open Fleet.Proofs.Stores
open Fleet.Rehearsal

section Plan

variable {C : Type} {plan : ResourcePlan C} {store after : Store C} {drawn : Nat} {name : String}

/-- A plan that converges finds its object, makes it, or writes over it. -/
inductive Brought (plan : ResourcePlan C) (key : ObjectKey) (store after : Store C) : Prop where
  | found (actual : Object C) :
      store.lookup key = some actual → after.objects = store.objects → Brought plan key store after
  | made (uid : Option String) :
      store.lookup key = none →
        after.objects = store.objects.insert key (store.stamp (Store.identify plan.stamped uid)) →
          Brought plan key store after
  | updated (actual object : Object C) (uid : Option String) :
      store.lookup key = some actual → wantsUpdate plan actual = true →
        (plan.beforeUpdate plan.stamped actual).1 = .ok object →
          after.objects = store.objects.insert key (store.stamp (Store.identify object uid)) →
            Brought plan key store after

theorem brought_converge {admits : Object C → Prop} (h : Convergent plan admits)
    (hname : plan.target = .ok name)
    (hstored : ∀ actual, store.lookup (place plan name) = some actual →
      wantsUpdate plan actual = true →
        admits actual ∧ ObjectKey.ofMetadata actual.metadata = place plan name) :
    Brought plan (place plan name) store (plan.converge.run serve (store, drawn)).2.1 := by
  cases hlookup : store.lookup (place plan name) with
  | none =>
      rw [run_converge_absent hname hlookup, run_createExpected h.prepares]
      refine .made (some (identity (drawn + 1))) hlookup ?_
      have hplace := ofMetadata_stamped hname
      rw [add_of_free _ (hplace.symm ▸ hlookup), hplace]
      rfl
  | some actual =>
      rw [run_converge_present h.recreates hname hlookup]
      cases hwants : wantsUpdate plan actual with
      | false => exact .found actual hlookup rfl
      | true =>
          obtain ⟨hadmits, hplaced⟩ := hstored actual hlookup hwants
          obtain ⟨object, hobject, hmetadata, hversion, -⟩ := h.updated actual hadmits hwants
          have hplace := hmetadata.trans hplaced
          rw [if_pos rfl, run_update _ hobject, write_current _ (hplace.symm ▸ hlookup) hversion,
            hplace]
          exact .updated actual object actual.metadata.uid hlookup hwants hobject rfl

theorem ends_brought {kind : Kind} {plan : ResourcePlan kind.Content} {world : World}
    {admits : Object kind.Content → Prop} (hfaults : world.faults = [])
    (h : Convergent plan admits) (hname : plan.target = .ok name)
    (hstored : ∀ actual, (world.inventory.store kind).lookup (place plan name) = some actual →
      wantsUpdate plan actual = true →
        admits actual ∧ ObjectKey.ofMetadata actual.metadata = place plan name) :
    Ends (Pass.on kind plan.reconcile) world fun _ after =>
      Brought plan (place plan name) (world.inventory.store kind) (after.inventory.store kind) := by
  refine ends_on hfaults ?_
  rw [run_reconcile]
  simp only [withStore, Inventory.store_setStore]
  exact brought_converge h hname hstored

theorem lookup_of_brought {key : ObjectKey} (h : Brought plan key store after) :
    ∃ object, after.lookup key = some object := by
  cases h with
  | found actual hactual hobjects => exact ⟨actual, by rw [Store.lookup, hobjects]; exact hactual⟩
  | made uid hnone hobjects => exact ⟨_, by rw [Store.lookup, hobjects]; exact get?_insert_self ..⟩
  | updated actual object uid hactual hwants hobject hobjects =>
      exact ⟨_, by rw [Store.lookup, hobjects]; exact get?_insert_self ..⟩

end Plan

variable {settings : Settings} {experiment : Experiment} {progress : Progress} {world : World}

def selectorIn (service : Service) : Option TextMap :=
  service.content.spec.bind ServiceSpec.selector

/-- Every service is one that was there, with its selector, or it was made for the experiment as it
is. -/
def ServicesFrom (experiment : Experiment) (services after : Store ServiceContent) : Prop :=
  ∀ key service, after.lookup key = some service →
    (∃ old, services.lookup key = some old ∧ selectorIn service = selectorIn old ∧
        ObjectKey.ofMetadata service.metadata = ObjectKey.ofMetadata old.metadata) ∨
      services.lookup key = none ∧ selectorIn service = some (workloadLabels experiment) ∧
        ObjectKey.ofMetadata service.metadata = key

theorem servicesFrom_refl (experiment : Experiment) (services : Store ServiceContent) :
    ServicesFrom experiment services services :=
  fun _ service hservice => .inl ⟨service, hservice, rfl, rfl⟩

theorem selectorIn_patchService (expected actual : Service) :
    selectorIn (patchService expected actual) = selectorIn actual := by
  unfold selectorIn patchService
  cases actual.content.spec <;> rfl

def servicePlace (home : ObjectKey) (protocol : String) : ObjectKey :=
  ⟨home.namespace, serviceName home.name protocol⟩

/-- Nobody has renamed the services of an experiment. -/
def ServicesPlaced (home : ObjectKey) (services : Store ServiceContent) : Prop :=
  ∀ protocol service, services.lookup (servicePlace home protocol) = some service →
    ObjectKey.ofMetadata service.metadata = servicePlace home protocol

/-- What an experiment needs to have to be an owner. -/
structure Owns (home : ObjectKey) (experiment : Experiment) : Prop where
  place : ObjectKey.ofMetadata experiment.metadata = home
  name : experiment.metadata.name = some home.name
  uid : experiment.metadata.uid.isSome

theorem target_ownedBy {C : Type} {home : ObjectKey} (h : Owns home experiment)
    {plan : ResourcePlan C} {name : String} (htarget : plan.target = .ok name) :
    (plan.ownedBy .experiment experiment).target = .ok name := by
  obtain ⟨uid, huid⟩ := Option.isSome_iff_exists.mp h.uid
  have howner : Kind.experiment.ownerReference? experiment = some
      { apiVersion := Kind.experiment.apiVersion, kind := Kind.experiment.title, name := home.name,
        uid, controller := some true } := by
    simp [Kind.ownerReference?, h.name, huid]
  unfold ResourcePlan.ownedBy
  rw [howner]
  exact htarget

theorem servicesFrom_of_brought {home : ObjectKey} {expected : Service}
    {services after : Store ServiceContent} {protocol : String}
    (hselector : selectorIn expected = some (workloadLabels experiment))
    (hplaced : ObjectKey.ofMetadata (ingressPlan experiment expected).stamped.metadata =
      servicePlace home protocol)
    (hbrought : Brought (ingressPlan experiment expected) (servicePlace home protocol) services
      after) :
    ServicesFrom experiment services after := by
  intro key service hservice
  rw [Store.lookup] at hservice
  cases hbrought with
  | found actual hactual hobjects =>
      rw [hobjects] at hservice
      exact .inl ⟨service, hservice, rfl, rfl⟩
  | made uid hnone hobjects =>
      rw [hobjects] at hservice
      by_cases hkey : key = servicePlace home protocol
      · rw [hkey, get?_insert_self] at hservice
        cases hservice
        refine .inr ⟨hkey ▸ hnone, ?_, hplaced.trans hkey.symm⟩
        change (ingressPlan experiment expected).stamped.content.spec.bind _ = _
        rw [content_stamped, ingressPlan, expected_ownedBy]
        exact hselector
      · rw [get?_insert_of_ne hkey] at hservice
        exact .inl ⟨service, hservice, rfl, rfl⟩
  | updated actual object uid hactual hwants hobject hobjects =>
      rw [hobjects] at hservice
      by_cases hkey : key = servicePlace home protocol
      · rw [hkey, get?_insert_self] at hservice
        cases hservice
        unfold ResourcePlan.beforeUpdate at hobject
        rw [ingressPlan, preUpdate_ownedBy] at hobject
        cases hobject
        exact .inl ⟨actual, hkey ▸ hactual, selectorIn_patchService _ actual, rfl⟩
      · rw [get?_insert_of_ne hkey] at hservice
        exact .inl ⟨service, hservice, rfl, rfl⟩

theorem target_ingressPlan {home : ObjectKey} (h : Owns home experiment) (template : Template)
    (ips : List String) :
    (ingressPlan experiment (expectedService experiment template ips)).target =
      .ok (serviceName home.name template.content.protocolName) := by
  refine target_ownedBy h ?_
  have hname : experiment.name = home.name := congrArg ObjectKey.name h.place
  have hnonempty : (serviceName home.name template.content.protocolName).isEmpty = false := by
    simp [serviceName]
  unfold ResourcePlan.target
  simp only [expectedService, hname, hnonempty, Bool.false_eq_true, if_false]

theorem place_ingressPlan {home : ObjectKey} (h : Owns home experiment) (template : Template)
    (ips : List String) :
    place (ingressPlan experiment (expectedService experiment template ips))
        (serviceName home.name template.content.protocolName) =
      servicePlace home template.content.protocolName := by
  rw [place, namespace_stamped, ingressPlan, expected_ownedBy]
  exact congrArg (ObjectKey.mk · _) (congrArg ObjectKey.namespace h.place)

theorem ends_ingress_from {home : ObjectKey} (hfaults : world.faults = [])
    (howns : Owns home progress.experiment)
    (hplaced : ServicesPlaced home world.inventory.services) :
    Ends (reconcileIngress progress) world fun _ after =>
      ServicesFrom progress.experiment world.inventory.services after.inventory.services ∧
        ∃ service, after.inventory.services.lookup
          (servicePlace home progress.dependents.template.content.protocolName) = some service := by
  have htarget := target_ingressPlan howns progress.dependents.template
    progress.dependents.cluster.spec.ingressIPs
  have hplace := place_ingressPlan howns progress.dependents.template
    progress.dependents.cluster.spec.ingressIPs
  have hbrought : Ends (Pass.on .service (ingressPlan progress.experiment
      (expectedService progress.experiment progress.dependents.template
        progress.dependents.cluster.spec.ingressIPs)).reconcile) world fun _ after =>
          Brought _ _ world.inventory.services after.inventory.services :=
    ends_brought hfaults (convergent_ingressPlan _ _) htarget
      fun actual hactual _ => ⟨trivial, hplace ▸ hplaced _ actual (hplace ▸ hactual)⟩
  rw [hplace] at hbrought
  refine ends_bind hbrought fun reconciled after hafter => ⟨?_, lookup_of_brought hafter⟩
  exact servicesFrom_of_brought rfl ((ofMetadata_stamped htarget).trans hplace) hafter

/-- Every pod is one that was there, or it was made for the experiment as it is, under the
experiment's name. -/
def PodsFrom (experiment : Experiment) (pods after : Store PodContent) : Prop :=
  ∀ key pod, after.lookup key = some pod →
    pods.lookup key = some pod ∨
      pods.lookup key = none ∧ key = .ofMetadata experiment.metadata ∧
        pod.metadata.labels = some (dependentLabels experiment)

theorem podsFrom_refl (experiment : Experiment) (pods : Store PodContent) :
    PodsFrom experiment pods pods :=
  fun _ _ hpod => .inl hpod

theorem ends_deletePods_from (hfaults : world.faults = []) (progress : Progress)
    (pods : List Pod) :
    Ends (deletePods progress pods) world fun _ after =>
      ∀ key pod, after.inventory.pods.lookup key = some pod →
        world.inventory.pods.lookup key = some pod := by
  induction pods generalizing progress world with
  | nil => exact fun _ _ hpod => hpod
  | cons pod rest ih =>
      have hafter : (without world pod).faults = [] := hfaults
      have hrest : ∀ next : Progress, Ends (deletePods next rest) (without world pod)
          fun _ after => ∀ key pod, after.inventory.pods.lookup key = some pod →
            world.inventory.pods.lookup key = some pod :=
        fun next => ends_mono (ih hafter next) fun _ _ hsubset key found hfound =>
          lookup_of_lookup_remove (hsubset key found hfound)
      exact ends_deletePods_cons hfaults (hrest progress) fun _ _ _ => hrest _

theorem labels_expectedPod {template : Template} {expected : Pod}
    (h : expectedPod experiment template settings.dataVolume = .ok expected) :
    expected.metadata.labels = some (dependentLabels experiment) := by
  unfold expectedPod at h
  dsimp only at h
  split at h
  · contradiction
  · cases h
    rfl

theorem podsFrom_of_brought {expected : Pod} {pods after : Store PodContent} {key : ObjectKey}
    (hlabels : expected.metadata.labels = some (dependentLabels experiment))
    (hkey : key = .ofMetadata experiment.metadata)
    (hbrought : Brought (podPlan experiment expected) key pods after) :
    PodsFrom experiment pods after := by
  intro other pod hpod
  rw [Store.lookup] at hpod
  cases hbrought with
  | found actual hactual hobjects =>
      rw [hobjects] at hpod
      exact .inl hpod
  | made uid hnone hobjects =>
      rw [hobjects] at hpod
      by_cases hother : other = key
      · rw [hother, get?_insert_self] at hpod
        cases hpod
        refine .inr ⟨hother ▸ hnone, hother.trans hkey, ?_⟩
        change (podPlan experiment expected).stamped.metadata.labels = _
        rw [labels_stamped, podPlan, expected_ownedBy]
        exact hlabels
      · rw [get?_insert_of_ne hother] at hpod
        exact .inl hpod
  | updated actual object uid hactual hwants hobject hobjects =>
      rw [wantsUpdate_of_needUpdate (needUpdate_ownedBy ..)] at hwants
      contradiction

theorem ends_startWorkload_from (hfaults : world.faults = []) :
    Ends (startWorkload settings progress) world fun _ after =>
      PodsFrom progress.experiment world.inventory.pods after.inventory.pods := by
  unfold startWorkload
  dsimp only
  cases hexpected : expectedPod progress.experiment progress.dependents.template
      settings.dataVolume with
  | error failure => exact podsFrom_refl _ _
  | ok expected =>
      have hplanned : Ends (Pass.on .pod (podPlan progress.experiment expected).reconcile) world
          fun _ after => PodsFrom progress.experiment world.inventory.pods
            after.inventory.pods := by
        cases htarget : (podPlan progress.experiment expected).target with
        | error failure =>
            refine ends_on hfaults ?_
            rw [run_reconcile]
            unfold ResourcePlan.converge
            rw [htarget]
            exact podsFrom_refl _ _
        | ok name =>
            refine ends_mono (ends_brought hfaults (convergent_podPlan expected) htarget
              fun actual _ hwants => ?_) fun _ after hbrought => ?_
            · rw [wantsUpdate_of_needUpdate (needUpdate_ownedBy ..)] at hwants
              contradiction
            · rw [place_podPlan hexpected htarget] at hbrought
              exact podsFrom_of_brought (labels_expectedPod hexpected) rfl hbrought
      exact ends_bind hplanned fun _ _ hfrom => hfrom

theorem ends_workload_from (hfaults : world.faults = []) :
    Ends (reconcileWorkload settings progress) world fun _ after =>
      PodsFrom progress.experiment world.inventory.pods after.inventory.pods := by
  refine ends_bind (ends_clock world) ?_
  rintro _ _ ⟨rfl, rfl⟩
  split
  · exact ends_mono (ends_deletePods_from hfaults _ _) fun _ _ hsubset key pod hpod =>
      .inl (hsubset key pod hpod)
  · split
    · exact ends_startWorkload_from hfaults
    · exact podsFrom_refl _ _

/-- What the steps of a pass do to services and pods. -/
structure Provides (experiment : Experiment) (world after : World) : Prop where
  services : ServicesFrom experiment world.inventory.services after.inventory.services
  pods : PodsFrom experiment world.inventory.pods after.inventory.pods

/-- The service for the protocol of the experiment's template is there. -/
def Served (home : ObjectKey) (experiment : Experiment) (inventory : Inventory) : Prop :=
  ∃ template, inventory.templates.lookup ⟨home.namespace, experiment.spec.template⟩ =
      some template ∧
    ∃ service, inventory.services.lookup (servicePlace home template.content.protocolName) =
      some service

theorem lookup_of_needed {inventory : Inventory} {kind : Kind} {ns : Option String} {name : String}
    {found : Object kind.Content} (h : needed inventory kind ns name = .ok found) :
    (inventory.store kind).lookup ⟨ns, name⟩ = some found := by
  unfold needed at h
  split at h
  · contradiction
  · rename_i other hother
    rw [hother, Except.ok.inj h]

theorem workload_of_attends {told telling : Bool} {before after : Store PodContent}
    (h : Attends experiment told telling before after) :
    ∃ pod, workload experiment after = some pod := by
  cases hlisted : podsOf experiment before with
  | nil =>
      obtain ⟨-, ⟨pod, -, hafter⟩ | ⟨-, pod, hafter, -⟩⟩ := h.started hlisted
      · exact ⟨pod, hafter⟩
      · exact ⟨pod, hafter⟩
  | cons pod rest => exact ⟨pod, (h.found pod (by simp [hlisted])).2⟩

section

variable {home : ObjectKey} (hfaults : world.faults = [])
  (hplaced : ServicesPlaced home world.inventory.services)

include hfaults hplaced

theorem ends_runDependents_from {cluster : Cluster} {template : Template} {name : String}
    {draft : StatusDraft} (howns : Owns home draft.observed)
    (hbound : InputsFound world.inventory draft.observed cluster template name)
    (outcome : Outcome) :
    Ends (runDependents settings
        ⟨draft, dependentsIn world.inventory draft.observed cluster template name, outcome⟩) world
      fun _ after => Provides draft.observed world after ∧
        Served home draft.observed after.inventory := by
  obtain ⟨observed, status, events⟩ := draft
  refine ends_bind (ends_reconcileVolume hfaults hbound.volume) ?_
  rintro ⟨⟨_, _, events⟩, _, outcome⟩ after ⟨⟨⟨volumes, rfl⟩, -, -⟩, ⟨⟩, ⟨⟩, ⟨⟩⟩
  refine ends_bind (ends_reconcileClaim hfaults hbound.volume) ?_
  rintro ⟨⟨_, _, events⟩, _, outcome⟩ after ⟨⟨⟨claims, rfl⟩, -, -⟩, ⟨⟩, ⟨⟩, ⟨⟩⟩
  refine ends_bind
    (ends_and (ends_reconcileIngress hfaults) (ends_ingress_from hfaults howns hplaced)) ?_
  rintro ⟨⟨_, _, events⟩, _, outcome⟩ after
    ⟨⟨⟨⟨services, rfl⟩, -, -⟩, ⟨⟩, ⟨⟩, ⟨⟩⟩, hservices, service, hservice⟩
  refine ends_mono (ends_and (ends_reconcileWorkload hfaults rfl) (ends_workload_from hfaults)) ?_
  rintro result after ⟨hsees, hpods⟩
  obtain ⟨⟨pods, rfl⟩, -, -⟩ := hsees.attains
  have hnamespace : observed.metadata.namespace = home.namespace :=
    congrArg ObjectKey.namespace howns.place
  exact ⟨⟨hservices, hpods⟩, template, hnamespace ▸ lookup_of_needed hbound.template, service,
    hservice⟩

theorem ends_runSteps_from {draft : StatusDraft} (howns : Owns home draft.observed) :
    Ends (runSteps settings draft) world fun result after =>
      Provides draft.observed world after ∧
        (result.2.failure = none → Served home draft.observed after.inventory) := by
  obtain ⟨observed, status, events⟩ := draft
  obtain ⟨greeted, notes, hgreet, -, -⟩ := greet_eq observed status events world.now
  unfold runSteps
  refine ends_bind (ends_clock world) ?_
  rintro _ _ ⟨rfl, rfl⟩
  dsimp only
  rw [hgreet]
  refine ends_bind (ends_resolve hfaults observed) ?_
  rintro found _ ⟨hfound, rfl⟩
  cases found with
  | error failure =>
      exact ⟨⟨servicesFrom_refl _ _, podsFrom_refl _ _⟩, nofun⟩
  | ok dependents =>
      obtain ⟨cluster, template, name, hbound, rfl⟩ := inputsFound_of_observe hfound.symm
      dsimp only
      rw [steps_eq]
      have hprovides : Ends (runDependents settings ⟨⟨observed, greeted, notes⟩,
          dependentsIn world.inventory observed cluster template name, .empty⟩) world
            fun _ after => Provides observed world after ∧
              Served home observed after.inventory := by
        refine ends_runDependents_from hfaults hplaced ?_ hbound .empty
        exact howns
      exact ends_bind hprovides fun _ _ hafter => ⟨hafter.1, fun _ => hafter.2⟩

/-- What a pass over an experiment leaves behind. -/
structure PassLeaves (home : ObjectKey) (experiment : Experiment) (world after : World) : Prop where
  faults : after.faults = []
  stored : ∃ version status, after.inventory.experiments.lookup home =
    some (restated experiment version status)
  provides : Provides experiment world after

/-- What a successful pass over an experiment that is not paused leaves behind besides. -/
structure Runs (home : ObjectKey) (experiment : Experiment) (inventory : Inventory) : Prop where
  served : Served home experiment inventory
  workload : ∃ pod, workload experiment inventory.pods = some pod

theorem ends_reconcile_from (howns : Owns home experiment)
    (hdeleted : experiment.metadata.deletionTimestamp = none)
    (hstored : world.inventory.experiments.lookup home = some experiment) :
    Ends (reconcile settings experiment) world fun result after =>
      PassLeaves home experiment world after ∧
        ∀ action, result = .ok action → experiment.spec.pause = false →
          Runs home experiment after.inventory := by
  obtain rfl := howns.place
  unfold reconcile
  rw [hdeleted, if_neg (by decide)]
  have hattends : Ends (runSteps settings (.start experiment)) world fun result after =>
      experiment.spec.pause = false → result.2.failure = none →
        Attends experiment (tellsReady (experiment.status.getD default))
          (tellsReady result.1.status) world.inventory.pods after.inventory.pods :=
    fun hpause => attends_runSteps hfaults hpause
  refine ends_bind (ends_and (ends_runSteps hfaults (.start experiment))
    (ends_and (ends_runSteps_from hfaults hplaced howns) hattends)) ?_
  rintro ⟨draft, outcome⟩ middle ⟨hcourse, ⟨hprovides, hserved⟩, hattends⟩
  have hstored : middle.inventory.experiments.lookup (.ofMetadata experiment.metadata) =
      some experiment := hcourse.experiments ▸ hstored
  refine ends_bind (ends_and (ends_conclude hcourse.faults hstored hcourse.observed outcome)
    (ends_conclude_failure draft outcome middle)) ?_
  rintro result after ⟨hconcludes, hfailure⟩
  obtain ⟨version, told, hafter, -⟩ := hconcludes.stored
  obtain ⟨experiments, hothers⟩ := hconcludes.only
  refine ⟨⟨hconcludes.faults, ⟨version, told, hafter⟩, ?_⟩, fun action hok hpause => ?_⟩
  · exact ⟨hothers ▸ hprovides.services, hothers ▸ hprovides.pods⟩
  · have hnone := hfailure (failure_of_aggregate hok)
    change Runs _ experiment after.inventory
    rw [hothers]
    exact ⟨hserved hnone, workload_of_attends (hattends hpause hnone)⟩

end

end Fleet.Proofs.Experiment.Origins
