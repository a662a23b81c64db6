import Fleet.Proofs.Experiment.Origins

namespace Fleet.Proofs.Experiment.ServiceSelection

open Fleet.Experiment
open Fleet.Proofs.Experiment.Idempotence
open Fleet.Proofs.Experiment.Labels
open Fleet.Proofs.Experiment.Observation
open Fleet.Proofs.Experiment.Origins
open Fleet.Proofs.Experiment.Readiness
open Fleet.Proofs.Experiment.WorkloadReadiness
open Fleet.Proofs.Rehearsals
open Fleet.Proofs.Stores
open Fleet.Rehearsal

/-- Every label that the service selects by is one of the pod's labels. -/
def Selects (service : Service) (pod : Pod) : Prop :=
  ∀ key value, (selectorIn service).bind (·.get? key) = some value →
    pod.metadata.label? key = some value

theorem selects_iff {maker starter : Experiment} {service : Service} {pod : Pod}
    (hname : maker.name = starter.name)
    (hservice : selectorIn service = some (workloadLabels maker))
    (hpod : pod.metadata.labels = some (dependentLabels starter)) :
    Selects service pod ↔ maker.spec.clusterName = starter.spec.clusterName := by
  unfold Selects Metadata.label?
  rw [hservice, hpod]
  constructor
  · intro hselects
    have hcluster := hselects clusterLabel _ (get?_workloadLabels_cluster maker)
    exact (Option.some.inj ((get?_dependentLabels_cluster starter).symm.trans hcluster)).symm
  · intro hcluster key value hvalue
    rcases get?_workloadLabels hvalue with ⟨rfl, rfl⟩ | ⟨rfl, rfl⟩
    · exact hname ▸ get?_dependentLabels_name starter
    · exact hcluster ▸ get?_dependentLabels_cluster starter

/-- A world, with a note of the cluster that the experiment named when each of its services came
about, and when its pod did. -/
structure Scene where
  world : World
  served : ObjectKey → Option String := fun _ => none
  started : Option String := none

inductive Move where
  | pass (settings : Settings) (now : Instant)
  | edit (change : ExperimentSpec → ExperimentSpec)
  | rearrange (clusters : Store ClusterContent) (templates : Store TemplateSpec)
  | removePod
  | report (status : Option PodStatus)

def comesAbout {C : Type} (before after : Store C) (key : ObjectKey) : Bool :=
  (before.lookup key).isNone && (after.lookup key).isSome

theorem comesAbout_eq_false {C : Type} {before : Store C} {key : ObjectKey} {object : Object C}
    (h : before.lookup key = some object) (after : Store C) :
    comesAbout before after key = false := by
  simp [comesAbout, h]

theorem comesAbout_eq_true {C : Type} {before after : Store C} {key : ObjectKey}
    {object : Object C} (h : before.lookup key = none) (hafter : after.lookup key = some object) :
    comesAbout before after key = true := by
  simp [comesAbout, h, hafter]

namespace Scene

/-- The scene after a pass over an experiment has led to a world. -/
def note (scene : Scene) (home : ObjectKey) (cluster : String) (after : World) : Scene :=
  let before := scene.world.inventory
  { world := after
    served := fun key =>
      if comesAbout before.services after.inventory.services key then some cluster
      else scene.served key
    started :=
      if comesAbout before.pods after.inventory.pods home then some cluster else scene.started }

def move (home : ObjectKey) (scene : Scene) : Move → Scene
  | .pass settings now =>
      match scene.world.inventory.experiments.lookup home with
      | none => scene
      | some experiment =>
          scene.note home experiment.spec.clusterName (passOver settings home scene.world now)
  | .edit change =>
      let edited := scene.world.mutate .experiment home fun experiment =>
        { experiment with
          content := { experiment.content with spec := change experiment.content.spec } }
      { scene with world := edited.2 }
  | .rearrange clusters templates =>
      let inventory := { scene.world.inventory with clusters, templates }
      { scene with world := { scene.world with inventory } }
  | .removePod => { scene with world := (scene.world.remove .pod home).2 }
  | .report status =>
      let reported := scene.world.mutate .pod home fun pod =>
        { pod with content := { pod.content with status } }
      { scene with world := reported.2 }

def run (home : ObjectKey) (world : World) (moves : List Move) : Scene :=
  moves.foldl (move home) { world }

end Scene

/-- An experiment is stored, and nothing has been made for it. -/
structure NothingMade (home : ObjectKey) (world : World) : Prop where
  faults : world.faults = []
  stored : ∃ experiment, world.inventory.experiments.lookup home = some experiment ∧
    Owns home experiment
  services : ∀ protocol, world.inventory.services.lookup (servicePlace home protocol) = none
  pods : ∀ key pod, world.inventory.pods.lookup key = some pod →
    key ≠ home ∧ ¬ Picked home.namespace (some (selectorOf home.name)) key pod

/-- The service was made for the experiment when it named the cluster. -/
def MadeFor (home : ObjectKey) (cluster : Option String) (service : Service) : Prop :=
  ∃ maker : Experiment, maker.name = home.name ∧ cluster = some maker.spec.clusterName ∧
    selectorIn service = some (workloadLabels maker)

/-- The pod was made for the experiment when it named the cluster. -/
def StartedFor (home : ObjectKey) (cluster : Option String) (pod : Pod) : Prop :=
  ∃ starter : Experiment, starter.name = home.name ∧ cluster = some starter.spec.clusterName ∧
    pod.metadata.labels = some (dependentLabels starter)

structure MakersRecorded (home : ObjectKey) (scene : Scene) : Prop where
  faults : scene.world.faults = []
  stored : ∃ experiment, scene.world.inventory.experiments.lookup home = some experiment ∧
    Owns home experiment
  placed : ServicesPlaced home scene.world.inventory.services
  services : ∀ protocol service,
    scene.world.inventory.services.lookup (servicePlace home protocol) = some service →
      MadeFor home (scene.served (servicePlace home protocol)) service
  /-- No other pod has got the experiment's label. -/
  only : ∀ key pod, scene.world.inventory.pods.lookup key = some pod →
    Picked home.namespace (some (selectorOf home.name)) key pod → key = home
  pods : ∀ pod, scene.world.inventory.pods.lookup home = some pod →
    StartedFor home scene.started pod

variable {home : ObjectKey} {scene : Scene} {world : World}

theorem makersRecorded_of_nothingMade (h : NothingMade home world) :
    MakersRecorded home { world } := by
  refine ⟨h.faults, h.stored, ?_, ?_, ?_, ?_⟩
  · intro protocol service hservice
    exact nomatch (h.services protocol).symm.trans hservice
  · intro protocol service hservice
    exact nomatch (h.services protocol).symm.trans hservice
  · exact fun key pod hpod hpicked => absurd hpicked (h.pods key pod hpod).2
  · exact fun pod hpod => absurd rfl (h.pods home pod hpod).1

theorem makersRecorded_edit (h : MakersRecorded home scene)
    (change : ExperimentSpec → ExperimentSpec) :
    MakersRecorded home (scene.move home (.edit change)) := by
  obtain ⟨experiment, hstored, howns⟩ := h.stored
  unfold Scene.move
  dsimp only
  rw [mutate_snd]
  refine ⟨h.faults, ⟨_, lookup_mutate_self hstored _, ?_⟩, h.placed, h.services, h.only, h.pods⟩
  exact ⟨howns.place, howns.name, howns.uid⟩

/-- Pods may lose their status or be gone, but they keep their labels. -/
theorem makersRecorded_of_pods {pods : Store PodContent} (h : MakersRecorded home scene)
    (hpods : ∀ key pod, pods.lookup key = some pod →
      ∃ old, scene.world.inventory.pods.lookup key = some old ∧
        pod.metadata.labels = old.metadata.labels) :
    MakersRecorded home { scene with world := scene.world.setStore .pod pods } := by
  refine ⟨h.faults, h.stored, h.placed, h.services, fun key pod hpod hpicked => ?_,
    fun pod hpod => ?_⟩
  · obtain ⟨old, hold, hlabels⟩ := hpods key pod hpod
    refine h.only key old hold ⟨hpicked.1, fun text htext => ?_⟩
    have hselects := hpicked.2 text htext
    unfold Selector.selects at hselects ⊢
    rwa [← hlabels]
  · obtain ⟨old, hold, hlabels⟩ := hpods home pod hpod
    obtain ⟨starter, hname, hcluster, hstarted⟩ := h.pods old hold
    exact ⟨starter, hname, hcluster, hlabels.trans hstarted⟩

theorem makersRecorded_report (h : MakersRecorded home scene) (status : Option PodStatus) :
    MakersRecorded home (scene.move home (.report status)) := by
  unfold Scene.move
  dsimp only
  rw [mutate_snd]
  refine makersRecorded_of_pods h fun key pod hpod => ?_
  rcases lookup_of_lookup_mutate hpod with hold | ⟨hkey, old, hold, hpod⟩
  · exact ⟨pod, hold, rfl⟩
  · exact ⟨old, hkey ▸ hold, congrArg (·.metadata.labels) hpod⟩

theorem makersRecorded_removePod (h : MakersRecorded home scene) :
    MakersRecorded home (scene.move home .removePod) := by
  unfold Scene.move
  dsimp only
  rw [remove_snd]
  exact makersRecorded_of_pods h fun key pod hpod => ⟨pod, lookup_of_lookup_remove hpod, rfl⟩

theorem makersRecorded_note {experiment : Experiment} {after : World}
    (h : MakersRecorded home scene)
    (howns : Owns home experiment) (hleaves : PassLeaves home experiment scene.world after) :
    MakersRecorded home (scene.note home experiment.spec.clusterName after) := by
  have hname : experiment.name = home.name := congrArg ObjectKey.name howns.place
  obtain ⟨version, status, hstored⟩ := hleaves.stored
  refine ⟨hleaves.faults, ⟨_, hstored, ?_⟩, fun protocol service hservice => ?_,
    fun protocol service hservice => ?_, fun key pod hpod hpicked => ?_, fun pod hpod => ?_⟩
  · exact ⟨howns.place, howns.name, howns.uid⟩
  · rcases hleaves.provides.services _ service hservice with
      ⟨old, hold, -, hplace⟩ | ⟨-, -, hplace⟩
    · exact hplace.trans (h.placed protocol old hold)
    · exact hplace
  · change after.inventory.services.lookup _ = some service at hservice
    unfold Scene.note
    dsimp only
    rcases hleaves.provides.services _ service hservice with
      ⟨old, hold, hselector, -⟩ | ⟨hnone, hselector, -⟩
    · rw [comesAbout_eq_false hold, if_neg Bool.false_ne_true]
      obtain ⟨maker, hmaker, hcluster, hmade⟩ := h.services protocol old hold
      exact ⟨maker, hmaker, hcluster, hselector.trans hmade⟩
    · rw [comesAbout_eq_true hnone hservice, if_pos rfl]
      exact ⟨experiment, hname, rfl, hselector⟩
  · rcases hleaves.provides.pods key pod hpod with hold | ⟨-, hkey, -⟩
    · exact h.only key pod hold hpicked
    · exact hkey.trans howns.place
  · change after.inventory.pods.lookup home = some pod at hpod
    unfold Scene.note
    dsimp only
    rcases hleaves.provides.pods home pod hpod with hold | ⟨hnone, -, hlabels⟩
    · rw [comesAbout_eq_false hold, if_neg Bool.false_ne_true]
      exact h.pods pod hold
    · rw [comesAbout_eq_true hnone hpod, if_pos rfl]
      exact ⟨experiment, hname, rfl, hlabels⟩

theorem ends_pass {experiment : Experiment} (h : MakersRecorded home scene)
    (howns : Owns home experiment)
    (hdeleted : experiment.metadata.deletionTimestamp = none)
    (hstored : scene.world.inventory.experiments.lookup home = some experiment)
    (settings : Settings) (now : Instant) :
    Ends (reconcile settings experiment) { scene.world with now } fun result after =>
      PassLeaves home experiment scene.world after ∧
        ∀ action, result = .ok action → experiment.spec.pause = false →
          Runs home experiment after.inventory := by
  refine ends_mono (ends_reconcile_from h.faults h.placed howns hdeleted hstored) ?_
  rintro result after ⟨hleaves, hruns⟩
  have hprovides := hleaves.provides
  exact ⟨⟨hleaves.faults, hleaves.stored, hprovides.services, hprovides.pods⟩, hruns⟩

theorem passLeaves_pass {experiment : Experiment} (h : MakersRecorded home scene)
    (howns : Owns home experiment)
    (hstored : scene.world.inventory.experiments.lookup home = some experiment)
    (settings : Settings) (now : Instant) :
    PassLeaves home experiment scene.world
      ({ scene.world with now }.perform (reconcile settings experiment)).2 := by
  cases hdeleted : experiment.metadata.deletionTimestamp with
  | some deletion =>
      unfold reconcile
      rw [hdeleted, if_pos (by rfl)]
      exact ⟨h.faults, ⟨_, _, hstored⟩, servicesFrom_refl _ _, podsFrom_refl _ _⟩
  | none => exact (ends_pass h howns hdeleted hstored settings now).1

theorem pass_eq_note {experiment : Experiment}
    (hstored : scene.world.inventory.experiments.lookup home = some experiment)
    (settings : Settings) (now : Instant) :
    scene.move home (.pass settings now) = scene.note home experiment.spec.clusterName
      ({ scene.world with now }.perform (reconcile settings experiment)).2 := by
  unfold Scene.move passOver
  simp only [hstored]

theorem makersRecorded_pass (h : MakersRecorded home scene) (settings : Settings) (now : Instant) :
    MakersRecorded home (scene.move home (.pass settings now)) := by
  obtain ⟨experiment, hstored, howns⟩ := h.stored
  rw [pass_eq_note hstored]
  exact makersRecorded_note h howns (passLeaves_pass h howns hstored settings now)

theorem makersRecorded_move (h : MakersRecorded home scene) (move : Move) :
    MakersRecorded home (scene.move home move) := by
  cases move with
  | pass settings now => exact makersRecorded_pass h settings now
  | edit change => exact makersRecorded_edit h change
  | rearrange clusters templates =>
      exact ⟨h.faults, h.stored, h.placed, h.services, h.only, h.pods⟩
  | removePod => exact makersRecorded_removePod h
  | report status => exact makersRecorded_report h status

theorem makersRecorded_run (h : NothingMade home world) (moves : List Move) :
    MakersRecorded home (Scene.run home world moves) :=
  List.foldlRecOn moves (Scene.move home) (makersRecorded_of_nothingMade h)
    fun _ hmakers move _ => makersRecorded_move hmakers move

/-- The service for the protocol of the experiment's template is there, and so is the pod. -/
structure Manned (home : ObjectKey) (experiment : Experiment) (inventory : Inventory)
    (template : Template) (service : Service) (pod : Pod) : Prop where
  service : inventory.services.lookup (servicePlace home template.content.protocolName) =
    some service
  pod : inventory.pods.lookup home = some pod
  template : inventory.templates.lookup ⟨home.namespace, experiment.spec.template⟩ = some template

theorem lookup_of_workload {experiment : Experiment} {pod : Pod} (h : MakersRecorded home scene)
    (howns : Owns home experiment)
    (hworkload : workload experiment scene.world.inventory.pods = some pod) :
    scene.world.inventory.pods.lookup home = some pod := by
  obtain rfl := howns.place
  unfold workload at hworkload
  cases hlisted : (podsOf experiment scene.world.inventory.pods).head? with
  | none =>
      rw [hlisted] at hworkload
      exact hworkload
  | some found =>
      rw [hlisted] at hworkload
      cases hworkload
      obtain ⟨key, hpod, hpicked⟩ := mem_select.mp (List.mem_of_mem_head? hlisted)
      exact h.only key pod hpod hpicked ▸ hpod

variable {settings : Settings} {now : Instant} {experiment : Experiment} {action : Action}

theorem manned_of_pass (h : MakersRecorded home scene)
    (hstored : scene.world.inventory.experiments.lookup home = some experiment)
    (hdeleted : experiment.metadata.deletionTimestamp = none)
    (hpause : experiment.spec.pause = false)
    (hpass : ({ scene.world with now }.perform (reconcile settings experiment)).1 = .ok action) :
    ∃ template service pod,
      Manned home experiment (scene.move home (.pass settings now)).world.inventory template
        service pod := by
  obtain ⟨_, hfound, howns⟩ := h.stored
  cases hfound.symm.trans hstored
  have hruns := (ends_pass h howns hdeleted hstored settings now).2 action hpass hpause
  have hmakers := makersRecorded_pass h settings now
  rw [pass_eq_note hstored] at hmakers ⊢
  obtain ⟨template, htemplate, service, hservice⟩ := hruns.served
  obtain ⟨pod, hpod⟩ := hruns.workload
  exact ⟨template, service, pod, hservice, lookup_of_workload hmakers howns hpod, htemplate⟩

theorem selects_iff_of_makersRecorded {template : Template} {service : Service} {pod : Pod}
    (h : MakersRecorded home scene)
    (hmanned : Manned home experiment scene.world.inventory template service pod) :
    ∃ served started,
      scene.served (servicePlace home template.content.protocolName) = some served ∧
        scene.started = some started ∧ (Selects service pod ↔ served = started) := by
  obtain ⟨maker, hmaker, hserved, hmade⟩ := h.services _ service hmanned.service
  obtain ⟨starter, hstarter, hstarted, hlabels⟩ := h.pods pod hmanned.pod
  exact ⟨_, _, hserved, hstarted, selects_iff (hmaker.trans hstarter.symm) hmade hlabels⟩

/-- A successful pass that is not paused leaves service and pod behind, unless the experiment is
being deleted. The service selects the pod exactly if the experiment named the same cluster when
each of them came about. -/
theorem service_selects_pod_iff (hfresh : NothingMade home world) (moves : List Move)
    (hstored : (Scene.run home world moves).world.inventory.experiments.lookup home =
      some experiment)
    (hpause : experiment.spec.pause = false)
    (hpass : ({ (Scene.run home world moves).world with now }.perform
      (reconcile settings experiment)).1 = .ok action) :
    let after := (Scene.run home world moves).move home (.pass settings now)
    (experiment.metadata.deletionTimestamp = none →
        ∃ template service pod,
          Manned home experiment after.world.inventory template service pod) ∧
      ∀ template service pod, Manned home experiment after.world.inventory template service pod →
        ∃ served started,
          after.served (servicePlace home template.content.protocolName) = some served ∧
            after.started = some started ∧ (Selects service pod ↔ served = started) := by
  have hmakers := makersRecorded_run hfresh moves
  exact ⟨fun hdeleted => manned_of_pass hmakers hstored hdeleted hpause hpass,
    fun _ _ _ hmanned =>
      selects_iff_of_makersRecorded (makersRecorded_pass hmakers settings now) hmanned⟩

/-- The laboratory without its pod, and with a second cluster. -/
def bare : World :=
  ((lab.remove .pod labKey).2.insert .cluster
    { metadata := labMetadata "attic", content := { spec := {} } }).2

theorem nothingMade_bare : NothingMade labKey bare where
  faults := rfl
  stored := ⟨labExperiment, by decide, rfl, rfl, rfl⟩
  services := fun _ => rfl
  pods := forall_lookup_iff.mpr fun entry hentry => by
    have hempty : bare.inventory.pods.objects.entries = [] := by rfl
    rw [hempty] at hentry
    exact absurd hentry List.not_mem_nil

/-- After its first pass the experiment is moved to the attic, and its pod is lost. -/
def relocated : Scene :=
  Scene.run labKey bare
    [.pass {} .epoch, .edit fun spec => { spec with clusterName := "attic" }, .removePod]

theorem service_selects_pod_iff_when_relocated :
    ∃ experiment, relocated.world.inventory.experiments.lookup labKey = some experiment ∧
      (experiment.metadata.deletionTimestamp = none →
        ∃ template service pod,
          Manned labKey experiment (relocated.move labKey (.pass {} .epoch)).world.inventory
            template service pod) ∧
      ∀ template service pod,
        Manned labKey experiment (relocated.move labKey (.pass {} .epoch)).world.inventory template
            service pod →
          ∃ served started,
            (relocated.move labKey (.pass {} .epoch)).served
                (servicePlace labKey template.content.protocolName) = some served ∧
              (relocated.move labKey (.pass {} .epoch)).started = some started ∧
                (Selects service pod ↔ served = started) := by
  have hpass : (relocated.world.inventory.experiments.lookup labKey).map (fun experiment =>
      (experiment.spec.pause,
        ({ relocated.world with now := .epoch }.perform
          (reconcile {} experiment)).1.toOption)) = some (false, some .awaitChange) := by
    decide +kernel
  obtain ⟨experiment, hstored, hexperiment⟩ := Option.map_eq_some_iff.mp hpass
  obtain ⟨hpause, hpass⟩ := Prod.mk.inj hexperiment
  exact ⟨experiment, hstored,
    service_selects_pod_iff nothingMade_bare _ hstored hpause (ok_of_toOption hpass)⟩

/-- The service still selects by the cellar, and misses the pod in the attic. -/
theorem not_selects_of_relocated :
    NothingMade labKey bare ∧ (bare.perform (reconcile {} labExperiment)).1 = .ok .awaitChange ∧
      ∃ experiment, relocated.world.inventory.experiments.lookup labKey = some experiment ∧
        experiment.spec.pause = false ∧
        ({ relocated.world with now := .epoch }.perform (reconcile {} experiment)).1 =
          .ok .awaitChange ∧
        ∃ template service pod,
          Manned labKey experiment (relocated.move labKey (.pass {} .epoch)).world.inventory
              template service pod ∧
            ¬ Selects service pod := by
  have hfirst : (bare.perform (reconcile {} labExperiment)).1.toOption = some .awaitChange := by
    decide +kernel
  have hpass : (relocated.world.inventory.experiments.lookup labKey).map (fun experiment =>
      (experiment.spec.pause, experiment.spec.template,
        ({ relocated.world with now := .epoch }.perform
          (reconcile {} experiment)).1.toOption)) = some (false, "maze", some .awaitChange) := by
    decide +kernel
  have htemplate : ((relocated.move labKey (.pass {} .epoch)).world.inventory.templates.lookup
      ⟨some "lab", "maze"⟩).map (·.content.protocolName) = some "ssh" := by
    decide +kernel
  have hservice : ((relocated.move labKey (.pass {} .epoch)).world.inventory.services.lookup
      (servicePlace labKey "ssh")).map (fun service =>
        (selectorIn service).bind (·.get? clusterLabel)) = some (some "cellar") := by
    decide +kernel
  have hpod : ((relocated.move labKey (.pass {} .epoch)).world.inventory.pods.lookup labKey).map
      (·.metadata.label? clusterLabel) = some (some "attic") := by
    decide +kernel
  obtain ⟨experiment, hstored, hexperiment⟩ := Option.map_eq_some_iff.mp hpass
  obtain ⟨hpause, hrest⟩ := Prod.mk.inj hexperiment
  obtain ⟨hmaze, hpass⟩ := Prod.mk.inj hrest
  obtain ⟨template, htemplate, hprotocol⟩ := Option.map_eq_some_iff.mp htemplate
  obtain ⟨service, hservice, hcellar⟩ := Option.map_eq_some_iff.mp hservice
  obtain ⟨pod, hpod, hattic⟩ := Option.map_eq_some_iff.mp hpod
  refine ⟨nothingMade_bare, ok_of_toOption hfirst, experiment, hstored, hpause,
    ok_of_toOption hpass,
    template, service, pod, ⟨hprotocol ▸ hservice, hpod, hmaze ▸ htemplate⟩, fun hselects => ?_⟩
  have hmissed := hattic.symm.trans (hselects clusterLabel "cellar" hcellar)
  exact absurd hmissed (by decide)

/-- An edit that does not name another cluster, or any other move. -/
def Move.KeepsCluster : Move → Prop
  | .edit change => ∀ spec, (change spec).clusterName = spec.clusterName
  | _ => True

/-- The experiment names the cluster, and whatever was made for it was made when it did so. -/
structure Loyal (home : ObjectKey) (cluster : String) (scene : Scene) : Prop where
  stored : ∃ experiment, scene.world.inventory.experiments.lookup home = some experiment ∧
    experiment.spec.clusterName = cluster
  served : ∀ key named, scene.served key = some named → named = cluster
  started : ∀ named, scene.started = some named → named = cluster

variable {cluster : String}

theorem loyal_pass (h : MakersRecorded home scene) (hloyal : Loyal home cluster scene)
    (settings : Settings) (now : Instant) :
    Loyal home cluster (scene.move home (.pass settings now)) := by
  obtain ⟨experiment, hstored, howns⟩ := h.stored
  obtain ⟨_, hfound, hcluster⟩ := hloyal.stored
  cases hstored.symm.trans hfound
  obtain ⟨version, status, hafter⟩ := (passLeaves_pass h howns hstored settings now).stored
  rw [pass_eq_note hstored]
  refine ⟨⟨_, hafter, hcluster⟩, fun key named hnamed => ?_, fun named hnamed => ?_⟩
  · unfold Scene.note at hnamed
    dsimp only at hnamed
    split at hnamed
    · exact (Option.some.inj hnamed).symm.trans hcluster
    · exact hloyal.served key named hnamed
  · unfold Scene.note at hnamed
    dsimp only at hnamed
    split at hnamed
    · exact (Option.some.inj hnamed).symm.trans hcluster
    · exact hloyal.started named hnamed

theorem loyal_move (h : MakersRecorded home scene) (hloyal : Loyal home cluster scene) {move : Move}
    (hkeeps : move.KeepsCluster) : Loyal home cluster (scene.move home move) := by
  cases move with
  | pass settings now => exact loyal_pass h hloyal settings now
  | edit change =>
      obtain ⟨experiment, hstored, hcluster⟩ := hloyal.stored
      unfold Scene.move
      dsimp only
      rw [mutate_snd]
      exact ⟨⟨_, lookup_mutate_self hstored _, (hkeeps experiment.spec).trans hcluster⟩,
        hloyal.served, hloyal.started⟩
  | rearrange clusters templates => exact ⟨hloyal.stored, hloyal.served, hloyal.started⟩
  | removePod =>
      unfold Scene.move
      dsimp only
      rw [remove_snd]
      exact ⟨hloyal.stored, hloyal.served, hloyal.started⟩
  | report status =>
      unfold Scene.move
      dsimp only
      rw [mutate_snd]
      exact ⟨hloyal.stored, hloyal.served, hloyal.started⟩

theorem loyal_run (hfresh : NothingMade home world) {moves : List Move}
    (hkeeps : ∀ move ∈ moves, move.KeepsCluster) :
    ∃ cluster, Loyal home cluster (Scene.run home world moves) := by
  obtain ⟨experiment, hstored, -⟩ := hfresh.stored
  have hopen : Loyal home experiment.spec.clusterName { world } :=
    ⟨⟨experiment, hstored, rfl⟩, nofun, nofun⟩
  have hrun := List.foldlRecOn
    (motive := fun scene =>
      MakersRecorded home scene ∧ Loyal home experiment.spec.clusterName scene)
    moves (Scene.move home) ⟨makersRecorded_of_nothingMade hfresh, hopen⟩
    fun _ ⟨hmakers, hloyal⟩ move hmem =>
      ⟨makersRecorded_move hmakers move, loyal_move hmakers hloyal (hkeeps move hmem)⟩
  exact ⟨_, hrun.2⟩

/-- As long as the experiment stays in its cluster, the service selects the pod. -/
theorem service_selects_pod_in_one_cluster {template : Template} {service : Service} {pod : Pod}
    (hfresh : NothingMade home world) {moves : List Move}
    (hkeeps : ∀ move ∈ moves, move.KeepsCluster)
    (hmanned : Manned home experiment (Scene.run home world moves).world.inventory template service
      pod) : Selects service pod := by
  obtain ⟨cluster, hloyal⟩ := loyal_run hfresh hkeeps
  obtain ⟨served, started, hserved, hstarted, hselects⟩ :=
    selects_iff_of_makersRecorded (makersRecorded_run hfresh moves) hmanned
  refine hselects.mpr ((hloyal.served _ served hserved).trans ?_)
  exact (hloyal.started started hstarted).symm

end Fleet.Proofs.Experiment.ServiceSelection
