import Fleet.Proofs.Experiment.SuccessfulPasses

namespace Fleet.Proofs.Experiment.Pause

open Fleet.Experiment
open Fleet.Proofs.Convergence
open Fleet.Proofs.Experiment.Idempotence
open Fleet.Proofs.Experiment.Labels
open Fleet.Proofs.Experiment.Observation
open Fleet.Proofs.Experiment.Origins
open Fleet.Proofs.Experiment.Readiness
open Fleet.Proofs.Experiment.SuccessfulPasses
open Fleet.Proofs.Ledgers
open Fleet.Proofs.Rehearsals
open Fleet.Proofs.Stores
open Fleet.Rehearsal

variable {settings : Settings} {experiment : Experiment} {world after : World} {before : Inventory}
  {home : ObjectKey}

inductive Turn where
  | pass (settings : Settings) (now : Instant)
  /-- The user sets the flag that pauses the experiment, or clears it. -/
  | pause (flag : Bool)
  /-- The pod under the experiment's name reports a status. -/
  | report (status : PodStatus)

def withPause (pause : Bool) (experiment : Experiment) : Experiment :=
  { experiment with
    content := { experiment.content with spec := { experiment.spec with pause } } }

def withReport (status : PodStatus) (pod : Pod) : Pod :=
  { pod with content := { pod.content with status := some status } }

def turn (home : ObjectKey) (world : World) : Turn → World
  | .pass settings now => passOver settings home world now
  | .pause flag => (world.mutate .experiment home (withPause flag)).2
  | .report status => (world.mutate .pod home (withReport status)).2

/-- No volume, claim or service has been lost or replaced. -/
structure Unharmed (before after : Inventory) : Prop where
  volumes : Preserves before.volumes after.volumes
  claims : Preserves before.claims after.claims
  services : Preserves before.services after.services

theorem unharmed_refl (inventory : Inventory) : Unharmed inventory inventory :=
  ⟨preserves_refl _, preserves_refl _, preserves_refl _⟩

theorem unharmed_trans {before middle after : Inventory} (h : Unharmed before middle)
    (h' : Unharmed middle after) : Unharmed before after :=
  ⟨preserves_trans h.volumes h'.volumes, preserves_trans h.claims h'.claims,
    preserves_trans h.services h'.services⟩

/-- Some experiment is staged, and its status is one that passes can have written. -/
def OnStage (home : ObjectKey) (inventory : Inventory) : Prop :=
  ∃ experiment, Staged home experiment inventory ∧
    ∀ status, experiment.status = some status → Coherent status

/-- The pods that carry the experiment's label, by their places. -/
def Bears (home : ObjectKey) (pods : Store PodContent) (key : ObjectKey) (pod : Pod) : Prop :=
  pods.lookup key = some pod ∧ key.namespace = home.namespace ∧
    pod.metadata.label? nameLabel = some home.name

theorem mem_podsOf_iff {pods : Store PodContent} {pod : Pod} (h : Eligible home experiment) :
    pod ∈ podsOf experiment pods ↔ ∃ key, Bears home pods key pod := by
  obtain rfl := h.owns.place
  refine mem_select.trans (exists_congr fun key => and_congr_right fun _ => ?_)
  have hhoused : experiment.metadata.namespace ≠ none :=
    Option.isSome_iff_ne_none.mp h.housed
  refine and_congr (or_iff_right hhoused) ?_
  constructor
  · intro hpicked
    exact (selects_selectorOf h.plain _).mp (hpicked _ rfl)
  · rintro hlabel _ ⟨⟩
    exact (selects_selectorOf h.plain _).mpr hlabel

theorem podsOf_eq_nil_iff {pods : Store PodContent} (h : Eligible home experiment) :
    podsOf experiment pods = [] ↔ ∀ key pod, ¬ Bears home pods key pod := by
  rw [List.eq_nil_iff_forall_not_mem]
  simp only [mem_podsOf_iff h, not_exists]
  exact forall_comm

theorem head_podsOf {pods : Store PodContent} {pod : Pod} {key : ObjectKey}
    (h : Eligible home experiment) (hbears : Bears home pods key pod)
    (honly : ∀ other found, Bears home pods other found → found = pod) :
    (podsOf experiment pods).head? = some pod := by
  have hmem : pod ∈ podsOf experiment pods := (mem_podsOf_iff h).mpr ⟨key, hbears⟩
  cases hlisted : podsOf experiment pods with
  | nil =>
      rw [hlisted] at hmem
      contradiction
  | cons found rest =>
      obtain ⟨other, hother⟩ := (mem_podsOf_iff h).mp (hlisted ▸ List.mem_cons_self)
      rw [honly other found hother]
      rfl

theorem label_of_dependentLabels (h : Eligible home experiment) {pod : Pod}
    (hlabels : pod.metadata.labels = some (dependentLabels experiment)) :
    pod.metadata.label? nameLabel = some home.name := by
  obtain rfl := h.owns.place
  rw [Metadata.label?, hlabels]
  exact get?_dependentLabels_name experiment

theorem pods_of_manages {before after : Store PodContent} (h : Eligible home experiment)
    (hmanages : Manages home experiment before after) {key : ObjectKey} {pod : Pod}
    (hpod : after.lookup key = some pod) :
    before.lookup key = some pod ∨ key = home ∧ ObjectKey.ofMetadata pod.metadata = home ∧
      pod.metadata.label? nameLabel = some home.name := by
  cases hpause : experiment.spec.pause with
  | true => exact .inl ((hmanages.paused hpause).2 key pod hpod)
  | false =>
      by_cases hnone : podsOf experiment before = []
      · obtain ⟨uid, made, hplace, hlabels, hadded⟩ := hmanages.started hpause hnone
        rw [hadded] at hpod
        rcases lookup_of_lookup_add hpod with hold | ⟨hkey, rfl⟩
        · exact .inl hold
        · exact .inr ⟨hkey.trans hplace, hplace, label_of_dependentLabels h hlabels⟩
      · rw [hmanages.followed hpause hnone] at hpod
        exact .inl hpod

theorem staged_of_succeeds {template : Template} {name : String} {version : Option String}
    {status : Option ExperimentStatus} {result : Except Failure Action}
    (h : Staged home experiment before)
    (hsucceeds : Succeeds home experiment template name before result after)
    (hstored : after.inventory.experiments.lookup home =
      some (restated experiment version status)) :
    Staged home (restated experiment version status) after.inventory where
  owns := ⟨h.owns.place, h.owns.name, h.owns.uid⟩
  housed := h.housed
  plain := h.plain
  named := h.named
  identified := h.identified
  alive := h.alive
  stored := hstored
  cluster := hsucceeds.clusters ▸ h.cluster
  template := hsucceeds.templates ▸ h.template
  labelled := by
    intro pod hpod
    rcases pods_of_manages h.toEligible hsucceeds.tends.pods hpod with hold | ⟨-, -, hlabel⟩
    · exact h.labelled pod hold
    · exact hlabel
  pods := by
    intro key pod hpod
    rcases pods_of_manages h.toEligible hsucceeds.tends.pods hpod with hold | ⟨hkey, hplace, -⟩
    · exact h.pods key pod hold
    · exact hplace.trans hkey.symm
  volumes := hsucceeds.tends.volumes.placed h.volumes
  claims := hsucceeds.tends.claims.placed h.claims
  services := hsucceeds.tends.services.placed h.services

/-- A pass over a staged experiment succeeds, and finds the stage set again afterwards. -/
theorem succeeds_pass (hfaults : world.faults = []) (h : Staged home experiment world.inventory)
    (hcoherent : ∀ status, experiment.status = some status → Coherent status)
    (settings : Settings) (now : Instant) :
    ∃ cluster template name, InputsFound world.inventory experiment cluster template name ∧
      Succeeds home experiment template name world.inventory
        ({ world with now }.perform (reconcile settings experiment)).1
        (turn home world (.pass settings now)) := by
  obtain ⟨cluster, template, name, hbound, himage⟩ := inputsFound_of_staged h
  have hturn : turn home world (.pass settings now) =
      ({ world with now }.perform (reconcile settings experiment)).2 := by
    unfold turn passOver
    simp only [h.stored]
  rw [hturn]
  have hends : Ends (reconcile settings experiment) { world with now } fun result after =>
      Succeeds home experiment template name world.inventory result after :=
    ends_reconcile_succeeds hfaults h hcoherent hbound himage
  exact ⟨cluster, template, name, hbound, hends⟩

theorem turn_pause (home : ObjectKey) (world : World) (flag : Bool) :
    turn home world (.pause flag) = world.setStore .experiment
      (world.inventory.experiments.mutate home (withPause flag)).2 :=
  mutate_snd ..

theorem turn_report (home : ObjectKey) (world : World) (status : PodStatus) :
    turn home world (.report status) = world.setStore .pod
      (world.inventory.pods.mutate home (withReport status)).2 :=
  mutate_snd ..

theorem furnished_pause (h : Furnished home experiment world.inventory) (flag : Bool) :
    Furnished home (world.inventory.experiments.stamp (withPause flag experiment))
      (turn home world (.pause flag)).inventory := by
  rw [turn_pause]
  exact
    { h with
      owns := ⟨h.owns.place, h.owns.name, h.owns.uid⟩
      stored := lookup_mutate_self h.stored _
      labelled := h.labelled }

theorem staged_pause (h : Staged home experiment world.inventory) (flag : Bool) :
    Staged home (world.inventory.experiments.stamp (withPause flag experiment))
      (turn home world (.pause flag)).inventory := by
  have hfurnished := furnished_pause h.toFurnished flag
  rw [turn_pause] at hfurnished ⊢
  exact
    { hfurnished with
      alive := h.alive
      pods := h.pods
      volumes := h.volumes
      claims := h.claims
      services := h.services }

theorem staged_report (h : Staged home experiment world.inventory) (status : PodStatus) :
    Staged home experiment (turn home world (.report status)).inventory := by
  rw [turn_report]
  refine
    { h with
      stored := h.stored
      labelled := fun pod hpod => ?_
      pods := fun key pod hpod => ?_ }
  · rcases lookup_of_lookup_mutate hpod with hold | ⟨-, old, hold, rfl⟩
    · exact h.labelled pod hold
    · exact h.labelled old hold
  · rcases lookup_of_lookup_mutate hpod with hold | ⟨hkey, old, hold, rfl⟩
    · exact h.pods key pod hold
    · exact (h.pods home old hold).trans hkey.symm

/-- Whatever comes next, the stage is set again, and nothing has been lost. -/
theorem onStage_turn (hfaults : world.faults = []) (h : OnStage home world.inventory)
    (next : Turn) :
    (turn home world next).faults = [] ∧ OnStage home (turn home world next).inventory ∧
      Unharmed world.inventory (turn home world next).inventory := by
  obtain ⟨experiment, hstaged, hcoherent⟩ := h
  cases next with
  | pass settings now =>
      obtain ⟨cluster, template, name, -, hsucceeds⟩ :=
        succeeds_pass hfaults hstaged hcoherent settings now
      obtain ⟨version, status, hstored, hreported⟩ := hsucceeds.stored
      refine ⟨hsucceeds.faults, ⟨_, staged_of_succeeds hstaged hsucceeds hstored, ?_⟩,
        hsucceeds.tends.volumes.preserves, hsucceeds.tends.claims.preserves,
        hsucceeds.tends.services.preserves⟩
      rintro told rfl
      exact hreported.coherent
  | pause flag =>
      refine ⟨?_, ⟨_, staged_pause hstaged flag, hcoherent⟩, ?_⟩ <;> rw [turn_pause]
      · exact hfaults
      · exact ⟨preserves_refl _, preserves_refl _, preserves_refl _⟩
  | report status =>
      refine ⟨?_, ⟨_, staged_report hstaged status, hcoherent⟩, ?_⟩ <;> rw [turn_report]
      · exact hfaults
      · exact ⟨preserves_refl _, preserves_refl _, preserves_refl _⟩

theorem unharmed_run (hfaults : world.faults = []) (h : OnStage home world.inventory)
    (turns : List Turn) :
    Unharmed world.inventory (turns.foldl (turn home) world).inventory := by
  induction turns generalizing world with
  | nil => exact unharmed_refl world.inventory
  | cons next rest ih =>
      obtain ⟨hfaults, hstage, hunharmed⟩ := onStage_turn hfaults h next
      exact unharmed_trans hunharmed (ih hfaults hstage)

def TellsAt (home : ObjectKey) (inventory : Inventory) (phase : ExperimentPhase) (ready : Bool) :
    Prop :=
  ∃ stored, inventory.experiments.lookup home = some stored ∧
    let status := stored.status.getD default
    status.phase = phase ∧ status.conditions.isTrue .podReady = ready ∧
      status.conditions.isTrue .ready = ready

structure DependentsStored (home : ObjectKey) (experiment : Experiment) (inventory : Inventory) :
    Prop where
  volume : ∃ name volume, volumeName experiment = .ok name ∧
    inventory.volumes.lookup ⟨none, name⟩ = some volume
  claim : ∃ claim,
    inventory.claims.lookup ⟨home.namespace, claimName experiment⟩ = some claim
  service : ∃ template service,
    inventory.templates.lookup ⟨home.namespace, experiment.spec.template⟩ = some template ∧
      inventory.services.lookup (servicePlace home template.content.protocolName) = some service

theorem dependentsStored_of_succeeds {cluster : Cluster} {template : Template} {name : String}
    {result : Except Failure Action} (howns : Owns home experiment)
    (hbound : InputsFound before experiment cluster template name)
    (h : Succeeds home experiment template name before result after) :
    DependentsStored home experiment after.inventory := by
  obtain ⟨volume, hvolume⟩ := h.tends.volumes.stored
  obtain ⟨service, hservice⟩ := h.tends.services.stored
  have htemplate := lookup_of_needed hbound.template
  obtain rfl := howns.place
  refine ⟨⟨name, volume, hbound.volume, hvolume⟩, h.tends.claims.stored, template, service, ?_,
    hservice⟩
  rw [h.templates]
  exact htemplate

theorem stopped_of_reported {pods : List Pod} {status : ExperimentStatus}
    (h : Reported experiment pods status) (hpause : experiment.spec.pause = true) :
    status.phase = .stopped ∧ status.conditions.isTrue .podReady = false ∧
      status.conditions.isTrue .ready = false := by
  have hphase := h.follows.paused hpause
  have hpod : ¬ status.conditions.isTrue .podReady = true := by
    intro hready
    have hrunning := h.coherent.phase.mpr hready
    rw [hphase] at hrunning
    contradiction
  exact ⟨hphase, Bool.eq_false_iff.mpr hpod,
    Bool.eq_false_iff.mpr fun hready => hpod (h.coherent.ready.mp hready).1⟩

theorem running_of_reported {pods : List Pod} {pod : Pod} {status : ExperimentStatus}
    (h : Reported experiment pods status) (hpause : experiment.spec.pause = false)
    (hhead : pods.head? = some pod) (hready : pod.content.isReady = true) :
    status.phase = .running ∧ status.conditions.isTrue .podReady = true ∧
      status.conditions.isTrue .ready = true := by
  obtain ⟨hphase, -⟩ := h.follows.running hpause pod hhead hready
  have hpod := h.coherent.phase.mp hphase
  exact ⟨hphase, hpod, h.coherent.ready.mpr ⟨hpod, h.volume⟩⟩

/-- There is one pod with the experiment's label, and it is new. -/
def StartsOne (home : ObjectKey) (before after : Store PodContent) : Prop :=
  (∀ key pod, ¬ Bears home before key pod) ∧
    (∃ pod, Bears home after home pod ∧ ∀ key other, Bears home after key other → key = home) ∧
      after.counts = { before.counts with creates := before.counts.creates + 1 }

theorem startsOne_of_manages {before after : Store PodContent} (h : Eligible home experiment)
    (hmanages : Manages home experiment before after) (hpause : experiment.spec.pause = false)
    (hnone : ∀ key pod, ¬ Bears home before key pod) (hfree : before.lookup home = none) :
    StartsOne home before after := by
  obtain ⟨uid, pod, hplace, hlabels, rfl⟩ :=
    hmanages.started hpause ((podsOf_eq_nil_iff h).mpr hnone)
  have hfree' : before.lookup (.ofMetadata pod.metadata) = none := hplace ▸ hfree
  have hmade := lookup_add_self uid hfree'
  rw [hplace] at hmade
  refine ⟨hnone, ⟨_, ⟨hmade, rfl, label_of_dependentLabels h hlabels⟩, ?_⟩, ?_⟩
  · rintro key other ⟨hlookup, hnamespace, hlabel⟩
    rcases lookup_of_lookup_add hlookup with hold | ⟨hkey, -⟩
    · exact absurd ⟨hold, hnamespace, hlabel⟩ (hnone key other)
    · exact hkey.trans hplace
  · rw [add_of_free uid hfree']

structure Leads (home : ObjectKey) (experiment : Experiment) (before : Inventory)
    (after : World) : Prop where
  faults : after.faults = []
  manages : Manages home experiment before.pods after.inventory.pods
  next : ∃ next, Staged home next after.inventory ∧ next.spec = experiment.spec ∧
    (∀ status, next.status = some status → Coherent status) ∧
      Reported experiment (podsOf experiment before.pods) (next.status.getD default)

theorem leads_of_succeeds {template : Template} {name : String} {result : Except Failure Action}
    (h : Staged home experiment before)
    (hsucceeds : Succeeds home experiment template name before result after) :
    Leads home experiment before after := by
  obtain ⟨version, status, hstored, hreported⟩ := hsucceeds.stored
  refine ⟨hsucceeds.faults, hsucceeds.tends.pods, _, staged_of_succeeds h hsucceeds hstored, rfl,
    ?_, hreported⟩
  rintro told rfl
  exact hreported.coherent

theorem startsOne_pass (hfaults : world.faults = []) (h : Staged home experiment world.inventory)
    (hcoherent : ∀ status, experiment.status = some status → Coherent status)
    (hpause : experiment.spec.pause = false)
    (hnone : ∀ key pod, ¬ Bears home world.inventory.pods key pod) (settings : Settings)
    (now : Instant) :
    Leads home experiment world.inventory (turn home world (.pass settings now)) ∧
      StartsOne home world.inventory.pods
        (turn home world (.pass settings now)).inventory.pods := by
  obtain ⟨cluster, template, name, -, hsucceeds⟩ := succeeds_pass hfaults h hcoherent settings now
  have hfree := lookup_of_unlisted h ((podsOf_eq_nil_iff h.toEligible).mpr hnone)
  exact ⟨leads_of_succeeds h hsucceeds,
    startsOne_of_manages h.toEligible hsucceeds.tends.pods hpause hnone hfree⟩

theorem tellsAt_running (hfaults : world.faults = []) (h : Staged home experiment world.inventory)
    (hcoherent : ∀ status, experiment.status = some status → Coherent status)
    (hpause : experiment.spec.pause = false) {pod : Pod}
    (hbears : Bears home world.inventory.pods home pod)
    (honly : ∀ key other, Bears home world.inventory.pods key other → key = home)
    (hready : pod.content.isReady = true) (settings : Settings) (now : Instant) :
    TellsAt home (turn home world (.pass settings now)).inventory .running true := by
  obtain ⟨cluster, template, name, -, hsucceeds⟩ := succeeds_pass hfaults h hcoherent settings now
  obtain ⟨version, status, hstored, hreported⟩ := hsucceeds.stored
  have hhead : (podsOf experiment world.inventory.pods).head? = some pod := by
    refine head_podsOf h.toEligible hbears fun other found hfound => ?_
    have hplace := honly other found hfound
    exact Option.some.inj ((hplace ▸ hfound.1).symm.trans hbears.1)
  exact ⟨_, hstored, running_of_reported hreported hpause hhead hready⟩

theorem bears_report {pod : Pod} (hpod : Bears home world.inventory.pods home pod)
    (honly : ∀ key other, Bears home world.inventory.pods key other → key = home)
    (status : PodStatus) :
    Bears home (turn home world (.report status)).inventory.pods home
        (world.inventory.pods.stamp (withReport status pod)) ∧
      ∀ key other, Bears home (turn home world (.report status)).inventory.pods key other →
        key = home := by
  rw [turn_report]
  refine ⟨⟨lookup_mutate_self hpod.1 _, rfl, hpod.2.2⟩, ?_⟩
  rintro key other ⟨hlookup, hrest⟩
  rcases lookup_of_lookup_mutate hlookup with hold | ⟨hkey, -⟩
  · exact honly key other ⟨hold, hrest⟩
  · exact hkey

/-- What is left of an experiment when it has been paused, when it has been started again, and when
its pod has become ready. -/
structure RoundTrip (home : ObjectKey) (experiment : Experiment) (paused started ended : World) :
    Prop where
  stopped : TellsAt home paused.inventory .stopped false
  cleared : ∀ key pod, ¬ Bears home paused.inventory.pods key pod
  equipped : DependentsStored home experiment paused.inventory
  unharmed : ∀ turns : List Turn,
    Unharmed paused.inventory (turns.foldl (turn home) paused).inventory
  started : StartsOne home paused.inventory.pods started.inventory.pods
  running : TellsAt home ended.inventory .running true

/-- A paused pass stops the experiment and takes its pods away. Volume, claim and service stay what
they are, whatever comes next. Once the pause is over, one pass starts one pod, and when that is
ready another one finds everything running. -/
theorem roundTrip_of_pause_and_resume (hfaults : world.faults = [])
    (hstaged : Staged home experiment world.inventory) (hreachable : Reachable experiment.status)
    (hpause : experiment.spec.pause = true) (settings : Settings) (first second third : Instant)
    {report : PodStatus} (hready : ({ status := some report } : PodContent).isReady = true) :
    let paused := turn home world (.pass settings first)
    let started := turn home (turn home paused (.pause false)) (.pass settings second)
    let ended := turn home (turn home started (.report report)) (.pass settings third)
    ({ world with now := first }.perform (reconcile settings experiment)).1 = .ok .awaitChange ∧
      RoundTrip home experiment paused started ended := by
  intro paused started ended
  have hcoherent := coherent_of_reachable hreachable
  obtain ⟨cluster, template, name, hbound, hsucceeds⟩ :=
    succeeds_pass hfaults hstaged hcoherent settings first
  obtain ⟨version, status, hstored, hreported⟩ := hsucceeds.stored
  obtain ⟨hfaults₁, hmanages, stopped, hstaged₁, -, hcoherent₁, -⟩ :=
    leads_of_succeeds hstaged hsucceeds
  have hnone : ∀ key pod, ¬ Bears home paused.inventory.pods key pod :=
    (podsOf_eq_nil_iff hstaged.toEligible).mp (hmanages.paused hpause).1
  -- Clearing the pause touches the experiment alone.
  have hfaults₂ : (turn home paused (.pause false)).faults = [] := by
    rw [turn_pause]
    exact hfaults₁
  have hpods₂ : (turn home paused (.pause false)).inventory.pods = paused.inventory.pods := by
    rw [turn_pause]
    rfl
  obtain ⟨⟨hfaults₃, -, running, hstaged₃, hspec₃, hcoherent₃, -⟩, hstarts⟩ :=
    startsOne_pass hfaults₂ (staged_pause hstaged₁ false) hcoherent₁ rfl (hpods₂ ▸ hnone) settings
      second
  rw [hpods₂] at hstarts
  refine ⟨hsucceeds.ok, ⟨_, hstored, stopped_of_reported hreported hpause⟩, hnone,
    dependentsStored_of_succeeds hstaged.owns hbound hsucceeds,
    unharmed_run hfaults₁ ⟨_, hstaged₁, hcoherent₁⟩, hstarts, ?_⟩
  obtain ⟨-, ⟨pod, hpod, honly⟩, -⟩ := hstarts
  have hfaults₄ : (turn home started (.report report)).faults = [] := by
    rw [turn_report]
    exact hfaults₃
  obtain ⟨hpod₄, honly₄⟩ := bears_report hpod honly report
  exact tellsAt_running hfaults₄ (staged_report hstaged₃ report) hcoherent₃
    (congrArg ExperimentSpec.pause hspec₃) hpod₄ honly₄ hready settings third

theorem furnished_lab : Furnished labKey labExperiment lab.inventory where
  owns := ⟨rfl, rfl, rfl⟩
  housed := rfl
  plain := by decide
  named := by decide
  identified := by decide
  stored := by decide
  cluster := ⟨{ metadata := labMetadata "cellar", content := { spec := {} } }, by decide⟩
  template :=
    ⟨{ metadata := labMetadata "maze"
       content :=
        { podTemplate := { image := "maze:1" }, ingressProtocol := "SSH", ingressPort := 22 } },
      by decide⟩
  labelled := by
    intro pod hpod
    have hlab : lab.inventory.pods.lookup labKey = some labPod := by decide
    cases hlab.symm.trans hpod
    decide

theorem staged_lab : Staged labKey labExperiment lab.inventory :=
  { furnished_lab with
    alive := rfl
    pods := inventoryWellFormed_lab.pods
    volumes := inventoryWellFormed_lab.volumes
    claims := inventoryWellFormed_lab.claims
    services := inventoryWellFormed_lab.services }

def pausedExperiment : Experiment :=
  lab.inventory.experiments.stamp (withPause true labExperiment)

def readyReport : PodStatus := { conditions := some [{ type := "Ready", status := "True" }] }

/-- The laboratory is paused while its pod is ready, and resumed an hour later. -/
theorem roundTrip_of_pause_and_resume_in_lab :
    let world := turn labKey lab (.pause true)
    let paused := turn labKey world (.pass {} .epoch)
    let started := turn labKey (turn labKey paused (.pause false)) (.pass {} ⟨3600, 0, by decide⟩)
    let ended := turn labKey (turn labKey started (.report readyReport))
      (.pass {} ⟨3601, 0, by decide⟩)
    world.faults = [] ∧ Staged labKey pausedExperiment world.inventory ∧
      Reachable pausedExperiment.status ∧ pausedExperiment.spec.pause = true ∧
      ({ status := some readyReport } : PodContent).isReady = true ∧
      ({ world with now := .epoch }.perform (reconcile {} pausedExperiment)).1 =
        .ok .awaitChange ∧
      RoundTrip labKey pausedExperiment paused started ended := by
  intro world paused started ended
  have hstaged : Staged labKey pausedExperiment world.inventory := staged_pause staged_lab true
  have hready : ({ status := some readyReport } : PodContent).isReady = true := by decide
  exact ⟨rfl, hstaged, .absent, rfl, hready,
    roundTrip_of_pause_and_resume rfl hstaged .absent rfl {} .epoch
    ⟨3600, 0, by decide⟩ ⟨3601, 0, by decide⟩ hready⟩

def departing : Experiment :=
  { withPause true labExperiment with
    metadata := { labExperiment.metadata with deletionTimestamp := some .epoch } }

def departure : World := (lab.insert .experiment departing).2

/-- The laboratory, whose pod has been renamed in place. -/
def disguise : World :=
  (lab.mutate .pod labKey fun pod =>
    { pod with metadata := { pod.metadata with name := some "mice" } }).2

theorem furnished_departure :
    Furnished labKey (lab.inventory.experiments.stamp departing) departure.inventory :=
  { furnished_lab with
    owns := ⟨rfl, rfl, rfl⟩
    stored := by decide
    labelled := furnished_lab.labelled }

theorem furnished_disguise : Furnished labKey labExperiment disguise.inventory :=
  { furnished_lab with
    stored := furnished_lab.stored
    labelled := by
      intro pod hpod
      have hlabel : (disguise.inventory.pods.lookup labKey).map (·.metadata.label? nameLabel) =
          some (some "rats") := by decide
      rw [hpod] at hlabel
      exact Option.some.inj hlabel }

/-- An experiment that is being deleted is not stopped; a pod that goes by another name than it is
stored under is not found to be deleted, which counts as if it were gone. -/
theorem not_stopped_of_departing_and_disguised :
    (departure.faults = [] ∧
        Furnished labKey (lab.inventory.experiments.stamp departing) departure.inventory ∧
        Reachable departing.status ∧ departing.spec.pause = true ∧
        ¬ TellsAt labKey (turn labKey departure (.pass {} .epoch)).inventory .stopped false) ∧
      disguise.faults = [] ∧
        Furnished labKey pausedExperiment (turn labKey disguise (.pause true)).inventory ∧
        Reachable pausedExperiment.status ∧ pausedExperiment.spec.pause = true ∧
        ∃ pod, Bears labKey (turn labKey (turn labKey disguise (.pause true))
          (.pass {} .epoch)).inventory.pods labKey pod := by
  have hdeparted : (turn labKey departure (.pass {} .epoch)).inventory.experiments.lookup labKey =
      some (lab.inventory.experiments.stamp departing) := by decide
  have hlabel : ((turn labKey (turn labKey disguise (.pause true))
      (.pass {} .epoch)).inventory.pods.lookup labKey).map (·.metadata.label? nameLabel) =
        some (some "rats") := by
    decide +kernel
  refine ⟨⟨rfl, furnished_departure, .absent, rfl, ?_⟩, rfl,
    furnished_pause furnished_disguise true, .absent, rfl, ?_⟩
  · rintro ⟨stored, hstored, hphase, -⟩
    cases hdeparted.symm.trans hstored
    exact absurd hphase (by decide)
  · obtain ⟨pod, hpod, hrats⟩ := Option.map_eq_some_iff.mp hlabel
    exact ⟨pod, hpod, rfl, hrats⟩

end Fleet.Proofs.Experiment.Pause
