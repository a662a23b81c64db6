import Fleet.Proofs.Experiment.Readiness
import Fleet.Proofs.Interleaving
import Fleet.Proofs.LiveVolumes.Errands

/-!
Histories of experiments and their data volumes. Experiments come and go, under the same names or
others, while passes, notifications and sweeps are run over them. They take turns after every
question they ask, in any order, and any of them may be left waiting for as long as it takes.
A volume is made for an identity, but it is released by a name. Sweeps are safe all the same, since
they look for the experiment after the volume. Notifications are not: between a deletion and its
notification an experiment of the same name may have been created.
-/

namespace Fleet.Proofs.LiveVolumes

open Fleet.Experiment
open Fleet.Proofs.Contract
open Fleet.Proofs.Experiment.Labels
open Fleet.Proofs.Experiment.Readiness (labAnswer labExperiment labMetadata)
open Fleet.Proofs.Rehearsals
open Fleet.Proofs.Stores

structure Worker where
  errand : Errand
  memory : Findings := {}
  program : Pass Unit

/-- The stores that matter to data volumes, every experiment ever created, and whoever is at
work. -/
structure Scene where
  experiments : Store ExperimentContent := { title := Kind.experiment.title }
  volumes : Store VolumeContent := { title := Kind.volume.title }
  births : List Birth := []
  workers : List Worker := []

def crew : Interleaving.Crew Scene Worker Effect Effect.Reply Unit where
  workers := Scene.workers
  withWorkers scene workers := { scene with workers }
  program := Worker.program
  resume worker effect reply next :=
    { worker with memory := worker.memory.after effect reply, program := next }
  workers_withWorkers _ _ := rfl

inductive Move where
  | create (uid : String) (object : Experiment)
  /-- Someone changes an experiment, for instance what it specifies, or marks it for deletion. -/
  | edit (key : ObjectKey) (change : Experiment → Experiment)
  | remove (key : ObjectKey)
  /-- A pass over an experiment as it is stored now begins. -/
  | pass (settings : Settings) (key : ObjectKey)
  | notify (event : LifecycleEvent)
  | sweep
  /-- A worker takes its turn. What it asks of other stores is answered in any way. -/
  | advance (index : Nat) (uid : String) (answer : (effect : Effect) → effect.Reply)

/-- Nobody changes where an object belongs and what it is. -/
def keepIdentity (object changed : Experiment) : Experiment :=
  { changed with
    metadata :=
      { changed.metadata with
        name := object.metadata.name, generateName := object.metadata.generateName,
        «namespace» := object.metadata.namespace, uid := object.metadata.uid } }

namespace Scene

def enroll (scene : Scene) (errand : Errand) : Scene :=
  crew.enroll scene { errand, program := errand.program }

def answer (scene : Scene) (uid : String) (elsewhere : (effect : Effect) → effect.Reply) :
    (effect : Effect) → effect.Reply × Scene
  | .store .experiment call =>
      let (reply, experiments) := scene.experiments.answer uid call
      (reply, { scene with experiments })
  | .store .volume call =>
      let (reply, volumes) := scene.volumes.answer uid call
      (reply, { scene with volumes })
  | effect => (elsewhere effect, scene)

def advance (scene : Scene) (index : Nat) (uid : String)
    (elsewhere : (effect : Effect) → effect.Reply) : Scene :=
  crew.advance (fun _ effect => some (scene.answer uid elsewhere effect)) scene index

/-- Makes a move. An identity is not given twice. -/
def move (scene : Scene) : Move → Scene
  | .create uid object =>
      if uid ∈ scene.births.map Birth.uid then scene
      else
        { scene with
          experiments := (scene.experiments.add uid object).2
          births := ⟨.ofMetadata object.metadata, uid⟩ :: scene.births }
  | .edit key change =>
      let experiments :=
        (scene.experiments.mutate key fun object => keepIdentity object (change object)).2
      { scene with experiments }
  | .remove key => { scene with experiments := (scene.experiments.remove key none).2 }
  | .pass settings key =>
      match scene.experiments.lookup key with
      | some experiment => scene.enroll (.pass settings experiment)
      | none => scene
  | .notify event => scene.enroll (.notified event)
  | .sweep => scene.enroll .sweep
  | .advance index uid elsewhere => scene.advance index uid elsewhere

def run (moves : List Move) : Scene := moves.foldl move {}

def deletes? (scene : Scene) (worker : Worker) : Option String :=
  match worker.program with
  | .ask (.store .volume (.delete none name preconditions)) _ =>
      if (scene.volumes.remove ⟨none, name⟩ preconditions).1.isOk then some name else none
  | _ => none

end Scene

/-- A worker is about to delete the data volume of an experiment that is stored under a key and is
not being deleted. -/
structure Destroys (scene : Scene) (worker : Worker) (key : ObjectKey) (experiment : Experiment) :
    Prop where
  stored : scene.experiments.lookup key = some experiment
  alive : experiment.metadata.deletionTimestamp = none
  deletes : ∃ name, volumeName experiment = .ok name ∧ scene.deletes? worker = some name

/-- Where the experiment was stored whose deletion a worker was notified of. -/
def Worker.told? (worker : Worker) : Option ObjectKey :=
  match worker.errand with
  | .notified (.experimentDeleted ns name) => some ⟨some ns, name⟩
  | _ => none

/-- A worker was notified of a deletion under a key. A name that is no plain text may stand for
others in a selector. -/
def Believes (worker : Worker) (key : ObjectKey) : Prop :=
  ∃ told, worker.told? = some told ∧ key.namespace = told.namespace ∧
    (Plain told.name → key.name = told.name)

/-- The object is an experiment that was created under the key. -/
def Born (births : List Birth) (key : ObjectKey) (experiment : Experiment) : Prop :=
  ObjectKey.ofMetadata experiment.metadata = key ∧
    ∃ uid, experiment.metadata.uid = some uid ∧ ⟨key, uid⟩ ∈ births

def Gone (experiments : Store ExperimentContent) (birth : Birth) : Prop :=
  ∀ experiment, experiments.lookup birth.home = some experiment →
    experiment.metadata.uid ≠ some birth.uid

/-- What anyone but a creator does to experiments: they stay what they were, where they were. -/
def Descends (experiments after : Store ExperimentContent) : Prop :=
  ∀ key object, after.lookup key = some object →
    experiments.lookup key = some object ∨
      ∃ stored, experiments.lookup key = some stored ∧
        object.metadata.uid = stored.metadata.uid ∧
          (ObjectKey.ofMetadata object.metadata = key ∨
            ObjectKey.ofMetadata object.metadata = ObjectKey.ofMetadata stored.metadata)

variable {experiments after : Store ExperimentContent} {births : List Birth}

theorem born_of_descends (h : Descends experiments after)
    (hborn : ∀ key object, experiments.lookup key = some object → Born births key object) :
    ∀ key object, after.lookup key = some object → Born births key object := by
  intro key object hobject
  rcases h key object hobject with hold | ⟨stored, hstored, huid, hplace⟩
  · exact hborn key object hold
  · obtain ⟨hkey, uid, hgiven, hbirth⟩ := hborn key stored hstored
    exact ⟨hplace.elim id (·.trans hkey), uid, huid.trans hgiven, hbirth⟩

theorem gone_of_descends {birth : Birth} (h : Descends experiments after)
    (hgone : Gone experiments birth) : Gone after birth := by
  intro object hobject
  rcases h _ object hobject with hold | ⟨stored, hstored, huid, -⟩
  · exact hgone object hold
  · rw [huid]
    exact hgone stored hstored

theorem descends_of_subset
    (h : ∀ key object, after.lookup key = some object → experiments.lookup key = some object) :
    Descends experiments after :=
  fun key object hobject => .inl (h key object hobject)

theorem descends_mutate (experiments : Store ExperimentContent) (key : ObjectKey)
    (change : Experiment → Experiment) :
    Descends experiments
      (experiments.mutate key fun object => keepIdentity object (change object)).2 := by
  intro other object hobject
  rcases lookup_of_lookup_mutate hobject with hold | ⟨rfl, stored, hstored, rfl⟩
  · exact .inl hold
  · exact .inr ⟨stored, hstored, rfl, .inr rfl⟩

theorem descends_write (experiments : Store ExperimentContent) (object : Experiment)
    (count : WriteCounts → WriteCounts) :
    Descends experiments (experiments.write object count).2 := by
  cases hresult : (experiments.write object count).1 with
  | error failure =>
      have hobjects := (write_error (Prod.ext hresult rfl)).1
      refine descends_of_subset fun key other hother => ?_
      rwa [Store.lookup, hobjects] at hother
  | ok written =>
      obtain ⟨stored, hstored, -, rfl, hobjects, -⟩ := write_ok (Prod.ext hresult rfl)
      intro key other hother
      rw [Store.lookup, hobjects] at hother
      by_cases hkey : key = .ofMetadata object.metadata
      · rw [hkey, get?_insert_self] at hother
        cases hother
        exact .inr ⟨stored, hkey ▸ hstored, rfl, .inl hkey.symm⟩
      · rw [get?_insert_of_ne hkey] at hother
        exact .inl hother

/-- Every volume is the one of an experiment that was created. -/
def AllRooted (births : List Birth) (volumes : Store VolumeContent) : Prop :=
  ∀ key volume, volumes.lookup key = some volume → ∃ birth ∈ births, Rooted birth volume

variable {volumes : Store VolumeContent} {object : Volume} {birth : Birth}

theorem rooted_put (h : AllRooted births volumes) (hbirth : birth ∈ births)
    (hobject : Rooted birth object) {changed : Store VolumeContent} {key : ObjectKey}
    {uid : Option String}
    (hobjects : changed.objects =
      volumes.objects.insert key (volumes.stamp (Store.identify object uid))) :
    AllRooted births changed := by
  intro other volume hvolume
  rw [Store.lookup, hobjects] at hvolume
  by_cases hkey : other = key
  · rw [hkey, get?_insert_self] at hvolume
    cases hvolume
    exact ⟨birth, hbirth, hobject.place, hobject.label, hobject.claim⟩
  · rw [get?_insert_of_ne hkey] at hvolume
    exact h other volume hvolume

theorem rooted_add (h : AllRooted births volumes) (hbirth : birth ∈ births)
    (hobject : Rooted birth object) (uid : String) :
    AllRooted births (volumes.add uid object).2 := by
  cases hplace : volumes.lookup (.ofMetadata object.metadata) with
  | some stored =>
      rw [add_of_taken uid hplace]
      exact h
  | none =>
      rw [add_of_free uid hplace]
      exact rooted_put h hbirth hobject rfl

theorem rooted_write (h : AllRooted births volumes) (hbirth : birth ∈ births)
    (hobject : Rooted birth object) (count : WriteCounts → WriteCounts) :
    AllRooted births (volumes.write object count).2 := by
  cases replacement_of volumes object count with
  | missing _ hwrite =>
      rw [hwrite]
      exact h
  | outdated _ _ _ hwrite =>
      rw [hwrite]
      exact h
  | current _ _ hwrite =>
      rw [hwrite]
      exact rooted_put h hbirth hobject rfl

theorem rooted_remove (h : AllRooted births volumes) (key : ObjectKey)
    (preconditions : Option Preconditions) :
    AllRooted births (volumes.remove key preconditions).2 :=
  fun other volume hvolume => h other volume (lookup_of_lookup_remove hvolume)

/-- What a worker remembers is true, and stays true. -/
structure Trusted (births : List Birth) (experiments : Store ExperimentContent)
    (memory : Findings) :
    Prop where
  rooted : ∀ sight ∈ memory.sighted, ∃ birth ∈ births, Rooted birth sight.2
  selected : ∀ sight ∈ memory.sighted, ∀ text ∈ sight.1,
    (Selector.ofText text).selects sight.2.metadata = true
  stranded : ∀ volume ∈ memory.stranded, ∃ birth ∈ births, Rooted birth volume ∧
    Gone experiments birth

theorem trusted_nothing : Trusted births experiments {} :=
  ⟨fun _ hsight => absurd hsight List.not_mem_nil, fun _ hsight => absurd hsight List.not_mem_nil,
    fun _ hvolume => absurd hvolume List.not_mem_nil⟩

theorem trusted_mono {births' : List Birth} {memory : Findings}
    (h : Trusted births experiments memory) (hbirths : births ⊆ births')
    (hgone : ∀ birth ∈ births, Gone experiments birth → Gone after birth) :
    Trusted births' after memory := by
  refine ⟨fun sight hsight => ?_, h.selected, fun volume hvolume => ?_⟩
  · obtain ⟨birth, hbirth, hrooted⟩ := h.rooted sight hsight
    exact ⟨birth, hbirths hbirth, hrooted⟩
  · obtain ⟨birth, hbirth, hrooted, hlost⟩ := h.stranded volume hvolume
    exact ⟨birth, hbirths hbirth, hrooted, hgone birth hbirth hlost⟩

theorem trusted_sight {memory : Findings} {selector : Option String} {shown : List Volume}
    (h : Trusted births experiments memory)
    (hshown : ∀ volume ∈ shown, (∃ birth ∈ births, Rooted birth volume) ∧
      ∀ text ∈ selector, (Selector.ofText text).selects volume.metadata = true) :
    Trusted births experiments (memory.sight selector shown) := by
  refine ⟨fun sight hsight => ?_, fun sight hsight => ?_, h.stranded⟩
  · rcases List.mem_append.mp hsight with hnew | hold
    · obtain ⟨volume, hvolume, rfl⟩ := List.mem_map.mp hnew
      exact (hshown volume hvolume).1
    · exact h.rooted sight hold
  · rcases List.mem_append.mp hsight with hnew | hold
    · obtain ⟨volume, hvolume, rfl⟩ := List.mem_map.mp hnew
      exact (hshown volume hvolume).2
    · exact h.selected sight hold

theorem home_of_rooted {volume : Volume} {key : ObjectKey} (h : Rooted birth volume)
    (hhome : homeOf volume = some key) : birth.home = key := by
  obtain ⟨origin, horigin, rfl⟩ := Option.map_eq_some_iff.mp hhome
  unfold originOf at horigin
  rw [h.label, h.claim] at horigin
  cases hns : birth.home.namespace with
  | none =>
      rw [hns] at horigin
      contradiction
  | some ns =>
      rw [hns] at horigin
      cases horigin
      obtain ⟨⟨_, _⟩, _⟩ := birth
      cases hns
      rfl

theorem trusted_miss {memory : Findings} {key : ObjectKey}
    (h : Trusted births experiments memory) (hnone : experiments.lookup key = none) :
    Trusted births experiments (memory.miss key) := by
  refine ⟨h.rooted, h.selected, fun volume hvolume => ?_⟩
  rcases List.mem_append.mp hvolume with hnew | hold
  · obtain ⟨hsighted, hhome⟩ := List.mem_filter.mp hnew
    obtain ⟨sight, hsight, rfl⟩ := List.mem_map.mp hsighted
    obtain ⟨birth, hbirth, hrooted⟩ := h.rooted sight hsight
    refine ⟨birth, hbirth, hrooted, fun experiment hstored => ?_⟩
    rw [home_of_rooted hrooted (of_decide_eq_true hhome), hnone] at hstored
    contradiction
  · exact h.stranded volume hold

/-- What a worker has been told is true, and the experiment that it passes over was created. -/
structure WorkerTrusted (births : List Birth) (experiments : Store ExperimentContent)
    (worker : Worker) : Prop where
  trusted : Trusted births experiments worker.memory
  born : ∀ settings experiment, worker.errand = .pass settings experiment →
    Born births (.ofMetadata experiment.metadata) experiment

structure VolumesRooted (scene : Scene) : Prop where
  unique : ∀ birth ∈ scene.births, ∀ twin ∈ scene.births, birth.uid = twin.uid → birth = twin
  born : ∀ key experiment, scene.experiments.lookup key = some experiment →
    Born scene.births key experiment
  rooted : AllRooted scene.births scene.volumes

def conduct : Interleaving.Conduct crew Findings where
  rules worker := worker.errand.rules
  suits _ _ _ := True
  situation := Worker.memory
  program_resume _ _ _ _ := rfl
  rules_resume _ _ _ _ := rfl
  suits_resume _ _ _ _ := rfl
  situation_resume _ _ _ _ := rfl

def invariant : Interleaving.Invariant crew where
  holds := VolumesRooted
  knows scene := WorkerTrusted scene.births scene.experiments
  holds_withWorkers _ _ h := ⟨h.unique, h.born, h.rooted⟩
  knows_withWorkers _ _ _ h := h

abbrev Sound : Scene → Prop := Interleaving.Sound conduct invariant

theorem workerTrusted_mono {births' : List Birth} {worker : Worker}
    (h : WorkerTrusted births experiments worker) (hbirths : births ⊆ births')
    (hgone : ∀ birth ∈ births, Gone experiments birth → Gone after birth) :
    WorkerTrusted births' after worker := by
  refine ⟨trusted_mono h.trusted hbirths hgone, fun settings experiment herrand => ?_⟩
  obtain ⟨hkey, uid, huid, hbirth⟩ := h.born settings experiment herrand
  exact ⟨hkey, uid, huid, hbirths hbirth⟩

theorem workerTrusted_of_descends {worker : Worker} (h : WorkerTrusted births experiments worker)
    (hdescends : Descends experiments after) : WorkerTrusted births after worker :=
  workerTrusted_mono h (List.Subset.refl _) fun _ _ => gone_of_descends hdescends

variable {scene : Scene} {worker : Worker}

theorem volumesRooted_of_descends (h : VolumesRooted scene)
    (hdescends : Descends scene.experiments after) :
    VolumesRooted { scene with experiments := after } :=
  ⟨h.unique, born_of_descends hdescends h.born, h.rooted⟩

theorem sound_of_descends (h : Sound scene) (hdescends : Descends scene.experiments after) :
    Sound { scene with experiments := after } :=
  ⟨volumesRooted_of_descends h.holds hdescends, h.follows, fun worker hworker =>
    workerTrusted_of_descends (h.knows worker hworker) hdescends⟩

theorem sound_enroll (h : Sound scene) (errand : Errand)
    (hborn : ∀ settings experiment, errand = .pass settings experiment →
      Born scene.births (.ofMetadata experiment.metadata) experiment) :
    Sound (scene.enroll errand) :=
  Interleaving.sound_enroll h (abides_program errand {}) ⟨trusted_nothing, hborn⟩

theorem sound_create (h : Sound scene) {uid : String} (object : Experiment)
    (hfresh : uid ∉ scene.births.map Birth.uid) :
    Sound
      { scene with
        experiments := (scene.experiments.add uid object).2
        births := ⟨.ofMetadata object.metadata, uid⟩ :: scene.births } := by
  have hother : ∀ birth ∈ scene.births, birth.uid ≠ uid := by
    rintro birth hbirth rfl
    exact hfresh (List.mem_map_of_mem hbirth)
  refine ⟨⟨?_, fun key experiment hexperiment => ?_, fun key volume hvolume => ?_⟩, h.follows,
    fun worker hworker => ?_⟩
  · intro birth hbirth twin htwin huid
    rcases List.mem_cons.mp hbirth with rfl | hbirth
    · rcases List.mem_cons.mp htwin with rfl | htwin
      · rfl
      · exact absurd huid.symm (hother twin htwin)
    · rcases List.mem_cons.mp htwin with rfl | htwin
      · exact absurd huid (hother birth hbirth)
      · exact h.holds.unique birth hbirth twin htwin huid
  · rcases lookup_of_lookup_add hexperiment with hold | ⟨rfl, rfl⟩
    · obtain ⟨hplace, given, hgiven, hbirth⟩ := h.holds.born key experiment hold
      exact ⟨hplace, given, hgiven, List.mem_cons_of_mem _ hbirth⟩
    · exact ⟨rfl, uid, rfl, List.mem_cons_self⟩
  · obtain ⟨birth, hbirth, hrooted⟩ := h.holds.rooted key volume hvolume
    exact ⟨birth, List.mem_cons_of_mem _ hbirth, hrooted⟩
  · refine workerTrusted_mono (h.knows worker hworker) (List.subset_cons_self _ _) ?_
    intro birth hbirth hgone experiment hexperiment
    rcases lookup_of_lookup_add hexperiment with hold | ⟨-, rfl⟩
    · exact hgone experiment hold
    · exact fun hsame => hother birth hbirth (Option.some.inj hsame).symm

section Turn

variable {uid : String} {elsewhere : (effect : Effect) → effect.Reply} {effect : Effect}
  (h : VolumesRooted scene) (hinformed : WorkerTrusted scene.births scene.experiments worker)

include h hinformed

theorem volumesRooted_volume_call {call : Store.Call VolumeContent}
    (hallows : worker.errand.allows worker.memory (.store .volume call)) :
    VolumesRooted (scene.answer uid elsewhere (.store .volume call)).2 := by
  cases call with
  | get => exact h
  | list => exact h
  | create object =>
      have hmakes : worker.errand.Makes object := hallows
      generalize herrand : worker.errand = errand at hmakes
      cases hmakes with
      | own hidentity hrooted =>
          obtain ⟨-, given, hgiven, hbirth⟩ := hinformed.born _ _ herrand
          cases hidentity.symm.trans hgiven
          exact ⟨h.unique, h.born, rooted_add h.rooted hbirth hrooted uid⟩
  | replace object =>
      obtain ⟨sight, hsight, halike⟩ := hallows
      obtain ⟨birth, hbirth, hrooted⟩ := hinformed.trusted.rooted sight hsight
      exact ⟨h.unique, h.born,
        rooted_write h.rooted hbirth (rooted_of_sameTies hrooted halike) Store.countReplace⟩
  | replaceStatus => contradiction
  | delete ns name preconditions =>
      exact ⟨h.unique, h.born, rooted_remove h.rooted ⟨ns, name⟩ preconditions⟩

theorem volumesRooted_answer (hallows : worker.errand.allows worker.memory effect) :
    VolumesRooted (scene.answer uid elsewhere effect).2 := by
  cases effect with
  | store kind call =>
      cases kind with
      | experiment =>
          cases call with
          | get => exact h
          | list => exact h
          | replaceStatus object => exact volumesRooted_of_descends h (descends_write _ object _)
          | create => contradiction
          | replace => contradiction
          | delete => contradiction
      | volume => exact volumesRooted_volume_call h hinformed hallows
      | _ => exact h
  | _ => exact h

theorem trusted_answer (hallows : worker.errand.allows worker.memory effect) :
    Trusted scene.births (scene.answer uid elsewhere effect).2.experiments
      (worker.memory.after effect (scene.answer uid elsewhere effect).1) := by
  have htrusted := hinformed.trusted
  cases effect with
  | store kind call =>
      cases kind with
      | experiment =>
          cases call with
          | get ns name =>
              change Trusted _ _ (worker.memory.after (.store .experiment (.get ns name))
                (scene.experiments.fetch ⟨ns, name⟩))
              cases hstored : scene.experiments.lookup ⟨ns, name⟩ with
              | some experiment =>
                  rw [fetch_of_stored hstored]
                  exact htrusted
              | none =>
                  rw [fetch_of_missing hstored]
                  exact trusted_miss htrusted hstored
          | list => exact htrusted
          | replaceStatus object =>
              exact trusted_mono htrusted (List.Subset.refl _) fun _ _ =>
                gone_of_descends (descends_write _ object _)
          | create => contradiction
          | replace => contradiction
          | delete => contradiction
      | volume =>
          cases call with
          | get ns name =>
              change Trusted _ _ (worker.memory.after (.store .volume (.get ns name))
                (scene.volumes.fetch ⟨ns, name⟩))
              cases hstored : scene.volumes.lookup ⟨ns, name⟩ with
              | some volume =>
                  rw [fetch_of_stored hstored]
                  refine trusted_sight htrusted fun shown hshown => ?_
                  rw [List.mem_singleton.mp hshown]
                  exact ⟨h.rooted _ volume hstored, nofun⟩
              | none =>
                  rw [fetch_of_missing hstored]
                  exact htrusted
          | list ns selector =>
              refine trusted_sight htrusted fun shown hshown => ?_
              obtain ⟨key, hstored, -, hselected⟩ := mem_select.mp hshown
              exact ⟨h.rooted key shown hstored, hselected⟩
          | create => exact htrusted
          | replace => exact htrusted
          | replaceStatus => exact htrusted
          | delete => exact htrusted
      | _ => exact htrusted
  | _ => exact htrusted

end Turn

theorem births_answer (scene : Scene) (uid : String)
    (elsewhere : (effect : Effect) → effect.Reply) (effect : Effect) :
    (scene.answer uid elsewhere effect).2.births = scene.births := by
  cases effect with
  | store kind call => cases kind <;> rfl
  | _ => rfl

/-- No errand does more to experiments than to write their status. -/
theorem descends_answer {errand : Errand} {memory : Findings} {effect : Effect} (uid : String)
    (elsewhere : (effect : Effect) → effect.Reply) (hallows : errand.allows memory effect) :
    Descends scene.experiments (scene.answer uid elsewhere effect).2.experiments := by
  have hsame : Descends scene.experiments scene.experiments :=
    descends_of_subset fun _ _ hobject => hobject
  cases effect with
  | store kind call =>
      cases kind with
      | experiment =>
          cases call with
          | replaceStatus object => exact descends_write _ object _
          | create => contradiction
          | replace => contradiction
          | delete => contradiction
          | _ => exact hsame
      | _ => exact hsame
  | _ => exact hsame

theorem sound_advance (h : Sound scene) (index : Nat) (uid : String)
    (elsewhere : (effect : Effect) → effect.Reply) :
    Sound (scene.advance index uid elsewhere) := by
  refine Interleaving.sound_advance h (fun worker hworker effect reply after hasks hanswer => ?_)
    index
  obtain ⟨rfl, rfl⟩ := Prod.mk.inj (Option.some.inj hanswer)
  have hinformed := h.knows worker hworker
  have hbirths := births_answer scene uid elsewhere effect
  refine ⟨volumesRooted_answer h.holds hinformed hasks, fun other hother => ?_, fun _ => ?_⟩
  · change WorkerTrusted (scene.answer uid elsewhere effect).2.births _ other
    rw [hbirths]
    exact workerTrusted_of_descends (h.knows other hother) (descends_answer uid elsewhere hasks)
  · change WorkerTrusted (scene.answer uid elsewhere effect).2.births _ _
    rw [hbirths]
    exact ⟨trusted_answer h.holds hinformed hasks, hinformed.born⟩

theorem sound_move (h : Sound scene) (move : Move) : Sound (scene.move move) := by
  cases move with
  | create uid object =>
      unfold Scene.move
      dsimp only
      split
      · exact h
      · rename_i hfresh
        exact sound_create h object hfresh
  | edit key change => exact sound_of_descends h (descends_mutate _ key change)
  | remove key =>
      exact sound_of_descends h
        (descends_of_subset fun _ _ hobject => lookup_of_lookup_remove hobject)
  | pass settings key =>
      unfold Scene.move
      dsimp only
      split
      · rename_i experiment hstored
        refine sound_enroll h _ ?_
        rintro _ _ ⟨⟩
        have hborn := h.holds.born key experiment hstored
        exact hborn.1.symm ▸ hborn
      · exact h
  | notify event => exact sound_enroll h _ fun _ _ herrand => absurd herrand nofun
  | sweep => exact sound_enroll h _ fun _ _ herrand => absurd herrand nofun
  | advance index uid elsewhere => exact sound_advance h index uid elsewhere

theorem sound_run (moves : List Move) : Sound (Scene.run moves) := by
  have hsettled : VolumesRooted {} :=
    ⟨fun _ hbirth => absurd hbirth List.not_mem_nil, fun _ _ hstored => (nomatch hstored),
      fun _ _ hstored => (nomatch hstored)⟩
  have hempty : Sound {} :=
    ⟨hsettled, fun _ hworker => absurd hworker List.not_mem_nil,
      fun _ hworker => absurd hworker List.not_mem_nil⟩
  exact Interleaving.run_induction (motive := fun _ => Sound) hempty
    fun _ move _ hscene => sound_move hscene move

theorem ask_of_deletes {name : String} (h : scene.deletes? worker = some name) :
    ∃ preconditions next,
      worker.program = .ask (.store .volume (.delete none name preconditions)) next := by
  unfold Scene.deletes? at h
  split at h
  · rename_i target preconditions next hprogram
    split at h
    · cases h
      exact ⟨preconditions, next, hprogram⟩
    · contradiction
  · contradiction

theorem birth_of_stored {key : ObjectKey} {experiment : Experiment} {volume : Volume}
    (h : Sound scene) (hstored : scene.experiments.lookup key = some experiment)
    (hbirth : birth ∈ scene.births) (hrooted : Rooted birth volume)
    (hname : volumeName experiment = .ok volume.name) :
    birth.home = key ∧ experiment.metadata.uid = some birth.uid := by
  obtain ⟨uid, huid, hvolume⟩ := volumeName_eq_ok hname
  have hplace : volume.name = "pv-" ++ birth.uid := congrArg ObjectKey.name hrooted.place
  have hsame : birth.uid = uid := by
    have htext := congrArg String.toList (hplace.symm.trans hvolume)
    rw [String.toList_append, String.toList_append] at htext
    exact String.toList_inj.mp (List.append_cancel_left htext)
  obtain ⟨-, given, hgiven, hborn⟩ := h.holds.born key experiment hstored
  cases huid.symm.trans hgiven
  cases h.holds.unique birth hbirth ⟨key, uid⟩ hborn hsame
  exact ⟨rfl, huid⟩

theorem believes_of_destroys {key : ObjectKey} {experiment : Experiment} (h : Sound scene)
    (hworker : worker ∈ scene.workers) (hdestroys : Destroys scene worker key experiment) :
    Believes worker key := by
  obtain ⟨name, hname, hdeletes⟩ := hdestroys.deletes
  obtain ⟨preconditions, next, hprogram⟩ := ask_of_deletes hdeletes
  have hinformed := h.knows worker hworker
  have hasks : worker.errand.allows worker.memory
      (.store .volume (.delete none name preconditions)) :=
    Interleaving.asks_of_follows (h.follows worker hworker) hprogram
  have hreleases : worker.errand.Releases worker.memory name := hasks.2
  generalize herrand : worker.errand = errand at hreleases
  cases hreleases with
  | notified hsighted hbound =>
      rename_i ns told volume
      obtain ⟨birth, hbirth, hrooted⟩ := hinformed.trusted.rooted _ hsighted
      obtain ⟨rfl, -⟩ := birth_of_stored h hdestroys.stored hbirth hrooted hname
      refine ⟨⟨some ns, told⟩, by rw [Worker.told?, herrand], ?_, fun hplain => ?_⟩
      · rw [← hrooted.claim]
        exact eq_of_beq hbound
      · have hlabel := (selects_selectorOf hplain _).mp
          (hinformed.trusted.selected _ hsighted _ rfl)
        exact Option.some.inj (hrooted.label.symm.trans hlabel)
  | stranded hstranded =>
      obtain ⟨birth, hbirth, hrooted, hgone⟩ := hinformed.trusted.stranded _ hstranded
      obtain ⟨rfl, huid⟩ := birth_of_stored h hdestroys.stored hbirth hrooted hname
      exact absurd huid (hgone experiment hdestroys.stored)

/-- After every history the data volume of an experiment that is stored and not being deleted is
spared by all workers but those who were notified of a deletion under its own name. -/
theorem not_destroys_of_not_believes (moves : List Move) {worker : Worker}
    (hworker : worker ∈ (Scene.run moves).workers) {key : ObjectKey} (experiment : Experiment)
    (hbelieves : ¬ Believes worker key) : ¬ Destroys (Scene.run moves) worker key experiment :=
  fun hdestroys => hbelieves (believes_of_destroys (sound_run moves) hworker hdestroys)

def mice : Experiment :=
  { labExperiment with metadata := labMetadata "mice" }

def turns (index count : Nat) : List Move :=
  List.replicate count (.advance index "uid-volume" labAnswer)

/-- An experiment with a volume is deleted, and another one is created and gets its volume. -/
def replacedBy (successor : Experiment) : List Move :=
  [.create "first" labExperiment, .pass {} ⟨some "lab", "rats"⟩] ++ turns 0 22 ++
    [.remove ⟨some "lab", "rats"⟩, .create "second" successor,
      .pass {} (.ofMetadata successor.metadata)] ++ turns 1 22

/-- A sweep has listed the volumes and looked for the first experiment. -/
def swept : List Move := replacedBy mice ++ [.sweep] ++ turns 2 2

/-- The notification of the first deletion is handled late. Its handler has listed the volumes and
deleted that of the first experiment. -/
def misinformed : List Move :=
  replacedBy labExperiment ++ [.notify (deletedEvent labExperiment)] ++ turns 2 2

theorem not_destroys_by_sweep :
    ∃ worker ∈ (Scene.run swept).workers,
      (Scene.run swept).deletes? worker = some "pv-first" ∧
        ∀ experiment, ¬ Destroys (Scene.run swept) worker ⟨some "lab", "mice"⟩ experiment := by
  have hdeletes : ((Scene.run swept).workers[2]?).map (fun worker =>
      (worker.told?, (Scene.run swept).deletes? worker)) = some (none, some "pv-first") := by
    decide +kernel
  obtain ⟨worker, hindex, hworker⟩ := Option.map_eq_some_iff.mp hdeletes
  obtain ⟨htold, hdeletes⟩ := Prod.mk.inj hworker
  have hmem := List.mem_of_getElem? hindex
  refine ⟨worker, hmem, hdeletes, fun experiment =>
    not_destroys_of_not_believes swept hmem experiment ?_⟩
  rintro ⟨told, htells, -⟩
  exact nomatch htold.symm.trans htells

/-- The second experiment bears the name of the first one, and loses its volume. -/
theorem destroys_by_late_notice :
    ∃ worker ∈ (Scene.run misinformed).workers, ∃ experiment,
      Destroys (Scene.run misinformed) worker ⟨some "lab", "rats"⟩ experiment := by
  have hdeletes : ((Scene.run misinformed).workers[2]?).bind (Scene.run misinformed).deletes? =
      some "pv-second" := by
    decide +kernel
  have hstored : ((Scene.run misinformed).experiments.lookup ⟨some "lab", "rats"⟩).map
      (fun experiment =>
        (experiment.metadata.deletionTimestamp, (volumeName experiment).toOption)) =
        some (none, some "pv-second") := by
    decide +kernel
  obtain ⟨worker, hindex, hdeletes⟩ := Option.bind_eq_some_iff.mp hdeletes
  obtain ⟨experiment, hstored, hexperiment⟩ := Option.map_eq_some_iff.mp hstored
  obtain ⟨halive, hname⟩ := Prod.mk.inj hexperiment
  exact ⟨worker, List.mem_of_getElem? hindex, experiment, hstored, halive, _,
    ok_of_toOption hname, hdeletes⟩

end Fleet.Proofs.LiveVolumes
