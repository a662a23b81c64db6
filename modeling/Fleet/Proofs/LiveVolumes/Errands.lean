import Fleet.Lifecycle.Listener
import Fleet.Proofs.Ownership.PassCalls

namespace Fleet.Proofs.LiveVolumes

open Fleet.Experiment
open Fleet.Proofs.Contract
open Fleet.Proofs.Ownership (SameTies Belongs Sight ownerOf)

/-- What a program is run for. -/
inductive Errand where
  | pass (settings : Settings) (experiment : Experiment)
  | notified (event : LifecycleEvent)
  | sweep

def Errand.program : Errand → Pass Unit
  | .pass settings experiment => do
      let _ ← reconcile settings experiment
  | .notified event => do
      let _ ← Listener.handle event
  | .sweep => do
      let _ ← releaseOrphans

/-- An experiment as it comes into the world: where it is stored, and its identity. -/
structure Birth where
  home : ObjectKey
  uid : String
  deriving DecidableEq

/-- The volume is the one of an experiment, and tells its name and namespace. -/
structure Rooted (birth : Birth) (volume : Volume) : Prop where
  place : ObjectKey.ofMetadata volume.metadata = ⟨none, "pv-" ++ birth.uid⟩
  label : volume.metadata.label? nameLabel = some birth.home.name
  claim : volume.content.claimNamespace? = birth.home.namespace

theorem claimNamespace?_eq (content : VolumeContent) :
    content.claimNamespace? =
      (Ownership.bond? .volume content).bind ObjectReference.namespace := rfl

theorem rooted_of_sameTies {birth : Birth} {volume other : Volume} (h : Rooted birth volume)
    (halike : SameTies .volume volume other) : Rooted birth other := by
  refine ⟨halike.place.trans h.place, ?_, ?_⟩
  · rw [Metadata.label?, halike.labels]
    exact h.label
  · rw [claimNamespace?_eq, halike.bond]
    exact h.claim

theorem rooted_of_belongs {protocols : String → Prop} {owner : Ownership.Owner} {volume : Volume}
    (h : Belongs protocols owner .volume volume) :
    ∃ uid, owner.uid = some uid ∧ Rooted ⟨owner.home, uid⟩ volume := by
  obtain ⟨uid, huid, hplace⟩ := h.place
  refine ⟨uid, huid, hplace, h.label, ?_⟩
  rw [claimNamespace?_eq, h.bond]
  rfl

def homeOf (volume : Volume) : Option ObjectKey :=
  (originOf volume).map fun (ns, name) => ⟨some ns, name⟩

/-- What a program has found out: the volumes that it was shown, each with the selector that it
asked for, and those whose experiment it has looked for in vain. -/
structure Findings where
  sighted : List (Option String × Volume) := []
  stranded : List Volume := []

namespace Findings

def sight (memory : Findings) (selector : Option String) (volumes : List Volume) : Findings :=
  { memory with sighted := volumes.map (selector, ·) ++ memory.sighted }

/-- There is no experiment under a key, so the volumes that belong there are stranded. -/
def miss (memory : Findings) (key : ObjectKey) : Findings :=
  { memory with
    stranded := (memory.sighted.map Prod.snd).filter (fun volume => homeOf volume = some key) ++
      memory.stranded }

def after (memory : Findings) : (effect : Effect) → effect.Reply → Findings
  | .store .volume (.get ..), .ok volume => memory.sight none [volume]
  | .store .volume (.list _ selector), .ok volumes => memory.sight selector volumes
  | .store .experiment (.get ns name), .error failure =>
      if failure.isNotFound then memory.miss ⟨ns, name⟩ else memory
  | _, _ => memory

end Findings

/-- What an errand makes: nothing but the volume of the experiment that it passes over. -/
inductive Errand.Makes : Errand → Volume → Prop where
  | own {settings : Settings} {experiment : Experiment} {uid : String} {volume : Volume} :
      experiment.metadata.uid = some uid →
        Rooted ⟨.ofMetadata experiment.metadata, uid⟩ volume →
          Makes (.pass settings experiment) volume

/-- What an errand releases, by the name of the volume. -/
inductive Errand.Releases (memory : Findings) : Errand → String → Prop where
  /-- The notification's selector has picked the volume, whose claim is in the namespace. -/
  | notified {ns name : String} {volume : Volume} :
      (some (selectorOf name), volume) ∈ memory.sighted → isBoundIn ns volume = true →
        Releases memory (.notified (.experimentDeleted ns name)) volume.name
  | stranded {volume : Volume} : volume ∈ memory.stranded → Releases memory .sweep volume.name

def Errand.allows (errand : Errand) (memory : Findings) : Effect → Prop
  | .store .volume (.create object) => errand.Makes object
  | .store .volume (.replace object) => ∃ sight ∈ memory.sighted, SameTies .volume sight.2 object
  | .store .volume (.replaceStatus _) => False
  | .store .volume (.delete ns name _) => ns = none ∧ errand.Releases memory name
  | .store .experiment (.create _) => False
  | .store .experiment (.replace _) => False
  | .store .experiment (.delete ..) => False
  | _ => True

def Errand.rules (errand : Errand) : Rules Findings Effect Effect.Reply where
  allows := errand.allows
  after := Findings.after

/-- The program keeps to the rules of an errand, whatever is known when it starts. -/
def Abides {α : Type} (errand : Errand) (program : Pass α) : Prop :=
  ∀ memory, Keeps errand.rules (fun _ _ => True) program memory

variable {α β : Type} {errand : Errand}

theorem abides_bind {program : Pass α} {next : α → Pass β} (h : Abides errand program)
    (hnext : ∀ result, Abides errand (next result)) : Abides errand (program >>= next) :=
  fun memory => keeps_bind (h memory) fun reached result _ => hnext result reached

/-- The errand has been shown every volume that its pass has looked up. -/
def SightsKnown (seen : Ownership.Memory) (memory : Findings) : Prop :=
  ∀ ns name volume, (⟨.volume, .get ns name, volume⟩ : Sight) ∈ seen →
    (none, volume) ∈ memory.sighted

section Pass

variable {settings : Settings} {experiment : Experiment} {seen : Ownership.Memory}
  {memory : Findings} {effect : Effect}

theorem mem_sighted_after {sight : Option String × Volume} (h : sight ∈ memory.sighted)
    (effect : Effect) (reply : effect.Reply) : sight ∈ (memory.after effect reply).sighted := by
  unfold Findings.after
  split
  · exact List.mem_append_right _ h
  · exact List.mem_append_right _ h
  · split <;> exact h
  · exact h

theorem sightsKnown_after (h : SightsKnown seen memory) (effect : Effect) (reply : effect.Reply) :
    SightsKnown (seen.after effect reply) (memory.after effect reply) := by
  intro ns name volume hseen
  unfold Ownership.Memory.after at hseen
  split at hseen
  · rcases List.mem_cons.mp hseen with hnew | hold
    · cases hnew
      exact List.mem_cons_self
    · exact mem_sighted_after (h ns name volume hold) _ _
  · rcases List.mem_append.mp hseen with hnew | hold
    · obtain ⟨object, -, hobject⟩ := List.mem_map.mp hnew
      cases hobject
    · exact mem_sighted_after (h ns name volume hold) _ _
  · exact mem_sighted_after (h ns name volume hseen) _ _

/-- What a pass may do with its dependents, the errand of a pass may do with volumes. -/
theorem allows_of_rules (h : SightsKnown seen memory)
    (hallows : (Ownership.rules (ownerOf experiment)).allows seen effect) :
    Errand.allows (.pass settings experiment) memory effect := by
  cases effect with
  | store kind call =>
      cases kind with
      | volume =>
          have hproper := hallows.1 rfl
          cases call with
          | create object =>
              obtain ⟨uid, huid, hrooted⟩ := rooted_of_belongs hproper
              exact .own huid hrooted
          | replace object =>
              obtain ⟨key, shown, hshown, -, halike⟩ := hproper
              exact ⟨_, h _ _ _ hshown, halike⟩
          | replaceStatus => contradiction
          | delete => exact nomatch hproper.1
          | _ => trivial
      | experiment =>
          have hrestrained := hallows.2 rfl
          cases call with
          | create => contradiction
          | replace => contradiction
          | delete => contradiction
          | _ => trivial
      | _ => trivial
  | _ => trivial

theorem abides_reconcile (settings : Settings) (experiment : Experiment) :
    Abides (.pass settings experiment) (reconcile settings experiment) := by
  intro memory
  have hnothing : SightsKnown [] memory := fun _ _ _ hseen => absurd hseen List.not_mem_nil
  refine keeps_mono (keeps_refine (Ownership.keeps_reconcile settings experiment []) hnothing ?_)
    fun _ _ _ => trivial
  intro seen memory effect hshown hallows
  exact ⟨allows_of_rules hshown hallows, sightsKnown_after hshown effect⟩

end Pass

theorem keeps_releaseVolume {volume : Volume} {memory : Findings}
    (h : errand.Releases memory volume.name) :
    Keeps errand.rules (fun reached _ => reached = memory) (releaseVolume volume) memory := by
  refine ⟨⟨rfl, h⟩, ?_⟩
  rintro (failure | ⟨⟩) <;> rfl

theorem keeps_releaseBound {ns name : String} {volumes : List Volume} {released : Nat}
    {memory : Findings}
    (h : ∀ volume ∈ volumes, (some (selectorOf name), volume) ∈ memory.sighted) :
    Keeps (Errand.rules (.notified (.experimentDeleted ns name))) (fun _ _ => True)
      (releaseBound ns released volumes) memory := by
  induction volumes generalizing released with
  | nil => trivial
  | cons volume rest ih =>
      obtain ⟨hvolume, hrest⟩ := List.forall_mem_cons.mp h
      unfold releaseBound
      split
      · rename_i hbound
        refine keeps_bind (keeps_releaseVolume (.notified hvolume hbound)) ?_
        rintro _ (failure | deleted) rfl
        · trivial
        · exact ih hrest
      · exact ih hrest

theorem abides_handle (event : LifecycleEvent) :
    Abides (.notified event) (Listener.handle event) := by
  cases event with
  | clusterDeleted => exact fun _ => trivial
  | experimentDeleted ns name =>
      intro memory
      have hreleases : Keeps (Errand.rules (.notified (.experimentDeleted ns name)))
          (fun _ _ => True) (releaseVolumes ns name) memory := by
        refine ⟨trivial, ?_⟩
        rintro (failure | volumes)
        · trivial
        · refine keeps_releaseBound fun volume hvolume => ?_
          exact List.mem_append_left _ (List.mem_map_of_mem hvolume)
      exact keeps_bind hreleases fun _ _ _ => trivial

/-- An experiment that is not found leaves the volumes that belong to it stranded. -/
theorem keeps_find_experiment (ns : Option String) (name : String) (memory : Findings) :
    Keeps errand.rules
      (fun reached found => reached.sighted = memory.sighted ∧
        (found = .ok none → reached = memory.miss ⟨ns, name⟩))
      (Pass.on .experiment (Store.find ns name)) memory := by
  refine ⟨trivial, ?_⟩
  rintro (failure | found)
  · change (ite _ _ _ : Findings).sighted = _ ∧
      (Store.absentAsNone (.error failure) = .ok none → (ite _ _ _ : Findings) = _)
    by_cases hgone : failure.isNotFound = true
    · rw [if_pos hgone]
      exact ⟨rfl, fun _ => rfl⟩
    · rw [if_neg hgone, Store.absentAsNone, if_neg hgone]
      exact ⟨rfl, nofun⟩
  · exact ⟨rfl, nofun⟩

theorem mem_stranded_miss {memory : Findings} {volume : Volume} {key : ObjectKey}
    (hsighted : volume ∈ memory.sighted.map Prod.snd) (hhome : homeOf volume = some key) :
    volume ∈ (memory.miss key).stranded :=
  List.mem_append_left _ (List.mem_filter.mpr ⟨hsighted, decide_eq_true hhome⟩)

theorem keeps_releaseStranded {volumes : List Volume} {released : Nat} {memory : Findings}
    (h : ∀ volume ∈ volumes, volume ∈ memory.sighted.map Prod.snd) :
    Keeps (Errand.rules .sweep) (fun _ _ => True) (releaseStranded released volumes) memory := by
  induction volumes generalizing released memory with
  | nil => trivial
  | cons volume rest ih =>
      obtain ⟨hvolume, hrest⟩ := List.forall_mem_cons.mp h
      unfold releaseStranded
      cases horigin : originOf volume with
      | none => exact ih hrest
      | some origin =>
          have hhome : homeOf volume = some ⟨some origin.1, origin.2⟩ := by
            rw [homeOf, horigin]
            rfl
          refine keeps_bind (keeps_find_experiment (some origin.1) origin.2 memory) ?_
          rintro reached (failure | _ | found) ⟨hsighted, hmissed⟩
          · trivial
          · cases hmissed rfl
            refine keeps_bind
              (keeps_releaseVolume (.stranded (mem_stranded_miss hvolume hhome))) ?_
            rintro _ (failure | deleted) rfl
            · trivial
            · exact ih hrest
          · exact ih (hsighted ▸ hrest)

theorem abides_sweep : Abides .sweep releaseOrphans := by
  intro memory
  refine ⟨trivial, ?_⟩
  rintro (failure | volumes)
  · trivial
  · refine keeps_releaseStranded fun volume hvolume => ?_
    simp [Errand.rules, Findings.after, Findings.sight, hvolume]

theorem abides_program (errand : Errand) : Abides errand errand.program := by
  cases errand with
  | pass settings experiment =>
      exact abides_bind (abides_reconcile settings experiment) fun _ _ => trivial
  | notified event => exact abides_bind (abides_handle event) fun _ _ => trivial
  | sweep => exact abides_bind abides_sweep fun _ _ => trivial

end Fleet.Proofs.LiveVolumes
