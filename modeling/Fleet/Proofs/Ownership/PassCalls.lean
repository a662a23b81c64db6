import Fleet.Proofs.Experiment.Steps
import Fleet.Proofs.Ownership.Basic

namespace Fleet.Proofs.Ownership

open Fleet.Experiment
open Fleet.Proofs.Contract
open Fleet.Proofs.Experiment.Plans

variable {owner : Owner} {memory reached : Memory}

theorem keeps_find (kind : Kind) (ns : Option String) (name : String) :
    Keeps (rules owner)
      (fun reached result => ∀ object, result = .ok (some object) →
        ⟨kind, .get ns name, object⟩ ∈ reached)
      (Pass.on kind (Store.find ns name)) memory := by
  refine ⟨allows_get kind ns name, ?_⟩
  rintro (failure | found) object hobject
  · change Store.absentAsNone (.error failure) = .ok (some object) at hobject
    unfold Store.absentAsNone at hobject
    dsimp only at hobject
    split at hobject <;> simp at hobject
  · cases hobject
    exact List.mem_cons_self

theorem keeps_require (kind : Kind) (ns : Option String) (name : String) :
    Keeps (rules owner)
      (fun reached result => ∀ object, result = .ok object →
        ⟨kind, .get ns name, object⟩ ∈ reached)
      (require kind ns name) memory := by
  refine keeps_bind (keeps_find kind ns name) ?_
  rintro reached (failure | _ | found) hfound
  · rintro _ ⟨⟩
  · rintro _ ⟨⟩
  · rintro object ⟨⟩
    exact hfound found rfl

/-- What a pass works with, it has seen. -/
structure DependentsSeen (owner : Owner) (memory : Memory) (dependents : Dependents) : Prop where
  offered : memory.Offers dependents.template.content.protocolName
  shown : ∀ pod ∈ dependents.pods,
    (⟨.pod, .list owner.home.namespace (some (selectorOf owner.home.name)), pod⟩ : Sight) ∈ memory

theorem dependentsSeen_mono {dependents : Dependents} (h : DependentsSeen owner memory dependents)
    (hgrown : memory ⊆ reached) : DependentsSeen owner reached dependents :=
  ⟨offers_mono h.offered hgrown, fun pod hpod => hgrown (h.shown pod hpod)⟩

section Pass

variable {experiment : Experiment}

theorem keeps_resolveOwned {cluster : Cluster} {template : Template} {volumeName : String}
    (h : memory.Offers template.content.protocolName) :
    Keeps (rules (ownerOf experiment))
      (fun reached result => ∀ dependents, result = .ok dependents →
        DependentsSeen (ownerOf experiment) reached dependents)
      (resolveOwned experiment cluster template volumeName) memory := by
  refine keeps_bind_grown (keeps_find _ _ _) ?_
  rintro memory (failure | volume) hgrown -
  · rintro _ ⟨⟩
  replace h := offers_mono h hgrown
  refine keeps_bind_grown (keeps_find _ _ _) ?_
  rintro memory (failure | claim) hgrown -
  · rintro _ ⟨⟩
  replace h := offers_mono h hgrown
  refine keeps_bind_grown (keeps_find _ _ _) ?_
  rintro memory (failure | ingress) hgrown -
  · rintro _ ⟨⟩
  replace h := offers_mono h hgrown
  refine ⟨⟨fun _ => trivial, fun _ => trivial⟩, ?_⟩
  rintro (failure | pods)
  · rintro _ ⟨⟩
  · rintro dependents ⟨⟩
    exact ⟨offers_mono h (List.subset_append_right _ _), fun pod hpod =>
      List.mem_append_left _ (List.mem_map_of_mem hpod)⟩

theorem keeps_resolve :
    Keeps (rules (ownerOf experiment))
      (fun reached result => ∀ dependents, result = .ok dependents →
        DependentsSeen (ownerOf experiment) reached dependents)
      (resolve experiment) memory := by
  refine keeps_bind (keeps_require _ _ _) ?_
  rintro memory (failure | cluster) -
  · rintro _ ⟨⟩
  refine keeps_bind (keeps_require _ _ _) ?_
  rintro memory (failure | template) htemplate
  · rintro _ ⟨⟩
  dsimp only
  split
  · rintro _ ⟨⟩
  · exact keeps_resolveOwned ⟨_, _, template, htemplate template rfl, rfl⟩

section Expected

variable {protocols : String → Prop} {settings : DataVolumeSettings} {template : Template}

theorem fitting_expectedVolume {expected : Volume}
    (h : expectedVolume experiment settings = .ok expected) :
    Fitting protocols experiment .volume expected := by
  unfold expectedVolume at h
  cases hname : volumeName experiment with
  | error failure =>
      rw [hname] at h
      contradiction
  | ok name =>
      rw [hname] at h
      cases h
      obtain ⟨uid, huid, rfl⟩ := volumeName_eq_ok hname
      exact ⟨⟨uid, huid, rfl⟩, rfl, rfl, rfl, rfl⟩

theorem fitting_expectedClaim {expected : Claim}
    (h : expectedClaim experiment settings = .ok expected) :
    Fitting protocols experiment .claim expected := by
  unfold expectedClaim at h
  cases hname : volumeName experiment with
  | error failure =>
      rw [hname] at h
      contradiction
  | ok name =>
      rw [hname] at h
      cases h
      obtain ⟨uid, huid, rfl⟩ := volumeName_eq_ok hname
      refine ⟨rfl, rfl, rfl, rfl, ?_⟩
      change some _ = experiment.metadata.uid.map _
      rw [huid]
      rfl

theorem fitting_expectedService (h : protocols template.content.protocolName)
    (externalIPs : List String) :
    Fitting protocols experiment .service (expectedService experiment template externalIPs) :=
  ⟨⟨_, h, rfl⟩, rfl, rfl, rfl, rfl⟩

theorem fitting_expectedPod {expected : Pod}
    (h : expectedPod experiment template settings = .ok expected) :
    Fitting protocols experiment .pod expected := by
  unfold expectedPod at h
  dsimp only at h
  split at h
  · contradiction
  · cases h
    exact ⟨rfl, rfl, rfl, rfl, rfl⟩

end Expected

theorem sameTies_withHostPath (expected actual : Volume) :
    SameTies .volume actual (withHostPath expected actual) := by
  refine ⟨?_, ?_, ?_, ?_, ?_⟩
  all_goals
    unfold withHostPath
    split
  all_goals simp [bond?, *]

/-- What a pass has come to between two steps. -/
structure Ready (experiment : Experiment) (memory : Memory) (progress : Progress) : Prop where
  observed : progress.experiment = experiment
  equipped : DependentsSeen (ownerOf experiment) memory progress.dependents

variable {settings : Settings} {progress : Progress}

theorem keeps_reconcileVolume (h : Ready experiment memory progress) :
    Keeps (rules (ownerOf experiment)) (Ready experiment) (reconcileVolume settings progress)
      memory := by
  obtain ⟨rfl, hequipped⟩ := h
  unfold reconcileVolume
  split
  · exact ⟨rfl, hequipped⟩
  · rename_i expected hexpected
    have hdomestic : Domestic (ownerOf progress.experiment) memory .volume
        (volumePlan progress.experiment expected) :=
      domestic_ownedBy rfl rfl rfl (fitting_expectedVolume hexpected)
        (writes_of_patch (preUpdate_ownedBy ..) sameTies_withHostPath)
    refine keeps_bind_grown (keeps_domestic hdomestic) ?_
    rintro reached ⟨outcome, object, consulted⟩ hgrown -
    have hafter := dependentsSeen_mono hequipped hgrown
    rcases outcome with failure | action
    · exact ⟨rfl, hafter.offered, hafter.shown⟩
    · cases action <;> exact ⟨rfl, hafter.offered, hafter.shown⟩

theorem keeps_reconcileClaim (h : Ready experiment memory progress) :
    Keeps (rules (ownerOf experiment)) (Ready experiment) (reconcileClaim settings progress)
      memory := by
  obtain ⟨rfl, hequipped⟩ := h
  unfold reconcileClaim
  split
  · exact ⟨rfl, hequipped⟩
  · rename_i expected hexpected
    have hdomestic : Domestic (ownerOf progress.experiment) memory .claim
        (claimPlan progress.experiment expected) :=
      domestic_ownedBy rfl rfl rfl (fitting_expectedClaim hexpected)
        (writes_of_needUpdate (needUpdate_ownedBy ..))
    refine keeps_bind_grown (keeps_domestic hdomestic) fun reached reconciled hgrown _ => ?_
    have hafter := dependentsSeen_mono hequipped hgrown
    exact ⟨rfl, hafter.offered, hafter.shown⟩

theorem keeps_reconcileIngress (h : Ready experiment memory progress) :
    Keeps (rules (ownerOf experiment)) (Ready experiment) (reconcileIngress progress) memory := by
  obtain ⟨rfl, hequipped⟩ := h
  have hdomestic : Domestic (ownerOf progress.experiment) memory .service
      (ingressPlan progress.experiment (expectedService progress.experiment
        progress.dependents.template progress.dependents.cluster.spec.ingressIPs)) :=
    domestic_ownedBy rfl rfl rfl (fitting_expectedService hequipped.offered _)
      (writes_of_patch (preUpdate_ownedBy ..) fun _ _ => ⟨rfl, rfl, rfl, rfl, rfl⟩)
  refine keeps_bind_grown (keeps_domestic hdomestic) fun reached reconciled hgrown _ => ?_
  have hafter := dependentsSeen_mono hequipped hgrown
  exact ⟨Experiment.Steps.observed_foldl_addEvent _ progress, hafter.offered, hafter.shown⟩

theorem keeps_deletePods {pods : List Pod} (h : ∀ pod ∈ pods,
      (⟨.pod, .list owner.home.namespace (some (selectorOf owner.home.name)), pod⟩ : Sight) ∈
        memory) (progress : Progress) :
    Keeps (rules owner) (fun _ _ => True) (deletePods progress pods) memory := by
  induction pods generalizing progress memory with
  | nil => trivial
  | cons pod rest ih =>
      obtain ⟨hpod, hrest⟩ := List.forall_mem_cons.mp h
      refine ⟨⟨fun _ => ⟨rfl, pod, hpod, rfl⟩, nofun⟩, ?_⟩
      rintro (failure | ⟨⟩)
      · change Keeps _ _ (if failure.isNotFound then _ else _) memory
        split
        · exact ih hrest progress
        · exact ih hrest _
      · exact ih hrest progress

theorem keeps_startWorkload (h : Ready experiment memory progress) :
    Keeps (rules (ownerOf experiment)) (fun _ _ => True) (startWorkload settings progress)
      memory := by
  obtain ⟨rfl, hequipped⟩ := h
  unfold startWorkload
  dsimp only
  split
  · trivial
  · rename_i expected hexpected
    have hdomestic : Domestic (ownerOf progress.experiment) memory .pod
        (podPlan progress.experiment expected) :=
      domestic_ownedBy rfl rfl rfl (fitting_expectedPod hexpected)
        (writes_of_needUpdate (needUpdate_ownedBy ..))
    exact keeps_bind (keeps_domestic hdomestic) fun _ _ _ => trivial

theorem keeps_reconcileWorkload (h : Ready experiment memory progress) :
    Keeps (rules (ownerOf experiment)) (fun _ _ => True) (reconcileWorkload settings progress)
      memory := by
  refine ⟨trivial, fun now => ?_⟩
  change Keeps _ _ (if _ then _ else _) memory
  split
  · exact keeps_deletePods h.equipped.shown _
  · split
    · exact keeps_startWorkload h
    · trivial

theorem keeps_runSteps :
    Keeps (rules (ownerOf experiment)) (fun _ _ => True)
      (runSteps settings (.start experiment)) memory := by
  refine ⟨trivial, fun now => ?_⟩
  have hobserved : (greet (.start experiment) now).observed = experiment := by
    unfold greet
    split <;> rfl
  have hresolve : Keeps (rules (ownerOf experiment))
      (fun reached result => ∀ dependents, result = .ok dependents →
        DependentsSeen (ownerOf experiment) reached dependents)
      (resolve (greet (.start experiment) now).observed) memory := by
    rw [hobserved]
    exact keeps_resolve
  change Keeps _ _ (resolve _ >>= _) memory
  refine keeps_bind hresolve ?_
  rintro memory (failure | dependents) hequipped
  · trivial
  have hready : Ready experiment memory
      { draft := greet (.start experiment) now, dependents, outcome := .empty } :=
    ⟨hobserved, hequipped dependents rfl⟩
  refine keeps_bind (keeps_bind (keeps_reconcileVolume hready) fun _ _ hready =>
    keeps_reconcileClaim hready) fun memory progress hready => ?_
  refine keeps_bind (keeps_reconcileIngress hready) fun memory progress hready => ?_
  exact keeps_bind (keeps_reconcileWorkload hready) fun _ _ _ => trivial

theorem keeps_conclude (draft : StatusDraft) (outcome : Outcome) :
    Keeps (rules owner) (fun _ _ => True) (conclude draft outcome) memory := by
  refine keeps_bind (keeps_publishAll _ _ fun _ => ⟨trivial, rfl⟩) ?_
  rintro _ ⟨⟩ rfl
  dsimp only [Draft.finish]
  split
  · trivial
  · refine keeps_bind (keeps_persistStatus _) ?_
    rintro memory (failure | stored) - <;> trivial

/-- A pass keeps to the rules for what its experiment owns. -/
theorem keeps_reconcile (settings : Settings) (experiment : Experiment) (memory : Memory) :
    Keeps (rules (ownerOf experiment)) (fun _ _ => True) (reconcile settings experiment)
      memory := by
  unfold reconcile
  split
  · exact ⟨trivial, fun _ => trivial⟩
  · refine keeps_bind keeps_runSteps ?_
    rintro memory ⟨draft, outcome⟩ -
    exact keeps_bind (keeps_conclude draft outcome) fun _ _ _ => trivial

end Pass

end Fleet.Proofs.Ownership
