import Fleet.Experiment.DataVolume
import Fleet.Experiment.Ingress
import Fleet.Experiment.Workload
import Fleet.Proofs.Convergence

namespace Fleet.Proofs.Experiment.Plans

open Fleet.Experiment
open Fleet.Proofs.Convergence

variable {C : Type} {kind : Kind}

section Owned

variable (plan : ResourcePlan C) (owner : Object kind.Content)

@[simp]
theorem expected_ownedBy : (plan.ownedBy kind owner).expected = plan.expected := by
  unfold ResourcePlan.ownedBy
  split <;> rfl

@[simp]
theorem needRecreate_ownedBy : (plan.ownedBy kind owner).needRecreate = plan.needRecreate := by
  unfold ResourcePlan.ownedBy
  split <;> rfl

@[simp]
theorem needUpdate_ownedBy : (plan.ownedBy kind owner).needUpdate = plan.needUpdate := by
  unfold ResourcePlan.ownedBy
  split <;> rfl

@[simp]
theorem preCreate_ownedBy : (plan.ownedBy kind owner).preCreate = plan.preCreate := by
  unfold ResourcePlan.ownedBy
  split <;> rfl

@[simp]
theorem preUpdate_ownedBy : (plan.ownedBy kind owner).preUpdate = plan.preUpdate := by
  unfold ResourcePlan.ownedBy
  split <;> rfl

@[simp]
theorem postUpdate_ownedBy : (plan.ownedBy kind owner).postUpdate = plan.postUpdate := by
  unfold ResourcePlan.ownedBy
  split <;> rfl

theorem found_ownedBy (store : Store C) :
    found (plan.ownedBy kind owner) store = found plan store := by
  unfold found
  rw [expected_ownedBy]

end Owned

theorem content_stamped (plan : ResourcePlan C) :
    plan.stamped.content = plan.expected.content := by
  unfold ResourcePlan.stamped
  split <;> rfl

theorem labels_stamped (plan : ResourcePlan C) :
    plan.stamped.metadata.labels = plan.expected.metadata.labels := by
  unfold ResourcePlan.stamped
  split
  · dsimp only [Metadata.addOwner]
    split <;> rfl
  · rfl

theorem wantsUpdate_of_needUpdate {plan : ResourcePlan C} (h : plan.needUpdate = none)
    (actual : Object C) : wantsUpdate plan actual = false := by
  rw [wantsUpdate, h]
  rfl

/-- A plan without an update predicate is content with whatever exists. -/
theorem convergent_of_needUpdate {plan : ResourcePlan C} (hrecreates : plan.needRecreate = none)
    (hprepares : plan.preCreate = none) (hupdates : plan.needUpdate = none) :
    Convergent plan fun _ => True := by
  have hwants := wantsUpdate_of_needUpdate hupdates
  refine ⟨hrecreates, hprepares, fun actual _ => hwants actual, ?_⟩
  intro actual _ hupdate
  rw [hwants actual] at hupdate
  contradiction

theorem beforeUpdate_of_patch {plan : ResourcePlan C} {patch : Object C → Object C → Object C}
    (hpatches : plan.preUpdate = some fun expected actual => .ok (patch expected actual))
    (hmetadata : ∀ expected actual, (patch expected actual).metadata = actual.metadata)
    (actual : Object C) :
    (plan.beforeUpdate plan.stamped actual).1 = .ok (patch plan.stamped actual) := by
  unfold ResourcePlan.beforeUpdate
  rw [hpatches]
  change Except.ok _ = _
  rw [← hmetadata plan.stamped actual]

/-- A plan that patches the actual object, and is content with what it patched. -/
theorem convergent_of_patch {plan : ResourcePlan C} {admits : Object C → Prop}
    {needs : Object C → Object C → Bool} {patch : Object C → Object C → Object C}
    (hrecreates : plan.needRecreate = none) (hprepares : plan.preCreate = none)
    (hupdates : plan.needUpdate = some needs)
    (hpatches : plan.preUpdate = some fun expected actual => .ok (patch expected actual))
    (hmetadata : ∀ expected actual, (patch expected actual).metadata = actual.metadata)
    (hcreated : ∀ actual, actual.content = plan.stamped.content →
      needs plan.stamped actual = false)
    (hpatched : ∀ actual, admits actual → ∀ after,
      after.content = (patch plan.stamped actual).content → needs plan.stamped after = false) :
    Convergent plan admits := by
  have hwants : ∀ actual, wantsUpdate plan actual = needs plan.stamped actual := by
    intro actual
    rw [wantsUpdate, hupdates]
    rfl
  refine ⟨hrecreates, hprepares, fun actual h => (hwants actual).trans (hcreated actual h), ?_⟩
  intro actual hadmits _
  refine ⟨_, beforeUpdate_of_patch hpatches hmetadata actual, ?_, ?_,
    fun after h => (hwants after).trans (hpatched actual hadmits after h)⟩
  · rw [hmetadata]
  · rw [hmetadata]

variable {experiment : Experiment}

/-- Without a specification a volume has no directory to bring up to date. -/
theorem convergent_volumePlan (expected : Volume) :
    Convergent (volumePlan experiment expected) fun actual => actual.content.spec.isSome := by
  refine convergent_of_patch (by simp [volumePlan]) (by simp [volumePlan])
    (needUpdate_ownedBy ..) (preUpdate_ownedBy ..) ?_ ?_ ?_
  · intro expected actual
    unfold withHostPath
    split <;> rfl
  · intro actual hactual
    simp [hactual]
  · intro actual hspec after hafter
    obtain ⟨spec, hspec⟩ := Option.isSome_iff_exists.mp hspec
    simp [hafter, withHostPath, hspec, VolumeContent.hostPath?]

theorem convergent_claimPlan (expected : Claim) :
    Convergent (claimPlan experiment expected) fun _ => True :=
  convergent_of_needUpdate (needRecreate_ownedBy ..) (preCreate_ownedBy ..) (needUpdate_ownedBy ..)

theorem convergent_podPlan (expected : Pod) :
    Convergent (podPlan experiment expected) fun _ => True :=
  convergent_of_needUpdate (needRecreate_ownedBy ..) (preCreate_ownedBy ..) (needUpdate_ownedBy ..)

@[simp]
theorem name_patchPort (wanted port : ServicePort) :
    (patchPort wanted port).name = port.name := by
  unfold patchPort
  split <;> rfl

theorem samePort_patchPort {wanted port : ServicePort} (h : port.name = wanted.name) :
    samePort (patchPort wanted port) wanted = true := by
  unfold patchPort samePort
  simp [h]

theorem needsPatch_congr {a b actual after : Service} (hexpected : a.content = b.content)
    (hactual : actual.content = after.content) : needsPatch a actual = needsPatch b after := by
  unfold needsPatch externalIPsOf portsOf
  rw [hexpected, hactual]

theorem portsOf_patchService {expected : Service} {wanted : ServicePort}
    (h : (portsOf expected).head? = some wanted) (actual : Service) :
    portsOf (patchService expected actual) = (portsOf actual).map (patchPort wanted) := by
  unfold patchService
  rw [h]
  unfold portsOf
  cases actual.content.spec with
  | none => rfl
  | some spec =>
      change (spec.ports.map _).getD [] = (spec.ports.getD []).map _
      cases spec.ports <;> rfl

theorem needsPatch_patchService {expected : Service}
    (htype : expected.content.spec.bind ServiceSpec.type = some nodePortType)
    (hnamed : ∀ wanted ∈ portsOf expected, wanted.name.isSome) (actual : Service) :
    needsPatch expected (patchService expected actual) = false := by
  unfold needsPatch
  rw [if_neg (by simp [patchService, externalIPsOf, htype])]
  split
  · rfl
  · rename_i wanted hwanted
    obtain ⟨name, hname⟩ := Option.isSome_iff_exists.mp (hnamed wanted (List.mem_of_head? hwanted))
    split
    · rename_i found hfound
      -- The port that is found is a patched one, and it had the wanted name before.
      rw [portsOf_patchService hwanted, List.find?_map, Option.map_eq_some_iff] at hfound
      obtain ⟨port, hport, rfl⟩ := hfound
      have hsame : port.name = wanted.name := by
        have hfind := List.find?_some hport
        rw [Function.comp_apply, name_patchPort, hname, beq_iff_eq] at hfind
        rw [hfind, hname]
        rfl
      rw [samePort_patchPort hsame]
      rfl
    · rfl

section Expected

variable {template : Template} {ips : List String} {expected actual after : Service}
  (h : expected.content = (expectedService experiment template ips).content)

include h

theorem needsPatch_of_created (hactual : actual.content = expected.content) :
    needsPatch expected actual = false := by
  rw [needsPatch_congr h (hactual.trans h)]
  simp [needsPatch, externalIPsOf, portsOf, expectedService, samePort]

theorem needsPatch_of_patched (hafter : after.content = (patchService expected actual).content) :
    needsPatch expected after = false := by
  rw [needsPatch_congr rfl hafter]
  refine needsPatch_patchService ?_ ?_ actual
  · rw [h]
    rfl
  · intro wanted hwanted
    rw [portsOf, h] at hwanted
    rw [List.mem_singleton.mp hwanted]
    rfl

end Expected

theorem convergent_ingressPlan (template : Template) (ips : List String) :
    Convergent (ingressPlan experiment (expectedService experiment template ips))
      fun _ => True := by
  have hcontent :
      (ingressPlan experiment (expectedService experiment template ips)).stamped.content =
        (expectedService experiment template ips).content := by
    rw [content_stamped, ingressPlan, expected_ownedBy]
  refine convergent_of_patch (needRecreate_ownedBy ..) (preCreate_ownedBy ..)
    (needUpdate_ownedBy ..) (preUpdate_ownedBy ..) (fun _ _ => rfl) ?_ ?_
  · exact fun actual hactual => needsPatch_of_created hcontent hactual
  · exact fun actual _ after hafter => needsPatch_of_patched hcontent hafter

end Fleet.Proofs.Experiment.Plans
