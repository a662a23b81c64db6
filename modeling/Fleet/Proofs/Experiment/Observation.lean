import Fleet.Experiment.Progress
import Fleet.Proofs.Rehearsals

namespace Fleet.Proofs.Experiment.Observation

open Fleet.Experiment
open Fleet.Proofs.Rehearsals
open Fleet.Rehearsal

variable {experiment : Experiment} {world : World}

def podsOf (experiment : Experiment) (pods : Store PodContent) : List Pod :=
  pods.select experiment.metadata.namespace (some (selector experiment))

/-- The objects observed for an experiment that is bound to a cluster and a template. -/
def dependentsIn (inventory : Inventory) (experiment : Experiment) (cluster : Cluster)
    (template : Template) (name : String) : Dependents :=
  let ns := experiment.metadata.namespace
  { cluster
    template
    pods := podsOf experiment inventory.pods
    volume := inventory.volumes.lookup ⟨none, name⟩
    claim := inventory.claims.lookup ⟨ns, claimName experiment⟩
    ingress := inventory.services.lookup ⟨ns, ingressName experiment template⟩ }

/-- An object that a pass cannot do without, or the failure that reports it missing. -/
def needed (inventory : Inventory) (kind : Kind) (ns : Option String) (name : String) :
    Except Failure (Object kind.Content) :=
  match (inventory.store kind).lookup ⟨ns, name⟩ with
  | none => .error (.dependencyMissing kind.title name)
  | some found => .ok found

/-- What is observed in an inventory, or what is missing. -/
def observe (inventory : Inventory) (experiment : Experiment) : Except Failure Dependents :=
  let ns := experiment.metadata.namespace
  match needed inventory .cluster ns experiment.spec.clusterName with
  | .error failure => .error failure
  | .ok cluster =>
      match needed inventory .template ns experiment.spec.template with
      | .error failure => .error failure
      | .ok template =>
          (volumeName experiment).map (dependentsIn inventory experiment cluster template)

structure InputsFound (inventory : Inventory) (experiment : Experiment) (cluster : Cluster)
    (template : Template) (name : String) : Prop where
  cluster : needed inventory .cluster experiment.metadata.namespace experiment.spec.clusterName =
    .ok cluster
  template : needed inventory .template experiment.metadata.namespace experiment.spec.template =
    .ok template
  volume : volumeName experiment = .ok name

theorem observe_of_inputsFound {inventory : Inventory} {cluster : Cluster} {template : Template}
    {name : String} (h : InputsFound inventory experiment cluster template name) :
    observe inventory experiment =
      .ok (dependentsIn inventory experiment cluster template name) := by
  simp only [observe, h.cluster, h.template, h.volume]
  rfl

theorem inputsFound_of_observe {inventory : Inventory} {dependents : Dependents}
    (h : observe inventory experiment = .ok dependents) :
    ∃ cluster template name, InputsFound inventory experiment cluster template name ∧
      dependents = dependentsIn inventory experiment cluster template name := by
  unfold observe at h
  dsimp only at h
  split at h
  · contradiction
  · rename_i cluster hcluster
    split at h
    · contradiction
    · rename_i template htemplate
      cases hname : volumeName experiment with
      | error failure =>
          rw [hname] at h
          contradiction
      | ok name =>
          rw [hname] at h
          exact ⟨cluster, template, name, ⟨hcluster, htemplate, hname⟩, (Except.ok.inj h).symm⟩

theorem perform_require (h : world.faults = []) (kind : Kind) (ns : Option String)
    (name : String) :
    world.perform (require kind ns name) = (needed world.inventory kind ns name, world) := by
  unfold require needed
  rw [perform_bind, perform_find h]
  dsimp only
  cases (world.inventory.store kind).lookup ⟨ns, name⟩ <;> rfl

theorem perform_resolveOwned (h : world.faults = []) (cluster : Cluster) (template : Template)
    (name : String) :
    world.perform (resolveOwned experiment cluster template name) =
      (.ok (dependentsIn world.inventory experiment cluster template name), world) := by
  unfold resolveOwned
  rw [perform_bind, perform_find h]
  change world.perform (_ >>= _) = _
  rw [perform_bind, perform_find h]
  change world.perform (_ >>= _) = _
  rw [perform_bind, perform_find h]
  change world.perform (_ >>= _) = _
  rw [perform_bind, perform_list h]
  rfl

theorem perform_resolve (h : world.faults = []) (experiment : Experiment) :
    world.perform (resolve experiment) = (observe world.inventory experiment, world) := by
  unfold resolve observe
  dsimp only
  rw [perform_bind, perform_require h]
  cases needed world.inventory .cluster experiment.metadata.namespace
      experiment.spec.clusterName with
  | error failure => rfl
  | ok cluster =>
      dsimp only
      rw [perform_bind, perform_require h]
      cases needed world.inventory .template experiment.metadata.namespace
          experiment.spec.template with
      | error failure => rfl
      | ok template =>
          dsimp only
          cases volumeName experiment with
          | error failure => rfl
          | ok name => exact perform_resolveOwned h cluster template name

theorem ends_resolve (h : world.faults = []) (experiment : Experiment) :
    Ends (resolve experiment) world fun found after =>
      found = observe world.inventory experiment ∧ world = after := by
  unfold Ends
  rw [perform_resolve h]
  exact ⟨rfl, rfl⟩

end Fleet.Proofs.Experiment.Observation
