import Fleet.Object.Kind
import Fleet.Store.Memory

namespace Fleet

structure Inventory where
  clusters : Store ClusterContent := { title := Kind.cluster.title }
  experiments : Store ExperimentContent := { title := Kind.experiment.title }
  templates : Store TemplateSpec := { title := Kind.template.title }
  pods : Store PodContent := { title := Kind.pod.title }
  volumes : Store VolumeContent := { title := Kind.volume.title }
  claims : Store ClaimContent := { title := Kind.claim.title }
  services : Store ServiceContent := { title := Kind.service.title }
  nodes : Store NodeContent := { title := Kind.node.title }
  configMaps : Store ConfigMapContent := { title := Kind.configMap.title }

namespace Inventory

def store (inventory : Inventory) : (kind : Kind) → Store kind.Content
  | .cluster => inventory.clusters
  | .experiment => inventory.experiments
  | .template => inventory.templates
  | .pod => inventory.pods
  | .volume => inventory.volumes
  | .claim => inventory.claims
  | .service => inventory.services
  | .node => inventory.nodes
  | .configMap => inventory.configMaps

def setStore (inventory : Inventory) : (kind : Kind) → Store kind.Content → Inventory
  | .cluster, clusters => { inventory with clusters }
  | .experiment, experiments => { inventory with experiments }
  | .template, templates => { inventory with templates }
  | .pod, pods => { inventory with pods }
  | .volume, volumes => { inventory with volumes }
  | .claim, claims => { inventory with claims }
  | .service, services => { inventory with services }
  | .node, nodes => { inventory with nodes }
  | .configMap, configMaps => { inventory with configMaps }

@[simp]
theorem store_setStore (inventory : Inventory) (kind : Kind) (store : Store kind.Content) :
    (inventory.setStore kind store).store kind = store := by
  cases kind <;> rfl

theorem store_setStore_of_ne (inventory : Inventory) {kind other : Kind}
    (store : Store kind.Content) (h : other ≠ kind) :
    (inventory.setStore kind store).store other = inventory.store other := by
  cases kind <;> cases other <;> try contradiction
  all_goals rfl

@[simp]
theorem setStore_store (inventory : Inventory) (kind : Kind) :
    inventory.setStore kind (inventory.store kind) = inventory := by
  cases kind <;> rfl

end Inventory

end Fleet
