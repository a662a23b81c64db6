import Fleet.Cluster.Basic
import Fleet.Pass.Basic
import Fleet.Settings

namespace Fleet

def managedByLabel : String := "app.kubernetes.io/managed-by"

def managedByValue : String := "cloudengine"

namespace Cluster

def ofNodeAddresses (addresses : NodeAddresses) (settings : MetaClusterSettings) : Cluster :=
  { metadata :=
      { name := some settings.name
        «namespace» := some settings.namespace
        labels := some (.ofList [(metaLabel, "true"), (managedByLabel, managedByValue)]) }
    content :=
      { spec :=
          { timeoutSeconds := settings.timeout.seconds
            publicIPs := addresses.public_
            privateIPs := addresses.private_
            enablePrivateIP := true } } }

/-- Registers the meta cluster unless it is registered already; tells whether it was created. -/
def ensureMeta (settings : MetaClusterSettings) : Pass (Except Failure Bool) := do
  match ← Pass.on .cluster (Store.find (some settings.namespace) settings.name) with
  | .error failure => return .error failure
  | .ok (some _) => return .ok false
  | .ok none =>
      match ← Pass.on .node (Store.list none none) with
      | .error failure => return .error failure
      | .ok nodes =>
          let meta_ := ofNodeAddresses (.ofNodes nodes) settings
          match ← Pass.on .cluster (Store.create meta_) with
          | .ok _ => return .ok true
          -- Another replica may have been faster.
          | .error (.alreadyExists ..) => return .ok false
          | .error failure => return .error failure

end Cluster

end Fleet
