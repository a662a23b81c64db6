import Fleet.Object.Metadata

namespace Fleet

structure HostPath where
  path : String
  type : Option String := none
  deriving DecidableEq, Repr

namespace HostPath

def toJson (source : HostPath) : Json :=
  .ofMembers [("path", some (.string source.path)), ("type", source.type.map .string)]

def ofJson? (form : Json) : Option HostPath := do
  guard form.isForm
  let path ← form.defaultedEntry "" Json.text? "path"
  let type ← form.optionalEntry Json.text? "type"
  return { path, type }

def shape : Json.Shape := .formOf [("path", .text), ("type", .text)]

end HostPath

/-- What a volume offers, and the claim it is reserved for. -/
structure VolumeSpec where
  capacity : Option TextMap := none
  accessModes : Option (List String) := none
  reclaimPolicy : Option String := none
  storageClassName : Option String := none
  hostPath : Option HostPath := none
  claimRef : Option ObjectReference := none
  deriving DecidableEq

namespace VolumeSpec

def toJson (spec : VolumeSpec) : Json :=
  .ofMembers [("accessModes", spec.accessModes.map .ofTexts),
    ("capacity", spec.capacity.map .ofTextMap),
    ("claimRef", spec.claimRef.map ObjectReference.toJson),
    ("hostPath", spec.hostPath.map HostPath.toJson),
    ("persistentVolumeReclaimPolicy", spec.reclaimPolicy.map .string),
    ("storageClassName", spec.storageClassName.map .string)]

def ofJson? (form : Json) : Option VolumeSpec := do
  guard form.isForm
  let capacity ← form.optionalEntry Json.textMap? "capacity"
  let accessModes ← form.optionalEntry (Json.listOf? Json.text?) "accessModes"
  let reclaimPolicy ← form.optionalEntry Json.text? "persistentVolumeReclaimPolicy"
  let storageClassName ← form.optionalEntry Json.text? "storageClassName"
  let hostPath ← form.optionalEntry HostPath.ofJson? "hostPath"
  let claimRef ← form.optionalEntry ObjectReference.ofJson? "claimRef"
  return { capacity, accessModes, reclaimPolicy, storageClassName, hostPath, claimRef }

def shape : Json.Shape :=
  .formOf [("accessModes", .texts), ("capacity", .textMap), ("claimRef", ObjectReference.shape),
    ("hostPath", HostPath.shape), ("persistentVolumeReclaimPolicy", .text),
    ("storageClassName", .text)]

end VolumeSpec

structure VolumeContent where
  spec : Option VolumeSpec := none
  deriving DecidableEq

abbrev Volume := Object VolumeContent

namespace VolumeContent

def toMembers (volume : VolumeContent) : List (String × Option Json) :=
  [("spec", volume.spec.map VolumeSpec.toJson)]

def ofJson? (form : Json) : Option VolumeContent := do
  let spec ← form.optionalEntry VolumeSpec.ofJson? "spec"
  return { spec }

def fields : List (String × Json.Shape) := [("spec", VolumeSpec.shape)]

def hostPath? (volume : VolumeContent) : Option HostPath := volume.spec.bind VolumeSpec.hostPath

def claimNamespace? (volume : VolumeContent) : Option String :=
  volume.spec.bind VolumeSpec.claimRef |>.bind ObjectReference.namespace

end VolumeContent

structure StorageRequest where
  requests : Option TextMap := none
  deriving DecidableEq

namespace StorageRequest

def toJson (request : StorageRequest) : Json :=
  .ofMembers [("requests", request.requests.map .ofTextMap)]

def ofJson? (form : Json) : Option StorageRequest := do
  guard form.isForm
  let requests ← form.optionalEntry Json.textMap? "requests"
  return { requests }

def shape : Json.Shape := .formOf [("requests", .textMap)]

end StorageRequest

structure ClaimSpec where
  accessModes : Option (List String) := none
  storageClassName : Option String := none
  volumeName : Option String := none
  resources : Option StorageRequest := none
  deriving DecidableEq

namespace ClaimSpec

def toJson (spec : ClaimSpec) : Json :=
  .ofMembers [("accessModes", spec.accessModes.map .ofTexts),
    ("resources", spec.resources.map StorageRequest.toJson),
    ("storageClassName", spec.storageClassName.map .string),
    ("volumeName", spec.volumeName.map .string)]

def ofJson? (form : Json) : Option ClaimSpec := do
  guard form.isForm
  let accessModes ← form.optionalEntry (Json.listOf? Json.text?) "accessModes"
  let storageClassName ← form.optionalEntry Json.text? "storageClassName"
  let volumeName ← form.optionalEntry Json.text? "volumeName"
  let resources ← form.optionalEntry StorageRequest.ofJson? "resources"
  return { accessModes, storageClassName, volumeName, resources }

def shape : Json.Shape :=
  .formOf [("accessModes", .texts), ("resources", StorageRequest.shape),
    ("storageClassName", .text), ("volumeName", .text)]

end ClaimSpec

structure ClaimContent where
  spec : Option ClaimSpec := none
  deriving DecidableEq

abbrev Claim := Object ClaimContent

namespace ClaimContent

def toMembers (claim : ClaimContent) : List (String × Option Json) :=
  [("spec", claim.spec.map ClaimSpec.toJson)]

def ofJson? (form : Json) : Option ClaimContent := do
  let spec ← form.optionalEntry ClaimSpec.ofJson? "spec"
  return { spec }

def fields : List (String × Json.Shape) := [("spec", ClaimSpec.shape)]

end ClaimContent

end Fleet
