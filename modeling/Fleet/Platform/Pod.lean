import Fleet.Object.Metadata

namespace Fleet

structure EnvironmentVariable where
  name : String
  value : Option String := none
  deriving DecidableEq, Repr

namespace EnvironmentVariable

def toJson (variable_ : EnvironmentVariable) : Json :=
  .ofMembers [("name", some (.string variable_.name)), ("value", variable_.value.map .string)]

def ofJson? (form : Json) : Option EnvironmentVariable := do
  guard form.isForm
  let name ← form.defaultedEntry "" Json.text? "name"
  let value ← form.optionalEntry Json.text? "value"
  return { name, value }

def shape : Json.Shape := .formOf [("name", .text), ("value", .text)]

end EnvironmentVariable

structure VolumeMount where
  name : String
  mountPath : String
  deriving DecidableEq, Repr

namespace VolumeMount

def toJson (mount : VolumeMount) : Json :=
  .object [("mountPath", .string mount.mountPath), ("name", .string mount.name)]

def ofJson? (form : Json) : Option VolumeMount := do
  guard form.isForm
  let name ← form.defaultedEntry "" Json.text? "name"
  let mountPath ← form.defaultedEntry "" Json.text? "mountPath"
  return { name, mountPath }

def shape : Json.Shape := .formOf [("mountPath", .text), ("name", .text)]

end VolumeMount

structure Container where
  name : String
  image : Option String := none
  command : Option (List String) := none
  env : Option (List EnvironmentVariable) := none
  volumeMounts : Option (List VolumeMount) := none
  deriving DecidableEq, Repr

namespace Container

def toJson (container : Container) : Json :=
  .ofMembers [("command", container.command.map .ofTexts),
    ("env", container.env.map fun env => .array (env.map EnvironmentVariable.toJson)),
    ("image", container.image.map .string), ("name", some (.string container.name)),
    ("volumeMounts",
      container.volumeMounts.map fun mounts => .array (mounts.map VolumeMount.toJson))]

def ofJson? (form : Json) : Option Container := do
  guard form.isForm
  let name ← form.defaultedEntry "" Json.text? "name"
  let image ← form.optionalEntry Json.text? "image"
  let command ← form.optionalEntry (Json.listOf? Json.text?) "command"
  let env ← form.optionalEntry (Json.listOf? EnvironmentVariable.ofJson?) "env"
  let volumeMounts ← form.optionalEntry (Json.listOf? VolumeMount.ofJson?) "volumeMounts"
  return { name, image, command, env, volumeMounts }

def shape : Json.Shape :=
  .formOf [("command", .texts), ("env", .list EnvironmentVariable.shape), ("image", .text),
    ("name", .text), ("volumeMounts", .list VolumeMount.shape)]

end Container

structure ClaimSource where
  claimName : String
  readOnly : Option Bool := none
  deriving DecidableEq, Repr

namespace ClaimSource

def toJson (source : ClaimSource) : Json :=
  .ofMembers [("claimName", some (.string source.claimName)),
    ("readOnly", source.readOnly.map .bool)]

def ofJson? (form : Json) : Option ClaimSource := do
  guard form.isForm
  let claimName ← form.defaultedEntry "" Json.text? "claimName"
  let readOnly ← form.optionalEntry Json.boolean? "readOnly"
  return { claimName, readOnly }

def shape : Json.Shape := .formOf [("claimName", .text), ("readOnly", .boolean)]

end ClaimSource

structure PodVolume where
  name : String
  claim : Option ClaimSource := none
  deriving DecidableEq, Repr

namespace PodVolume

def toJson (volume : PodVolume) : Json :=
  .ofMembers [("name", some (.string volume.name)),
    ("persistentVolumeClaim", volume.claim.map ClaimSource.toJson)]

def ofJson? (form : Json) : Option PodVolume := do
  guard form.isForm
  let name ← form.defaultedEntry "" Json.text? "name"
  let claim ← form.optionalEntry ClaimSource.ofJson? "persistentVolumeClaim"
  return { name, claim }

def shape : Json.Shape :=
  .formOf [("name", .text), ("persistentVolumeClaim", ClaimSource.shape)]

end PodVolume

structure PodSpec where
  containers : List Container := []
  volumes : Option (List PodVolume) := none
  deriving DecidableEq, Repr

namespace PodSpec

def toJson (spec : PodSpec) : Json :=
  .ofMembers [("containers", some (.array (spec.containers.map Container.toJson))),
    ("volumes", spec.volumes.map fun volumes => .array (volumes.map PodVolume.toJson))]

def ofJson? (form : Json) : Option PodSpec := do
  guard form.isForm
  let containers ← form.defaultedEntry [] (Json.listOf? Container.ofJson?) "containers"
  let volumes ← form.optionalEntry (Json.listOf? PodVolume.ofJson?) "volumes"
  return { containers, volumes }

def shape : Json.Shape :=
  .formOf [("containers", .list Container.shape), ("volumes", .list PodVolume.shape)]

end PodSpec

structure PodCondition where
  type : String
  status : String
  deriving DecidableEq, Repr

namespace PodCondition

def toJson (condition : PodCondition) : Json :=
  .object [("status", .string condition.status), ("type", .string condition.type)]

def ofJson? (form : Json) : Option PodCondition := do
  guard form.isForm
  let type ← form.defaultedEntry "" Json.text? "type"
  let status ← form.defaultedEntry "" Json.text? "status"
  return { type, status }

def shape : Json.Shape := .formOf [("status", .text), ("type", .text)]

end PodCondition

structure PodStatus where
  phase : Option String := none
  conditions : Option (List PodCondition) := none
  deriving DecidableEq, Repr

namespace PodStatus

def toJson (status : PodStatus) : Json :=
  .ofMembers [
    ("conditions",
      status.conditions.map fun conditions => .array (conditions.map PodCondition.toJson)),
    ("phase", status.phase.map .string)]

def ofJson? (form : Json) : Option PodStatus := do
  guard form.isForm
  let phase ← form.optionalEntry Json.text? "phase"
  let conditions ← form.optionalEntry (Json.listOf? PodCondition.ofJson?) "conditions"
  return { phase, conditions }

def shape : Json.Shape :=
  .formOf [("conditions", .list PodCondition.shape), ("phase", .text)]

end PodStatus

structure PodContent where
  spec : Option PodSpec := none
  status : Option PodStatus := none
  deriving DecidableEq

abbrev Pod := Object PodContent

namespace PodContent

def toMembers (pod : PodContent) : List (String × Option Json) :=
  [("spec", pod.spec.map PodSpec.toJson), ("status", pod.status.map PodStatus.toJson)]

def ofJson? (form : Json) : Option PodContent := do
  let spec ← form.optionalEntry PodSpec.ofJson? "spec"
  let status ← form.optionalEntry PodStatus.ofJson? "status"
  return { spec, status }

def fields : List (String × Json.Shape) := [("spec", PodSpec.shape), ("status", PodStatus.shape)]

def isReady (pod : PodContent) : Bool :=
  match pod.status.bind PodStatus.conditions with
  | some conditions =>
      conditions.any fun condition => condition.type == "Ready" && condition.status == "True"
  | none => false

end PodContent

end Fleet
