import Fleet.Cluster.Basic
import Fleet.Experiment.Basic
import Fleet.Platform.Node
import Fleet.Platform.Pod
import Fleet.Platform.Service
import Fleet.Platform.Volume

namespace Fleet

/-- The plainest kind of content: named texts without a status. -/
structure ConfigMapContent where
  data : Option TextMap := none
  deriving DecidableEq

abbrev ConfigMap := Object ConfigMapContent

namespace ConfigMapContent

def toMembers (map : ConfigMapContent) : List (String × Option Json) :=
  [("data", map.data.map .ofTextMap)]

def ofJson? (form : Json) : Option ConfigMapContent := do
  let data ← form.optionalEntry Json.textMap? "data"
  return { data }

def fields : List (String × Json.Shape) := [("data", .textMap)]

end ConfigMapContent

inductive Kind where
  | cluster
  | experiment
  | template
  | pod
  | volume
  | claim
  | service
  | node
  | configMap
  deriving DecidableEq, Repr

namespace Kind

@[reducible]
def Content : Kind → Type
  | .cluster => ClusterContent
  | .experiment => ExperimentContent
  | .template => TemplateSpec
  | .pod => PodContent
  | .volume => VolumeContent
  | .claim => ClaimContent
  | .service => ServiceContent
  | .node => NodeContent
  | .configMap => ConfigMapContent

instance contentDecidableEq : (kind : Kind) → DecidableEq kind.Content
  | .cluster => inferInstanceAs (DecidableEq ClusterContent)
  | .experiment => inferInstanceAs (DecidableEq ExperimentContent)
  | .template => inferInstanceAs (DecidableEq TemplateSpec)
  | .pod => inferInstanceAs (DecidableEq PodContent)
  | .volume => inferInstanceAs (DecidableEq VolumeContent)
  | .claim => inferInstanceAs (DecidableEq ClaimContent)
  | .service => inferInstanceAs (DecidableEq ServiceContent)
  | .node => inferInstanceAs (DecidableEq NodeContent)
  | .configMap => inferInstanceAs (DecidableEq ConfigMapContent)

def all : List Kind :=
  [.cluster, .experiment, .template, .pod, .volume, .claim, .service, .node, .configMap]

def title : Kind → String
  | .cluster => "Cluster"
  | .experiment => "Experiment"
  | .template => "Template"
  | .pod => "Pod"
  | .volume => "PersistentVolume"
  | .claim => "PersistentVolumeClaim"
  | .service => "Service"
  | .node => "Node"
  | .configMap => "ConfigMap"

def plural : Kind → String
  | .cluster => "clusters"
  | .experiment => "experiments"
  | .template => "templates"
  | .pod => "pods"
  | .volume => "persistentvolumes"
  | .claim => "persistentvolumeclaims"
  | .service => "services"
  | .node => "nodes"
  | .configMap => "configmaps"

def isCustom : Kind → Bool
  | .cluster | .experiment | .template => true
  | _ => false

def isNamespaced : Kind → Bool
  | .volume | .node => false
  | _ => true

def customGroup : String := "cloudengine.io"

def apiVersion (kind : Kind) : String := if kind.isCustom then customGroup ++ "/v1" else "v1"

def contentMembers : (kind : Kind) → kind.Content → List (String × Option Json)
  | .cluster, content =>
      [("spec", some content.spec.toJson), ("status", content.status.map ClusterStatus.toJson)]
  | .experiment, content =>
      [("spec", some content.spec.toJson),
        ("status", content.status.map ExperimentStatus.toJson)]
  | .template, content => [("spec", some content.toJson)]
  | .pod, content => content.toMembers
  | .volume, content => content.toMembers
  | .claim, content => content.toMembers
  | .service, content => content.toMembers
  | .node, content => content.toMembers
  | .configMap, content => content.toMembers

def toJson (kind : Kind) (object : Object kind.Content) : Json :=
  .ofMembers ([("apiVersion", some (.string kind.apiVersion)),
    ("kind", some (.string kind.title)), ("metadata", some object.metadata.toJson)] ++
    kind.contentMembers object.content)

def managedOfJson? {Spec Status : Type} (spec? : Json → Option Spec)
    (status? : Json → Option Status) (record : Json) : Option (Object (Managed Spec Status)) := do
  guard (record.isRecord ["metadata", "spec", "status"] 3)
  let metadata ← Json.required Metadata.ofJson? (record.field? 0 "metadata")
  let spec ← Json.required spec? (record.field? 1 "spec")
  let status ← Json.optional status? (record.field? 2 "status")
  return { metadata, content := { spec, status } }

def templateOfJson? (record : Json) : Option Template := do
  guard (record.isRecord ["metadata", "spec"] 0)
  let metadata ← Json.required Metadata.ofJson? (record.field? 0 "metadata")
  let spec ← Json.required TemplateSpec.ofJson? (record.field? 1 "spec")
  return { metadata, content := spec }

/-- Whether a member, if it is given, is the expected text. -/
def declares (form : Json) (name expected : String) : Bool :=
  match form.member? name with
  | some value => value.text? == some expected
  | none => true

/-- Reads an object of a kind that the platform defines. Version and kind may be left out, but
must be the right ones if they are given. -/
def formOfJson? {C : Type} (kind : Kind) (content? : Json → Option C) (form : Json) :
    Option (Object C) := do
  guard form.isForm
  guard (declares form "apiVersion" kind.apiVersion)
  guard (declares form "kind" kind.title)
  let metadata ← form.defaultedEntry {} Metadata.ofJson? "metadata"
  let content ← content? form
  return { metadata, content }

def ofJson? : (kind : Kind) → Json → Option (Object kind.Content)
  | .cluster => managedOfJson? ClusterSpec.ofJson? ClusterStatus.ofJson?
  | .experiment => managedOfJson? ExperimentSpec.ofJson? ExperimentStatus.ofJson?
  | .template => templateOfJson?
  | .pod => formOfJson? .pod PodContent.ofJson?
  | .volume => formOfJson? .volume VolumeContent.ofJson?
  | .claim => formOfJson? .claim ClaimContent.ofJson?
  | .service => formOfJson? .service ServiceContent.ofJson?
  | .node => formOfJson? .node NodeContent.ofJson?
  | .configMap => formOfJson? .configMap ConfigMapContent.ofJson?

/-- What an object with a specification and a status looks like. -/
def managedShape {α : Type} (decode? : Json → Option α) (spec status : Json.Shape) : Json.Shape :=
  .recordOf decode?
    [("metadata", Metadata.shape), ("spec", spec), ("status", .optional status)]

/-- What an object of a kind that the platform defines looks like. -/
def formShape (kind : Kind) (fields : List (String × Json.Shape)) : Json.Shape :=
  .form ([("apiVersion", .exactly kind.apiVersion), ("kind", .exactly kind.title),
    ("metadata", .optional Metadata.shape)] ++
    fields.map fun (name, shape) => (name, .optional shape))

def shape : Kind → Json.Shape
  | .cluster => managedShape (ofJson? .cluster) ClusterSpec.shape ClusterStatus.shape
  | .experiment => managedShape (ofJson? .experiment) ExperimentSpec.shape ExperimentStatus.shape
  | .template =>
      .recordOf templateOfJson? [("metadata", Metadata.shape), ("spec", TemplateSpec.shape)]
  | .pod => formShape .pod PodContent.fields
  | .volume => formShape .volume VolumeContent.fields
  | .claim => formShape .claim ClaimContent.fields
  | .service => formShape .service ServiceContent.fields
  | .node => formShape .node NodeContent.fields
  | .configMap => formShape .configMap ConfigMapContent.fields

def decoder (kind : Kind) : Json.Decoder (Object kind.Content) := ⟨kind.shape, kind.ofJson?⟩

def reference (kind : Kind) (object : Object kind.Content) : ObjectReference :=
  { apiVersion := some kind.apiVersion, kind := some kind.title, name := object.metadata.name,
    «namespace» := object.metadata.namespace, uid := object.metadata.uid }

/-- The reference by which an object controls those it owns. Without a name and an identity an
object owns nothing. -/
def ownerReference? (kind : Kind) (object : Object kind.Content) : Option OwnerReference := do
  let name ← object.metadata.name
  let uid ← object.metadata.uid
  return { apiVersion := kind.apiVersion, kind := kind.title, name, uid, controller := some true }

end Kind

end Fleet
