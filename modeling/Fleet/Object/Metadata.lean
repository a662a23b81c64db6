import Fleet.Json.Shape
import Fleet.Time.Timestamp

namespace Fleet

/-- An identity drawn in sequence. It has the form of a random identifier, and no two numbers below
16 ^ 12 give the same one. -/
def identity (number : Nat) : String :=
  let digits := Nat.toDigits 16 number
  "00000000-0000-4000-8000-" ++
    String.ofList (List.replicate (12 - digits.length) '0' ++ digits)

structure OwnerReference where
  apiVersion : String := ""
  kind : String := ""
  name : String := ""
  uid : String := ""
  controller : Option Bool := none
  deriving DecidableEq, Repr

namespace OwnerReference

def toJson (owner : OwnerReference) : Json :=
  .ofMembers [("apiVersion", some (.string owner.apiVersion)),
    ("controller", owner.controller.map .bool), ("kind", some (.string owner.kind)),
    ("name", some (.string owner.name)), ("uid", some (.string owner.uid))]

def ofJson? (form : Json) : Option OwnerReference := do
  guard form.isForm
  let apiVersion ← form.defaultedEntry "" Json.text? "apiVersion"
  let kind ← form.defaultedEntry "" Json.text? "kind"
  let name ← form.defaultedEntry "" Json.text? "name"
  let uid ← form.defaultedEntry "" Json.text? "uid"
  let controller ← form.optionalEntry Json.boolean? "controller"
  return { apiVersion, kind, name, uid, controller }

def shape : Json.Shape :=
  .formOf [("apiVersion", .text), ("blockOwnerDeletion", .boolean), ("controller", .boolean),
    ("kind", .text), ("name", .text), ("uid", .text)]

end OwnerReference

/-- Points to an object, as events and volume bindings do. -/
structure ObjectReference where
  apiVersion : Option String := none
  kind : Option String := none
  name : Option String := none
  «namespace» : Option String := none
  uid : Option String := none
  deriving DecidableEq, Repr

namespace ObjectReference

def toJson (reference : ObjectReference) : Json :=
  .ofMembers [("apiVersion", reference.apiVersion.map .string),
    ("kind", reference.kind.map .string), ("name", reference.name.map .string),
    ("namespace", reference.namespace.map .string), ("uid", reference.uid.map .string)]

def ofJson? (form : Json) : Option ObjectReference := do
  guard form.isForm
  let apiVersion ← form.optionalEntry Json.text? "apiVersion"
  let kind ← form.optionalEntry Json.text? "kind"
  let name ← form.optionalEntry Json.text? "name"
  let ns ← form.optionalEntry Json.text? "namespace"
  let uid ← form.optionalEntry Json.text? "uid"
  return { apiVersion, kind, name, «namespace» := ns, uid }

def shape : Json.Shape :=
  .formOf [("apiVersion", .text), ("fieldPath", .text), ("kind", .text), ("name", .text),
    ("namespace", .text), ("resourceVersion", .text), ("uid", .text)]

end ObjectReference

/-- What every stored object carries besides its content. `uid` and `resourceVersion` are assigned
by the store; a deletion timestamp marks an object that is on its way out. -/
structure Metadata where
  name : Option String := none
  generateName : Option String := none
  «namespace» : Option String := none
  labels : Option TextMap := none
  annotations : Option TextMap := none
  uid : Option String := none
  resourceVersion : Option String := none
  deletionTimestamp : Option Instant := none
  ownerReferences : Option (List OwnerReference) := none
  deriving DecidableEq

namespace Metadata

instance : Inhabited Metadata := ⟨{}⟩

def toJson (metadata : Metadata) : Json :=
  .ofMembers [("annotations", metadata.annotations.map .ofTextMap),
    ("deletionTimestamp",
      metadata.deletionTimestamp.map fun time => .string (Timestamp.writeWhole time)),
    ("generateName", metadata.generateName.map .string),
    ("labels", metadata.labels.map .ofTextMap),
    ("name", metadata.name.map .string),
    ("namespace", metadata.namespace.map .string),
    ("ownerReferences",
      metadata.ownerReferences.map fun owners => .array (owners.map OwnerReference.toJson)),
    ("resourceVersion", metadata.resourceVersion.map .string),
    ("uid", metadata.uid.map .string)]

def time? (value : Json) : Option Instant := value.text?.bind Timestamp.read?

def ofJson? (form : Json) : Option Metadata := do
  guard form.isForm
  let name ← form.optionalEntry Json.text? "name"
  let generateName ← form.optionalEntry Json.text? "generateName"
  let ns ← form.optionalEntry Json.text? "namespace"
  let labels ← form.optionalEntry Json.textMap? "labels"
  let annotations ← form.optionalEntry Json.textMap? "annotations"
  let uid ← form.optionalEntry Json.text? "uid"
  let resourceVersion ← form.optionalEntry Json.text? "resourceVersion"
  let deletionTimestamp ← form.optionalEntry time? "deletionTimestamp"
  let ownerReferences ←
    form.optionalEntry (Json.listOf? OwnerReference.ofJson?) "ownerReferences"
  return { name, generateName, «namespace» := ns, labels, annotations, uid, resourceVersion,
           deletionTimestamp, ownerReferences }

def timeShape : Json.Shape := .scalarOf time?

def writerShape : Json.Shape :=
  .formOf [("apiVersion", .text), ("fieldsType", .text), ("fieldsV1", .anything),
    ("manager", .text), ("operation", .text), ("subresource", .text), ("time", timeShape)]

def shape : Json.Shape :=
  .formOf [("annotations", .textMap), ("creationTimestamp", timeShape),
    ("deletionGracePeriodSeconds", .int64), ("deletionTimestamp", timeShape),
    ("finalizers", .texts), ("generateName", .text), ("generation", .int64),
    ("labels", .textMap), ("managedFields", .list writerShape), ("name", .text),
    ("namespace", .text), ("ownerReferences", .list OwnerReference.shape),
    ("resourceVersion", .text), ("selfLink", .text), ("uid", .text)]

/-- The name an object goes by: its own, else the one its name is to be generated from. -/
def displayName (metadata : Metadata) : String :=
  (metadata.name <|> metadata.generateName).getD ""

def key (metadata : Metadata) : String :=
  match metadata.namespace with
  | some ns => ns ++ "/" ++ metadata.displayName
  | none => metadata.displayName

def label? (metadata : Metadata) (name : String) : Option String :=
  metadata.labels.bind (·.get? name)

def annotation? (metadata : Metadata) (name : String) : Option String :=
  metadata.annotations.bind (·.get? name)

def annotate (metadata : Metadata) (name value : String) : Metadata :=
  let annotations := metadata.annotations.getD .empty
  { metadata with annotations := some (annotations.insert name value) }

/-- Adds an owner unless one with the same identity is already listed. -/
def addOwner (metadata : Metadata) (owner : OwnerReference) : Metadata :=
  let owners := metadata.ownerReferences.getD []
  if owners.any fun other => other.uid == owner.uid then
    { metadata with ownerReferences := some owners }
  else { metadata with ownerReferences := some (owners ++ [owner]) }

end Metadata

/-- An object: metadata and the content its kind asks for. -/
structure Object (Content : Type) where
  metadata : Metadata
  content : Content
  deriving DecidableEq

/-- The content of an object whose `spec` is set by its user and whose `status` is reported back
by the controller in charge. -/
structure Managed (Spec Status : Type) where
  spec : Spec
  status : Option Status := none
  deriving DecidableEq

namespace Object

variable {Content Spec Status : Type}

abbrev spec (object : Object (Managed Spec Status)) : Spec := object.content.spec

abbrev status (object : Object (Managed Spec Status)) : Option Status := object.content.status

/-- Reports a status; everything else stays as it is. -/
def setStatus (object : Object (Managed Spec Status)) (status : Status) :
    Object (Managed Spec Status) :=
  { object with content := { object.content with status := some status } }

abbrev name (object : Object Content) : String := object.metadata.displayName

abbrev key (object : Object Content) : String := object.metadata.key

end Object

end Fleet
