import Fleet.Definition.Fields
import Fleet.Object.Kind
import Fleet.Server.Startup

namespace Fleet.Definition

structure Column where
  name : String
  type : String
  path : String

/-- What a definition says beyond the names of its kind. -/
structure Profile where
  kind : Kind
  shortName : String
  columns : List Column
  spec : Schema
  status : Option Schema

def age : Column := ⟨"Age", "date", ".metadata.creationTimestamp"⟩

def phase : Column := ⟨"Phase", "string", ".status.status"⟩

def cluster : Profile :=
  { kind := .cluster
    shortName := "cec"
    columns := [phase, ⟨"ClusterID", "string", ".status.clusterId"⟩, age]
    spec := clusterSpec
    status := some clusterStatus }

def experiment : Profile :=
  { kind := .experiment
    shortName := "cee"
    columns :=
      [phase, ⟨"Cluster", "string", ".spec.clusterName"⟩,
        ⟨"Template", "string", ".spec.template"⟩, age]
    spec := experimentSpec
    status := some experimentStatus }

def template : Profile :=
  { kind := .template
    shortName := "cet"
    columns :=
      [⟨"Protocol", "string", ".spec.ingressProtocol"⟩,
        ⟨"Port", "integer", ".spec.ingressPort"⟩]
    spec := templateSpec
    status := none }

namespace Profile

def name (profile : Profile) : String := profile.kind.plural ++ "." ++ Kind.customGroup

/-- The schema of whole objects. Only the specification has to be given. -/
def schema (profile : Profile) : Schema :=
  let title := profile.kind.title
  .described ("Auto-generated derived type for " ++ title ++ "Spec via \x60CustomResource\x60")
    (.record (("spec", true, profile.spec) ::
      (profile.status.map fun status => ("status", false, status)).toList))

def columnJson (column : Column) : Json :=
  .object [("jsonPath", .string column.path), ("name", .string column.name),
    ("type", .string column.type)]

def namesJson (profile : Profile) : Json :=
  .object [("categories", .array []), ("kind", .string profile.kind.title),
    ("plural", .string profile.kind.plural), ("shortNames", .ofTexts [profile.shortName]),
    ("singular", .string (Text.lowerAscii profile.kind.title))]

def schemaJson (profile : Profile) : Json :=
  Schema.sorted (("title", .string profile.kind.title) :: profile.schema.members)

/-- Writes the one version of the kind. A status is written through a resource of its own. -/
def versionJson (profile : Profile) : Json :=
  let subresources : List (String × Json) :=
    if profile.status.isSome then [("status", .object [])] else []
  .object [("additionalPrinterColumns", .array (profile.columns.map columnJson)),
    ("name", .string "v1"), ("schema", .object [("openAPIV3Schema", profile.schemaJson)]),
    ("selectableFields", .array []), ("served", .bool true), ("storage", .bool true),
    ("subresources", .object subresources)]

def toJson (profile : Profile) : Json :=
  .object [("apiVersion", .string Definition.apiVersion),
    ("kind", .string Definition.title),
    ("metadata", .object [("name", .string profile.name)]),
    ("spec", .object [("group", .string Kind.customGroup), ("names", profile.namesJson),
      ("scope", .string "Namespaced"), ("versions", .array [profile.versionJson])])]

end Profile

/-- The definitions of all kinds that the operator defines, in the order of installation. -/
def all : List Server.Definition :=
  [cluster, experiment, template].map fun profile =>
    { name := profile.name, manifest := profile.toJson }

end Fleet.Definition
