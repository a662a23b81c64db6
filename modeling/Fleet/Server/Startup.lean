import Fleet.Cluster.MetaCluster
import Fleet.Definition.Stored
import Fleet.Server.Session

namespace Fleet.Server

inductive StartupFailure where
  /-- The definition of a kind could not be installed. -/
  | installing (name : String) (cause : ServerFailure)
  /-- The meta cluster could not be registered. -/
  | registering (name : String) (cause : Failure)

namespace StartupFailure

def subject : StartupFailure → String
  | .installing name _ => "failed to install " ++ name ++ " CRD"
  | .registering name _ => "failed to register meta cluster " ++ name

def message : StartupFailure → String
  | .installing name cause => subject (.installing name cause) ++ ": " ++ cause.message
  | .registering name cause => subject (.registering name cause) ++ ": " ++ cause.message

end StartupFailure

structure Definition where
  name : String
  manifest : Json

def fieldManager : String := "cloudengine-operator"

/-- Where a definition is applied. Fields that others have set are taken over. -/
def definitionTarget (name : String) : String :=
  collectionAt (root Fleet.Definition.apiVersion) none "customresourcedefinitions" ++ "/" ++ name ++
    "?&force=true&fieldManager=" ++ fieldManager

def readInstalled (text : String) : Except Json.Fault Unit :=
  (Fleet.Definition.shape.readText text).map fun _ => ()

def install : List Definition → Exchange (Except StartupFailure Unit)
  | [] => .done (.ok ())
  | definition :: rest => do
      let text ← send "PATCH" (definitionTarget definition.name) (some definition.manifest)
      match decoded readInstalled text with
      | .error cause => return .error (.installing definition.name cause)
      | .ok () => install rest

def registerMeta (settings : MetaClusterSettings) : Pass (Except StartupFailure Unit) :=
  if settings.enabled then do
    match ← Cluster.ensureMeta settings with
    | .ok _ => return .ok ()
    | .error cause => return .error (.registering settings.name cause)
  else .done (.ok ())

end Fleet.Server
