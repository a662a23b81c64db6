import Fleet.Experiment.Naming
import Fleet.Json.Writer
import Fleet.Server.Request

namespace Fleet.Rehearsal

/-- A server that lists volumes, or fails to with a status. -/
structure VolumeServer where
  volumes : Except Nat (List Json)
  /-- The experiments that exist, as `namespace/name`. -/
  existing : List String
  released : List String := []

namespace VolumeServer

def volumesPath : String := Server.collection .volume none

def experimentPath (key : String) : String :=
  match Text.splitOnce '/' key.toList with
  | some (ns, name) =>
      Server.collection .experiment (some (String.ofList ns)) ++ "/" ++ String.ofList name
  | none => Server.collection .experiment none ++ "/" ++ key

def failure (status : Nat) : Network.Response :=
  { status
    body := (Json.object [("status", .string "Failure"), ("message", .string ""),
      ("reason", .string ""), ("code", .integer status)]).write }

def success (body : Json) : Network.Response := { status := 200, body := body.write }

/-- An experiment of which nothing matters but that it exists. -/
def someExperiment : Json :=
  .object [("metadata", .object []),
    ("spec", .object [("template", .string ""), ("clusterName", .string "")])]

def listVolumes (server : VolumeServer) : Network.Response :=
  match server.volumes with
  | .error status => failure status
  | .ok volumes =>
      success (.object [("metadata", .object []), ("items", .array volumes)])

def volumeOf (target : String) : String :=
  String.ofList ((target.toList.drop (volumesPath.length + 1)).takeWhile (· != '?'))

def respond (request : Server.Request) (server : VolumeServer) :
    Option Network.Response × VolumeServer :=
  if request.method == "DELETE" then
    (some (success (.object [("kind", .string "Status"), ("status", .string "Success")])),
      { server with released := server.released ++ [volumeOf request.target] })
  else if request.target.startsWith (volumesPath ++ "?") then (some server.listVolumes, server)
  else if server.existing.any fun key => experimentPath key == request.target then
    (some (success someExperiment), server)
  else (some (failure 404), server)

end VolumeServer

end Fleet.Rehearsal
