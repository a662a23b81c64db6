import Fleet.Heartbeat.Ingest
import Fleet.Json.Writer
import Fleet.Network.MediaType
import Fleet.Network.Response
import Fleet.Pass.Basic

namespace Fleet.Endpoint

open Network (MediaType Response)

structure Request where
  method : String
  target : String
  contentType : Option String
  body : String

def heartbeatPath : String := "/api/v1/heartbeat"

def healthPath : String := "/healthz"

def isSchemeChar (c : Char) : Bool := c.isAlphanum || ['+', '-', '.', '~'].contains c

/-- What follows the server that a target names, if it names one. -/
def afterServer? (target : List Char) : Option (List Char) :=
  match target.dropWhile isSchemeChar with
  | ':' :: '/' :: '/' :: rest => some (rest.dropWhile fun c => !(['/', '?', '#'].contains c))
  | _ => none

/-- The path of a request target, which may name the server as well. -/
def pathOf (target : String) : String :=
  let text := target.toList
  let path := ((afterServer? text).getD text).takeWhile fun c => !(['?', '#'].contains c)
  if path.isEmpty then "/" else String.ofList path

def plain (status : Nat) : Response := ⟨status, ""⟩

def respond : Except Failure HeartbeatResponse → Response
  | .ok response => ⟨if response.ok then 200 else 409, response.toJson.write⟩
  | .error failure => ⟨500, failure.message⟩

def announcesJson (request : Request) : Bool :=
  (request.contentType.bind MediaType.ofText?).any MediaType.isJson

def bodyLimit : Nat := 2097152

def receive (request : Request) : Pass Response :=
  if !announcesJson request then .done (plain 415)
  else if bodyLimit < request.body.utf8ByteSize then .done (plain 413)
  else
    match Heartbeat.decoder.read request.body with
    | .error .malformed => .done (plain 400)
    | .error .misshapen => .done (plain 422)
    | .ok heartbeat => do
        let now ← Pass.clock
        return respond (← Pass.on .cluster (heartbeat.ingest now))

def serve (request : Request) : Pass Response :=
  let path := pathOf request.target
  if path == heartbeatPath then
    if request.method == "POST" then receive request else .done (plain 405)
  else if path == healthPath then
    if request.method == "GET" then .done ⟨200, "ok"⟩
    else if request.method == "HEAD" then .done (plain 200)
    else .done (plain 405)
  else .done (plain 404)

end Fleet.Endpoint
