import Fleet.Failure
import Fleet.Network.Response
import Fleet.Object.Kind
import Fleet.Program

namespace Fleet.Server

structure Request where
  method : String
  target : String
  body : Option Json := none

/-- Programs that exchange messages with the server. There may be no response. -/
abbrev Exchange (α : Type) := Program Request (fun _ => Option Network.Response) α

def root (apiVersion : String) : String :=
  if apiVersion.toList.contains '/' then "/apis/" ++ apiVersion else "/api/" ++ apiVersion

def collectionAt (root : String) («namespace» : Option String) (plural : String) : String :=
  match «namespace» with
  | some ns => root ++ "/namespaces/" ++ ns ++ "/" ++ plural
  | none => root ++ "/" ++ plural

/-- The path of the objects of a kind in a namespace, or in all of them. Kinds that live in no
namespace have one collection. -/
def collection (kind : Kind) (ns : Option String) : String :=
  collectionAt (root kind.apiVersion) (if kind.isNamespaced then ns else none) kind.plural

def hexByte (byte : UInt8) : String :=
  let digit (value : Nat) : Char :=
    if value < 10 then Char.ofNat ('0'.toNat + value) else Char.ofNat ('A'.toNat + (value - 10))
  String.ofList [digit (byte.toNat / 16), digit (byte.toNat % 16)]

/-- Whether a byte stands for itself in a query. -/
def isPlainByte (byte : UInt8) : Bool :=
  let c := Char.ofNat byte.toNat
  byte.toNat < 0x80 && (c.isAlphanum || ['*', '-', '.', '_'].contains c)

def encodeByte (byte : UInt8) : String :=
  if isPlainByte byte then (Char.ofNat byte.toNat).toString
  else if byte.toNat == 0x20 then "+"
  else "%" ++ hexByte byte

def encodeQuery (text : String) : String :=
  text.toUTF8.toList.foldl (fun encoded byte => encoded ++ encodeByte byte) ""

/-- Whether a character may stand in the path of a request. -/
def isPathChar (c : Char) : Bool :=
  0x21 ≤ c.toNat && c.toNat != 0x7F && !(['#', '<', '>', '?', '\x60'].contains c)

def isQueryChar (c : Char) : Bool :=
  0x21 ≤ c.toNat && c.toNat != 0x7F && !(['"', '#', '<', '>'].contains c)

def targetLimit : Nat := 65534

/-- The target to send, without what follows a `#`, if it can be sent. -/
def sendable? (target : String) : Option String :=
  let text := target.toList.takeWhile (· != '#')
  let path := text.takeWhile (· != '?')
  let query := text.drop (path.length + 1)
  if target.utf8ByteSize ≤ targetLimit && path.all isPathChar && query.all isQueryChar then
    some (String.ofList text)
  else none

def unsendable (problem : String) : ServerFailure :=
  .transport ("Failed to build request: " ++ problem)

def nameless : ServerFailure :=
  unsendable "failed to validate request: A non-empty name is required"

def malformed : ServerFailure :=
  unsendable "failed to build request: invalid uri character"

def unanswered : ServerFailure := .transport "ServiceError: no response"

def unreadable : ServerFailure := .transport "Error deserializing response"

/-- Reads the error that a response reports, if it has the usual form. -/
def errorOfJson? (record : Json) : Option ServerFailure := do
  guard (record.isRecord ["status", "message", "reason", "code"] 4)
  let status ← Json.required Json.text? (record.field? 0 "status")
  let message ← Json.defaulted "" Json.text? (record.field? 1 "message")
  let reason ← Json.defaulted "" Json.text? (record.field? 2 "reason")
  let code ← Json.required Json.nat16? (record.field? 3 "code")
  return .response status message reason code

def errorDecoder : Json.Decoder ServerFailure where
  shape :=
    .recordOf errorOfJson?
      [("status", .text), ("message", .text), ("reason", .text), ("code", .scalarOf Json.nat16?)]
  decode? := errorOfJson?

/-- The error that a failing response reports. One without the usual form is described by its
status, with its text in quotes. -/
def errorOf (response : Network.Response) : ServerFailure :=
  match errorDecoder.read response.body with
  | .ok failure => failure
  | .error _ =>
      .response (toString response.status ++ " " ++ Network.statusText response.status)
        (Text.quote response.body) "Failed to parse error data" response.status

def accept : Option Network.Response → Except ServerFailure String
  | none => .error unanswered
  | some response => if response.isFailure then .error (errorOf response) else .ok response.body

def send (method target : String) (body : Option Json) : Exchange (Except ServerFailure String) :=
  match sendable? target with
  | none => .done (.error malformed)
  | some target => .ask { method, target, body } fun response => .done (accept response)

end Fleet.Server
