import Fleet.Server.Reply
import Fleet.Server.Request
import Fleet.Store.Call

namespace Fleet.Server

/-- A program that goes on with the successes of an exchange. -/
abbrev Attempt (α : Type) := Exchange (Except ServerFailure α)

/-- Sends a request about a named object. Without a name there is nothing to send. -/
def sendNamed (method : String) (kind : Kind) (ns : Option String) (name suffix : String)
    (body : Option Json) : Attempt String :=
  if name.isEmpty then .done (.error nameless)
  else send method (collection kind ns ++ "/" ++ name ++ suffix) body

def decoded {α : Type} (read : String → Except Json.Fault α) :
    Except ServerFailure String → Except ServerFailure α
  | .error failure => .error failure
  | .ok text => (read text).mapError fun _ => unreadable

def about {α : Type} (kind : Kind) (name : String) :
    Except ServerFailure α → Except Failure α
  | .ok value => .ok value
  | .error cause => .error (.ofServer kind.title name cause)

def selectorQuery : Option String → String
  | none => "?"
  | some selector => "?&labelSelector=" ++ encodeQuery selector

def deleteBody (preconditions : Option Preconditions) : Json :=
  .ofMembers [("preconditions", preconditions.map fun preconditions =>
    .ofMembers [("resourceVersion", preconditions.resourceVersion.map .string),
      ("uid", preconditions.uid.map .string)])]

/-- Writes an object by a request whose response is the object as it was stored. -/
def write (kind : Kind) (object : Object kind.Content) (sent : Attempt String) :
    Exchange (Except Failure (Object kind.Content)) := do
  return about kind object.key (decoded kind.decoder.read (← sent))

def perform (kind : Kind) : (call : Store.Call kind.Content) → Exchange call.Reply
  | .get ns name => do
      let text ← sendNamed "GET" kind ns name "" none
      return about kind name (decoded kind.decoder.read text)
  | .list ns selector => do
      let text ← send "GET" (collection kind ns ++ selectorQuery selector) none
      let page := decoded (Page.decoder kind).read text
      return about kind (ns.getD "*") (page.map Page.items)
  | .create object =>
      let target := collection kind object.metadata.namespace ++ "?"
      write kind object (send "POST" target (some (kind.toJson object)))
  | .replace object =>
      write kind object
        (sendNamed "PUT" kind object.metadata.namespace object.name "?"
          (some (kind.toJson object)))
  | .replaceStatus object =>
      write kind object
        (sendNamed "PUT" kind object.metadata.namespace object.name "/status?"
          (some (kind.toJson object)))
  | .delete ns name preconditions => do
      let text ← sendNamed "DELETE" kind ns name "?" (some (deleteBody preconditions))
      return about kind name (decoded (readDeletion kind) text)

end Fleet.Server
