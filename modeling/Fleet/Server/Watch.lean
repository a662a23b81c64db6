import Fleet.Server.Exchange

/-!
Watching the objects of a kind. A watcher lists them, watches for changes from there, and watches
again whenever the server closes the watch. It lists again once the server has lost track of the
version it was watching from, and tries again after any other failure. What happens between an
expired watch and the next list goes unnoticed.
-/

namespace Fleet.Server

inductive Notice (C : Type) where
  /-- All objects have been listed. -/
  | listed
  | written (object : Object C)
  | deleted (object : Object C)

inductive WatchStage where
  | listing
  | watching
  deriving DecidableEq, Repr

inductive LineType where
  | added
  | modified
  | deleted
  | bookmark
  | error
  deriving DecidableEq, Repr

instance : Enumeration LineType where
  all := [.added, .modified, .deleted, .bookmark, .error]
  name
    | .added => "ADDED"
    | .modified => "MODIFIED"
    | .deleted => "DELETED"
    | .bookmark => "BOOKMARK"
    | .error => "ERROR"

namespace WatchStage

variable {C : Type}

/-- A text that is not empty. -/
def given (text : Option String) : Bool := text.any fun text => !text.isEmpty

/-- Takes a part of a list. The list is complete if it does not continue; the watch goes on from
its version, so a list without a version is worth nothing. -/
def takePage (page : Page C) : WatchStage × List (Notice C) :=
  let written := page.items.map Notice.written
  if given page.note.continue_ then (.listing, written)
  else if given page.note.resourceVersion then (.watching, written ++ [.listed])
  else (.listing, [])

/-- What one line of a watch amounts to. -/
inductive Line (C : Type) where
  /-- A line that tells nothing. -/
  | idle
  | notice (notice : Notice C)
  /-- The watch cannot go on. -/
  | lost

/-- A change of an object. One without a version cannot be watched on from. -/
def change (tell : Object C → Notice C) (object : Object C) : Line C :=
  if given object.metadata.resourceVersion then .notice (tell object) else .lost

/-- The code by which the server says that a version has expired. -/
def expired : Nat := 410

def failureLine (C : Type) : ServerFailure → Line C
  | .response _ _ _ code => if code = expired then .lost else .idle
  | .transport _ => .idle

def lineShape (object : Json.Shape) : Json.Shape :=
  .record [("type", .named LineType), ("object", object)] true .ignored

/-- Whether the object of a line is written before its type. -/
def objectFirst : Json → Bool
  | .object ((name, _) :: _) => name == "object"
  | _ => false

/-- The type of a line, and whether its object comes first. The object is passed over. -/
def lineType? (line : Json.Document) : Option (LineType × Bool) := do
  let record ← ((lineShape .ignored).readDocument false line).toOption
  let type ← Json.required Json.enumeration? (record.field? 0 "type")
  return (type, objectFirst record)

/-- The object of a line. One that comes before the type is set aside as any value. -/
def lineObject? {α : Type} (decoder : Json.Decoder α) (early : Bool) (line : Json.Document) :
    Option α := do
  if early then
    let _ ← ((lineShape .anything).readDocument false line).toOption
  let record ← ((lineShape decoder.shape).readDocument early line).toOption
  Json.required decoder.decode? (record.field? 1 "object")

/-- Reads a line of a watch. One that cannot be read tells nothing. -/
def readLine (kind : Kind) (line : String) : Line kind.Content :=
  let line := Json.Document.ofText line
  match lineType? line with
  | none | some (.bookmark, _) => .idle
  | some (.added, early) | some (.modified, early) =>
      ((lineObject? kind.decoder early line).map (change .written)).getD .idle
  | some (.deleted, early) =>
      ((lineObject? kind.decoder early line).map (change .deleted)).getD .idle
  | some (.error, early) =>
      ((lineObject? errorDecoder early line).map (failureLine kind.Content)).getD .idle

/-- Takes the lines of a watch, up to one after which it cannot go on. -/
def takeLines (kind : Kind) : List String → WatchStage × List (Notice kind.Content)
  | [] => (.watching, [])
  | line :: rest =>
      match readLine kind line with
      | .lost => (.listing, [])
      | .idle => takeLines kind rest
      | .notice notice =>
          let (stage, notices) := takeLines kind rest
          (stage, notice :: notices)

def linesOf (text : String) : List String := (Text.splitAt '\n' text.toList).map String.ofList

def take (kind : Kind) (stage : WatchStage) (response : Network.Response) :
    WatchStage × List (Notice kind.Content) :=
  match stage with
  | .listing =>
      match decoded (Page.decoder kind).read (accept (some response)) with
      | .ok page => takePage page
      | .error _ => (.listing, [])
  | .watching => takeLines kind (linesOf response.body)

/-- What a watcher notices in the course of some responses. -/
def follow (kind : Kind) (stage : WatchStage) :
    List Network.Response → List (Notice kind.Content)
  | [] => []
  | response :: rest =>
      let (stage, notices) := take kind stage response
      notices ++ follow kind stage rest

end WatchStage

def watch (kind : Kind) (responses : List Network.Response) : List (Notice kind.Content) :=
  WatchStage.follow kind .listing responses

namespace Notice

variable {C : Type}

def deleted? : Notice C → Option (Object C)
  | .deleted object => some object
  | _ => none

def isListed : Notice C → Bool
  | .listed => true
  | _ => false

end Notice

end Fleet.Server
