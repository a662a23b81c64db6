import Fleet.Object.Kind

namespace Fleet.Server

structure ListNote where
  resourceVersion : Option String := none
  continue_ : Option String := none

namespace ListNote

def ofJson? (form : Json) : Option ListNote := do
  guard form.isForm
  let continue_ ← form.optionalEntry Json.text? "continue"
  let resourceVersion ← form.optionalEntry Json.text? "resourceVersion"
  return { resourceVersion, continue_ }

def shape : Json.Shape :=
  .formOf [("continue", .text), ("remainingItemCount", .int64), ("resourceVersion", .text),
    ("selfLink", .text)]

end ListNote

structure Page (C : Type) where
  items : List (Object C)
  note : ListNote

namespace Page

def items? (kind : Kind) : Json → Option (List (Object kind.Content))
  | .null => some []
  | value => Json.listOf? kind.ofJson? value

def ofJson? (kind : Kind) (record : Json) : Option (Page kind.Content) := do
  guard (record.isForm && record.isRecord ["metadata", "items"] 0)
  let note ← Json.defaulted {} ListNote.ofJson? (record.field? 0 "metadata")
  let items ← Json.required (items? kind) (record.field? 1 "items")
  return { items, note }

/-- How lists are read from text. What else an object with items contains must be values. -/
def decoder (kind : Kind) : Json.Decoder (Page kind.Content) where
  shape :=
    .refined
      (.record [("metadata", ListNote.shape), ("items", .optional (.list kind.shape))] false
        .anything)
      fun value => (ofJson? kind value).isSome
  decode? := ofJson? kind

end Page

inductive Summary where
  | success
  | failure
  deriving DecidableEq, Repr

instance : Enumeration Summary where
  all := [.success, .failure]
  name
    | .success => "Success"
    | .failure => "Failure"

def nat32? (value : Json) : Option Nat := (value.integerIn? 0 4294967295).map Int.toNat

def causeShape : Json.Shape :=
  .record [("reason", .text), ("message", .text), ("field", .text)] true .ignored

def detailsShape : Json.Shape :=
  .record
    [("name", .text), ("group", .text), ("kind", .text), ("uid", .text),
      ("causes", .list causeShape), ("retryAfterSeconds", .scalarOf nat32?)]
    true .ignored

def outcomeShape : Json.Shape :=
  .record
    [("status", .optional (.named Summary)), ("code", .scalarOf Json.nat16?),
      ("message", .text), ("reason", .text), ("details", .optional detailsShape)]
    true .ignored

/-- Reads the reply to a delete: the outcome, or the object that was deleted. Which of them it is
shows only once all of it has been read as a value. -/
def readDeletion (kind : Kind) (text : String) : Except Json.Fault Unit := do
  let value ← Json.Shape.anything.readText text
  if value.member? "kind" == some (.string "Status") then
    let _ ← outcomeShape.readText text
  else
    let _ ← kind.decoder.read text

end Fleet.Server
