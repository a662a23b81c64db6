import Fleet.Json.Decode
import Fleet.Json.Source

/-!
What a place in a JSON text expects. A text is checked from left to right: the first thing in it
that is no JSON makes it malformed, and the first value that its place does not expect makes it
misshapen, whichever comes first. What is not expected but may be there is passed over; there it
is enough that the grammar of JSON is kept.

A value that is written before it is known what it has to be is set aside first. Values that were
set aside are read the same way, but for the objects that stand for names.
-/

namespace Fleet.Json

inductive Fault where
  /-- It is no JSON, or a value in it cannot be read. -/
  | malformed
  /-- It is JSON, but not of the expected shape. -/
  | misshapen
  deriving DecidableEq, Repr

inductive Shape where
  /-- Anything at all, of which nothing is kept. -/
  | ignored
  | anything
  /-- Null, a truth value, a number or a string. -/
  | scalar
  /-- A string, or an object whose members are all null; in a value that was set aside, they may
  be empty objects as well. -/
  | tag
  /-- Null, or an empty object, which counts as null. -/
  | blank
  | list (item : Shape)
  | map (value : Shape)
  /-- An object with fields that are given at most once, or, if `listed`, the fields in order as
  an array. Its other members are of the shape `others`. -/
  | record (fields : List (String × Shape)) (listed : Bool) (others : Shape)
  /-- An object with fields, each of which may be given repeatedly. -/
  | form (fields : List (String × Shape))
  | optional (shape : Shape)
  /-- Only the values that satisfy a condition. -/
  | refined (shape : Shape) (fits : Json → Bool)
  /-- What one of two shapes expects, told apart by the kind of the value. -/
  | either (first second : Shape)
  deriving Inhabited

namespace Shape

def takes : Shape → Json → Bool
  | .ignored, _ | .anything, _ | .scalar, _ => true
  | .tag, .string _ => true
  | .blank, value => value == .null
  | .optional shape, value => value == .null || shape.takes value
  | .refined shape fits, value => shape.takes value && fits value
  | .either first second, value => first.takes value || second.takes value
  | _, _ => false

structure Items where
  first : List Shape
  /-- What all further items are; without a shape there must be none. -/
  further : Option Shape

def items? : Shape → Option Items
  | .anything => some { first := [], further := some .anything }
  | .list item => some { first := [], further := some item }
  | .record fields true _ => some { first := fields.map Prod.snd, further := none }
  | .optional shape | .refined shape _ => shape.items?
  | .either first second => first.items? <|> second.items?
  | _ => none

structure Members where
  field? : String → Option Shape
  others : Shape
  /-- Whether members that are kept must not be repeated. -/
  strict : Bool

def unexpected : Shape := .refined .scalar fun _ => false

def members? (aside : Bool) : Shape → Option Members
  | .anything => some { field? := fun _ => some .anything, others := .ignored, strict := false }
  | .tag =>
      let member : Shape := if aside then .blank else .refined .scalar (· == .null)
      some { field? := fun _ => some member, others := .ignored, strict := false }
  | .blank => some { field? := fun _ => none, others := unexpected, strict := false }
  | .map value => some { field? := fun _ => some value, others := .ignored, strict := false }
  | .record fields _ others =>
      some { field? := fun name => fields.lookup name, others, strict := true }
  | .form fields =>
      some { field? := fun name => fields.lookup name, others := .ignored, strict := false }
  | .optional shape | .refined shape _ => shape.members? aside
  | .either first second => first.members? aside <|> second.members? aside
  | _ => none

/-- Whether a container whose contents are as expected is accepted. -/
def accepts : Shape → Json → Bool
  | .optional shape, value => shape.accepts value
  | .refined shape fits, value => shape.accepts value && fits value
  | .either first second, value =>
      match value with
      | .array _ => if first.items?.isSome then first.accepts value else second.accepts value
      | _ =>
          if (first.members? false).isSome then first.accepts value else second.accepts value
  | _, _ => true

/-- Values are nested in fewer containers than this. -/
def nestingLimit : Nat := 128

def takeScalar (shape : Shape) (value : Json) : Except Fault Json :=
  if shape.takes value then .ok value else .error .misshapen

def kept : Shape → Json → Json
  | .blank, _ => .null
  | _, value => value

def takeContainer (shape : Shape) (closed : Bool) (value : Json) : Except Fault Json :=
  if !closed then .error .malformed
  else if shape.accepts value then .ok (shape.kept value)
  else .error .misshapen

/-- Passes over what is not kept. -/
def skip (source : Source) : Except Fault Json :=
  if source.isWhole then .ok .null else .error .malformed

mutual

/-- Reads what is written in a place of the given shape. `aside` tells whether it was set aside
first, and `room` how many more containers may be nested there. -/
def read (aside : Bool) (room : Nat) (shape : Shape) : Source → Except Fault Json
  | .broken => .error .malformed
  | .null => takeScalar shape .null
  | .bool value => takeScalar shape (.bool value)
  | .number value =>
      match shape, value with
      | .ignored, _ => .ok .null
      | shape, some value => takeScalar shape value
      | _, none => .error .malformed
  | .string text =>
      match shape, text with
      | .ignored, _ => .ok .null
      | shape, some text => takeScalar shape (.string text)
      | _, none => .error .malformed
  | .array items closed =>
      match shape, room with
      | .ignored, _ => skip (.array items closed)
      | shape, room =>
          match shape.items?, room with
          | none, _ => .error .misshapen
          | some _, 0 | some _, 1 => .error .malformed
          | some expected, room + 1 => do
              let values ← readItems aside room expected.first expected.further items
              takeContainer shape closed (.array values)
  | .object members closed =>
      match shape, room with
      | .ignored, _ => skip (.object members closed)
      | shape, room =>
          match shape.members? aside, room with
          | none, _ => .error .misshapen
          | some _, 0 | some _, 1 => .error .malformed
          | some expected, room + 1 => do
              let values ← readMembers aside room expected [] members
              takeContainer shape closed (.object values)

/-- Reads the items of an array. An item too many is no part of it. -/
def readItems (aside : Bool) (room : Nat) (first : List Shape) (further : Option Shape) :
    List Source → Except Fault (List Json)
  | [] => .ok []
  | item :: rest =>
      match first, further with
      | shape :: first, further => do
          let value ← read aside room shape item
          let values ← readItems aside room first further rest
          return value :: values
      | [], some shape => do
          let value ← read aside room shape item
          let values ← readItems aside room [] (some shape) rest
          return value :: values
      | [], none => .error .malformed

def readMembers (aside : Bool) (room : Nat) (expected : Members) (seen : List String) :
    List (Option String × Source) → Except Fault (List (String × Json))
  | [] => .ok []
  | (none, _) :: _ => .error .malformed
  | (some name, member) :: rest =>
      match expected.field? name with
      | some shape =>
          if expected.strict && seen.contains name then .error .misshapen
          else do
            let value ← read aside room shape member
            let values ← readMembers aside room expected (name :: seen) rest
            return (name, value) :: values
      | none => do
          let _ ← read aside room expected.others member
          readMembers aside room expected seen rest

end

def readDocument (aside : Bool) (shape : Shape) (document : Document) : Except Fault Json := do
  let value ← shape.read aside nestingLimit document.value
  if document.ended then .ok value else .error .malformed

def readText (shape : Shape) (text : String) : Except Fault Json :=
  shape.readDocument false (.ofText text)

def scalarOf {α : Type} (decode? : Json → Option α) : Shape :=
  .refined .scalar fun value => (decode? value).isSome

def text : Shape := scalarOf text?

def exactly (expected : String) : Shape := .refined .scalar (· == .string expected)

def boolean : Shape := scalarOf boolean?

def int32 : Shape := scalarOf int32?

def int64 : Shape := scalarOf int64?

def texts : Shape := .list text

def textMap : Shape := .map text

def named (α : Type) [Enumeration α] : Shape :=
  .refined .tag fun value => (enumeration? (α := α) value).isSome

/-- A record that a reader understands, with the shapes of its fields. -/
def recordOf {α : Type} (decode? : Json → Option α) (fields : List (String × Shape)) : Shape :=
  .refined (.record fields true .ignored) fun value => (decode? value).isSome

/-- A form whose fields may all be absent or null. -/
def formOf (fields : List (String × Shape)) : Shape :=
  .form (fields.map fun (name, shape) => (name, .optional shape))

end Shape

/-- How values of a type are read from text: what the text has to look like, and what it means
then. -/
structure Decoder (α : Type) where
  shape : Shape
  decode? : Json → Option α

def Decoder.read {α : Type} (decoder : Decoder α) (text : String) : Except Fault α := do
  match decoder.decode? (← decoder.shape.readText text) with
  | some value => .ok value
  | none => .error .misshapen

def ofText? (text : String) : Option Json := (Shape.anything.readText text).toOption

end Fleet.Json
