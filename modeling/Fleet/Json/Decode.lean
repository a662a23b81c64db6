import Fleet.Json.Basic
import Fleet.OrderedMap

/-!
Reading typed values from JSON. Two conventions for objects are in use. A *record* is strict: each
of its fields may be given once, null stands only for an optional field, and the fields may also be
listed by position in an array. A *form* is lenient: of repeated members the last one counts, and
null is the same as absence. Both ignore members they do not know.
-/

namespace Fleet

class Enumeration (α : Type) where
  all : List α
  name : α → String

namespace Json

variable {α : Type}

def text? : Json → Option String
  | .string text => some text
  | _ => none

def boolean? : Json → Option Bool
  | .bool value => some value
  | _ => none

def integerIn? (low high : Int) : Json → Option Int
  | .integer value => if low ≤ value ∧ value ≤ high then some value else none
  | _ => none

def int32? (value : Json) : Option Int32 :=
  (integerIn? Int32.minValue.toInt Int32.maxValue.toInt value).map Int32.ofInt

def int64? (value : Json) : Option Int64 :=
  (integerIn? Int64.minValue.toInt Int64.maxValue.toInt value).map Int64.ofInt

def uint64? (value : Json) : Option UInt64 :=
  (integerIn? 0 (Int.ofNat UInt64.size - 1) value).map fun value => .ofNat value.toNat

def nat16? (value : Json) : Option Nat := (integerIn? 0 65535 value).map Int.toNat

def listOf? (item? : Json → Option α) : Json → Option (List α)
  | .array items => items.mapM item?
  | _ => none

def textEntry? (entry : String × Json) : Option (String × String) :=
  entry.2.text?.map (entry.1, ·)

/-- A map from text to text; of repeated names the last one counts. -/
def textMap? : Json → Option TextMap
  | .object members => (members.mapM textEntry?).map OrderedMap.ofList
  | _ => none

def named? [Enumeration α] (name : String) : Option α :=
  (Enumeration.all (α := α)).find? fun value => Enumeration.name value == name

/-- A named value, written as its name or as an object with that one name and null. -/
def enumeration? [Enumeration α] : Json → Option α
  | .string name => named? name
  | .object [(name, .null)] => named? name
  | _ => none

def ofEnumeration [Enumeration α] (value : α) : Json := .string (Enumeration.name value)

def ofTextMap (map : TextMap) : Json :=
  .object (map.entries.map fun (name, value) => (name, .string value))

/-- Whether the value can be a record with the given fields: an object in which none of them is
repeated, or an array of at least `least` values and no more than there are fields. -/
def isRecord (fields : List String) (least : Nat) : Json → Bool
  | .object members =>
      fields.all fun field => (members.filter fun entry => entry.1 == field).length ≤ 1
  | .array items => least ≤ items.length && items.length ≤ fields.length
  | _ => false

def field? (index : Nat) (name : String) : Json → Option Json
  | .object members => (members.find? fun entry => entry.1 == name).map Prod.snd
  | .array items => items[index]?
  | _ => none

def required (decode? : Json → Option α) (given : Option Json) : Option α := given.bind decode?

def defaulted (default : α) (decode? : Json → Option α) : Option Json → Option α
  | some value => decode? value
  | none => some default

def optional (decode? : Json → Option α) : Option Json → Option (Option α)
  | none | some .null => some none
  | some value => (decode? value).map some

def isForm : Json → Bool
  | .object _ => true
  | _ => false

def entry? (name : String) (form : Json) : Option Json :=
  match form.member? name with
  | some .null => none
  | given => given

def optionalEntry (decode? : Json → Option α) (name : String) (form : Json) :
    Option (Option α) :=
  match form.entry? name with
  | some value => (decode? value).map some
  | none => some none

def defaultedEntry (default : α) (decode? : Json → Option α) (name : String) (form : Json) :
    Option α :=
  match form.entry? name with
  | some value => decode? value
  | none => some default

end Json

end Fleet
