namespace Fleet

/-- A JSON value. `decimal mantissa scale` stands for `mantissa * 10 ^ (-scale)` and was not
written as a plain integer. -/
inductive Json where
  | null
  | bool (value : Bool)
  | integer (value : Int)
  | decimal (mantissa : Int) (scale : Int)
  | string (value : String)
  | array (items : List Json)
  | object (members : List (String × Json))
  deriving BEq, Inhabited, Repr

namespace Json

def member? (name : String) : Json → Option Json
  | .object members => (members.reverse.find? fun entry => entry.1 == name).map Prod.snd
  | _ => none

def item? (index : Nat) : Json → Option Json
  | .array items => items[index]?
  | _ => none

/-- An object with the members that have a value. -/
def ofMembers (members : List (String × Option Json)) : Json :=
  .object (members.filterMap fun (name, value) => value.map (name, ·))

def ofTexts (texts : List String) : Json := .array (texts.map .string)

def textOrNull : Option String → Json
  | some text => .string text
  | none => .null

/-- Replaces the members called `name` by one with the given value, or removes them. -/
def setMember (members : List (String × Json)) (name : String) :
    Option Json → List (String × Json)
  | none => members.filter fun entry => entry.1 != name
  | some value =>
      if members.any fun entry => entry.1 == name then
        members.map fun entry => if entry.1 == name then (name, value) else entry
      else members ++ [(name, value)]

/-- The members of an object; of anything else, none. -/
def members : Json → List (String × Json)
  | .object members => members
  | _ => []

mutual

/-- Applies a JSON merge patch: objects are merged member by member, null removes a member, and
anything else replaces the target. -/
def mergePatch (target : Json) : Json → Json
  | .object patch => .object (mergeMembers target.members patch)
  | patch => patch

def mergeMembers (target : List (String × Json)) :
    List (String × Json) → List (String × Json)
  | [] => target
  | (name, .null) :: patch => mergeMembers (setMember target name none) patch
  | (name, value) :: patch =>
      let old := (Json.object target).member? name |>.getD .null
      mergeMembers (setMember target name (some (mergePatch old value))) patch

end

end Json

end Fleet
