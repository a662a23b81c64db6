import Fleet.Json.Decode

namespace Fleet

inductive Schema where
  | scalar (type : String) (format : Option String) (minimum : Option Json)
  | choice (names : List String)
  | list (item : Schema)
  /-- An object with arbitrary names, all of whose values have one schema. -/
  | map (value : Schema)
  /-- An object with given fields; a field is marked if it has to be given. -/
  | record (fields : List (String × Bool × Schema))
  | described (text : String) (schema : Schema)
  | defaulting (default : Json) (schema : Schema)
  | nullable (schema : Schema)

namespace Schema

def text : Schema := .scalar "string" none none

def time : Schema := .scalar "string" (some "date-time") none

def boolean : Schema := .scalar "boolean" none none

def int32 : Schema := .scalar "integer" (some "int32") none

def nat64 : Schema := .scalar "integer" (some "uint64") (some (.decimal 0 0))

def enumeration (α : Type) [Enumeration α] : Schema :=
  .choice ((Enumeration.all (α := α)).map Enumeration.name)

def sorted (members : List (String × Json)) : Json :=
  .object (members.mergeSort fun a b => decide (a.1 ≤ b.1))

def requiredNames (fields : List (String × Bool × Schema)) : List String :=
  ((fields.filter fun field => field.2.1).map Prod.fst).mergeSort fun a b => decide (a ≤ b)

mutual

def members : Schema → List (String × Json)
  | .scalar type format minimum =>
      ("type", .string type) ::
        ((format.map fun format => ("format", .string format)).toList ++
          (minimum.map fun minimum => ("minimum", minimum)).toList)
  | .choice names => [("type", .string "string"), ("enum", .ofTexts names)]
  | .list item => [("type", .string "array"), ("items", sorted item.members)]
  | .map value =>
      [("type", .string "object"), ("additionalProperties", sorted value.members)]
  | .record fields =>
      let required := requiredNames fields
      [("type", .string "object"), ("properties", sorted (fieldMembers fields))] ++
        (if required.isEmpty then [] else [("required", .ofTexts required)])
  | .described text schema => ("description", .string text) :: schema.members
  | .defaulting default schema => ("default", default) :: schema.members
  | .nullable schema => ("nullable", .bool true) :: schema.members

def fieldMembers : List (String × Bool × Schema) → List (String × Json)
  | [] => []
  | (name, _, schema) :: rest => (name, sorted schema.members) :: fieldMembers rest

end

def toJson (schema : Schema) : Json := sorted schema.members

end Schema

/-- A field of a record, marked if it has to be given, with its schema. -/
abbrev Field := String × Bool × Schema

namespace Field

def required (name text : String) (schema : Schema) : Field :=
  (name, true, .described text schema)

def optional (name text : String) (schema : Schema) : Field :=
  (name, false, .described text schema)

/-- A field that has a value even if none is given. -/
def defaulted (name text : String) (default : Json) (schema : Schema) : Field :=
  (name, false, .described text (.defaulting default schema))

def absent (name text : String) (schema : Schema) : Field :=
  (name, false, .described text (.nullable schema))

end Field

end Fleet
