import Fleet.Object.Metadata

/-!
What a stored definition looks like. The server answers an installation with the definition as it
keeps it, and the answer counts only if every known field of it is of the right type. Schemas may
contain schemas; they are described to the depth to which values may be nested.
-/

namespace Fleet.Definition

open Json (Shape)

def numberShape : Shape :=
  .refined .scalar fun value =>
    match value with
    | .integer _ | .decimal .. => true
    | _ => false

def documentationShape : Shape := .formOf [("description", .text), ("url", .text)]

def ruleShape : Shape :=
  .formOf [("fieldPath", .text), ("message", .text), ("messageExpression", .text),
    ("optionalOldSelf", .boolean), ("reason", .text), ("rule", .text)]

/-- What a schema looks like, given what the schemas in it look like. -/
def schemaAround (inner : Shape) : Shape :=
  let schemas : Shape := .list inner
  let named : Shape := .map inner
  .formOf [("$ref", .text), ("$schema", .text), ("additionalItems", .either .boolean inner),
    ("additionalProperties", .either .boolean inner), ("allOf", schemas), ("anyOf", schemas),
    ("default", .anything), ("definitions", named),
    ("dependencies", .map (.either .texts inner)), ("description", .text),
    ("enum", .list .anything), ("example", .anything), ("exclusiveMaximum", .boolean),
    ("exclusiveMinimum", .boolean), ("externalDocs", documentationShape), ("format", .text),
    ("id", .text), ("items", .either schemas inner), ("maxItems", .int64),
    ("maxLength", .int64), ("maxProperties", .int64), ("maximum", numberShape),
    ("minItems", .int64), ("minLength", .int64), ("minProperties", .int64),
    ("minimum", numberShape), ("multipleOf", numberShape), ("not", inner),
    ("nullable", .boolean), ("oneOf", schemas), ("pattern", .text),
    ("patternProperties", named), ("properties", named), ("required", .texts),
    ("title", .text), ("type", .text), ("uniqueItems", .boolean),
    ("x-kubernetes-embedded-resource", .boolean), ("x-kubernetes-int-or-string", .boolean),
    ("x-kubernetes-list-map-keys", .texts), ("x-kubernetes-list-type", .text),
    ("x-kubernetes-map-type", .text), ("x-kubernetes-preserve-unknown-fields", .boolean),
    ("x-kubernetes-validations", .list ruleShape)]

/-- What a schema looks like that contains schemas to the given depth. -/
def schemaShape : Nat → Shape
  | 0 => .anything
  | depth + 1 => schemaAround (schemaShape depth)

def namesShape : Shape :=
  .formOf [("categories", .texts), ("kind", .text), ("listKind", .text), ("plural", .text),
    ("shortNames", .texts), ("singular", .text)]

def isBase64Digit (c : Char) : Bool := c.isAlphanum || c == '+' || c == '/'

/-- The bits that the last digit before the given padding leaves over. -/
def spareBits (c : Char) : Nat :=
  if c.isUpper then c.toNat - 'A'.toNat
  else if c.isLower then c.toNat - 'a'.toNat + 26
  else if c.isDigit then c.toNat - '0'.toNat + 52
  else if c == '+' then 62
  else 63

/-- Whether a text is made of groups of four digits, the last of which may be padded; the bits
that padding leaves over are zero. -/
def isBase64 : List Char → Bool
  | [] => true
  | [a, b, '=', '='] => isBase64Digit a && isBase64Digit b && spareBits b % 16 == 0
  | [a, b, c, '='] =>
      isBase64Digit a && isBase64Digit b && isBase64Digit c && spareBits c % 4 == 0
  | a :: b :: c :: d :: rest => [a, b, c, d].all isBase64Digit && isBase64 rest
  | _ => false

def bytesShape : Shape :=
  .refined .text fun value => value.text?.any fun text => isBase64 text.toList

def serviceShape : Shape :=
  .formOf [("name", .text), ("namespace", .text), ("path", .text), ("port", .int32)]

def clientShape : Shape :=
  .formOf [("caBundle", bytesShape), ("service", serviceShape), ("url", .text)]

def webhookShape : Shape :=
  .formOf [("clientConfig", clientShape), ("conversionReviewVersions", .texts)]

def conversionShape : Shape := .formOf [("strategy", .text), ("webhook", webhookShape)]

def columnShape : Shape :=
  .formOf [("description", .text), ("format", .text), ("jsonPath", .text), ("name", .text),
    ("priority", .int32), ("type", .text)]

def scaleShape : Shape :=
  .formOf [("labelSelectorPath", .text), ("specReplicasPath", .text),
    ("statusReplicasPath", .text)]

def versionShape : Shape :=
  .formOf [("additionalPrinterColumns", .list columnShape), ("deprecated", .boolean),
    ("deprecationWarning", .text), ("name", .text),
    ("schema", .formOf [("openAPIV3Schema", schemaShape Shape.nestingLimit)]),
    ("selectableFields", .list (.formOf [("jsonPath", .text)])), ("served", .boolean),
    ("storage", .boolean), ("subresources", .formOf [("scale", scaleShape), ("status", .anything)])]

def specShape : Shape :=
  .formOf [("conversion", conversionShape), ("group", .text), ("names", namesShape),
    ("preserveUnknownFields", .boolean), ("scope", .text), ("versions", .list versionShape)]

def conditionShape : Shape :=
  .formOf [("lastTransitionTime", Metadata.timeShape), ("message", .text), ("reason", .text),
    ("status", .text), ("type", .text)]

def statusShape : Shape :=
  .formOf [("acceptedNames", namesShape), ("conditions", .list conditionShape),
    ("storedVersions", .texts)]

def apiVersion : String := "apiextensions.k8s.io/v1"

def title : String := "CustomResourceDefinition"

def shape : Shape :=
  .form [("apiVersion", .exactly apiVersion), ("kind", .exactly title),
    ("metadata", .optional Metadata.shape), ("spec", .optional specShape),
    ("status", .optional statusShape)]

end Fleet.Definition
