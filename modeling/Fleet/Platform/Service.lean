import Fleet.Object.Metadata

namespace Fleet

inductive PortTarget where
  | number (port : Int32)
  | name (port : String)
  deriving DecidableEq, Repr

namespace PortTarget

def toJson : PortTarget → Json
  | .number port => .integer port.toInt
  | .name port => .string port

def ofJson? : Json → Option PortTarget
  | .string port => some (.name port)
  | value => value.int32?.map .number

def shape : Json.Shape := .scalarOf ofJson?

end PortTarget

structure ServicePort where
  name : Option String := none
  protocol : Option String := none
  port : Int32 := 0
  targetPort : Option PortTarget := none
  nodePort : Option Int32 := none
  deriving DecidableEq, Repr

namespace ServicePort

def toJson (port : ServicePort) : Json :=
  .ofMembers [("name", port.name.map .string),
    ("nodePort", port.nodePort.map fun port => .integer port.toInt),
    ("port", some (.integer port.port.toInt)), ("protocol", port.protocol.map .string),
    ("targetPort", port.targetPort.map PortTarget.toJson)]

def ofJson? (form : Json) : Option ServicePort := do
  guard form.isForm
  let name ← form.optionalEntry Json.text? "name"
  let protocol ← form.optionalEntry Json.text? "protocol"
  let port ← form.defaultedEntry 0 Json.int32? "port"
  let targetPort ← form.optionalEntry PortTarget.ofJson? "targetPort"
  let nodePort ← form.optionalEntry Json.int32? "nodePort"
  return { name, protocol, port, targetPort, nodePort }

def shape : Json.Shape :=
  .formOf [("name", .text), ("nodePort", .int32), ("port", .int32), ("protocol", .text),
    ("targetPort", PortTarget.shape)]

end ServicePort

/-- How a service is reached, and the pods it leads to. -/
structure ServiceSpec where
  type : Option String := none
  externalIPs : Option (List String) := none
  clusterIP : Option String := none
  selector : Option TextMap := none
  ports : Option (List ServicePort) := none
  deriving DecidableEq

namespace ServiceSpec

def toJson (spec : ServiceSpec) : Json :=
  .ofMembers [("clusterIP", spec.clusterIP.map .string),
    ("externalIPs", spec.externalIPs.map .ofTexts),
    ("ports", spec.ports.map fun ports => .array (ports.map ServicePort.toJson)),
    ("selector", spec.selector.map .ofTextMap), ("type", spec.type.map .string)]

def ofJson? (form : Json) : Option ServiceSpec := do
  guard form.isForm
  let type ← form.optionalEntry Json.text? "type"
  let externalIPs ← form.optionalEntry (Json.listOf? Json.text?) "externalIPs"
  let clusterIP ← form.optionalEntry Json.text? "clusterIP"
  let selector ← form.optionalEntry Json.textMap? "selector"
  let ports ← form.optionalEntry (Json.listOf? ServicePort.ofJson?) "ports"
  return { type, externalIPs, clusterIP, selector, ports }

def shape : Json.Shape :=
  .formOf [("clusterIP", .text), ("externalIPs", .texts), ("ports", .list ServicePort.shape),
    ("selector", .textMap), ("type", .text)]

end ServiceSpec

structure ServiceContent where
  spec : Option ServiceSpec := none
  deriving DecidableEq

abbrev Service := Object ServiceContent

namespace ServiceContent

def toMembers (service : ServiceContent) : List (String × Option Json) :=
  [("spec", service.spec.map ServiceSpec.toJson)]

def ofJson? (form : Json) : Option ServiceContent := do
  let spec ← form.optionalEntry ServiceSpec.ofJson? "spec"
  return { spec }

def fields : List (String × Json.Shape) := [("spec", ServiceSpec.shape)]

end ServiceContent

end Fleet
