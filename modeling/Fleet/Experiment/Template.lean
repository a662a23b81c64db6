import Fleet.Object.Metadata

namespace Fleet

structure PodTemplate where
  image : String
  env : TextMap := .empty
  command : List String := []
  deriving DecidableEq

namespace PodTemplate

def toJson (template : PodTemplate) : Json :=
  .ofMembers [("image", some (.string template.image)), ("env", some (.ofTextMap template.env)),
    ("command", if template.command.isEmpty then none else some (.ofTexts template.command))]

def ofJson? (record : Json) : Option PodTemplate := do
  guard (record.isRecord ["image", "env", "command"] 0)
  let image ← Json.required Json.text? (record.field? 0 "image")
  let env ← Json.defaulted .empty Json.textMap? (record.field? 1 "env")
  let command ← Json.defaulted [] (Json.listOf? Json.text?) (record.field? 2 "command")
  return { image, env, command }

def shape : Json.Shape :=
  .recordOf ofJson? [("image", .text), ("env", .textMap), ("command", .texts)]

end PodTemplate

structure VncConfig where
  username : String
  password : String
  deriving DecidableEq, Repr

namespace VncConfig

def toJson (config : VncConfig) : Json :=
  .object [("username", .string config.username), ("password", .string config.password)]

def ofJson? (record : Json) : Option VncConfig := do
  guard (record.isRecord ["username", "password"] 0)
  let username ← Json.required Json.text? (record.field? 0 "username")
  let password ← Json.required Json.text? (record.field? 1 "password")
  return { username, password }

def shape : Json.Shape := .recordOf ofJson? [("username", .text), ("password", .text)]

end VncConfig

structure SshConfig where
  username : String
  password : Option String := none
  key : Option String := none
  deriving DecidableEq, Repr

namespace SshConfig

def toJson (config : SshConfig) : Json :=
  .ofMembers [("username", some (.string config.username)),
    ("password", config.password.map .string), ("key", config.key.map .string)]

def ofJson? (record : Json) : Option SshConfig := do
  guard (record.isRecord ["username", "password", "key"] 0)
  let username ← Json.required Json.text? (record.field? 0 "username")
  let password ← Json.optional Json.text? (record.field? 1 "password")
  let key ← Json.optional Json.text? (record.field? 2 "key")
  return { username, password, key }

def shape : Json.Shape :=
  .recordOf ofJson?
    [("username", .text), ("password", .optional .text), ("key", .optional .text)]

end SshConfig

inductive IngressProtocol where
  | vnc
  | ssh
  deriving DecidableEq, Repr

namespace IngressProtocol

/-- Recognises a protocol in any mixture of ASCII cases. -/
def ofName? (name : String) : Option IngressProtocol :=
  let lower := Text.lowerAscii name
  if lower == "vnc" then some .vnc else if lower == "ssh" then some .ssh else none

end IngressProtocol

structure TemplateSpec where
  podTemplate : PodTemplate
  ingressProtocol : String
  ingressPort : Int32
  vnc : Option VncConfig := none
  ssh : Option SshConfig := none
  deriving DecidableEq

namespace TemplateSpec

def protocol? (spec : TemplateSpec) : Option IngressProtocol :=
  IngressProtocol.ofName? spec.ingressProtocol

def protocolName (spec : TemplateSpec) : String := Text.lowerAscii spec.ingressProtocol

def toJson (spec : TemplateSpec) : Json :=
  .ofMembers [("podTemplate", some spec.podTemplate.toJson),
    ("ingressProtocol", some (.string spec.ingressProtocol)),
    ("ingressPort", some (.integer spec.ingressPort.toInt)),
    ("vnc", spec.vnc.map VncConfig.toJson), ("ssh", spec.ssh.map SshConfig.toJson)]

def fields : List String := ["podTemplate", "ingressProtocol", "ingressPort", "vnc", "ssh"]

def ofJson? (record : Json) : Option TemplateSpec := do
  guard (record.isRecord fields 0)
  let podTemplate ← Json.required PodTemplate.ofJson? (record.field? 0 "podTemplate")
  let ingressProtocol ← Json.required Json.text? (record.field? 1 "ingressProtocol")
  let ingressPort ← Json.required Json.int32? (record.field? 2 "ingressPort")
  let vnc ← Json.optional VncConfig.ofJson? (record.field? 3 "vnc")
  let ssh ← Json.optional SshConfig.ofJson? (record.field? 4 "ssh")
  return { podTemplate, ingressProtocol, ingressPort, vnc, ssh }

def shape : Json.Shape :=
  .recordOf ofJson?
    [("podTemplate", PodTemplate.shape), ("ingressProtocol", .text), ("ingressPort", .int32),
      ("vnc", .optional VncConfig.shape), ("ssh", .optional SshConfig.shape)]

end TemplateSpec

abbrev Template := Object TemplateSpec

end Fleet
