import Fleet.Object.Metadata

namespace Fleet

structure NodeAddress where
  type : String
  address : String
  deriving DecidableEq, Repr

namespace NodeAddress

def toJson (address : NodeAddress) : Json :=
  .object [("address", .string address.address), ("type", .string address.type)]

def ofJson? (form : Json) : Option NodeAddress := do
  guard form.isForm
  let type ← form.defaultedEntry "" Json.text? "type"
  let address ← form.defaultedEntry "" Json.text? "address"
  return { type, address }

def shape : Json.Shape := .formOf [("address", .text), ("type", .text)]

end NodeAddress

structure NodeStatus where
  addresses : Option (List NodeAddress) := none
  deriving DecidableEq, Repr

namespace NodeStatus

def toJson (status : NodeStatus) : Json :=
  .ofMembers [
    ("addresses",
      status.addresses.map fun addresses => .array (addresses.map NodeAddress.toJson))]

def ofJson? (form : Json) : Option NodeStatus := do
  guard form.isForm
  let addresses ← form.optionalEntry (Json.listOf? NodeAddress.ofJson?) "addresses"
  return { addresses }

def shape : Json.Shape := .formOf [("addresses", .list NodeAddress.shape)]

end NodeStatus

structure NodeContent where
  status : Option NodeStatus := none
  deriving DecidableEq

abbrev Node := Object NodeContent

namespace NodeContent

def toMembers (node : NodeContent) : List (String × Option Json) :=
  [("status", node.status.map NodeStatus.toJson)]

def ofJson? (form : Json) : Option NodeContent := do
  let status ← form.optionalEntry NodeStatus.ofJson? "status"
  return { status }

def fields : List (String × Json.Shape) := [("status", NodeStatus.shape)]

def addresses (node : NodeContent) : List NodeAddress :=
  (node.status.bind NodeStatus.addresses).getD []

end NodeContent

structure NodeAddresses where
  public_ : List String := []
  private_ : List String := []
  deriving DecidableEq, Repr

namespace NodeAddresses

def addOnce (addresses : List String) (address : String) : List String :=
  if addresses.contains address then addresses else addresses ++ [address]

/-- Sorts an address into the list its type belongs to; other types are passed over. -/
def add (found : NodeAddresses) (address : NodeAddress) : NodeAddresses :=
  if address.type == "ExternalIP" then
    { found with public_ := addOnce found.public_ address.address }
  else if address.type == "InternalIP" then
    { found with private_ := addOnce found.private_ address.address }
  else found

/-- Collects the addresses of the nodes, each once, in the order in which they first occur. -/
def ofNodes (nodes : List Node) : NodeAddresses :=
  (nodes.flatMap fun node => node.content.addresses).foldl add {}

end NodeAddresses

end Fleet
