import Fleet.Platform.Node
import Fleet.Proofs.Occurrences

namespace Fleet.Proofs.Addresses

open Fleet.Proofs.Occurrences

def kept (external internal : List String) : NodeAddresses :=
  { public_ := external.eraseDups, private_ := internal.eraseDups }

end Fleet.Proofs.Addresses
