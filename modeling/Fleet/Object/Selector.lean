import Fleet.Object.Metadata

namespace Fleet

inductive Requirement where
  | equals (name value : String)
  | exists_ (name : String)
  deriving DecidableEq, Repr

namespace Requirement

def isMet (labels : TextMap) : Requirement → Bool
  | .equals name value => labels.get? name == some value
  | .exists_ name => labels.contains name

/-- Reads a requirement; blanks around names and values do not count. -/
def ofChars (term : List Char) : Requirement :=
  match Text.splitOnce '=' term with
  | some (name, value) =>
      .equals (String.ofList (Text.trim name)) (String.ofList (Text.trim value))
  | none => .exists_ (String.ofList term)

end Requirement

abbrev Selector := List Requirement

namespace Selector

/-- Reads a selector; empty requirements are passed over. -/
def ofText (text : String) : Selector :=
  ((Text.splitAt ',' text.toList).map Text.trim).filter (!·.isEmpty) |>.map Requirement.ofChars

def selects (selector : Selector) (metadata : Metadata) : Bool :=
  selector.all (Requirement.isMet (metadata.labels.getD .empty))

end Selector

end Fleet
