import Fleet.Text.Basic

namespace Fleet.Network

structure MediaType where
  type : String
  subtype : String
  suffix : Option String := none
  deriving DecidableEq, Repr

namespace MediaType

/-- The characters that may stand in a header: the visible ones of ASCII, blanks and tabs. -/
def isHeaderChar (c : Char) : Bool := c == '\t' || (0x20 ≤ c.toNat && c.toNat < 0x7F)

def isTokenChar (c : Char) : Bool :=
  c.isAlphanum ||
    ['!', '#', '$', '%', '&', '\'', '*', '+', '-', '.', '^', '_', '\x60', '|', '~'].contains c

def isQuotable (c : Char) : Bool := 0x20 ≤ c.toNat && c.toNat != 0x7F

/-- Splits off the token at the front, which must not be empty. -/
def takeToken (text : List Char) : Option (List Char × List Char) :=
  let token := text.takeWhile isTokenChar
  if token.isEmpty then none else some (token, text.drop token.length)

/-- What follows the value of a parameter that was opened by a quote. The value has at least one
character; as the first one even a quote does not close it. -/
def skipQuoted : List Char → Option (List Char)
  | first :: rest =>
      if isQuotable first then
        match rest.dropWhile fun c => c != '"' && isQuotable c with
        | '"' :: rest => some rest
        | _ => none
      else none
  | [] => none

/-- Whether the text is a list of parameters. `fuel` bounds their number. -/
def areParameters (fuel : Nat) (text : List Char) : Bool :=
  match fuel with
  | 0 => false
  | fuel + 1 =>
      match text.dropWhile (· == ' ') with
      | [] => true
      | text =>
          match takeToken text with
          | some (_, '=' :: '"' :: rest) =>
              match (skipQuoted rest).map fun rest => rest.dropWhile (· == ' ') with
              | some [] => true
              | some (';' :: rest) => areParameters fuel rest
              | _ => false
          | some (_, '=' :: rest) =>
              match rest.dropWhile isTokenChar with
              | [] => true
              | ';' :: after => after.length + 1 < rest.length && areParameters fuel after
              | _ => false
          | _ => false

/-- Parts a subtype from its suffix, which follows the last plus; a plus at the front belongs to
the subtype. -/
def ofNames (type subtype : List Char) : MediaType :=
  match subtype.reverse.span (· != '+') with
  | (suffix, '+' :: first :: family) =>
      { type := String.ofList type, subtype := String.ofList (first :: family).reverse
        suffix := some (String.ofList suffix.reverse) }
  | _ => { type := String.ofList type, subtype := String.ofList subtype }

def ofText? (text : String) : Option MediaType := do
  if !text.toList.all isHeaderChar then none
  match takeToken (text.toList.map Char.toLower) with
  | some (type, '/' :: rest) =>
      let (subtype, rest) ← takeToken rest
      match rest with
      | [] => return ofNames type subtype
      | ';' :: parameters =>
          if areParameters (parameters.length + 1) parameters then return ofNames type subtype
          else none
      | _ => none
  | _ => none

/-- Whether a media type announces JSON: the type for JSON itself, or one of its relatives. -/
def isJson (media : MediaType) : Bool :=
  media.type == "application" && (media.subtype == "json" || media.suffix == some "json")

end MediaType

end Fleet.Network
