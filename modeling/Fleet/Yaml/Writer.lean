import Fleet.Json.Writer

namespace Fleet.Yaml

/-- The texts that stand for something else when they are not quoted. -/
def reserved : List String :=
  ["", "null", "Null", "NULL", "~", "true", "True", "TRUE", "false", "False", "FALSE", ".inf",
    ".Inf", ".INF", "+.inf", "+.Inf", "+.INF", "-.inf", "-.Inf", "-.INF", ".nan", ".NaN", ".NAN"]

def isNumeric (text : List Char) : Bool :=
  match text with
  | '+' :: c :: _ | '-' :: c :: _ | '.' :: c :: _ => c.isDigit
  | c :: _ => c.isDigit
  | [] => false

/-- The characters that a text cannot begin with unless it is quoted. -/
def indicators : List Char :=
  ['-', '?', ':', ',', '[', ']', '\x7b', '\x7d', '#', '&', '*', '!', '|', '>', '\'', '"', '%',
    '@', '\x60', ' ']

/-- Whether a text contains a mark that ends it: a colon before a blank or the end, or a hash
after a blank. -/
def hasMark : List Char → Bool
  | [] => false
  | [c] => c == ':' || c == ' '
  | ':' :: ' ' :: _ | ' ' :: '#' :: _ => true
  | _ :: rest => hasMark rest

def isPlain (text : String) : Bool :=
  let chars := text.toList
  !reserved.contains text && !isNumeric chars && !hasMark chars &&
    chars.all (fun c => 0x20 ≤ c.toNat && c.toNat != 0x7F) &&
    !(chars.head?.any indicators.contains)

/-- Writes a text; within single quotes a quote is written twice. -/
def writeText (text : String) : String :=
  if isPlain text then text
  else if text.toList.all fun c => 0x20 ≤ c.toNat && c.toNat != 0x7F then
    "'" ++ String.ofList (text.toList.flatMap fun c => if c == '\'' then ['\'', '\''] else [c]) ++
      "'"
  else Json.writeString text

def writeDecimal (mantissa scale : Int) : String := Json.writeDecimal mantissa scale

/-- The text of a value that takes no lines of its own. -/
def inline? : Json → Option String
  | .null => some "null"
  | .bool value => some (if value then "true" else "false")
  | .integer value => some (toString value)
  | .decimal mantissa scale => some (writeDecimal mantissa scale)
  | .string text => some (writeText text)
  | .array [] => some "[]"
  | .object [] => some "\x7b\x7d"
  | .array _ | .object _ => none

def indent (lines : List String) : List String := lines.map ("  " ++ ·)

/-- Puts a dash before the first of some lines and aligns the others with it. -/
def itemLines : List String → List String
  | [] => []
  | line :: rest => ("- " ++ line) :: indent rest

mutual

def lines : Json → List String
  | .array items => listLines items
  | .object members => memberLines members
  | value => (inline? value).toList

def listLines : List Json → List String
  | [] => []
  | item :: rest =>
      let written :=
        match inline? item with
        | some text => [text]
        | none => lines item
      itemLines written ++ listLines rest

/-- The lines of the members of an object. Arrays are not moved to the right. -/
def memberLines : List (String × Json) → List String
  | [] => []
  | (name, value) :: rest =>
      let written :=
        match inline? value, value with
        | some text, _ => [writeText name ++ ": " ++ text]
        | none, .array items => (writeText name ++ ":") :: listLines items
        | none, value => (writeText name ++ ":") :: indent (lines value)
      written ++ memberLines rest

end

def write (value : Json) : String :=
  let written :=
    match inline? value with
    | some text => [text]
    | none => lines value
  written.foldl (fun text line => text ++ line ++ "\n") ""

end Fleet.Yaml
