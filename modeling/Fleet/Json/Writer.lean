import Fleet.Json.Basic

namespace Fleet.Json

def hexDigit (value : Nat) : Char :=
  if value < 10 then Char.ofNat ('0'.toNat + value) else Char.ofNat ('a'.toNat + (value - 10))

/-- Writes one character of a string; only quotes, backslashes and control characters need an
escape. -/
def writeChar (c : Char) : String :=
  if c == '"' then "\\\""
  else if c == '\\' then "\\\\"
  else if c == '\n' then "\\n"
  else if c == '\r' then "\\r"
  else if c == '\t' then "\\t"
  else if c == '\x08' then "\\b"
  else if c == '\x0c' then "\\f"
  else if c.toNat < 0x20 then
    "\\u00" ++ String.ofList [hexDigit (c.toNat / 16), hexDigit (c.toNat % 16)]
  else c.toString

def writeString (text : String) : String :=
  "\"" ++ text.toList.foldl (fun written c => written ++ writeChar c) "" ++ "\""

def writeDecimal (mantissa scale : Int) : String :=
  if scale == 0 then toString mantissa ++ ".0"
  else toString mantissa ++ "e" ++ toString (-scale)

mutual

def write : Json → String
  | .null => "null"
  | .bool true => "true"
  | .bool false => "false"
  | .integer value => toString value
  | .decimal mantissa scale => writeDecimal mantissa scale
  | .string text => writeString text
  | .array items => "[" ++ ",".intercalate (writeItems items) ++ "]"
  | .object members => "\x7b" ++ ",".intercalate (writeMembers members) ++ "\x7d"

def writeItems : List Json → List String
  | [] => []
  | item :: rest => write item :: writeItems rest

def writeMembers : List (String × Json) → List String
  | [] => []
  | (name, value) :: rest => (writeString name ++ ":" ++ write value) :: writeMembers rest

end

end Fleet.Json
