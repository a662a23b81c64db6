import Fleet.Text.Extender
import Fleet.Text.Unassigned

namespace Fleet.Text

/-- Controls, formats, separators other than the space, and private use: Unicode's general
categories `Cc`, `Cf`, `Zl`, `Zp`, `Zs` and `Co`. -/
def formats : CodeRanges :=
  [(0x0, 0x1F), (0x7F, 0xA0), (0xAD, 0xAD), (0x600, 0x605), (0x61C, 0x61C), (0x6DD, 0x6DD),
    (0x70F, 0x70F), (0x890, 0x891), (0x8E2, 0x8E2), (0x1680, 0x1680), (0x180E, 0x180E),
    (0x2000, 0x200F), (0x2028, 0x202F), (0x205F, 0x2064), (0x2066, 0x206F), (0x3000, 0x3000),
    (0xE000, 0xF8FF), (0xFEFF, 0xFEFF), (0xFFF9, 0xFFFB), (0x110BD, 0x110BD), (0x110CD, 0x110CD),
    (0x13430, 0x1343F), (0x1BCA0, 0x1BCA3), (0x1D173, 0x1D17A), (0xE0001, 0xE0001),
    (0xE0020, 0xE007F), (0xF0000, 0xFFFFD), (0x100000, 0x10FFFD)]

/-- Letters that fill a place without being shown, the only letters with Unicode's property
`Default_Ignorable_Code_Point`. -/
def fillers : CodeRanges := [(0x115F, 0x1160), (0x3164, 0x3164), (0xFFA0, 0xFFA0)]

/-- Whether a character would not be seen. Of the ASCII characters these are the controls. -/
def isUnseen (c : Char) : Bool :=
  if c.toNat < 0x7F then c.toNat < 0x20
  else formats.has c || fillers.has c || isExtender c || isUnassigned c

def hexText (value : Nat) : String := String.ofList (Nat.toDigits 16 value)

def quoteChar (c : Char) : String :=
  if c == '"' then "\\\""
  else if c == '\\' then "\\\\"
  else if c == '\n' then "\\n"
  else if c == '\r' then "\\r"
  else if c == '\t' then "\\t"
  else if c == '\x00' then "\\0"
  else if isUnseen c then "\\u\x7b" ++ hexText c.toNat ++ "\x7d"
  else c.toString

def quote (text : String) : String :=
  "\"" ++ text.toList.foldl (fun written c => written ++ quoteChar c) "" ++ "\""

end Fleet.Text
