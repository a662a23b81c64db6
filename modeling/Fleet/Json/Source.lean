import Fleet.Json.Number

/-!
JSON text as it is written. Reading goes from left to right and keeps whatever is written by the
grammar of JSON, even where it stands for no value: an escape that is no character, or a number
that is too large. Where the text stops being JSON, the source is broken; what was read before is
kept, because whoever expects something else there may already object to that.
-/

namespace Fleet.Json

/-- A value as it is written. A string or the name of a member has no text if one of its escapes
stands for no character, and a number has no value if it is too large. A container that is not
closed goes on with something that is no JSON. -/
inductive Source where
  | broken
  | null
  | bool (value : Bool)
  | number (value : Option Json)
  | string (text : Option String)
  | array (items : List Source) (closed : Bool)
  | object (members : List (Option String × Source)) (closed : Bool)
  deriving Inhabited

def isSpace (c : Char) : Bool := c == ' ' || c == '\n' || c == '\t' || c == '\r'

def skipSpace (text : List Char) : List Char := text.dropWhile isSpace

def hexDigit? (c : Char) : Option Nat :=
  if '0' ≤ c ∧ c ≤ '9' then some (c.toNat - '0'.toNat)
  else if 'a' ≤ c ∧ c ≤ 'f' then some (c.toNat - 'a'.toNat + 10)
  else if 'A' ≤ c ∧ c ≤ 'F' then some (c.toNat - 'A'.toNat + 10)
  else none

def hexUnit? (a b c d : Char) : Option Nat := do
  let a ← hexDigit? a
  let b ← hexDigit? b
  let c ← hexDigit? c
  let d ← hexDigit? d
  return ((a * 16 + b) * 16 + c) * 16 + d

def simpleEscape? : Char → Option Char
  | '"' => some '"'
  | '\\' => some '\\'
  | '/' => some '/'
  | 'b' => some '\x08'
  | 'f' => some '\x0c'
  | 'n' => some '\n'
  | 'r' => some '\r'
  | 't' => some '\t'
  | _ => none

/-- Whether a code unit is the first one of a surrogate pair. -/
def isLeading (unit : Nat) : Bool := 0xD800 ≤ unit && unit ≤ 0xDBFF

def isTrailing (unit : Nat) : Bool := 0xDC00 ≤ unit && unit ≤ 0xDFFF

/-- The code units of a string after its opening quote, and what follows its closing quote. An
escape by number is one unit; every other character stands for itself. -/
def scanString (units : List (Nat ⊕ Char)) :
    List Char → Option (List (Nat ⊕ Char) × List Char)
  | '"' :: rest => some (units.reverse, rest)
  | '\\' :: 'u' :: a :: b :: c :: d :: rest =>
      match hexUnit? a b c d with
      | none => none
      | some unit => scanString (.inl unit :: units) rest
  | '\\' :: c :: rest =>
      match simpleEscape? c with
      | none => none
      | some c => scanString (.inr c :: units) rest
  | c :: rest =>
      if c.toNat < 0x20 || c == '\\' then none else scanString (.inr c :: units) rest
  | [] => none

/-- The characters that units stand for. Half a surrogate pair stands for none. -/
def characters? : List (Nat ⊕ Char) → Option (List Char)
  | [] => some []
  | .inr c :: rest => (characters? rest).map (c :: ·)
  | [.inl unit] => if isLeading unit || isTrailing unit then none else some [Char.ofNat unit]
  | .inl unit :: .inl next :: rest =>
      if isLeading unit then
        if isTrailing next then
          let point := 0x10000 + (unit - 0xD800) * 0x400 + (next - 0xDC00)
          (characters? rest).map (Char.ofNat point :: ·)
        else none
      else if isTrailing unit then none
      else (characters? (.inl next :: rest)).map (Char.ofNat unit :: ·)
  | .inl unit :: .inr c :: rest =>
      if isLeading unit || isTrailing unit then none
      else (characters? rest).map fun rest => Char.ofNat unit :: c :: rest

def readString (text : List Char) : Option (Option String × List Char) :=
  (scanString [] text).map fun (units, rest) => ((characters? units).map String.ofList, rest)

namespace Source

def readNumber (negative : Bool) (text : List Char) : Source × Option (List Char) :=
  match Numeral.read negative text with
  | some (numeral, rest) => (.number numeral.value?, some rest)
  | none => (.broken, none)

mutual

/-- Reads one value, and tells what follows unless the text is broken before. `fuel` bounds the
nesting together with the number of children. -/
def read (fuel : Nat) (text : List Char) : Source × Option (List Char) :=
  match fuel with
  | 0 => (.broken, none)
  | fuel + 1 =>
      match skipSpace text with
      | 'n' :: 'u' :: 'l' :: 'l' :: rest => (.null, some rest)
      | 't' :: 'r' :: 'u' :: 'e' :: rest => (.bool true, some rest)
      | 'f' :: 'a' :: 'l' :: 's' :: 'e' :: rest => (.bool false, some rest)
      | '"' :: rest =>
          match readString rest with
          | some (text, rest) => (.string text, some rest)
          | none => (.broken, none)
      | '[' :: rest =>
          match skipSpace rest with
          | ']' :: rest => (.array [] true, some rest)
          | rest =>
              let (items, rest) := readItems fuel [] rest
              (.array items rest.isSome, rest)
      | '\x7b' :: rest =>
          match skipSpace rest with
          | '\x7d' :: rest => (.object [] true, some rest)
          | rest =>
              let (members, rest) := readMembers fuel [] rest
              (.object members rest.isSome, rest)
      | '-' :: rest => readNumber true rest
      | rest => readNumber false rest

def readItems (fuel : Nat) (done : List Source) (text : List Char) :
    List Source × Option (List Char) :=
  match fuel with
  | 0 => (done.reverse, none)
  | fuel + 1 =>
      match read fuel text with
      | (item, none) => ((item :: done).reverse, none)
      | (item, some rest) =>
          match skipSpace rest with
          | ',' :: rest => readItems fuel (item :: done) rest
          | ']' :: rest => ((item :: done).reverse, some rest)
          | _ => ((item :: done).reverse, none)

def readMembers (fuel : Nat) (done : List (Option String × Source)) (text : List Char) :
    List (Option String × Source) × Option (List Char) :=
  match fuel with
  | 0 => (done.reverse, none)
  | fuel + 1 =>
      match skipSpace text with
      | '"' :: rest =>
          match readString rest with
          | none => (done.reverse, none)
          | some (name, rest) =>
              match skipSpace rest with
              | ':' :: rest =>
                  match read fuel rest with
                  | (member, none) => (((name, member) :: done).reverse, none)
                  | (member, some rest) =>
                      match skipSpace rest with
                      | ',' :: rest => readMembers fuel ((name, member) :: done) rest
                      | '\x7d' :: rest => (((name, member) :: done).reverse, some rest)
                      | _ => (((name, member) :: done).reverse, none)
              | _ => (((name, .broken) :: done).reverse, none)
      | _ => (done.reverse, none)

end

mutual

def isWhole : Source → Bool
  | .broken => false
  | .array items closed => closed && areWhole items
  | .object members closed => closed && areWholeMembers members
  | _ => true

def areWhole : List Source → Bool
  | [] => true
  | item :: rest => item.isWhole && areWhole rest

def areWholeMembers : List (Option String × Source) → Bool
  | [] => true
  | (_, member) :: rest => member.isWhole && areWholeMembers rest

end

end Source

structure Document where
  value : Source
  /-- Whether nothing but space follows the value. -/
  ended : Bool

/-- Reads a text. Every value takes at least one character, so twice the length of the text bounds
the reading. -/
def Document.ofText (text : String) : Document :=
  let chars := text.toList
  let (value, rest) := Source.read (2 * chars.length + 2) chars
  { value, ended := rest.any fun rest => (skipSpace rest).isEmpty }

end Fleet.Json
