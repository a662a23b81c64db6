import Fleet.Text.Basic
import Fleet.Text.Quoted

namespace Fleet

inductive SocketAddress where
  | v4 (octets : Vector UInt8 4) (port : UInt16)
  | v6 (groups : Vector UInt16 8) (scope : UInt32) (port : UInt16)
  deriving DecidableEq, Repr

namespace SocketAddress

def everywhere (port : UInt16) : SocketAddress := .v4 #v[0, 0, 0, 0] port

/-- Reads a number of at most `width` digits that does not exceed `limit`. -/
def readDecimal (width limit : Nat) (text : List Char) : Option (Nat × List Char) :=
  let digits := text.takeWhile Char.isDigit
  let value := digits.foldl (fun value c => value * 10 + (c.toNat - '0'.toNat)) 0
  if digits.isEmpty || digits.length > width || value > limit then none
  else some (value, text.drop digits.length)

/-- Reads a part of an IPv4 address; a leading zero stands alone. -/
def readOctet (text : List Char) : Option (UInt8 × List Char) := do
  if text.head? = some '0' && (text.drop 1).head?.any Char.isDigit then none
  else
    let (value, rest) ← readDecimal 3 255 text
    return (.ofNat value, rest)

def readMark (mark : Char) : List Char → Option (List Char)
  | c :: rest => if c = mark then some rest else none
  | [] => none

def readV4 (text : List Char) : Option (Vector UInt8 4 × List Char) := do
  let (a, rest) ← readOctet text
  let (b, rest) ← readOctet (← readMark '.' rest)
  let (c, rest) ← readOctet (← readMark '.' rest)
  let (d, rest) ← readOctet (← readMark '.' rest)
  return (#v[a, b, c, d], rest)

def hexValue? (c : Char) : Option Nat :=
  if c.isDigit then some (c.toNat - '0'.toNat)
  else if 'a' ≤ c.toLower ∧ c.toLower ≤ 'f' then some (c.toLower.toNat - 'a'.toNat + 10)
  else none

def readGroup (text : List Char) : Option (UInt16 × List Char) :=
  let digits := text.takeWhile fun c => (hexValue? c).isSome
  if digits.isEmpty || digits.length > 4 then none
  else
    let value := digits.foldl (fun value c => value * 16 + (hexValue? c).getD 0) 0
    some (.ofNat value, text.drop digits.length)

/-- The two groups that an IPv4 address stands for in an IPv6 address. -/
def groupsOfV4 (octets : Vector UInt8 4) : List UInt16 :=
  let group (high low : UInt8) : UInt16 := high.toUInt16 * 256 + low.toUInt16
  [group octets[0] octets[1], group octets[2] octets[3]]

/-- Groups read from the front of a text, whether they end in an IPv4 address, and what follows
them. -/
structure Groups where
  values : List UInt16
  embedsV4 : Bool
  rest : List Char

/-- Reads up to `limit` groups divided by colons; the last two may be written as an IPv4 address,
which ends the list. -/
def readGroups (limit : Nat) (first : Bool) (text : List Char) : Groups :=
  match limit with
  | 0 => ⟨[], false, text⟩
  | limit + 1 =>
      match if first then some text else readMark ':' text with
      | none => ⟨[], false, text⟩
      | some start =>
          let embedded := if limit = 0 then none else readV4 start
          match embedded with
          | some (octets, rest) => ⟨groupsOfV4 octets, true, rest⟩
          | none =>
              match readGroup start with
              | none => ⟨[], false, text⟩
              | some (group, rest) =>
                  let groups := readGroups limit false rest
                  { groups with values := group :: groups.values }

/-- The address made of a list of groups, if there are as many as an address has. -/
def ofGroups? (groups : List UInt16) : Option (Vector UInt16 8) :=
  if h : groups.length = 8 then some ⟨groups.toArray, by simp [h]⟩ else none

/-- Reads an IPv6 address. Two colons stand for at least one zero group, and an IPv4 address can
only be at the end. -/
def readV6 (text : List Char) : Option (Vector UInt16 8 × List Char) :=
  let front := readGroups 8 true text
  if front.values.length = 8 then (ofGroups? front.values).map (·, front.rest)
  else if front.embedsV4 then none
  else
    match front.rest with
    | ':' :: ':' :: rest =>
        let back := readGroups (7 - front.values.length) true rest
        let zeros := 8 - front.values.length - back.values.length
        (ofGroups? (front.values ++ List.replicate zeros 0 ++ back.values)).map (·, back.rest)
    | _ => none

def readPort (text : List Char) : Option (UInt16 × List Char) := do
  let rest ← readMark ':' text
  let digits := rest.takeWhile Char.isDigit
  let (port, rest) ← readDecimal digits.length 65535 rest
  return (.ofNat port, rest)

/-- Reads the scope of an IPv6 address, which is zero unless written after a percent sign. -/
def readScope (text : List Char) : Option (UInt32 × List Char) :=
  match text with
  | '%' :: rest => do
      let digits := rest.takeWhile Char.isDigit
      let (scope, rest) ← readDecimal digits.length 4294967295 rest
      return (.ofNat scope, rest)
  | _ => some (0, text)

/-- Reads an address with a port; IPv6 addresses stand in square brackets. -/
def ofText? (text : String) : Option SocketAddress :=
  match text.toList with
  | '[' :: rest => do
      let (groups, rest) ← readV6 rest
      let (scope, rest) ← readScope rest
      let (port, rest) ← readPort (← readMark ']' rest)
      if rest.isEmpty then some (.v6 groups scope port) else none
  | rest => do
      let (octets, rest) ← readV4 rest
      let (port, rest) ← readPort rest
      if rest.isEmpty then some (.v4 octets port) else none

def writeV4 (octets : List UInt8) : String :=
  ".".intercalate (octets.map fun octet => toString octet.toNat)

def writeGroups (groups : List UInt16) : String :=
  ":".intercalate (groups.map fun group => Text.hexText group.toNat)

def zeroRun (groups : List UInt16) : Nat := (groups.takeWhile (· == 0)).length

def longestZeroRun (groups : List UInt16) : Nat × Nat :=
  (List.range groups.length).foldl
    (fun best start =>
      let length := zeroRun (groups.drop start)
      if best.2 < length then (start, length) else best)
    (0, 0)

/-- Writes an IPv6 address. Addresses that embed an IPv4 address show it; a single zero group is
not shortened. -/
def writeV6 (groups : List UInt16) : String :=
  match groups with
  | [0, 0, 0, 0, 0, 0xffff, high, low] =>
      "::ffff:" ++ writeV4 [(high / 256).toUInt8, high.toUInt8, (low / 256).toUInt8, low.toUInt8]
  | _ =>
      let (start, length) := longestZeroRun groups
      if 1 < length then
        writeGroups (groups.take start) ++ "::" ++ writeGroups (groups.drop (start + length))
      else writeGroups groups

def toText : SocketAddress → String
  | .v4 octets port => writeV4 octets.toList ++ ":" ++ toString port.toNat
  | .v6 groups scope port =>
      let suffix := if scope == 0 then "" else "%" ++ toString scope.toNat
      "[" ++ writeV6 groups.toList ++ suffix ++ "]:" ++ toString port.toNat

end SocketAddress

end Fleet
