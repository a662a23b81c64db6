import Fleet.Text.Basic
import Fleet.Time.Instant

namespace Fleet.Timestamp

open Fleet.Text

def padded (width value : Nat) : String :=
  let digits := Nat.toDigits 10 value
  String.ofList (List.replicate (width - digits.length) '0' ++ digits)

/-- Writes a year: four digits, and outside of 0 to 9999 a sign. -/
def writeYear (year : Int) : String :=
  if 0 ≤ year ∧ year ≤ 9999 then padded 4 year.toNat
  else (if year < 0 then "-" else "+") ++ padded 4 year.natAbs

/-- Writes date and time of day up to whole seconds, without an offset. A leap second is the
second 60 of its minute. -/
def writeSeconds (instant : Instant) : String :=
  let date := Date.ofDays (instant.second / Instant.secondsPerDay)
  let time := instant.timeOfDay.toNat
  let second := if instant.isLeap then time % 60 + 1 else time % 60
  writeYear date.year ++ "-" ++ padded 2 date.month ++ "-" ++ padded 2 date.day ++ "T" ++
    padded 2 (time / 3600) ++ ":" ++ padded 2 (time / 60 % 60) ++ ":" ++ padded 2 second

/-- Writes an instant with the fewest fraction digits, of none, three, six or nine, that lose
nothing. -/
def write (instant : Instant) : String :=
  let nanoseconds := instant.subsecond
  let fraction :=
    if nanoseconds == 0 then ""
    else if nanoseconds % 1000000 == 0 then "." ++ padded 3 (nanoseconds / 1000000)
    else if nanoseconds % 1000 == 0 then "." ++ padded 6 (nanoseconds / 1000)
    else "." ++ padded 9 nanoseconds
  writeSeconds instant ++ fraction ++ "Z"

def writeWhole (instant : Instant) : String := writeSeconds instant ++ "Z"

def writeMicro (instant : Instant) : String :=
  writeSeconds instant ++ "." ++ padded 6 (instant.subsecond / 1000) ++ "Z"

def skipChar (expected : Char) : List Char → Option (List Char)
  | c :: rest => if c = expected then some rest else none
  | [] => none

/-- Reads a number of one to `width` digits. -/
def readDigits (width : Nat) (text : List Char) : Option (Nat × List Char) :=
  let digits := (text.take width).takeWhile Char.isDigit
  if digits.isEmpty then none else some (Nat.ofDigitChars 10 digits 0, text.drop digits.length)

def readField (width : Nat) (text : List Char) : Option (Nat × List Char) :=
  readDigits width (trimStart text)

/-- Reads a year: up to four digits, or a sign and any number of digits. -/
def readYear (text : List Char) : Option (Int × List Char) :=
  match trimStart text with
  | '-' :: rest => (readDigits rest.length rest).map fun (year, rest) => (-(year : Int), rest)
  | '+' :: rest => (readDigits rest.length rest).map fun (year, rest) => ((year : Int), rest)
  | text => (readDigits 4 text).map fun (year, rest) => ((year : Int), rest)

def readMark (mark : Char) (text : List Char) : Option (List Char) :=
  skipChar mark (trimStart text)

/-- Reads a fraction of a second, in nanoseconds; digits after the ninth are dropped. -/
def readFraction (text : List Char) : Option (Nat × List Char) :=
  match text with
  | '.' :: rest =>
      let digits := (rest.take 9).takeWhile Char.isDigit
      if digits.isEmpty then none
      else
        some (Nat.ofDigitChars 10 (digits.rightpad 9 '0') 0, rest.dropWhile Char.isDigit)
  | _ => some (0, text)

def readPair : List Char → Option (Nat × List Char)
  | a :: b :: rest =>
      if a.isDigit && b.isDigit then some (Nat.ofDigitChars 10 [a, b] 0, rest) else none
  | _ => none

def readOffset (text : List Char) : Option (Int × List Char) :=
  match text with
  | 'Z' :: rest | 'z' :: rest => some (0, rest)
  | sign :: rest =>
      if sign = '+' ∨ sign = '-' ∨ sign = '\u2212' then do
        let (hours, rest) ← readPair rest
        let (minutes, rest) ← readPair (rest.dropWhile fun c => c == ':' || isBlank c)
        if 60 ≤ minutes then none
        else
          let offset : Int := hours * 3600 + minutes * 60
          some (if sign = '+' then offset else -offset, rest)
      else none
  | [] => none

def readZone (text : List Char) : Option (Int × List Char) :=
  if (text.take 3).map Char.toUpper = ['U', 'T', 'C'] then some (0, text.drop 3)
  else readOffset text

/-- Reads a timestamp. The second 60 of a minute is a leap second. Both the date as it is written
and the date in UTC have to be in the calendar. -/
def read? (text : String) : Option Instant := do
  let (year, rest) ← readYear text.toList
  let (month, rest) ← readField 2 (← readMark '-' rest)
  let (day, rest) ← readField 2 (← readMark '-' rest)
  let rest ←
    match rest with
    | 't' :: rest | 'T' :: rest | ' ' :: rest => some rest
    | _ => none
  let (hour, rest) ← readField 2 rest
  let (minute, rest) ← readField 2 (← readMark ':' rest)
  let (second, rest) ← readField 2 (← readMark ':' rest)
  let (nanosecond, rest) ← readFraction rest
  let (offset, rest) ← readZone (trimStart rest)
  let date : Date := ⟨year, month, day⟩
  if (trimStart rest).isEmpty && date.isInRange && date.isValid && hour ≤ 23 && minute ≤ 59 &&
      second ≤ 60 && offset.natAbs < Instant.secondsPerDay then
    let (second, nanosecond) :=
      if second = 60 then (59, Instant.nanosecondsPerSecond + nanosecond)
      else (second, nanosecond)
    let time : Int := hour * 3600 + minute * 60 + second
    Instant.of? (date.toDays * Instant.secondsPerDay + time - offset) nanosecond
  else none

end Fleet.Timestamp
