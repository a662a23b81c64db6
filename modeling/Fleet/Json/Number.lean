import Fleet.Json.Basic

namespace Fleet.Json

structure Numeral where
  negative : Bool
  whole : List Char
  fraction : Option (List Char) := none
  exponent : Option Int := none

namespace Numeral

/-- The digits of a number that count for its rounding, as an integer, and the power of ten that
it is multiplied by. -/
structure Significand where
  value : Nat := 0
  exponent : Int := 0
  /-- Whether a digit did not fit any more, so that the following ones do not count either. -/
  full : Bool := false

namespace Significand

/-- Takes one more digit, unless it does not fit. -/
def push? (significand : Significand) (digit : Char) : Option Nat :=
  let value := significand.value * 10 + (digit.toNat - '0'.toNat)
  if significand.full || UInt64.size ≤ value then none else some value

def pushWhole (significand : Significand) (digit : Char) : Significand :=
  match significand.push? digit with
  | some value => { significand with value }
  | none => { significand with exponent := significand.exponent + 1, full := true }

def pushFraction (significand : Significand) (digit : Char) : Significand :=
  match significand.push? digit with
  | some value => { significand with value, exponent := significand.exponent - 1 }
  | none => { significand with full := true }

end Significand

/-- The significand of a number. What is dropped before the point does not keep the first digits
after it from counting. -/
def significand (numeral : Numeral) : Significand :=
  let whole := numeral.whole.foldl Significand.pushWhole {}
  let all := (numeral.fraction.getD []).foldl Significand.pushFraction { whole with full := false }
  { all with exponent := all.exponent + numeral.exponent.getD 0 }

/-- The double nearest to a natural number, the even one of two equally near; without regard to
the largest double. -/
def nearestDouble (value : Nat) : Nat :=
  let shift := value.log2 - 52
  let quotient := value >>> shift
  let remainder := value - quotient <<< shift
  let half := (1 <<< shift) / 2
  let up := half < remainder || (remainder == half && 0 < half && quotient % 2 == 1)
  (if up then quotient + 1 else quotient) <<< shift

/-- The first number that is nearer to the power of two beyond the largest double than to the
largest double. -/
def tooLarge : Nat := (1 <<< 1024) - (1 <<< 970)

def largestExponent : Nat := 308

/-- Whether the number fits in a double. Small numbers always do. -/
def isInRange (numeral : Numeral) : Bool :=
  let significand := numeral.significand
  if significand.value == 0 || significand.exponent < 0 then true
  else if largestExponent < significand.exponent.toNat then false
  else
    let power := nearestDouble (Nat.pow 10 significand.exponent.toNat)
    nearestDouble significand.value * power < tooLarge

/-- The value of a number. Minus zero is no integer. -/
def exact (numeral : Numeral) : Json :=
  let sign : Int := if numeral.negative then -1 else 1
  match numeral.fraction, numeral.exponent with
  | none, none =>
      let value := Nat.ofDigitChars 10 numeral.whole 0
      if numeral.negative && value == 0 then .decimal 0 0 else .integer (sign * value)
  | fraction, exponent =>
      let digits := fraction.getD []
      .decimal (sign * Nat.ofDigitChars 10 (numeral.whole ++ digits) 0)
        (digits.length - exponent.getD 0)

def value? (numeral : Numeral) : Option Json :=
  if numeral.isInRange then some numeral.exact else none

def takeDigits (text : List Char) : List Char × List Char :=
  (text.takeWhile Char.isDigit, text.dropWhile Char.isDigit)

def readFraction (text : List Char) : Option (Option (List Char) × List Char) :=
  match text with
  | '.' :: rest =>
      let (digits, rest) := takeDigits rest
      if digits.isEmpty then none else some (some digits, rest)
  | _ => some (none, text)

def readExponent (text : List Char) : Option (Option Int × List Char) :=
  match text with
  | 'e' :: rest | 'E' :: rest =>
      let (negative, rest) :=
        match rest with
        | '-' :: rest => (true, rest)
        | '+' :: rest => (false, rest)
        | _ => (false, rest)
      let (digits, rest) := takeDigits rest
      if digits.isEmpty then none
      else
        let value : Int := Nat.ofDigitChars 10 digits 0
        some (some (if negative then -value else value), rest)
  | _ => some (none, text)

/-- Reads a number without its sign. A leading zero stands alone. -/
def read (negative : Bool) (text : List Char) : Option (Numeral × List Char) := do
  let (whole, rest) := takeDigits text
  if whole.isEmpty || (whole.length > 1 && whole.head? == some '0') then none
  let (fraction, rest) ← readFraction rest
  let (exponent, rest) ← readExponent rest
  return ({ negative, whole, fraction, exponent }, rest)

end Numeral

end Fleet.Json
