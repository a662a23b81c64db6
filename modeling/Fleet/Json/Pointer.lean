import Fleet.Json.Basic
import Fleet.Text.Basic

namespace Fleet.Json

def unescapeName : List Char → List Char
  | '~' :: '1' :: rest => '/' :: unescapeName rest
  | '~' :: '0' :: rest => '~' :: unescapeName rest
  | c :: rest => c :: unescapeName rest
  | [] => []

/-- The position that a token stands for: decimal digits without leading zeros. -/
def position? (token : List Char) : Option Nat :=
  match token with
  | [] => none
  | '0' :: _ :: _ => none
  | digits => if digits.all Char.isDigit then (String.ofList digits).toNat? else none

def stepTo (token : List Char) : Json → Option Json
  | .array items => (position? token).bind (items[·]?)
  | value => value.member? (String.ofList token)

/-- The value that a pointer leads to. The empty pointer leads to the whole value. -/
def pointer? (path : String) (value : Json) : Option Json :=
  match path.toList with
  | [] => some value
  | '/' :: rest =>
      ((Text.splitAt '/' rest).map unescapeName).foldlM (fun value token => stepTo token value)
        value
  | _ => none

end Fleet.Json
