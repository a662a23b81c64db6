import Fleet.CommandLine.Argument
import Fleet.Text.Basic

/-!
Reading command lines. Words are taken one after the other. The value of a parameter that stands
in a word of its own is only looked at when the next argument begins or the line ends, so a fault
found meanwhile comes first. What the command line does not give is taken from the environment.
-/

namespace Fleet.CommandLine

inductive Token where
  /-- Two dashes: no arguments follow. -/
  | escape
  /-- Two dashes and a name, perhaps with a value after an equals sign. -/
  | long (name : String) (value : Option String)
  /-- One dash and letters, of which the first one counts. -/
  | short (letter : Char)
  | word (text : String)
  deriving DecidableEq, Repr

namespace Token

def ofText (text : String) : Token :=
  match text.toList with
  | ['-', '-'] => .escape
  | '-' :: '-' :: rest =>
      match Text.splitOnce '=' rest with
      | some (name, value) => .long (String.ofList name) (some (String.ofList value))
      | none => .long (String.ofList rest) none
  | '-' :: letter :: _ => .short letter
  | _ => .word text

end Token

structure Progress where
  choices : Choices := {}
  given : List Argument := []
  /-- A parameter whose value has not been looked at, and the value, unless it is still to
  come. -/
  pending : Option (Parameter × Option String) := none

namespace Progress

def note (progress : Progress) (argument : Argument) : Except Refusal Progress :=
  if argument ∈ progress.given then .error .repeated
  else .ok { progress with given := argument :: progress.given }

def takeSwitch (progress : Progress) (switch : Switch) : Except Refusal Progress := do
  let progress ← progress.note (.switch switch)
  return { progress with choices := progress.choices.setSwitch true switch }

def takeValue (progress : Progress) (parameter : Parameter) (value : String) :
    Except Refusal Progress := do
  let progress ← progress.note (.parameter parameter)
  let choices ← progress.choices.setParameter value parameter
  return { progress with choices }

def settle (progress : Progress) : Except Refusal Progress :=
  match progress.pending with
  | none => .ok progress
  | some (_, none) => .error .invalidValue
  | some (parameter, some value) => { progress with pending := none }.takeValue parameter value

def awaiting (progress : Progress) : Option Parameter :=
  match progress.pending with
  | some (parameter, none) => some parameter
  | _ => none

def takeNamed (progress : Progress) (name : String) (value : Option String) :
    Except Refusal Progress :=
  match Argument.named? name, value with
  | some (.switch _), some _ => .error .unexpectedValue
  | some (.switch switch), none => do (← progress.settle).takeSwitch switch
  | some (.parameter parameter), some value => do (← progress.settle).takeValue parameter value
  | some (.parameter parameter), none => do
      let progress ← progress.settle
      return { progress with pending := some (parameter, none) }
  | none, value =>
      if name == "help" || name == "version" then
        match value with
        | some _ => .error .unexpectedValue
        | none => do
            let _ ← progress.settle
            .error (if name == "help" then .help else .version)
      else .error .unknownArgument

def takeLetter (progress : Progress) (letter : Char) : Except Refusal Progress :=
  if letter == 'h' || letter == 'V' then do
    let _ ← progress.settle
    .error (if letter == 'h' then .help else .version)
  else .error .unknownArgument

end Progress

def commandNames : List String := ["controller", "help"]

/-- Reads what follows the request for help: the command that help is wanted on. -/
def readHelp : List String → Refusal
  | [] => .help
  | [topic] => if commandNames.contains topic then .help else .unknownCommand
  | _ => .unknownCommand

/-- Reads what follows two dashes. Nothing may. -/
def readEscaped : List String → Except Refusal Unit
  | [] => .ok ()
  | word :: _ =>
      if commandNames.contains word then .error .unknownArgument else .error .unknownCommand

def readController : List String → Except Refusal Unit
  | [] => .ok ()
  | word :: rest =>
      match Token.ofText word with
      | .escape => if rest.isEmpty then .ok () else .error .unknownArgument
      | .long "help" none => .error .help
      | .long "help" (some _) => .error .unexpectedValue
      | .short 'h' => .error .help
      | _ => .error .unknownArgument

def readWords (progress : Progress) : List String → Except Refusal Progress
  | [] => .ok progress
  | word :: rest =>
      match progress.awaiting, Token.ofText word with
      | _, .escape => do
          readEscaped rest
          return progress
      | _, .long name value => do readWords (← progress.takeNamed name value) rest
      | _, .short letter => do readWords (← progress.takeLetter letter) rest
      | some parameter, .word value =>
          readWords { progress with pending := some (parameter, some value) } rest
      | none, .word "help" => .error (readHelp rest)
      | none, .word "controller" => do
          readController rest
          let choices := { progress.choices with command := some .controller }
          return { progress with choices }
      | none, .word _ => .error .unknownCommand

abbrev Environment := String → Option String

def takeVariable (choices : Choices) (argument : Argument) (value : String) :
    Except Refusal Choices :=
  match argument with
  | .switch switch => do return choices.setSwitch (← Choices.readSwitch value) switch
  | .parameter parameter => choices.setParameter value parameter

def readEnvironment (environment : Environment) (given : List Argument) (choices : Choices) :
    Except Refusal Choices :=
  Argument.all.foldlM
    (fun choices argument =>
      if argument ∈ given then .ok choices
      else
        match argument.environmentName.bind environment with
        | some value => takeVariable choices argument value
        | none => .ok choices)
    choices

def read (environment : Environment) (words : List String) : Except Refusal Choices := do
  let progress ← readWords {} words
  let progress ← progress.settle
  readEnvironment environment progress.given progress.choices

end Fleet.CommandLine
