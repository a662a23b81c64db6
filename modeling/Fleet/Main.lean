import Fleet.CommandLine.Help
import Fleet.Definition.Manifest
import Fleet.Report.Forms
import Fleet.Yaml.Writer

namespace Fleet.Main

def manifests : String :=
  "---\n".intercalate (Definition.all.map fun definition => Yaml.write definition.manifest)

/-- What to write, where an error belongs on the error stream, and the code to exit with. -/
inductive Reply where
  | output (text : String)
  | failure (text : String) (code : UInt32)

def reply (environment : CommandLine.Environment) (words : List String) : Reply :=
  match CommandLine.read environment words with
  | .error refusal =>
      if refusal.isAnswer then .output refusal.message else .failure refusal.message 2
  | .ok choices =>
      if choices.definitions then .output (manifests ++ "\n")
      else
        match choices.operatorSettings with
        | .ok settings => .output (settings.toForm.write ++ "\n")
        | .error failure => .failure ("Error: " ++ failure.message ++ "\n") 1

/-- The variables that the command line knows, with their values. -/
def readVariables : IO (List (String × String)) := do
  let mut found := []
  for argument in CommandLine.Argument.all do
    if let some name := argument.environmentName then
      if let some value ← IO.getEnv name then
        found := (name, value) :: found
  return found

end Fleet.Main

def main (words : List String) : IO UInt32 := do
  let found ← Fleet.Main.readVariables
  match Fleet.Main.reply (fun name => found.lookup name) words with
  | .output text =>
      (← IO.getStdout).putStr text
      return 0
  | .failure text code =>
      (← IO.getStderr).putStr text
      return code
