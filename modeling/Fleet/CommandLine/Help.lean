import Fleet.CommandLine.Parser

namespace Fleet.CommandLine

def program : String := "cloudengine"

def versionText : String := program ++ " 0.1.0"

namespace Argument

def description : Argument → String
  | .switch .definitions => "Generate CRD manifests and exit"
  | .switch .logJson => "Emit logs as JSON"
  | .switch .disableMetaCluster => "Do not register the cluster the operator runs in"
  | .parameter .kubeconfig => "Path to a kubeconfig; in-cluster config is used when unset"
  | .parameter .heartbeatTimeout => "Heartbeat timeout in seconds for Clusters that set none"
  | .parameter .heartbeatInterval =>
      "Heartbeat interval in seconds advertised to cluster agents"
  | .parameter .requeueSoon => "Delay in seconds before a pass that asked to be retried soon"
  | .parameter .errorBackoff => "Delay in seconds before a failed pass is retried"
  | .parameter .metaClusterName => "Name of the meta cluster"
  | .parameter .metaClusterNamespace => "Namespace of the meta cluster"
  | .parameter .metaClusterTimeout => "Heartbeat timeout in seconds of the meta cluster"
  | .parameter .heartbeatAddress => "Listen address of the heartbeat endpoint"
  | .parameter .dataHostPath => "Host directory backing experiment data volumes"
  | .parameter .dataCapacity => "Capacity requested for each data volume"
  | .parameter .dataMountPath => "Mount path of the data volume inside experiment containers"

def usage : Argument → String
  | .switch choice => "--" ++ name (.switch choice)
  | .parameter choice => "--" ++ name (.parameter choice) ++ " <VALUE>"

def helpLines (argument : Argument) : List String :=
  let source :=
    match argument.environmentName with
    | some variable_ => " [env: " ++ variable_ ++ "]"
    | none => ""
  ["      " ++ argument.usage, "          " ++ argument.description ++ source]

end Argument

def helpText : String :=
  let lines :=
    ["cloudengine - operator for remote clusters and hosted experiments", "",
      "Usage: " ++ program ++ " [OPTIONS] [COMMAND]", "", "Commands:",
      "  controller  Run the Cluster and Experiment controllers (default mode)",
      "  help        Print this message or the help of the given subcommand(s)", "", "Options:"] ++
    Argument.all.flatMap Argument.helpLines ++
    ["  -h, --help", "          Print help", "  -V, --version", "          Print version"]
  lines.foldl (fun text line => text ++ line ++ "\n") ""

namespace Refusal

/-- Whether a line is refused because something else was asked for. -/
def isAnswer : Refusal → Bool
  | .help | .version => true
  | _ => false

def message : Refusal → String
  | .help => helpText
  | .version => versionText ++ "\n"
  | .unknownArgument => "error: unexpected argument found\n"
  | .unknownCommand => "error: unrecognized subcommand\n"
  | .invalidValue => "error: a value is missing, empty or not allowed\n"
  | .unreadableValue => "error: a value is no number or address\n"
  | .unexpectedValue => "error: unexpected value for an argument that takes none\n"
  | .repeated => "error: an argument cannot be used multiple times\n"

end Refusal

end Fleet.CommandLine
