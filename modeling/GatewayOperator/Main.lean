import GatewayOperator.Definition.Kinds
import GatewayOperator.Json.Yaml
import GatewayOperator.Settings

/-!
# The command line

The command checks the flags of the operator and prints the definitions of its own kinds, one YAML
document each, ready to be installed in a cluster. A command line that gives no settings is refused with
status 2.
-/

set_option autoImplicit false

namespace GatewayOperator.CommandLine

/-- The definitions of the operator's kinds, as YAML documents. -/
def manifest : String :=
  String.intercalate "---\n" (Definition.kinds.map fun kind => Json.Yaml.document kind.encode)

/-- The line of a flag in the list of flags. -/
def flagLine (flag : Settings.Flag) : String :=
  "      --" ++ flag.text ++ " [env: " ++ flag.environmentName ++ "] [default: " ++ flag.fallback ++
    "]\n"

/-- The list of flags. -/
def usage : String := "Options:\n" ++ String.join (Settings.Flag.all.map flagLine)

/-- Why a command line is refused. -/
def refusal : Settings.UsageFault → String
  | .unknownArgument => "error: unexpected argument"
  | .missingValue => "error: a value is required"
  | .badValue => "error: invalid value"
  | .repeatedFlag => "error: a flag cannot be used multiple times"
  | .needlessValue => "error: unexpected value"
  | .help => usage

end GatewayOperator.CommandLine

open GatewayOperator in
/-- Check the flags and print the definitions. -/
def main (arguments : List String) : IO UInt32 := do
  let environment ← Settings.Flag.all.mapM fun flag =>
    return (flag.environmentName, ← IO.getEnv flag.environmentName)
  match Settings.read arguments fun name => (environment.lookup name).join with
  | .ok _ =>
    IO.print CommandLine.manifest
    return 0
  | .error .help =>
    IO.print CommandLine.usage
    return 0
  | .error fault =>
    IO.eprintln (CommandLine.refusal fault)
    return 2
