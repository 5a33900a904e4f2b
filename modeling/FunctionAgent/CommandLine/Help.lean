import FunctionAgent.CommandLine.Arguments
/-!
# Help

The help of the program lists its commands and the flags that are common to them, the help of a
command lists its own flags among the common ones. Each flag is shown with its variable, the value
that the variable has, and its own value, if any.
-/

set_option autoImplicit false

namespace FunctionAgent.CommandLine

/-- The name of the program. -/
def programName : String := "function-launcher"

/-- What the program does, in one line. -/
def programAbout : String :=
  "Offers catalog functions to the function broker and starts them on request"

/-- What the command that gives help does, in one line. -/
def helpAbout : String := "Print this message or the help of the given subcommand(s)"

/-- What a flag is for, on two lines. -/
def Flag.help (e : Environment) (f : Flag) : List String :=
  let shown := if f.isSecret then "" else "=" ++ (e.get? f.envName).getD ""
  let standard := match f.standard with
    | some value => " [default: " ++ value ++ "]"
    | none => ""
  ["      " ++ f.render,
    "          " ++ f.about ++ " [env: " ++ f.envName ++ shown ++ "]" ++ standard]

/-- The list of some flags, with the flag for help at its end. -/
def flagHelp (e : Environment) (flags : List Flag) : List String :=
  ["Options:"] ++ flags.flatMap (Flag.help e) ++ ["  -h, --help", "          Print help"]

/-- Two lists merged in turns; at each turn the name that comes first goes first. -/
def interleaved : List Flag → List Flag → List Flag
  | [], gs => gs
  | fs, [] => fs
  | f :: fs, g :: gs =>
    if f.name < g.name then f :: g :: interleaved fs gs else g :: f :: interleaved fs gs

/-- The commands with what they do. -/
def commandHelp : List String :=
  let rows := Command.all.map (fun c => (c.name, c.about)) ++ [(Place.helpWord, helpAbout)]
  let width := (rows.map fun (name, _) => name.length).foldl max 0
  "Commands:" :: rows.map fun (name, about) =>
    "  " ++ name ++ String.ofList (List.replicate (width - name.length + 2) ' ') ++ about

/-- The help about a topic, line by line. -/
def Topic.lines (e : Environment) : Topic → List String
  | .program =>
    [programAbout, "", "Usage: " ++ programName ++ " [OPTIONS] [COMMAND]", ""]
      ++ commandHelp ++ [""] ++ flagHelp e Flag.common
  | .command c =>
    [c.about, "", "Usage: " ++ programName ++ " " ++ c.name ++ " [OPTIONS]", ""]
      ++ flagHelp e (interleaved c.ownFlags Flag.common)
  | .help =>
    [helpAbout, "", "Usage: " ++ programName ++ " " ++ Place.helpWord ++ " [COMMAND]...", "",
      "Arguments:", "  [COMMAND]...  Print help for the subcommand(s)"]

end FunctionAgent.CommandLine
