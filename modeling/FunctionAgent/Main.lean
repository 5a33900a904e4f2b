import FunctionAgent.CommandLine.Program
/-!
# Entry point

Collects what surrounds the program, runs it, and prints what it has to say. The program links no
transport, so no broker is in reach: the settings and the catalog are checked as always, and the
attempt to connect fails.
-/

set_option autoImplicit false

namespace FunctionAgent.CommandLine

/-- What is found at a path. What cannot be read counts as not there, directories apart. -/
def readFile (path : String) : IO Catalog.FileContent := do
  try
    let bytes ← IO.FS.readBinFile path
    return match String.fromUTF8? bytes with
      | some text => .ok text
      | none => .error .notText
  catch fault =>
    return match fault with
      | .inappropriateType _ _ _ => .error .isDirectory
      | _ => .error .notFound

/-- The variables that the program looks at. -/
def knownVariables : List String :=
  filterVariable :: (Flag.common ++ Flag.offering).map Flag.envName

/-- The values of the variables that are set. -/
def readVariables : IO Environment :=
  knownVariables.filterMapM fun name => do
    return (← IO.getEnv name).map fun value => (name, value)

/-- The path of the catalog that the arguments and the variables name, if any. -/
def catalogPath (s : Surroundings) : Option String :=
  let e := match s.settingsFile with
    | some text => s.environment.addFile text
    | none => s.environment
  match read e s.args with
  | .ok request => request.value? .catalog <|> e.get? Flag.catalog.envName
  | .error _ => none

end FunctionAgent.CommandLine

open FunctionAgent FunctionAgent.CommandLine in
def main (args : List String) : IO UInt32 := do
  let environment ← readVariables
  let settingsFile := (← readFile ".env").toOption
  let blind : Surroundings :=
    ⟨args, environment, settingsFile, fun _ => .error .notFound, .unreachable "transport error"⟩
  let content ← match catalogPath blind with
    | some path => readFile path
    | none => pure (.error .notFound)
  let outcome := run { blind with file := fun _ => content }
  for event in outcome.events do
    IO.println event.line
  for line in outcome.ending.printed do
    IO.println line
  if let some text := outcome.ending.complaint then
    IO.eprintln text
  return outcome.ending.status.toUInt32
