import FunctionAgent.Text.Blank
import FunctionAgent.Text.Numeral
/-!
# Log events

What the agent reports while it works is a list of events: the part of the program that speaks, a
level, a message, and named fields whose values are texts. The level below which events are dropped
is chosen by the operator, by name or by number.
-/

set_option autoImplicit false

namespace FunctionAgent

open FunctionAgent.Text

/-- How urgent an event is. -/
inductive Level where
  | trace
  | debug
  | info
  | warn
  | error
  deriving DecidableEq, Repr

namespace Level

/-- Every level, from the chattiest on. -/
def all : List Level := [.trace, .debug, .info, .warn, .error]

/-- The name of a level. -/
def name : Level → String
  | .trace => "TRACE"
  | .debug => "DEBUG"
  | .info => "INFO"
  | .warn => "WARN"
  | .error => "ERROR"

/-- The number of a level: the chattier, the higher. -/
def number : Level → Nat
  | .error => 1
  | .warn => 2
  | .info => 3
  | .debug => 4
  | .trace => 5

/-- The level used when none, or none that is valid, was chosen. -/
def fallback : Level := .info

end Level

/-- The letters of a text with ASCII capitals made small. -/
def Text.foldCase (s : String) : List Char := s.toList.map Char.toLower

/-- Whether two texts differ at most in the case of ASCII letters. -/
def Text.sameLetters (s t : String) : Bool := foldCase s == foldCase t

/-- Reads a level: its number, or its name in any case, between blanks. -/
def Level.parse? (raw : String) : Option Level :=
  let s := trim raw
  match natural word64Max s with
  | .ok n =>
    match Level.all.find? fun l => l.number == n with
    | some l => some l
    | none => Level.all.find? fun l => sameLetters l.name s
  | .error _ => Level.all.find? fun l => sameLetters l.name s

/-- The part of the program that reports an event. -/
inductive Speaker where
  /-- The dispatch loop. -/
  | agent
  /-- The catalog reader. -/
  | catalog
  /-- The set-up of logging itself. -/
  | logging
  /-- The command line. -/
  | program
  deriving DecidableEq, Repr

/-- The name under which a part of the program logs. -/
def Speaker.label : Speaker → String
  | .agent => "function_launcher::launcher"
  | .catalog => "function_launcher::catalog"
  | .logging => "launcher_log"
  | .program => "function_launcher"

/-- One reported event. -/
structure Event where
  speaker : Speaker
  level : Level
  message : String
  fields : List (String × String)
  deriving DecidableEq, Repr

namespace Event

/-- An event as one line: level, speaker, message, then the fields as `name=value`. -/
def line (e : Event) : String :=
  e.level.name ++ " " ++ e.speaker.label ++ ": " ++ e.message
    ++ String.join (e.fields.map fun (name, value) => " " ++ name ++ "=" ++ value)

end Event

namespace Log

/-- The level that a chosen text stands for, and what is reported about the choice: a text that is
no level falls back, with a warning. -/
def choose : Option String → Level × List Event
  | none => (.fallback, [])
  | some raw =>
    match Level.parse? raw with
    | some level => (level, [⟨.logging, .debug, "Log level set", [("level", level.name)]⟩])
    | none =>
      (.fallback, [⟨.logging, .warn, "Invalid log level, reverting to default",
        [("configured", raw), ("fallback", Level.fallback.name)]⟩])

end Log

end FunctionAgent
