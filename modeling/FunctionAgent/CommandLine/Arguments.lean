import FunctionAgent.CommandLine.Flag
import FunctionAgent.Environment
/-!
# Arguments

The arguments are read from the left: flags with their values, then at most one command with its
flags. A value may follow its flag or be joined to it by an equals sign, and does not begin with a
hyphen in the first case. The first fault counts. A value is looked at only when the next flag or
the end is reached, so an argument that is not understood comes before a value that is refused.

A flag that is not given takes the value of its variable, and without that its own. A common flag
may stand before or behind the command; the later one counts.
-/

set_option autoImplicit false

namespace FunctionAgent.CommandLine

/-- Values by the names of their flags. -/
abbrev Values := List (String × String)

/-- What help can be asked about. -/
inductive Topic where
  | program
  | command (command : Command)
  /-- The command that gives help. -/
  | help
  deriving DecidableEq, Repr

/-- Why the reading of arguments ends early. -/
inductive Halt where
  | fault (fault : UsageFault)
  | help (topic : Topic)
  deriving DecidableEq, Repr

/-- A flag that was read last, with its value if that was read as well. -/
abbrev Pending := Option (Flag × Option String)

/-- Takes a value for a flag. -/
def take (given : Values) (f : Flag) (value : String) : Except Halt Values :=
  if (given.lookup f.name).isSome then .error (.fault (.repeated f))
  else
    match f.refusal? value with
    | some fault => .error (.fault fault)
    | none => .ok (given ++ [(f.name, value)])

/-- Takes what is pending. -/
def settle (given : Values) : Pending → Except Halt Values
  | none => .ok given
  | some (f, none) => .error (.fault (.missingValue f))
  | some (f, some value) => take given f value

/-- An argument by its shape. -/
inductive Shape where
  /-- Two hyphens alone: no flags follow. -/
  | escape
  | long (name : String) (value : Option String)
  | short (letter : Char)
  | word
  deriving DecidableEq, Repr

/-- The shape of an argument. -/
def shape (arg : String) : Shape :=
  match arg.toList with
  | ['-', '-'] => .escape
  | '-' :: '-' :: rest =>
    match rest.span (· != '=') with
    | (name, _ :: value) => .long (String.ofList name) (some (String.ofList value))
    | (name, []) => .long (String.ofList name) none
  | '-' :: letter :: _ => .short letter
  | _ => .word

/-- A place in the arguments: in front of any command, or behind one. -/
structure Place where
  command : Option Command
  deriving DecidableEq, Repr

namespace Place

/-- What help that is asked for here is about. -/
def topic (p : Place) : Topic := (p.command.map Topic.command).getD .program

/-- The flags that may be given here. -/
def flags (p : Place) : List Flag := ((p.command.map Command.ownFlags).getD []) ++ Flag.common

/-- The fault of a word that is not understood here. -/
def stray (p : Place) (word : String) : UsageFault :=
  match p.command with
  | none => .unrecognizedCommand word
  | some _ => .unexpectedArgument word

/-- The word that asks for help about a command. -/
def helpWord : String := "help"

/-- What reading up to a command or to the end gives: the values that were taken, what is pending
there, and the command with what follows. -/
structure Section where
  given : Values
  pending : Pending
  next : Option (Command × List String)

/-- The topic that a word names. -/
def topic? (word : String) : Option Topic :=
  if word = helpWord then some .help else (Command.ofName? word).map Topic.command

/-- The help that the words behind the word for help ask for. -/
def helpAbout : List String → Halt
  | [] => .help .program
  | word :: rest =>
    match topic? word, rest with
    | some topic, [] => .help topic
    | some _, word :: _ => .fault (.unrecognizedCommand word)
    | none, _ => .fault (.unrecognizedCommand word)

/-- The fault of an argument behind an escape, where none is understood. -/
def strayBehindEscape (p : Place) (arg : String) : UsageFault :=
  if arg = helpWord ∨ (Command.ofName? arg).isSome then .unexpectedArgument arg else p.stray arg

/-- Reads the arguments at one place. -/
def read (p : Place) (given : Values) (pending : Pending) : List String → Except Halt Section
  | [] => .ok ⟨given, pending, none⟩
  | arg :: rest =>
    let awaited := pending.bind fun (f, value) => if value.isNone then some f else none
    match shape arg with
    | .escape =>
      match rest with
      | [] => .ok ⟨given, pending, none⟩
      | word :: _ => .error (.fault (p.strayBehindEscape word))
    | .long name value =>
      if name = helpWord then
        match value with
        | some value => .error (.fault (.unexpectedValue value "--help"))
        | none => (settle given pending).bind fun _ => .error (.help p.topic)
      else
        match p.flags.find? (·.name == name), value with
        | none, _ => .error (.fault (.unexpectedArgument ("--" ++ name)))
        | some f, none =>
          (settle given pending).bind fun given => read p given (some (f, none)) rest
        | some f, some value =>
          (settle given pending).bind fun given =>
            (take given f value).bind fun given => read p given none rest
    | .short letter =>
      if letter = 'h' then (settle given pending).bind fun _ => .error (.help p.topic)
      else .error (.fault (.unexpectedArgument ("-" ++ String.singleton letter)))
    | .word =>
      match awaited, p.command with
      | some f, _ => read p given (some (f, some arg)) rest
      | none, some _ => .error (.fault (p.stray arg))
      | none, none =>
        if arg = helpWord then .error (helpAbout rest)
        else
          match Command.ofName? arg with
          | some c => .ok ⟨given, pending, some (c, rest)⟩
          | none => .error (.fault (p.stray arg))

end Place

/-- Adds the values of variables for flags that are not given. -/
def addVariables (e : Environment) (given : Values) : List Flag → Except Halt Values
  | [] => .ok given
  | f :: rest =>
    match given.lookup f.name, e.get? f.envName with
    | none, some value => (take given f value).bind fun given => addVariables e given rest
    | _, _ => addVariables e given rest

/-- What the arguments ask for. -/
structure Request where
  command : Option Command
  /-- The values that flags or variables give, by the names of the flags. -/
  values : Values
  deriving DecidableEq, Repr

/-- The value that counts for a flag. -/
def Request.value? (r : Request) (f : Flag) : Option String := r.values.lookup f.name <|> f.standard

/-- The values that were given at one place, and those of variables. -/
def complete (e : Environment) (p : Place) (s : Place.Section) : Except Halt (Values × Values) :=
  (settle s.given s.pending).bind fun given =>
    (addVariables e given p.flags).map fun all => (given, all)

/-- Reads the arguments. What was given behind the command goes before what was given in front of
it, and both go before the variables. -/
def read (e : Environment) (args : List String) : Except Halt Request :=
  (Place.read ⟨none⟩ [] none args).bind fun front =>
    match front.next with
    | none => (complete e ⟨none⟩ front).map fun (_, all) => ⟨none, all⟩
    | some (c, rest) =>
      (Place.read ⟨some c⟩ [] none rest).bind fun back =>
        (complete e ⟨some c⟩ back).bind fun (given, all) =>
          (complete e ⟨none⟩ front).map fun (before, _) => ⟨some c, given ++ before ++ all⟩

/-- The values of the flags that say what is offered, from their variables alone. -/
def offeringVariables (e : Environment) : Except Halt Values := addVariables e [] Flag.offering

end FunctionAgent.CommandLine
