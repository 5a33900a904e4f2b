import FunctionAgent.Broker.Account
import FunctionAgent.Text.Numeral
/-!
# Flags and commands

Every flag has a long name, takes one value, and has a variable that speaks for it when it is not
given; some have a value of their own for the case that neither is there. Those that say where the
broker is and who the agent is there are common to all commands, those that say what is offered
belong to the command that offers it.
-/

set_option autoImplicit false

namespace FunctionAgent.CommandLine

open FunctionAgent.Text

/-- What the value of a flag may be. -/
inductive ValueKind where
  | text
  /-- The path of a file, which is not empty. -/
  | path
  /-- A number of 32 bits. -/
  | count
  deriving DecidableEq, Repr

/-- A flag. -/
structure Flag where
  name : String
  /-- The variable that speaks for the flag. -/
  envName : String
  kind : ValueKind
  /-- The value when neither the flag nor the variable is there. -/
  standard : Option String
  /-- Whether the value of the variable is never shown. -/
  isSecret : Bool
  about : String
  deriving DecidableEq, Repr

namespace Flag

def host : Flag :=
  ⟨"grpc-host", "OPENOBD_GRPC_HOST", .text, some Account.defaultHost, false,
    "Broker host, `host[:port]` or a full URL"⟩

def cluster : Flag :=
  ⟨"cluster-id", "OPENOBD_CLUSTER_ID", .text, some Account.defaultCluster, false,
    "Cluster to authenticate against"⟩

def clientId : Flag :=
  ⟨"client-id", "OPENOBD_PARTNER_CLIENT_ID", .text, none, false, "Partner client id"⟩

def clientSecret : Flag :=
  ⟨"client-secret", "OPENOBD_PARTNER_CLIENT_SECRET", .text, none, true, "Partner client secret"⟩

def insecure : Flag :=
  ⟨"dev-mode", "DEV_MODE", .text, none, false, "Any value switches to plaintext gRPC"⟩

def logLevel : Flag :=
  ⟨"log-level", "LOG_OUTPUT_LEVEL", .text, none, false,
    "Log level (TRACE, DEBUG, INFO, WARN, ERROR)"⟩

def catalog : Flag :=
  ⟨"functions-file", "FUNCTIONS_FILE_LOCATION", .path, none, false, "Function catalog JSON"⟩

def minimumMode : Flag :=
  ⟨"minimum-mode", "FUNCTIONS_MINIMUM_MODE", .text, none, false, "Skip functions below this mode"⟩

def executorHost : Flag :=
  ⟨"executor-host", "OPENOBD_EXECUTOR_HOST", .text, none, false,
    "Base URL of the execution backend"⟩

def maxAttempts : Flag :=
  ⟨"max-attempts", "LAUNCHER_MAX_ATTEMPTS", .count, some "10", false,
    "Connect and reconnect attempts; also the shutdown grace period in seconds"⟩

/-- The flags that are common to all commands. -/
def common : List Flag := [host, cluster, clientId, clientSecret, insecure, logLevel]

/-- The flags that say what is offered. -/
def offering : List Flag := [catalog, minimumMode, executorHost, maxAttempts]

/-- The placeholder of a flag's value: its name in capitals. -/
def placeholder (f : Flag) : String :=
  String.ofList (f.name.toList.map fun c => if c = '-' then '_' else c.toUpper)

/-- A flag with its placeholder. -/
def render (f : Flag) : String := "--" ++ f.name ++ " <" ++ f.placeholder ++ ">"

end Flag

/-- What the program is asked to do. -/
inductive Command where
  /-- Offers the functions of a catalog. -/
  | offer
  /-- Asks the broker for a fresh function identifier with its signature. -/
  | signature
  deriving DecidableEq, Repr

namespace Command

/-- Every command. -/
def all : List Command := [.offer, .signature]

/-- The name of a command. -/
def name : Command → String
  | .offer => "run"
  | .signature => "signature"

/-- What a command does, in one line. -/
def about : Command → String
  | .offer => "Serve the function catalog (default)"
  | .signature => "Request a new function id and signature from the broker"

/-- The command with a name. -/
def ofName? (s : String) : Option Command := all.find? fun c => c.name == s

/-- The flags of a command beside the common ones. -/
def ownFlags : Command → List Flag
  | .offer => Flag.offering
  | .signature => []

end Command

/-- Why a command line is refused. -/
inductive UsageFault where
  /-- A word stands where only a command may stand. -/
  | unrecognizedCommand (word : String)
  | unexpectedArgument (word : String)
  /-- A flag that takes no value was given one. -/
  | unexpectedValue (value flag : String)
  | missingValue (flag : Flag)
  | repeated (flag : Flag)
  | invalidValue (value : String) (flag : Flag) (reason : String)
  deriving DecidableEq, Repr

namespace UsageFault

/-- The wording of a usage fault. -/
def message : UsageFault → String
  | .unrecognizedCommand word => "unrecognized subcommand '" ++ word ++ "'"
  | .unexpectedArgument word => "unexpected argument '" ++ word ++ "' found"
  | .unexpectedValue value flag =>
    "unexpected value '" ++ value ++ "' for '" ++ flag ++ "' found; no more were expected"
  | .missingValue flag => "a value is required for '" ++ flag.render ++ "' but none was supplied"
  | .repeated flag => "the argument '" ++ flag.render ++ "' cannot be used multiple times"
  | .invalidValue value flag reason =>
    "invalid value '" ++ value ++ "' for '" ++ flag.render ++ "': " ++ reason

/-- The reason that lies behind a usage fault. -/
def reason? : UsageFault → Option String
  | .invalidValue _ _ reason => some reason
  | _ => none

/-- A usage fault as it is reported. -/
def report (f : UsageFault) : String :=
  "error: " ++ f.message ++ "\n\nFor more information, try '--help'.\n"

end UsageFault

/-- The largest number of 63 bits. -/
def word63Max : Nat := 9_223_372_036_854_775_807

/-- Reads a count of 32 bits. A number that is too large or negative is told from a text that is no
number. -/
def count (s : String) : Except String UInt32 :=
  match integer word63Max s with
  | .error fault => .error fault.message
  | .ok n =>
    if 0 ≤ n ∧ n ≤ word32Max then .ok (UInt32.ofNat n.toNat)
    else .error (toString n ++ " is not in 0..=" ++ toString word32Max)

/-- Why a value is refused by a flag, if it is. -/
def Flag.refusal? (f : Flag) (value : String) : Option UsageFault :=
  match f.kind with
  | .text => none
  | .path => if value.isEmpty then some (.missingValue f) else none
  | .count =>
    match count value with
    | .ok _ => none
    | .error reason => some (.invalidValue value f reason)

end FunctionAgent.CommandLine
