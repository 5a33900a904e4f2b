import FunctionAgent.Agent.Settings
import FunctionAgent.Broker.Handshake
import FunctionAgent.Catalog.Document
import FunctionAgent.CommandLine.Help
import FunctionAgent.Log.Filter
/-!
# The program

The program reads its settings from the arguments, the variables and the settings file, sets up its
log, and then either asks the broker for a function signature or offers the functions of a catalog.
What it does up to the point where the agent is driven is a function of its surroundings: the
arguments, the variables, the files, and the broker.
-/

set_option autoImplicit false

namespace FunctionAgent.CommandLine

/-- What the program finds around it. -/
structure Surroundings where
  args : List String
  environment : Environment
  /-- The text of the settings file, if there is one. -/
  settingsFile : Option String
  /-- What is found at a path. -/
  file : String → Catalog.FileContent
  broker : Broker

/-- A failure with those behind it, the outermost first. -/
structure Report where
  top : String
  causes : List String
  deriving DecidableEq, Repr

namespace Report

/-- A text whose further lines are indented. -/
def indented (width : Nat) (s : String) : String :=
  String.intercalate ("\n" ++ String.ofList (List.replicate width ' ')) (s.splitOn "\n")

/-- The causes, numbered if there is more than one. -/
def causeLines : List String → List String
  | [] => []
  | [cause] => ["    " ++ indented 4 cause]
  | causes => causes.zipIdx.map fun (cause, i) => "    " ++ toString i ++ ": " ++ indented 7 cause

/-- A report as it is printed. -/
def render (r : Report) : String :=
  "Error: " ++ r.top
    ++ if r.causes.isEmpty then ""
      else "\n\nCaused by:\n" ++ String.intercalate "\n" (causeLines r.causes)

end Report

/-- How far the program came. -/
inductive Ending where
  /-- It printed something and was done. -/
  | done (lines : List String)
  /-- The arguments were refused. -/
  | misused (fault : UsageFault)
  | failed (report : Report)
  /-- A session is open, and the agent is to be driven. -/
  | connected (session : Session) (settings : Agent.Settings) (functions : Roster)

/-- What the program did. -/
structure Outcome where
  ending : Ending
  /-- The events that its log shows. -/
  events : List Event
  /-- The requests that the broker saw. -/
  requests : List BrokerRequest

/-- The account that the flags describe. -/
def account (r : Request) : Except Report Account :=
  match r.value? .clientId, r.value? .clientSecret with
  | none, _ => .error ⟨Flag.clientId.envName ++ " is not set", []⟩
  | some _, none => .error ⟨Flag.clientSecret.envName ++ " is not set", []⟩
  | some id, some secret =>
    let base := Account.new id secret
    .ok { base with
      host := (r.value? .host).getD base.host
      clusterId := (r.value? .cluster).getD base.clusterId
      insecure := (r.value? .insecure).isSome }

/-- Asks for a function signature. -/
def runSignature (a : Account) (b : Broker) : Outcome :=
  let (requests, outcome) := Handshake.signature a b
  let ending : Ending := match outcome with
    | .ok s => .done ["id:        " ++ s.id, "signature: " ++ s.signature]
    | .error failure => .failed ⟨"could not generate a function signature", [failure.message]⟩
  ⟨ending, [], requests⟩

/-- The settings of the agent where the flags allow some number of attempts. -/
def agentSettings (attempts : UInt32) : Agent.Settings :=
  { Agent.Settings.standard with maxAttempts := attempts }

/-- Opens the first session. A broker that refuses one attempt refuses all of them alike. -/
def connect (a : Account) (attempts : UInt32) (functions : Roster) (b : Broker) : Outcome :=
  let (requests, outcome) := Handshake.connect a b
  match outcome with
  | .ok session => ⟨.connected session (agentSettings attempts) functions, [], requests⟩
  | .error failure =>
    ⟨.failed ⟨"could not connect to the function broker", [failure.message]⟩, [],
      if requests.isEmpty then []
      else (List.replicate (max attempts.toNat 1) requests).flatten⟩

/-- Offers the functions of a catalog. -/
def runOffer (s : Surroundings) (a : Account) (value? : Flag → Option String) : Outcome :=
  match value? .catalog, value? .executorHost with
  | none, _ => ⟨.failed ⟨Flag.catalog.envName ++ " is not set", []⟩, [], []⟩
  | some _, none => ⟨.failed ⟨Flag.executorHost.envName ++ " is not set", []⟩, [], []⟩
  | some path, some _ =>
    let (minimum, warnings) := Mode.minimum (value? .minimumMode)
    let events := warnings ++ Catalog.loadEvents path (s.file path) minimum
    match Catalog.load path (s.file path) minimum with
    | .error failure => ⟨.failed ⟨"loading " ++ path, [failure.message]⟩, events, []⟩
    | .ok functions =>
      let attempts := ((value? .maxAttempts).bind fun v => (count v).toOption).getD 0
      let outcome := connect a attempts functions s.broker
      let warning : List Event :=
        if functions.isEmpty then [⟨.program, .warn, "No functions to offer", []⟩] else []
      { outcome with
        events := events ++ warning ++ [⟨.program, .info, "Connecting to function broker",
          [("endpoint", a.endpoint), ("cluster_id", a.clusterId)]⟩] ++ outcome.events }

/-- Does what was asked for. Without a command the settings of the offer come from the variables
alone. -/
def runRequest (s : Surroundings) (e : Environment) (r : Request) : Outcome :=
  match account r with
  | .error report => ⟨.failed report, [], []⟩
  | .ok a =>
    match r.command with
    | some .signature => runSignature a s.broker
    | some .offer => runOffer s a r.value?
    | none =>
      match offeringVariables e with
      | .ok values => runOffer s a fun f => values.lookup f.name <|> f.standard
      | .error (.fault fault) =>
        ⟨.failed ⟨"invalid run settings in the environment",
          fault.report :: fault.reason?.toList⟩, [], []⟩
      | .error (.help topic) => ⟨.done (topic.lines e), [], []⟩

/-- The variable that says which events the log shows. -/
def filterVariable : String := "RUST_LOG"

/-- Runs the program up to the point where the agent is driven. -/
def run (s : Surroundings) : Outcome :=
  let e := match s.settingsFile with
    | some text => s.environment.addFile text
    | none => s.environment
  match read e s.args with
  | .error (.fault fault) => ⟨.misused fault, [], []⟩
  | .error (.help topic) => ⟨.done (topic.lines e), [], []⟩
  | .ok request =>
    let (level, choice) := Log.choose (request.value? .logLevel)
    let filter := (Log.Filter.parse ((e.get? filterVariable).getD "")).add ⟨"", some level⟩
    let outcome := runRequest s e request
    { outcome with events := (choice ++ outcome.events).filter filter.shows }

namespace Ending

/-- The exit status. -/
def status : Ending → Nat
  | .done _ | .connected _ _ _ => 0
  | .failed _ => 1
  | .misused _ => 2

/-- What is printed. -/
def printed : Ending → List String
  | .done lines => lines
  | _ => []

/-- What is printed about a failure. -/
def complaint : Ending → Option String
  | .done _ | .connected _ _ _ => none
  | .failed report => some report.render
  | .misused fault => some fault.report

end Ending

end FunctionAgent.CommandLine
