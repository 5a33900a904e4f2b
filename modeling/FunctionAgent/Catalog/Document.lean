import FunctionAgent.Catalog.Entry
import FunctionAgent.Failure
/-!
# Catalog documents

A catalog is one object that maps function identifiers, in any accepted spelling, to entries. All of
it is read before anything is selected from it. Of several entries for one identifier the last
counts, and the functions are given in the order of their identifiers. The minimum mode then selects
among them.
-/

set_option autoImplicit false

namespace FunctionAgent.Catalog

open FunctionAgent.Json (Fault Read)

/-- One item of a catalog: its closing bracket, or an identifier with its entry. -/
def itemStep (isFirst : Bool) (cs : List Char) :
    Except (Fault Complaint) (Option (Uuid × Description) × List Char) :=
  match Json.next (.full modeDepth) .object isFirst cs with
  | .error fault => .error (fault.map .json)
  | .ok (.closed rest) => .ok (none, rest)
  | .ok (.item rest) =>
    match Json.key rest with
    | .error fault => .error (fault.map .json)
    | .ok (key, rest) =>
      match Uuid.ofChars? key with
      | none => .error ((Halt.floating .identifier rest).settle .object)
      | some id =>
        match Json.colon rest with
        | .error fault => .error (fault.map .json)
        | .ok rest =>
          match readEntry rest with
          | .error fault => .error fault
          | .ok (description, rest) => .ok (some (id, description), rest)

theorem length_itemStep {isFirst : Bool} {cs rest : List Char} {item : Uuid × Description}
    (h : itemStep isFirst cs = .ok (some item, rest)) : rest.length < cs.length := by
  unfold itemStep at h
  split at h
  · cases h
  · cases h
  · rename_i hn
    have := Json.length_item hn
    split at h
    · cases h
    · rename_i hk
      have := Json.length_key hk
      split at h
      · cases h
      · split at h
        · cases h
        · rename_i hc
          have := Json.length_colon hc
          split at h
          · cases h
          · rename_i he
            have := length_readEntry he
            cases h; omega

/-- Reads the items of a catalog up to its closing bracket; `seen` holds those before, the last one
first. -/
def readItemsFrom (seen : List (Uuid × Description)) (isFirst : Bool) (cs : List Char) :
    Read Complaint (List (Uuid × Description)) :=
  match h : itemStep isFirst cs with
  | .error fault => .error fault
  | .ok (none, rest) => .ok (seen.reverse, rest)
  | .ok (some item, rest) =>
    have := length_itemStep h
    readItemsFrom (item :: seen) false rest
termination_by cs.length

/-- Reads a catalog, behind which only blanks may stand. -/
def document (cs : List Char) : Except (Fault Complaint) (List (Uuid × Description)) :=
  match Json.skipBlanks cs with
  | '\x7b' :: rest =>
    match readItemsFrom [] true rest with
    | .error fault => .error fault
    | .ok (items, rest) =>
      match Json.skipBlanks rest with
      | [] => .ok items
      | rest => .error (.next (.json .trailingCharacters) rest)
  | cs => .error ((Json.unexpected "a map" cs).map .json)

/-- The wording of a fault in a text. -/
def faultMessage (text : List Char) (fault : Fault Complaint) : String :=
  let (line, column) := fault.place text
  fault.what.message ++ " at line " ++ toString line ++ " column " ++ toString column

/-- Every function of a catalog, or the fault that the whole catalog is refused for. -/
def roster (text : String) : Except SessionFailure Roster :=
  match document text.toList with
  | .error fault => .error (.catalog (faultMessage text.toList fault))
  | .ok items => .ok (Roster.ofList (items.map fun (id, description) => .new id description))

/-- Whether a function is stable enough to be offered. -/
def isSelected (minimum : Mode) (f : Function) : Bool := decide (minimum ≤ f.description.mode)

/-- The fields that name a function in an event. -/
def eventFields (f : Function) : List (String × String) :=
  [("function_id", f.id.render), ("name", f.description.name), ("version", f.description.version)]

/-- What is reported about a function when it is selected or passed by. -/
def selectionEvent (minimum : Mode) (f : Function) : Event :=
  if isSelected minimum f then ⟨.catalog, .debug, "Found function", eventFields f⟩
  else ⟨.catalog, .debug, "Skipping function below minimum mode",
    eventFields f ++ [("mode", f.description.mode.name)]⟩

/-- The functions of a catalog that are stable enough. -/
def parse (text : String) (minimum : Mode) : Except SessionFailure Roster :=
  (roster text).map fun functions => functions.filter (isSelected minimum)

/-- What is reported while a catalog is parsed. -/
def parseEvents (text : String) (minimum : Mode) : List Event :=
  match roster text with
  | .error _ => []
  | .ok functions => functions.map (selectionEvent minimum)

/-- Why a file could not be read. -/
inductive FileFault where
  | notFound
  | isDirectory
  | notText
  deriving DecidableEq, Repr

/-- The wording of a file fault. -/
def FileFault.message : FileFault → String
  | .notFound => "No such file or directory (os error 2)"
  | .isDirectory => "Is a directory (os error 21)"
  | .notText => "stream did not contain valid UTF-8"

/-- What was found at a path. -/
abbrev FileContent := Except FileFault String

/-- The functions of a catalog file. -/
def load (path : String) (content : FileContent) (minimum : Mode) :
    Except SessionFailure Roster :=
  match content with
  | .error fault => .error (.catalog (path ++ ": " ++ fault.message))
  | .ok text => parse text minimum

/-- What is reported while a catalog file is loaded. -/
def loadEvents (path : String) (content : FileContent) (minimum : Mode) : List Event :=
  let start : Event :=
    ⟨.catalog, .debug, "Loading function catalog", [("path", path), ("minimum", minimum.name)]⟩
  match content with
  | .error _ => [start]
  | .ok text =>
    start :: parseEvents text minimum ++
      match parse text minimum with
      | .error _ => []
      | .ok functions =>
        [⟨.catalog, .info, "Loaded functions",
          [("count", toString functions.length), ("minimum", minimum.name)]⟩]

end FunctionAgent.Catalog
