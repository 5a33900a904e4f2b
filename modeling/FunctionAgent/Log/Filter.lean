import FunctionAgent.Log
/-!
# Log filters

A filter says for each part of the program which events are shown. It is written as directives
between commas: a level for everything, or the beginning of a part's name with a level for that
part. The directive with the longest name decides. A level that the operator chose for everything
replaces one that the filter names for everything.
-/

set_option autoImplicit false

namespace FunctionAgent.Log

open FunctionAgent.Text

/-- The least urgent events that are shown; `none` shows nothing. -/
abbrev Threshold := Option Level

/-- Reads a threshold: a level, or the word or number for none. -/
def threshold? (s : String) : Option Threshold :=
  if s = "" then some (some .error)
  else
    match natural word64Max s with
    | .ok 0 => some none
    | .ok n => (Level.all.find? fun l => l.number == n).map some
    | .error _ =>
      if sameLetters "off" s then some none
      else (Level.all.find? fun l => sameLetters l.name s).map some

/-- A threshold for every part of the program whose name begins in some way. -/
structure Directive where
  /-- The beginning of the names; empty for every part. -/
  target : String
  threshold : Threshold
  deriving DecidableEq, Repr

/-- Reads a directive. -/
def Directive.parse? (s : String) : Option Directive :=
  match s.toList.span (· != '=') with
  | (target, '=' :: level) =>
    if level.isEmpty then some ⟨String.ofList target, some .trace⟩
    else (threshold? (String.ofList level)).map fun t => ⟨String.ofList target, t⟩
  | _ =>
    match threshold? s with
    | some t => some ⟨"", t⟩
    | none => some ⟨s, some .trace⟩

/-- Directives, at most one for each target. -/
abbrev Filter := List Directive

namespace Filter

/-- Adds a directive, in the stead of one with the same target. -/
def add (f : Filter) (d : Directive) : Filter := f.filter (fun e => e.target != d.target) ++ [d]

/-- Reads a filter; what is no directive is passed over. -/
def parse (s : String) : Filter :=
  (((s.splitOn ",").filter (· != "")).filterMap Directive.parse?).foldl add []

/-- The directive that decides about a part of the program. -/
def deciding? (f : Filter) (name : String) : Option Directive :=
  (f.filter fun d => d.target.isPrefixOf name).foldl (fun best d =>
    match best with
    | none => some d
    | some b => if b.target.length ≤ d.target.length then some d else some b) none

/-- Whether an event is shown. -/
def shows (f : Filter) (e : Event) : Bool :=
  match (f.deciding? e.speaker.label).bind Directive.threshold with
  | some level => decide (e.level.number ≤ level.number)
  | none => false

end Filter

end FunctionAgent.Log
