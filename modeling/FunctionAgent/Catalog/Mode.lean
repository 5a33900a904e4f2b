import FunctionAgent.Log
import FunctionAgent.Text.Quoted
/-!
# Stability modes

Every function has a mode that says how stable it is. Modes are ordered by their labels, and a text
names a mode by its label or by its name. An agent offers only functions at or above a minimum mode.
-/

set_option autoImplicit false

namespace FunctionAgent

open FunctionAgent.Text

/-- How stable a function is. -/
inductive Mode where
  | undefined
  | development
  | alpha
  | beta
  | releaseCandidate
  | stable
  | deprecated
  deriving DecidableEq, Repr, Inhabited

/-- Why a text or a number names no mode. -/
inductive ModeFault where
  /-- No mode has this label. -/
  | label (n : Nat)
  /-- No mode has this name. -/
  | name (s : String)
  deriving DecidableEq, Repr

/-- The wording of an unknown mode. -/
def ModeFault.message : ModeFault → String
  | .label n => "unknown function mode " ++ toString n
  | .name s => "unknown function mode " ++ quoted s

namespace Mode

/-- Every mode in the order of the labels. -/
def all : List Mode :=
  [.undefined, .development, .alpha, .beta, .releaseCandidate, .stable, .deprecated]

/-- The number of a mode. -/
def label : Mode → Nat
  | .undefined => 0
  | .development => 1
  | .alpha => 2
  | .beta => 3
  | .releaseCandidate => 4
  | .stable => 5
  | .deprecated => 6

/-- The name of a mode. -/
def name : Mode → String
  | .undefined => "UNDEFINED"
  | .development => "DEVELOPMENT"
  | .alpha => "ALPHA"
  | .beta => "BETA"
  | .releaseCandidate => "RELEASE_CANDIDATE"
  | .stable => "STABLE"
  | .deprecated => "DEPRECATED"

/-- The name of a mode as one capitalised word. -/
def word : Mode → String
  | .undefined => "Undefined"
  | .development => "Development"
  | .alpha => "Alpha"
  | .beta => "Beta"
  | .releaseCandidate => "ReleaseCandidate"
  | .stable => "Stable"
  | .deprecated => "Deprecated"

instance : ToString Mode := ⟨name⟩

instance : LE Mode := ⟨fun a b => a.label ≤ b.label⟩
instance : LT Mode := ⟨fun a b => a.label < b.label⟩
instance (a b : Mode) : Decidable (a ≤ b) := inferInstanceAs (Decidable (a.label ≤ b.label))
instance (a b : Mode) : Decidable (a < b) := inferInstanceAs (Decidable (a.label < b.label))

/-- Modes compare by their labels. -/
def order (a b : Mode) : Ordering := compare a.label b.label

/-- The mode with a label. -/
def ofLabel? (n : Nat) : Option Mode := all.find? fun m => m.label == n

/-- The mode with a name, in any case. -/
def ofName? (s : String) : Option Mode := all.find? fun m => sameLetters m.name s

/-- Reads a mode, between blanks: a number is a label, anything else a name. -/
def parse (raw : String) : Except ModeFault Mode :=
  let s := trim raw
  match natural word64Max s with
  | .ok n => (ofLabel? n).elim (.error (.label n)) .ok
  | .error _ => (ofName? s).elim (.error (.name s)) .ok

/-- The minimum mode that a setting asks for, and what is reported about it: a setting that names
no mode asks for no minimum, with a warning. -/
def minimum : Option String → Mode × List Event
  | none => (.undefined, [])
  | some raw =>
    match parse raw with
    | .ok mode => (mode, [])
    | .error _ =>
      (.undefined, [⟨.catalog, .warn, "Unknown minimum function mode, using UNDEFINED",
        [("configured", raw)]⟩])

theorem ofLabel?_label (m : Mode) : ofLabel? m.label = some m := by
  cases m <;> rfl

theorem label_injective {a b : Mode} (h : a.label = b.label) : a = b := by
  have := ofLabel?_label a
  rw [h, ofLabel?_label b] at this
  exact (Option.some.inj this).symm

end Mode

end FunctionAgent
