import FunctionAgent.Catalog.Function
import FunctionAgent.Json.Value
/-!
# Catalog entries

An entry describes one function. It is written as an object whose members carry the fields, in any
order and among members of other names, or as a list of the fields in their order, where fields at
the end may be left off. Some fields have a default; the others have to be there. A mode is written
as its label or as its name.

A fault is settled as soon as it has a place in the text. What is wrong with a member or with the
whole of an entry has no place of its own: it gets the place where the reader stands after it has
tried to finish the entry.
-/

set_option autoImplicit false

namespace FunctionAgent.Catalog

open FunctionAgent.Json (Fault Read Shape Bracket)

/-- A field of an entry. -/
inductive Field where
  | name
  | signature
  | description
  | version
  | author
  | executor
  | runtime
  | mode
  deriving DecidableEq, Repr

namespace Field

/-- Every field in the order of a list. -/
def all : List Field :=
  [.name, .signature, .description, .version, .author, .executor, .runtime, .mode]

/-- The key of a field. -/
def label : Field → String
  | .name => "name"
  | .signature => "signature"
  | .description => "description"
  | .version => "version"
  | .author => "author"
  | .executor => "executor"
  | .runtime => "runtime"
  | .mode => "mode"

/-- The field with a key. -/
def ofLabel? (s : List Char) : Option Field := all.find? fun f => f.label.toList == s

/-- Whether an entry needs the field. -/
def isRequired : Field → Bool
  | .name | .signature | .executor | .runtime => true
  | .description | .version | .author | .mode => false

end Field

/-- Why a catalog is refused. -/
inductive Complaint where
  /-- The text is no JSON, or a value is not of the wanted kind. -/
  | json (cause : Json.Complaint)
  /-- A key is no function identifier. -/
  | identifier
  /-- A mode is neither a label nor a text. -/
  | modeShape
  /-- There is no such mode. -/
  | mode (cause : ModeFault)
  /-- A field stands twice in an entry. -/
  | duplicate (field : Field)
  /-- A field that an entry needs is not there. -/
  | missing (field : Field)
  /-- A list ends before a field that an entry needs. -/
  | tooShort (count : Nat)
  deriving DecidableEq, Repr

/-- How an entry is named where something else was found. -/
def entryKind : String := "struct FunctionDescription"

/-- The wording of a complaint. -/
def Complaint.message : Complaint → String
  | .json cause => cause.message
  | .identifier => "UUID parsing failed"
  | .modeShape => "data did not match any variant of untagged enum Raw"
  | .mode cause => cause.message
  | .duplicate field => "duplicate field `" ++ field.label ++ "`"
  | .missing field => "missing field `" ++ field.label ++ "`"
  | .tooShort count =>
    "invalid length " ++ toString count ++ ", expected " ++ entryKind ++ " with 8 elements"

/-- A fault that may have no place yet. -/
inductive Halt where
  | settled (fault : Fault Complaint)
  /-- The cause, and what is left where the reader stands. -/
  | floating (what : Complaint) (rest : List Char)

/-- A fault of the text itself has its place. -/
def Halt.ofJson (fault : Fault Json.Complaint) : Halt := .settled (fault.map .json)

/-- What is left after an attempt to finish an object or a list. -/
def attemptEnd (b : Bracket) (cs : List Char) : List Char :=
  match b, Json.skipBlanks cs with
  | .object, '\x7d' :: rest => rest
  | .list, ']' :: rest => rest
  | .list, ',' :: rest => Json.skipBlanks rest
  | _, rest => rest

/-- Gives a fault in an object or a list its place. -/
def Halt.settle (b : Bracket) : Halt → Fault Complaint
  | .settled fault => fault
  | .floating what rest => .here what (attemptEnd b rest)

/-- The fields of an entry that have been read. -/
structure Draft where
  name : Option String
  signature : Option String
  description : Option String
  version : Option String
  author : Option (Option String)
  executor : Option String
  runtime : Option String
  mode : Option Mode
  deriving DecidableEq, Repr

namespace Draft

/-- No field has been read. -/
def empty : Draft := ⟨none, none, none, none, none, none, none, none⟩

/-- Whether a field has been read. -/
def has (d : Draft) : Field → Bool
  | .name => d.name.isSome
  | .signature => d.signature.isSome
  | .description => d.description.isSome
  | .version => d.version.isSome
  | .author => d.author.isSome
  | .executor => d.executor.isSome
  | .runtime => d.runtime.isSome
  | .mode => d.mode.isSome

/-- The first field that is needed and has not been read. -/
def missing? (d : Draft) : Option Field := Field.all.find? fun f => f.isRequired && !d.has f

/-- The description, with the defaults of what has not been read. -/
def finish (d : Draft) : Description where
  name := d.name.getD ""
  signature := d.signature.getD ""
  description := d.description.getD ""
  version := d.version.getD ""
  author := d.author.getD none
  executor := d.executor.getD ""
  runtime := d.runtime.getD ""
  mode := d.mode.getD .undefined

end Draft

/-- How deep a mode may be nested, inside the brackets of the catalog and of the entry. -/
def modeDepth : Nat := 125

/-- The mode that a value stands for: a natural number is a label, a text is read as one. -/
def modeOf : Shape → Except Complaint Mode
  | .scalar (.number (.natural n)) => (Mode.ofLabel? n).elim (.error (.mode (.label n))) .ok
  | .scalar (.text s) => (Mode.parse (String.ofList s)).mapError .mode
  | _ => .error .modeShape

/-- Reads a mode. -/
def readMode (cs : List Char) : Except Halt (Mode × List Char) :=
  match Json.value modeDepth cs with
  | .error fault => .error (.ofJson fault)
  | .ok (shape, rest) =>
    match modeOf shape with
    | .error what => .error (.floating what rest)
    | .ok mode => .ok (mode, rest)

/-- Reads the value of a field into a draft. -/
def readField (d : Draft) (field : Field) (cs : List Char) : Except Halt (Draft × List Char) :=
  let text (set : String → Draft) : Except Halt (Draft × List Char) :=
    match Json.textValue cs with
    | .error fault => .error (.ofJson fault)
    | .ok (s, rest) => .ok (set s, rest)
  match field with
  | .name => text fun s => { d with name := some s }
  | .signature => text fun s => { d with signature := some s }
  | .description => text fun s => { d with description := some s }
  | .version => text fun s => { d with version := some s }
  | .executor => text fun s => { d with executor := some s }
  | .runtime => text fun s => { d with runtime := some s }
  | .author =>
    match Json.optionalText cs with
    | .error fault => .error (.ofJson fault)
    | .ok (s, rest) => .ok ({ d with author := some s }, rest)
  | .mode =>
    match readMode cs with
    | .error halt => .error halt
    | .ok (mode, rest) => .ok ({ d with mode := some mode }, rest)

/-- Reads the value behind a key into a draft; a value with another key is passed over. -/
def readMember (d : Draft) (key : List Char) (cs : List Char) : Except Halt (Draft × List Char) :=
  match Field.ofLabel? key with
  | some field =>
    if d.has field then .error (.floating (.duplicate field) cs)
    else
      match Json.colon cs with
      | .error fault => .error (.ofJson fault)
      | .ok rest => readField d field rest
  | none =>
    match Json.colon cs with
    | .error fault => .error (.ofJson fault)
    | .ok rest =>
      match Json.passValue rest with
      | .error fault => .error (.ofJson fault)
      | .ok rest => .ok (d, rest)

theorem length_readMode {cs rest : List Char} {m : Mode} (h : readMode cs = .ok (m, rest)) :
    rest.length < cs.length := by
  unfold readMode at h
  split at h
  · cases h
  · rename_i shape left hv
    have := Json.length_value hv
    split at h
    · cases h
    · simp only [Except.ok.injEq, Prod.mk.injEq] at h
      obtain ⟨_, rfl⟩ := h
      exact this

theorem length_readField {d d' : Draft} {field : Field} {cs rest : List Char}
    (h : readField d field cs = .ok (d', rest)) : rest.length < cs.length := by
  cases field
  case author =>
    simp only [readField] at h
    split at h
    · cases h
    · rename_i s left hs
      cases h
      exact Json.length_optionalText hs
  case mode =>
    simp only [readField] at h
    split at h
    · cases h
    · rename_i m left hm
      cases h
      exact length_readMode hm
  all_goals
    simp only [readField] at h
    split at h
    · cases h
    · rename_i s left hs
      cases h
      exact Json.length_textValue hs

theorem length_readMember {d d' : Draft} {key cs rest : List Char}
    (h : readMember d key cs = .ok (d', rest)) : rest.length < cs.length := by
  unfold readMember at h
  split at h
  · split at h
    · cases h
    · split at h
      · cases h
      · rename_i left hc
        have := Json.length_colon hc
        have := length_readField h
        omega
  · split at h
    · cases h
    · rename_i left hc
      have := Json.length_colon hc
      split at h
      · cases h
      · rename_i left hp
        have := Json.length_passValue hp
        cases h; omega

/-- The description of a draft in front of which an entry was closed. -/
def close (d : Draft) (complaint : Field → Complaint) (rest : List Char) :
    Except Halt (Description × List Char) :=
  match d.missing? with
  | some field => .error (.settled (.here (complaint field) rest))
  | none => .ok (d.finish, rest)

/-- One item of an object: its closing bracket, or a member. -/
def memberStep (d : Draft) (isFirst : Bool) (cs : List Char) :
    Except Halt (Option Draft × List Char) :=
  match Json.next (.full modeDepth) .object isFirst cs with
  | .error fault => .error (.ofJson fault)
  | .ok (.closed rest) => .ok (none, rest)
  | .ok (.item rest) =>
    match Json.key rest with
    | .error fault => .error (.ofJson fault)
    | .ok (key, rest) =>
      match readMember d key rest with
      | .error halt => .error halt
      | .ok (d, rest) => .ok (some d, rest)

theorem length_memberStep {d d' : Draft} {isFirst : Bool} {cs rest : List Char}
    (h : memberStep d isFirst cs = .ok (some d', rest)) : rest.length < cs.length := by
  unfold memberStep at h
  split at h
  · cases h
  · cases h
  · rename_i left hn
    have := Json.length_item hn
    split at h
    · cases h
    · rename_i key left hk
      have := Json.length_key hk
      split at h
      · cases h
      · rename_i d left hm
        have := length_readMember hm
        cases h; omega

/-- Reads the members of an entry up to its closing bracket. -/
def readMembers (d : Draft) (isFirst : Bool) (cs : List Char) :
    Except Halt (Description × List Char) :=
  match h : memberStep d isFirst cs with
  | .error halt => .error halt
  | .ok (none, rest) => close d .missing rest
  | .ok (some d, rest) =>
    have := length_memberStep h
    readMembers d false rest
termination_by cs.length

/-- The number of fields in front of a field. -/
def Field.position (f : Field) : Nat := Field.all.idxOf f

/-- Reads the closing bracket behind the last field of a list. -/
def endList (cs : List Char) : Except (Fault Json.Complaint) (List Char) :=
  match Json.skipBlanks cs with
  | [] => .error (.next .endInList [])
  | ']' :: rest => .ok rest
  | ',' :: rest =>
    match Json.skipBlanks rest with
    | ']' :: rest => .error (.next .trailingComma (']' :: rest))
    | rest => .error (.next .trailingCharacters rest)
  | rest => .error (.next .trailingCharacters rest)

/-- Reads the given fields of a list in their order, and the closing bracket behind them. -/
def readItems (d : Draft) (isFirst : Bool) :
    List Field → List Char → Except Halt (Description × List Char)
  | [], cs =>
    match endList cs with
    | .error fault => .error (.ofJson fault)
    | .ok rest => close d (fun f => .tooShort f.position) rest
  | field :: fields, cs =>
    match Json.next (.full modeDepth) .list isFirst cs with
    | .error fault => .error (.ofJson fault)
    | .ok (.closed rest) => close d (fun f => .tooShort f.position) rest
    | .ok (.item rest) =>
      match readField d field rest with
      | .error halt => .error halt
      | .ok (d, rest) => readItems d false fields rest

/-- Reads an entry. -/
def readEntry (cs : List Char) : Read Complaint Description :=
  match Json.skipBlanks cs with
  | '\x7b' :: rest => (readMembers .empty true rest).mapError (Halt.settle .object)
  | '[' :: rest => (readItems .empty true Field.all rest).mapError (Halt.settle .list)
  | cs => .error ((Json.unexpected entryKind cs).map .json)

theorem length_close {d : Draft} {complaint : Field → Complaint} {left rest : List Char}
    {v : Description} (h : close d complaint left = .ok (v, rest)) : rest = left := by
  unfold close at h
  split at h
  · cases h
  · cases h; rfl

theorem length_readMembers {d : Draft} {isFirst : Bool} {cs rest : List Char} {v : Description}
    (h : readMembers d isFirst cs = .ok (v, rest)) : rest.length ≤ cs.length := by
  fun_induction readMembers d isFirst cs with
  | case1 => cases h
  | case2 d isFirst cs left hm =>
    have := length_close h
    subst this
    unfold memberStep at hm
    split at hm
    · cases hm
    · rename_i hn
      have := Json.length_closed hn
      cases hm; omega
    · split at hm
      · cases hm
      · split at hm <;> cases hm
  | case3 d isFirst cs d' left hm hlen ih =>
    have := ih h
    omega

theorem length_endList {cs rest : List Char} (h : endList cs = .ok rest) :
    rest.length < cs.length := by
  have hs := Json.length_skipBlanks cs
  unfold endList at h
  split at h
  · cases h
  · rename_i heq
    rw [heq, List.length_cons] at hs
    cases h; omega
  · split at h <;> cases h
  · cases h

theorem length_readItems {fields : List Field} {d : Draft} {isFirst : Bool} {cs rest : List Char}
    {v : Description} (h : readItems d isFirst fields cs = .ok (v, rest)) :
    rest.length ≤ cs.length := by
  induction fields generalizing d isFirst cs with
  | nil =>
    simp only [readItems] at h
    split at h
    · cases h
    · rename_i he
      have := length_endList he
      have := length_close h
      subst this; omega
  | cons field fields ih =>
    simp only [readItems] at h
    split at h
    · cases h
    · rename_i hn
      have := Json.length_closed hn
      have := length_close h
      subst this; omega
    · rename_i hn
      have := Json.length_item hn
      split at h
      · cases h
      · rename_i hf
        have := length_readField hf
        have := ih h
        omega

/-- What a successful reading whose faults were changed has read. -/
theorem eq_ok_of_mapError_eq_ok {ε δ α : Type} {f : ε → δ} {x : Except ε α} {a : α}
    (h : x.mapError f = .ok a) : x = .ok a := by
  cases x with
  | error e => cases h
  | ok b => exact congrArg Except.ok (Except.ok.inj h)

theorem length_readEntry {cs rest : List Char} {v : Description}
    (h : readEntry cs = .ok (v, rest)) : rest.length < cs.length := by
  have hs := Json.length_skipBlanks cs
  unfold readEntry at h
  split at h
  · rename_i heq
    rw [heq, List.length_cons] at hs
    have := length_readMembers (eq_ok_of_mapError_eq_ok h)
    omega
  · rename_i heq
    rw [heq, List.length_cons] at hs
    have := length_readItems (eq_ok_of_mapError_eq_ok h)
    omega
  · cases h

end FunctionAgent.Catalog
