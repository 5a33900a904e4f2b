import FunctionAgent.Catalog.Entry
import FunctionAgent.Proofs.Naming
import FunctionAgent.Proofs.Skipping
/-!
# How an entry may be written

A description is written as an object or as a list (`Entry`). In an object every field stands at
most once, in any place among members of other names, and a field that has its default may be left
out. In a list the fields stand in their order, and only the last one may be left off. While an
entry is read, the draft holds the fields that have been seen (`drafted`); that each field that is
met adds itself to it is all that the induction on the rest of the entry needs.
-/

set_option autoImplicit false

namespace FunctionAgent.Catalog

open FunctionAgent.Json

/-- The text that a description has for a field. -/
def text? (d : Description) : Field → Option String
  | .name => some d.name
  | .signature => some d.signature
  | .description => some d.description
  | .version => some d.version
  | .author => d.author
  | .executor => some d.executor
  | .runtime => some d.runtime
  | .mode => none

/-- Whether a field has its default, so that it may be left out. -/
def IsDefault (d : Description) : Field → Prop
  | .description => d.description = ""
  | .version => d.version = ""
  | .author => d.author = none
  | .mode => d.mode = .undefined
  | .name | .signature | .executor | .runtime => False

/-- The value of a field. A mode is written as its label, as a text of it, or by its name. -/
inductive Written (d : Description) : Field → (cs rest : List Char) → Prop where
  | text {field : Field} {s : String} {cs rest : List Char} (carried : text? d field = some s)
      (inside : Inside s.toList cs rest) : Written d field ('"' :: cs) rest
  | noAuthor {rest : List Char} (missing : d.author = none) :
      Written d .author ('n' :: 'u' :: 'l' :: 'l' :: rest) rest
  | label {rest : List Char} : Written d .mode (Nat.digitChar d.mode.label :: rest) rest
  | labelText {cs rest : List Char} (inside : Inside [Nat.digitChar d.mode.label] cs rest) :
      Written d .mode ('"' :: cs) rest
  | modeName {s cs rest : List Char} (named : d.mode.Named s) (inside : Inside s cs rest) :
      Written d .mode ('"' :: cs) rest

/-- The members of an object with its closing bracket, when the fields in `seen` have been
written. -/
inductive Members (d : Description) :
    (seen : List Field) → (isFirst : Bool) → (cs rest : List Char) → Prop where
  | close {seen : List Field} {isFirst : Bool} {cs rest : List Char}
      (complete : ∀ field, field ∉ seen → IsDefault d field) (blanks : Blanks cs ('\x7d' :: rest)) :
      Members d seen isFirst cs rest
  | field {seen : List Field} {field : Field} {isFirst : Bool}
      {cs key behind blank value left rest : List Char} (fresh : field ∉ seen)
      (gap : Gap isFirst cs ('"' :: key)) (label : Inside field.label.toList key behind)
      (colon : Blanks behind (':' :: blank)) (blanks : Blanks blank value)
      (written : Written d field value left) (members : Members d (field :: seen) false left rest) :
      Members d seen isFirst cs rest
  | other {seen : List Field} {isFirst : Bool} {name : List Char}
      {cs key behind blank value left rest : List Char}
      (unknown : ∀ field : Field, field.label.toList ≠ name)
      (gap : Gap isFirst cs ('"' :: key)) (label : Inside name key behind)
      (colon : Blanks behind (':' :: blank)) (blanks : Blanks blank value)
      (valid : Valid .value value left) (members : Members d seen false left rest) :
      Members d seen isFirst cs rest

/-- The given fields in a list, with its closing bracket. -/
inductive Elements (d : Description) :
    List Field → (isFirst : Bool) → (cs rest : List Char) → Prop where
  | close {isFirst : Bool} {cs rest : List Char} (blanks : Blanks cs (']' :: rest)) :
      Elements d [] isFirst cs rest
  | short {isFirst : Bool} {cs rest : List Char} (default : d.mode = .undefined)
      (blanks : Blanks cs (']' :: rest)) : Elements d [.mode] isFirst cs rest
  | field {field : Field} {fields : List Field} {isFirst : Bool} {cs value left rest : List Char}
      (gap : Gap isFirst cs value) (written : Written d field value left)
      (elements : Elements d fields false left rest) :
      Elements d (field :: fields) isFirst cs rest

/-- An entry that describes a function. -/
inductive Entry (d : Description) : (cs rest : List Char) → Prop where
  | object {cs rest : List Char} (members : Members d [] true cs rest) :
      Entry d ('\x7b' :: cs) rest
  | list {cs rest : List Char} (elements : Elements d Field.all true cs rest) :
      Entry d ('[' :: cs) rest

/-- The draft of a description in which some fields have been seen. -/
def drafted (d : Description) (seen : List Field) : Draft where
  name := if .name ∈ seen then some d.name else none
  signature := if .signature ∈ seen then some d.signature else none
  description := if .description ∈ seen then some d.description else none
  version := if .version ∈ seen then some d.version else none
  author := if .author ∈ seen then some d.author else none
  executor := if .executor ∈ seen then some d.executor else none
  runtime := if .runtime ∈ seen then some d.runtime else none
  mode := if .mode ∈ seen then some d.mode else none

section Draft

variable {d : Description} {seen : List Field} {field : Field}

theorem Field.mem_all (field : Field) : field ∈ Field.all := by
  cases field <;> decide

theorem Field.ofLabel?_label (field : Field) : ofLabel? field.label.toList = some field := by
  cases field <;> rfl

theorem drafted_nil (d : Description) : drafted d [] = .empty := rfl

theorem has_drafted (d : Description) (seen : List Field) (field : Field) :
    (drafted d seen).has field = decide (field ∈ seen) := by
  cases field <;> simp only [Draft.has, drafted] <;> split <;> simp_all

theorem getD_ite {α : Type} {p : Prop} [Decidable p] {a b : α} (default : ¬p → a = b) :
    (if p then some a else none).getD b = a := by
  split
  · rfl
  · rename_i missing
    exact (default missing).symm

/-- A draft in which nothing but defaults is missing makes up the description. -/
theorem close_drafted {complaint : Field → Complaint} {rest : List Char}
    (complete : ∀ field, field ∉ seen → IsDefault d field) :
    close (drafted d seen) complaint rest = .ok (d, rest) := by
  have present (field : Field) (required : field.isRequired = true) : field ∈ seen := by
    by_cases member : field ∈ seen
    · exact member
    · have default := complete field member
      cases field <;> simp_all [IsDefault, Field.isRequired]
  have nothing : (drafted d seen).missing? = none := by
    rw [Draft.missing?, List.find?_eq_none]
    intro field _ missing
    rw [has_drafted] at missing
    simp only [Bool.and_eq_true, Bool.not_eq_true', decide_eq_false_iff_not] at missing
    exact missing.2 (present field missing.1)
  have whole : (drafted d seen).finish = d := by
    simp only [Draft.finish, drafted]
    rw [getD_ite fun missing => (complete .name missing).elim,
      getD_ite fun missing => (complete .signature missing).elim,
      getD_ite (complete .description), getD_ite (complete .version),
      getD_ite (complete .author), getD_ite fun missing => (complete .executor missing).elim,
      getD_ite fun missing => (complete .runtime missing).elim, getD_ite (complete .mode)]
  rw [close, nothing, whole]

end Draft

/-! ## Reading an entry -/

section Reading

variable {d : Description} {seen : List Field} {field : Field} {isFirst : Bool}
  {cs start left rest : List Char}

theorem textValue_eq {s : List Char} (blanks : Blanks start ('"' :: cs))
    (inside : Inside s cs rest) : textValue start = .ok (String.ofList s, rest) := by
  have skipped := blanks.reach (by decide)
  simp [textValue, skipped, inside.text_eq, Except.map]

/-- A scalar that stands for a mode is read as this mode. -/
theorem readMode_of_scalar {s : Scalar} {mode : Mode} {c : Char} (blanks : Blanks start (c :: cs))
    (visible : isBlank c = false) (noList : c ≠ '[') (noObject : c ≠ '\x7b')
    (read : scalar (c :: cs) = .ok (s, rest)) (meant : modeOf (.scalar s) = .ok mode) :
    readMode start = .ok (mode, rest) := by
  have skipped : skipBlanks start = c :: cs := blanks.reach visible
  have entered : enter (.full modeDepth) [] start = .ok (none, rest) := by
    unfold enter
    rw [skipped]
    split <;> simp_all [Except.map]
  simp [readMode, value, entered, skipped, read, meant, Except.map]

theorem readMode_of_text {s : List Char} {mode : Mode} (blanks : Blanks start ('"' :: cs))
    (inside : Inside s cs rest) (meant : Mode.parse (String.ofList s) = .ok mode) :
    readMode start = .ok (mode, rest) := by
  refine readMode_of_scalar (s := .text s) blanks (by decide) (by decide) (by decide) ?_ ?_
  · simp [scalar, inside.text_eq, Except.map]
  · rw [modeOf, meant]
    rfl

theorem isDigit_label (mode : Mode) : isDigit (Nat.digitChar mode.label) = true := by
  cases mode <;> rfl

/-- A label is a numeral of one digit. -/
theorem scalar_label (mode : Mode) (delimited : Delimited rest) :
    scalar (Nat.digitChar mode.label :: rest) = .ok (.number (.natural mode.label), rest) := by
  have figure : Figure ⟨false, [Nat.digitChar mode.label], none, none⟩
      (Nat.digitChar mode.label :: rest) rest := by
    refine .plain (.parts ?_ .absent .absent)
    cases mode with
    | undefined => exact .zero
    | _ => exact .digits (.one rfl) (by decide)
  have counted : Numeral.number ⟨false, [Nat.digitChar mode.label], none, none⟩ rest =
      .ok (.natural mode.label) := by
    cases mode <;> rfl
  have read : number (Nat.digitChar mode.label :: rest) = .ok (.natural mode.label, rest) := by
    simp [number, figure.read delimited, counted]
  have digit := isDigit_label mode
  obtain ⟨-, -, -, -, noText, noNull, noTrue, noFalse⟩ := numeral_start (.inr digit)
  simp_all [scalar, Except.map]

theorem Written.readMode_eq (written : Written d .mode cs rest) (delimited : Delimited rest)
    (blanks : Blanks start cs) : readMode start = .ok (d.mode, rest) := by
  cases written with
  | text carried => cases carried
  | label =>
    obtain ⟨visible, noList, noObject, -⟩ := numeral_start (.inr (isDigit_label d.mode))
    refine readMode_of_scalar blanks visible noList noObject (scalar_label d.mode delimited) ?_
    rw [modeOf, Mode.ofLabel?_label]
    rfl
  | labelText inside => exact readMode_of_text blanks inside d.mode.parse_label
  | modeName named inside => exact readMode_of_text blanks inside named.parse_eq

theorem Written.textValue_eq {s : String} (written : Written d field cs rest)
    (carried : text? d field = some s) (blanks : Blanks start cs) :
    textValue start = .ok (s, rest) := by
  cases written with
  | @text field t cs rest other inside =>
    obtain rfl := Option.some.inj (carried.symm.trans other)
    rw [Catalog.textValue_eq blanks inside, String.ofList_toList]
  | noAuthor missing => simp [text?, missing] at carried
  | label | labelText | modeName => simp [text?] at carried

theorem Written.optionalText_eq (written : Written d .author cs rest) (blanks : Blanks start cs) :
    optionalText start = .ok (d.author, rest) := by
  cases written with
  | @text field s cs rest carried inside =>
    have skipped := blanks.reach (by decide)
    obtain carried : d.author = some s := carried
    have read := Catalog.textValue_eq .none inside
    rw [carried]
    simp [optionalText, skipped, read, Except.map]
  | noAuthor missing =>
    have skipped := blanks.reach (by decide)
    rw [missing]
    simp [optionalText, skipped, word, Except.map]

/-- A field that is met adds itself to the draft. -/
theorem Written.readField_eq (written : Written d field cs rest) (delimited : Delimited rest)
    (blanks : Blanks start cs) :
    readField (drafted d seen) field start = .ok (drafted d (field :: seen), rest) := by
  cases field with
  | mode => simp [readField, written.readMode_eq delimited blanks, drafted]
  | author => simp [readField, written.optionalText_eq blanks, drafted]
  | name | signature | description | version | executor | runtime =>
    simp [readField, written.textValue_eq rfl blanks, drafted]

theorem Written.head (written : Written d field cs rest) :
    ∃ c left, cs = c :: left ∧ isBlank c = false ∧ c ≠ ']' := by
  cases written with
  | text | noAuthor | labelText | modeName => exact ⟨_, _, rfl, by decide, by decide⟩
  | label =>
    obtain ⟨visible, -, -, inside, -⟩ := numeral_start (.inr (isDigit_label d.mode))
    exact ⟨_, _, rfl, visible, inside⟩

theorem Members.delimited (members : Members d seen false cs rest) : Delimited cs := by
  cases members with
  | close complete blanks => exact blanks.delimited (delimited_closing .object rest)
  | field fresh gap | other unknown gap => exact gap.delimited

theorem Elements.delimited {fields : List Field} (elements : Elements d fields false cs rest) :
    Delimited cs := by
  cases elements with
  | close blanks | short default blanks => exact blanks.delimited (delimited_closing .list rest)
  | field gap => exact gap.delimited

theorem readMembers_of_close {draft : Draft}
    (closed : memberStep draft isFirst cs = .ok (none, rest)) :
    readMembers draft isFirst cs = close draft .missing rest := by
  rw [readMembers]
  split <;> simp_all

theorem readMembers_of_member {draft next : Draft}
    (member : memberStep draft isFirst cs = .ok (some next, rest)) :
    readMembers draft isFirst cs = readMembers next false rest := by
  rw [readMembers]
  split <;> simp_all

/-- A member is found behind its gap, and its key is read. -/
theorem memberStep_eq {draft next : Draft} {name key behind : List Char}
    (gap : Gap isFirst cs ('"' :: key)) (label : Inside name key behind)
    (member : readMember draft name behind = .ok (next, rest)) :
    memberStep draft isFirst cs = .ok (some next, rest) := by
  have found : Json.next (.full modeDepth) .object isFirst cs = .ok (.item ('"' :: key)) :=
    next_item gap (by decide) (by decide)
  simp [memberStep, found, Json.key, label.text_eq, member]

theorem readMember_field {blank value : List Char} (fresh : field ∉ seen)
    (colon : Blanks cs (':' :: blank)) (blanks : Blanks blank value)
    (written : Written d field value rest) (delimited : Delimited rest) :
    readMember (drafted d seen) field.label.toList cs = .ok (drafted d (field :: seen), rest) := by
  simp [readMember, Field.ofLabel?_label, has_drafted, fresh, colon_eq colon,
    written.readField_eq delimited blanks]

theorem readMember_other {name blank : List Char} (draft : Draft)
    (unknown : ∀ field : Field, field.label.toList ≠ name) (colon : Blanks cs (':' :: blank))
    (passed : passValue blank = .ok rest) : readMember draft name cs = .ok (draft, rest) := by
  have none : Field.ofLabel? name = none := by
    rw [Field.ofLabel?, List.find?_eq_none]
    intro field _
    simpa using unknown field
  simp [readMember, none, colon_eq colon, passed]

/-- The rest of an object makes up the description, whatever has been seen of it before. -/
theorem Members.read (members : Members d seen isFirst cs rest) :
    readMembers (drafted d seen) isFirst cs = .ok (d, rest) := by
  induction members with
  | @close seen isFirst cs rest complete blanks =>
    have found : Json.next (.full modeDepth) .object isFirst cs = .ok (.closed rest) :=
      next_closed blanks
    have closed : memberStep (drafted d seen) isFirst cs = .ok (none, rest) := by
      simp [memberStep, found]
    rw [readMembers_of_close closed, close_drafted complete]
  | field fresh gap label colon blanks written members ih =>
    have member := readMember_field fresh colon blanks written members.delimited
    rw [readMembers_of_member (memberStep_eq gap label member), ih]
  | @other seen _ _ _ _ _ _ _ _ _ unknown gap label colon blanks valid members ih =>
    have passed := blanks.passValue_eq.trans (valid.passValue_eq members.delimited)
    have member := readMember_other (drafted d seen) unknown colon passed
    rw [readMembers_of_member (memberStep_eq gap label member), ih]

theorem endList_eq (blanks : Blanks cs (']' :: rest)) : endList cs = .ok rest := by
  have skipped := blanks.reach (by decide)
  simp [endList, skipped]

/-- The rest of a list makes up the description if the fields in front of it have been seen. -/
theorem Elements.read {fields : List Field} (elements : Elements d fields isFirst cs rest)
    (others : ∀ field, field ∉ fields → field ∈ seen) :
    readItems (drafted d seen) isFirst fields cs = .ok (d, rest) := by
  induction elements generalizing seen with
  | close blanks =>
    rw [readItems, endList_eq blanks]
    exact close_drafted fun field missing => absurd (others field List.not_mem_nil) missing
  | @short isFirst cs rest default blanks =>
    have closed : Json.next (.full modeDepth) .list isFirst cs = .ok (.closed rest) :=
      next_closed blanks
    rw [readItems, closed]
    refine close_drafted fun field missing => ?_
    have last : field = .mode := by
      by_cases mode : field = .mode
      · exact mode
      · exact absurd (others field (by simpa using mode)) missing
    rw [last]
    exact default
  | @field field fields isFirst cs value left rest gap written elements ih =>
    obtain ⟨c, tail, rfl, visible, inside⟩ := written.head
    have found : Json.next (.full modeDepth) .list isFirst cs = .ok (.item (c :: tail)) :=
      next_item gap visible inside
    have read : readField (drafted d seen) field (c :: tail) =
        .ok (drafted d (field :: seen), left) := written.readField_eq elements.delimited .none
    rw [readItems, found]
    simp only [read]
    -- The field has now been seen, so that `others` holds of the fields that are left.
    refine ih fun other missing => ?_
    by_cases same : other = field
    · rw [same]
      exact List.mem_cons_self
    · refine List.mem_cons_of_mem _ (others other ?_)
      simp [same, missing]

/-- Every way to write an entry is read as its description. -/
theorem Entry.read (entry : Entry d cs rest) (blanks : Blanks start cs) :
    readEntry start = .ok (d, rest) := by
  cases entry with
  | object members =>
    have skipped := blanks.reach (by decide)
    have read := members.read
    rw [drafted_nil] at read
    simp only [readEntry, skipped, read]
    rfl
  | @list cs rest elements =>
    have skipped := blanks.reach (by decide)
    have read : readItems (drafted d []) true Field.all cs = .ok (d, rest) :=
      elements.read fun field missing => absurd field.mem_all missing
    rw [drafted_nil] at read
    simp only [readEntry, skipped, read]
    rfl

end Reading

end FunctionAgent.Catalog
