import FunctionAgent.Proofs.Interchange
import FunctionAgent.Proofs.Rendering
/-!
# What the minimum mode selects, and why a catalog is refused

A reader goes from item to item as long as it can. What it is stopped by is a flaw: of the text, of
a key that spells no identifier, of an entry, or in an entry of a member, of a field, of a mode
(`Refused` and what it is made of). Each relation of flaws names all the faults of one function, so
the document is refused for a fault just if `Refused` holds (`document_eq_error_iff`). No minimum
occurs in any of them, and the minimum selects only among the functions of a document that has no
flaw (`parse_selects`).
-/

set_option autoImplicit false

namespace FunctionAgent

namespace Catalog

open FunctionAgent.Json (Fault Shape)

/-! ## Flaws -/

/-- A value that stands for no mode. -/
inductive Modeless : Shape → Complaint → Prop where
  | label {n : Nat} (unknown : ∀ m : Mode, m.label ≠ n) :
      Modeless (.scalar (.number (.natural n))) (.mode (.label n))
  | name {s : List Char} {cause : ModeFault}
      (unknown : Mode.parse (String.ofList s) = .error cause) :
      Modeless (.scalar (.text s)) (.mode cause)
  | shape {shape : Shape} (noLabel : ∀ n, shape ≠ .scalar (.number (.natural n)))
      (noName : ∀ s, shape ≠ .scalar (.text s)) : Modeless shape .modeShape

/-- What is wrong with the value of a field. -/
inductive FieldFlaw : Field → (cs : List Char) → Halt → Prop where
  | text {field : Field} {cs : List Char} {fault : Fault Json.Complaint}
      (noAuthor : field ≠ .author) (noMode : field ≠ .mode)
      (stuck : Json.textValue cs = .error fault) : FieldFlaw field cs (.ofJson fault)
  | author {cs : List Char} {fault : Fault Json.Complaint}
      (stuck : Json.optionalText cs = .error fault) : FieldFlaw .author cs (.ofJson fault)
  | value {cs : List Char} {fault : Fault Json.Complaint}
      (stuck : Json.value modeDepth cs = .error fault) : FieldFlaw .mode cs (.ofJson fault)
  | mode {cs rest : List Char} {shape : Shape} {what : Complaint}
      (read : Json.value modeDepth cs = .ok (shape, rest)) (modeless : Modeless shape what) :
      FieldFlaw .mode cs (.floating what rest)

/-- The next key of an object, or nothing when its closing bracket was read. -/
def nextKey? (isFirst : Bool) (cs : List Char) : Json.Read Json.Complaint (Option (List Char)) :=
  match Json.next (.full modeDepth) .object isFirst cs with
  | .error fault => .error fault
  | .ok (.closed rest) => .ok (none, rest)
  | .ok (.item rest) =>
    match Json.key rest with
    | .error fault => .error fault
    | .ok (name, rest) => .ok (some name, rest)

/-- What is wrong with a member behind its key. -/
inductive KeyedFlaw (d : Draft) (name cs : List Char) : Halt → Prop where
  | duplicate {field : Field} (known : Field.ofLabel? name = some field)
      (again : d.has field = true) : KeyedFlaw d name cs (.floating (.duplicate field) cs)
  | colon {fault : Fault Json.Complaint}
      (fresh : ∀ field, Field.ofLabel? name = some field → d.has field = false)
      (stuck : Json.colon cs = .error fault) : KeyedFlaw d name cs (.ofJson fault)
  | field {start : List Char} {field : Field} {halt : Halt}
      (known : Field.ofLabel? name = some field) (fresh : d.has field = false)
      (colon : Json.colon cs = .ok start) (flaw : FieldFlaw field start halt) :
      KeyedFlaw d name cs halt
  | other {start : List Char} {fault : Fault Json.Complaint}
      (unknown : Field.ofLabel? name = none) (colon : Json.colon cs = .ok start)
      (stuck : Json.passValue start = .error fault) : KeyedFlaw d name cs (.ofJson fault)

/-- What is wrong with the next member of an entry. -/
inductive MemberFlaw (d : Draft) (isFirst : Bool) (cs : List Char) : Halt → Prop where
  | key {fault : Fault Json.Complaint} (stuck : nextKey? isFirst cs = .error fault) :
      MemberFlaw d isFirst cs (.ofJson fault)
  | keyed {name behind : List Char} {halt : Halt}
      (key : nextKey? isFirst cs = .ok (some name, behind)) (flaw : KeyedFlaw d name behind halt) :
      MemberFlaw d isFirst cs halt

/-- What is wrong with an object where the next member is due. -/
inductive ObjectFlaw (d : Draft) (isFirst : Bool) (cs : List Char) : Halt → Prop where
  | member {halt : Halt} (flaw : MemberFlaw d isFirst cs halt) : ObjectFlaw d isFirst cs halt
  | missing {field : Field} {rest : List Char} (closed : nextKey? isFirst cs = .ok (none, rest))
      (lacks : d.missing? = some field) :
      ObjectFlaw d isFirst cs (.settled (.here (.missing field) rest))

/-- Members that are read into a draft one after another, and where the reader gets with them. -/
inductive MembersRead :
    (d : Draft) → (isFirst : Bool) → (cs : List Char) →
    (more : Draft) → (first : Bool) → (left : List Char) → Prop where
  | none {d : Draft} {isFirst : Bool} {cs : List Char} : MembersRead d isFirst cs d isFirst cs
  | member {d next more : Draft} {isFirst first : Bool} {cs rest left : List Char}
      (step : memberStep d isFirst cs = .ok (some next, rest))
      (others : MembersRead next false rest more first left) :
      MembersRead d isFirst cs more first left

/-- The closing bracket of a list in which the given fields are still due. -/
inductive ListEnd (isFirst : Bool) : List Field → (cs rest : List Char) → Prop where
  | full {cs rest : List Char} (closed : endList cs = .ok rest) : ListEnd isFirst [] cs rest
  | early {field : Field} {fields : List Field} {cs rest : List Char}
      (closed : Json.next (.full modeDepth) .list isFirst cs = .ok (.closed rest)) :
      ListEnd isFirst (field :: fields) cs rest

/-- What is wrong with a list in which the given fields are still due. -/
inductive ListFlaw (d : Draft) (isFirst : Bool) : List Field → (cs : List Char) → Halt → Prop where
  | tooLong {cs : List Char} {fault : Fault Json.Complaint} (stuck : endList cs = .error fault) :
      ListFlaw d isFirst [] cs (.ofJson fault)
  | comma {field : Field} {fields : List Field} {cs : List Char} {fault : Fault Json.Complaint}
      (stuck : Json.next (.full modeDepth) .list isFirst cs = .error fault) :
      ListFlaw d isFirst (field :: fields) cs (.ofJson fault)
  | field {field : Field} {fields : List Field} {cs start : List Char} {halt : Halt}
      (found : Json.next (.full modeDepth) .list isFirst cs = .ok (.item start))
      (flaw : FieldFlaw field start halt) : ListFlaw d isFirst (field :: fields) cs halt
  | tooShort {field : Field} {fields : List Field} {cs rest : List Char}
      (closed : ListEnd isFirst fields cs rest) (lacks : d.missing? = some field) :
      ListFlaw d isFirst fields cs (.settled (.here (.tooShort field.position) rest))

/-- Fields of a list that are read into a draft one after another, and where the reader gets with
them. -/
inductive ElementsRead :
    (d : Draft) → (isFirst : Bool) → (fields : List Field) → (cs : List Char) →
    (more : Draft) → (first : Bool) → (others : List Field) → (left : List Char) → Prop where
  | none {d : Draft} {isFirst : Bool} {fields : List Field} {cs : List Char} :
      ElementsRead d isFirst fields cs d isFirst fields cs
  | field {d next more : Draft} {isFirst first : Bool} {field : Field} {fields others : List Field}
      {cs start rest left : List Char}
      (found : Json.next (.full modeDepth) .list isFirst cs = .ok (.item start))
      (read : readField d field start = .ok (next, rest))
      (elements : ElementsRead next false fields rest more first others left) :
      ElementsRead d isFirst (field :: fields) cs more first others left

/-- What is wrong with an entry. -/
inductive EntryFlaw (cs : List Char) : Fault Complaint → Prop where
  | shape (noObject : ∀ start, Json.skipBlanks cs ≠ '\x7b' :: start)
      (noList : ∀ start, Json.skipBlanks cs ≠ '[' :: start) :
      EntryFlaw cs ((Json.unexpected entryKind (Json.skipBlanks cs)).map .json)
  | object {d : Draft} {first : Bool} {start left : List Char} {halt : Halt}
      (opened : Json.skipBlanks cs = '\x7b' :: start)
      (before : MembersRead .empty true start d first left) (flaw : ObjectFlaw d first left halt) :
      EntryFlaw cs (halt.settle .object)
  | list {d : Draft} {first : Bool} {fields : List Field} {start left : List Char} {halt : Halt}
      (opened : Json.skipBlanks cs = '[' :: start)
      (before : ElementsRead .empty true Field.all start d first fields left)
      (flaw : ListFlaw d first fields left halt) : EntryFlaw cs (halt.settle .list)

/-- What is wrong with the next item of a catalog. -/
inductive ItemFlaw (isFirst : Bool) (cs : List Char) : Fault Complaint → Prop where
  | key {fault : Fault Json.Complaint} (stuck : nextKey? isFirst cs = .error fault) :
      ItemFlaw isFirst cs (fault.map .json)
  | identifier {name behind : List Char} (key : nextKey? isFirst cs = .ok (some name, behind))
      (foreign : ∀ id : Uuid, ¬id.Spelled name) :
      ItemFlaw isFirst cs (.here .identifier (attemptEnd .object behind))
  | colon {id : Uuid} {name behind : List Char} {fault : Fault Json.Complaint}
      (key : nextKey? isFirst cs = .ok (some name, behind)) (spelled : id.Spelled name)
      (stuck : Json.colon behind = .error fault) : ItemFlaw isFirst cs (fault.map .json)
  | entry {id : Uuid} {name behind start : List Char} {fault : Fault Complaint}
      (key : nextKey? isFirst cs = .ok (some name, behind)) (spelled : id.Spelled name)
      (colon : Json.colon behind = .ok start) (flaw : EntryFlaw start fault) :
      ItemFlaw isFirst cs fault

/-- Items that are read one after another, and where the reader gets with them. -/
inductive ItemsRead :
    (isFirst : Bool) → (cs : List Char) → (items : List (Uuid × Description)) →
    (first : Bool) → (left : List Char) → Prop where
  | none {isFirst : Bool} {cs : List Char} : ItemsRead isFirst cs [] isFirst cs
  | item {item : Uuid × Description} {items : List (Uuid × Description)} {isFirst first : Bool}
      {cs rest left : List Char} (step : itemStep isFirst cs = .ok (some item, rest))
      (others : ItemsRead false rest items first left) :
      ItemsRead isFirst cs (item :: items) first left

/-- What a catalog is refused for. -/
inductive Refused (cs : List Char) : Fault Complaint → Prop where
  | shape (noObject : ∀ start, Json.skipBlanks cs ≠ '\x7b' :: start) :
      Refused cs ((Json.unexpected "a map" (Json.skipBlanks cs)).map .json)
  | item {items : List (Uuid × Description)} {first : Bool} {start left : List Char}
      {fault : Fault Complaint} (opened : Json.skipBlanks cs = '\x7b' :: start)
      (before : ItemsRead true start items first left) (flaw : ItemFlaw first left fault) :
      Refused cs fault
  | trailing {items : List (Uuid × Description)} {first : Bool} {start left rest : List Char}
      (opened : Json.skipBlanks cs = '\x7b' :: start)
      (before : ItemsRead true start items first left)
      (closed : nextKey? first left = .ok (none, rest)) (more : Json.skipBlanks rest ≠ []) :
      Refused cs (.next (.json .trailingCharacters) (Json.skipBlanks rest))

/-! ## One step of a reading -/

section Steps

variable {d : Draft} {isFirst : Bool} {cs rest : List Char} {field : Field} {halt : Halt}
  {fault : Fault Complaint} {shape : Shape} {what : Complaint}

theorem modeOf_eq_error_iff : modeOf shape = .error what ↔ Modeless shape what := by
  constructor
  · intro refused
    unfold modeOf at refused
    split at refused
    · rename_i n
      cases known : Mode.ofLabel? n with
      | some m => simp [known] at refused
      | none =>
        obtain rfl : _ = what := by simpa [known] using refused
        refine .label fun m same => ?_
        rw [← same, Mode.ofLabel?_label] at known
        contradiction
    · rename_i s
      cases read : Mode.parse (String.ofList s) with
      | ok m => simp [read, Except.mapError] at refused
      | error cause =>
        obtain rfl : _ = what := by simpa [read, Except.mapError] using refused
        exact .name read
    · rename_i noLabel noName
      obtain rfl := Except.error.inj refused
      exact .shape noLabel noName
  · intro modeless
    cases modeless with
    | @label n unknown =>
      have none : Mode.ofLabel? n = none := by
        rw [Mode.ofLabel?, List.find?_eq_none]
        intro m _
        simpa using unknown m
      rw [modeOf, none]
      rfl
    | name unknown =>
      rw [modeOf, unknown]
      rfl
    | shape noLabel noName =>
      unfold modeOf
      split
      · exact absurd rfl (noLabel _)
      · exact absurd rfl (noName _)
      · rfl

theorem readMode_eq_error_iff : readMode cs = .error halt ↔ FieldFlaw .mode cs halt := by
  constructor
  · intro refused
    unfold readMode at refused
    split at refused
    · rename_i stuck
      obtain rfl := Except.error.inj refused
      exact .value stuck
    · rename_i read
      split at refused
      · rename_i modeless
        obtain rfl := Except.error.inj refused
        exact .mode read (modeOf_eq_error_iff.1 modeless)
      · contradiction
  · intro flaw
    cases flaw with
    | text _ noMode => exact absurd rfl noMode
    | value stuck => simp [readMode, stuck]
    | mode read modeless => simp [readMode, read, modeOf_eq_error_iff.2 modeless]

theorem readField_eq_error_iff : readField d field cs = .error halt ↔ FieldFlaw field cs halt := by
  constructor
  · intro refused
    cases field with
    | author =>
      simp only [readField] at refused
      split at refused
      · rename_i stuck
        obtain rfl := Except.error.inj refused
        exact .author stuck
      · contradiction
    | mode =>
      simp only [readField] at refused
      split at refused
      · rename_i stuck
        obtain rfl := Except.error.inj refused
        exact readMode_eq_error_iff.1 stuck
      · contradiction
    | name | signature | description | version | executor | runtime =>
      simp only [readField] at refused
      split at refused
      · rename_i stuck
        obtain rfl := Except.error.inj refused
        exact .text (by decide) (by decide) stuck
      · contradiction
  · intro flaw
    cases field with
    | author =>
      cases flaw with
      | text noAuthor => exact absurd rfl noAuthor
      | author stuck => simp [readField, stuck]
    | mode => simp [readField, readMode_eq_error_iff.2 flaw]
    | name | signature | description | version | executor | runtime =>
      cases flaw with
      | text _ _ stuck => simp [readField, stuck]

theorem readMember_eq_error_iff {name : List Char} :
    readMember d name cs = .error halt ↔ KeyedFlaw d name cs halt := by
  constructor
  · intro refused
    unfold readMember at refused
    split at refused
    · rename_i field known
      split at refused
      · rename_i again
        obtain rfl := Except.error.inj refused
        exact .duplicate known again
      · rename_i notAgain
        have fresh : d.has field = false := by simpa using notAgain
        split at refused
        · rename_i stuck
          obtain rfl := Except.error.inj refused
          refine .colon (fun other same => ?_) stuck
          obtain rfl := Option.some.inj (known.symm.trans same)
          exact fresh
        · rename_i colon
          exact .field known fresh colon (readField_eq_error_iff.1 refused)
    · rename_i unknown
      split at refused
      · rename_i stuck
        obtain rfl := Except.error.inj refused
        refine .colon (fun other same => ?_) stuck
        exact absurd (unknown.symm.trans same) (by simp)
      · rename_i colon
        split at refused
        · rename_i stuck
          obtain rfl := Except.error.inj refused
          exact .other unknown colon stuck
        · contradiction
  · intro flaw
    cases flaw with
    | duplicate known again => simp [readMember, known, again]
    | colon fresh stuck =>
      cases known : Field.ofLabel? name with
      | none => simp [readMember, known, stuck]
      | some field => simp [readMember, known, fresh field known, stuck]
    | field known fresh colon flaw =>
      simp [readMember, known, fresh, colon, readField_eq_error_iff.2 flaw]
    | other unknown colon stuck => simp [readMember, unknown, colon, stuck]

/-- A member is read behind its key. -/
theorem memberStep_eq_nextKey : memberStep d isFirst cs =
    match nextKey? isFirst cs with
    | .error fault => .error (.ofJson fault)
    | .ok (none, rest) => .ok (none, rest)
    | .ok (some name, behind) =>
      match readMember d name behind with
      | .error halt => .error halt
      | .ok (d, rest) => .ok (some d, rest) := by
  unfold memberStep nextKey?
  cases Json.next (.full modeDepth) .object isFirst cs with
  | error fault => rfl
  | ok found =>
    cases found with
    | closed rest => rfl
    | item start =>
      dsimp only
      cases Json.key start <;> rfl

theorem memberStep_eq_error_iff :
    memberStep d isFirst cs = .error halt ↔ MemberFlaw d isFirst cs halt := by
  rw [memberStep_eq_nextKey]
  constructor
  · intro refused
    split at refused
    · rename_i stuck
      obtain rfl := Except.error.inj refused
      exact .key stuck
    · contradiction
    · rename_i key
      split at refused
      · rename_i stuck
        obtain rfl := Except.error.inj refused
        exact .keyed key (readMember_eq_error_iff.1 stuck)
      · contradiction
  · intro flaw
    cases flaw with
    | key stuck => simp [stuck]
    | keyed key flaw => simp [key, readMember_eq_error_iff.2 flaw]

theorem memberStep_eq_none_iff :
    memberStep d isFirst cs = .ok (none, rest) ↔ nextKey? isFirst cs = .ok (none, rest) := by
  rw [memberStep_eq_nextKey]
  constructor
  · intro closed
    split at closed
    · contradiction
    · rename_i key
      obtain ⟨-, rfl⟩ := Prod.mk.inj (Except.ok.inj closed)
      exact key
    · split at closed
      · contradiction
      · simp at closed
  · intro key
    simp [key]

end Steps

/-! ## Runs of a reading -/

section Runs

variable {d more : Draft} {isFirst first : Bool} {cs left rest : List Char} {halt : Halt}
  {fields others : List Field} {fault : Fault Complaint} {items seen : List (Uuid × Description)}

theorem readMembers_of_error (stuck : memberStep d isFirst cs = .error halt) :
    readMembers d isFirst cs = .error halt := by
  rw [readMembers]
  split <;> simp_all

/-- Where members have been read, the rest of the object decides. -/
theorem MembersRead.readMembers_eq (read : MembersRead d isFirst cs more first left) :
    readMembers d isFirst cs = readMembers more first left := by
  induction read with
  | none => rfl
  | member step _ ih => rw [readMembers_of_member step, ih]

/-- The members of an object are read until its bracket is closed or one of them has a flaw. -/
theorem MembersRead.exists_end (d : Draft) (isFirst : Bool) (cs : List Char) :
    ∃ more first left, MembersRead d isFirst cs more first left ∧
      ∀ next rest, memberStep more first left ≠ .ok (some next, rest) := by
  fun_induction readMembers d isFirst cs with
  | case1 d isFirst cs halt stuck => exact ⟨d, isFirst, cs, .none, by simp [stuck]⟩
  | case2 d isFirst cs rest closed => exact ⟨d, isFirst, cs, .none, by simp [closed]⟩
  | case3 d isFirst cs next rest step _ ih =>
    obtain ⟨more, first, left, others, stops⟩ := ih
    exact ⟨more, first, left, .member step others, stops⟩

theorem close_eq_error_iff {complaint : Field → Complaint} : close d complaint rest = .error halt ↔
    ∃ field, d.missing? = some field ∧ halt = .settled (.here (complaint field) rest) := by
  unfold close
  split
  · rename_i field lacks
    simp [lacks, eq_comm]
  · rename_i complete
    simp [complete]

theorem ObjectFlaw.readMembers_eq (flaw : ObjectFlaw d isFirst cs halt) :
    readMembers d isFirst cs = .error halt := by
  cases flaw with
  | member flaw => exact readMembers_of_error (memberStep_eq_error_iff.2 flaw)
  | missing closed lacks =>
    rw [readMembers_of_close (memberStep_eq_none_iff.2 closed), close_eq_error_iff]
    exact ⟨_, lacks, rfl⟩

theorem readMembers_eq_error_iff : readMembers d isFirst cs = .error halt ↔
    ∃ more first left, MembersRead d isFirst cs more first left ∧
      ObjectFlaw more first left halt := by
  constructor
  · intro refused
    obtain ⟨more, first, left, read, stops⟩ := MembersRead.exists_end d isFirst cs
    refine ⟨more, first, left, read, ?_⟩
    rw [read.readMembers_eq] at refused
    match step : memberStep more first left with
    | .error other =>
      rw [readMembers_of_error step] at refused
      obtain rfl := Except.error.inj refused
      exact .member (memberStep_eq_error_iff.1 step)
    | .ok (none, rest) =>
      rw [readMembers_of_close step, close_eq_error_iff] at refused
      obtain ⟨field, lacks, rfl⟩ := refused
      exact .missing (memberStep_eq_none_iff.1 step) lacks
    | .ok (some next, rest) => exact absurd step (stops next rest)
  · rintro ⟨more, first, left, read, flaw⟩
    rw [read.readMembers_eq, flaw.readMembers_eq]

theorem ListEnd.readItems_eq (closed : ListEnd isFirst fields cs rest) :
    readItems d isFirst fields cs = close d (fun field => .tooShort field.position) rest := by
  cases closed with
  | full closed => simp [readItems, closed]
  | early closed => simp [readItems, closed]

theorem ListFlaw.of_close (closed : ListEnd isFirst fields cs rest)
    (refused : close d (fun field => .tooShort field.position) rest = .error halt) :
    ListFlaw d isFirst fields cs halt := by
  obtain ⟨field, lacks, rfl⟩ := close_eq_error_iff.1 refused
  exact .tooShort closed lacks

theorem ListFlaw.readItems_eq (flaw : ListFlaw d isFirst fields cs halt) :
    readItems d isFirst fields cs = .error halt := by
  cases flaw with
  | tooLong stuck => simp [readItems, stuck]
  | comma stuck => simp [readItems, stuck]
  | field found flaw => simp [readItems, found, readField_eq_error_iff.2 flaw]
  | tooShort closed lacks =>
    rw [closed.readItems_eq, close_eq_error_iff]
    exact ⟨_, lacks, rfl⟩

/-- Where fields have been read, the rest of the list decides. -/
theorem ElementsRead.readItems_eq
    (read : ElementsRead d isFirst fields cs more first others left) :
    readItems d isFirst fields cs = readItems more first others left := by
  induction read with
  | none => rfl
  | field found read _ ih => simp only [readItems, found, read, ih]

theorem readItems_eq_error_iff : readItems d isFirst fields cs = .error halt ↔
    ∃ more first others left, ElementsRead d isFirst fields cs more first others left ∧
      ListFlaw more first others left halt := by
  constructor
  · intro refused
    induction fields generalizing d isFirst cs with
    | nil =>
      refine ⟨d, isFirst, [], cs, .none, ?_⟩
      simp only [readItems] at refused
      split at refused
      · rename_i stuck
        obtain rfl := Except.error.inj refused
        exact .tooLong stuck
      · rename_i closed
        exact .of_close (.full closed) refused
    | cons field fields ih =>
      simp only [readItems] at refused
      split at refused
      · rename_i stuck
        obtain rfl := Except.error.inj refused
        exact ⟨d, isFirst, _, cs, .none, .comma stuck⟩
      · rename_i closed
        exact ⟨d, isFirst, _, cs, .none, .of_close (.early closed) refused⟩
      · rename_i found
        split at refused
        · rename_i stuck
          obtain rfl := Except.error.inj refused
          exact ⟨d, isFirst, _, cs, .none, .field found (readField_eq_error_iff.1 stuck)⟩
        · rename_i read
          obtain ⟨more, first, others, left, elements, flaw⟩ := ih refused
          exact ⟨more, first, others, left, .field found read elements, flaw⟩
  · rintro ⟨more, first, others, left, read, flaw⟩
    rw [read.readItems_eq, flaw.readItems_eq]

theorem mapError_eq_error_iff {ε δ α : Type} {f : ε → δ} {x : Except ε α} {e : δ} :
    x.mapError f = .error e ↔ ∃ cause, x = .error cause ∧ e = f cause := by
  cases x with
  | error cause => simp [Except.mapError, eq_comm]
  | ok a => simp [Except.mapError]

theorem readEntry_eq_error_iff : readEntry cs = .error fault ↔ EntryFlaw cs fault := by
  constructor
  · intro refused
    unfold readEntry at refused
    split at refused
    · rename_i opened
      obtain ⟨halt, stuck, rfl⟩ := mapError_eq_error_iff.1 refused
      obtain ⟨d, first, left, before, flaw⟩ := readMembers_eq_error_iff.1 stuck
      exact .object opened before flaw
    · rename_i opened
      obtain ⟨halt, stuck, rfl⟩ := mapError_eq_error_iff.1 refused
      obtain ⟨d, first, fields, left, before, flaw⟩ := readItems_eq_error_iff.1 stuck
      exact .list opened before flaw
    · rename_i noObject noList
      obtain rfl := Except.error.inj refused
      exact .shape noObject noList
  · intro flaw
    cases flaw with
    | shape noObject noList =>
      unfold readEntry
      split
      · rename_i opened
        exact absurd opened (noObject _)
      · rename_i opened
        exact absurd opened (noList _)
      · rfl
    | object opened before flaw =>
      simp only [readEntry, opened]
      exact mapError_eq_error_iff.2 ⟨_, readMembers_eq_error_iff.2 ⟨_, _, _, before, flaw⟩, rfl⟩
    | list opened before flaw =>
      simp only [readEntry, opened]
      exact mapError_eq_error_iff.2 ⟨_, readItems_eq_error_iff.2 ⟨_, _, _, _, before, flaw⟩, rfl⟩

/-- An item is read behind its key. -/
theorem itemStep_eq_nextKey : itemStep isFirst cs =
    match nextKey? isFirst cs with
    | .error fault => .error (fault.map .json)
    | .ok (none, rest) => .ok (none, rest)
    | .ok (some name, behind) =>
      match Uuid.ofChars? name with
      | none => .error (.here .identifier (attemptEnd .object behind))
      | some id =>
        match Json.colon behind with
        | .error fault => .error (fault.map .json)
        | .ok start =>
          match readEntry start with
          | .error fault => .error fault
          | .ok (description, rest) => .ok (some (id, description), rest) := by
  unfold itemStep nextKey?
  cases Json.next (.full modeDepth) .object isFirst cs with
  | error fault => rfl
  | ok found =>
    cases found with
    | closed rest => rfl
    | item start =>
      dsimp only
      cases Json.key start <;> rfl

theorem itemStep_eq_error_iff : itemStep isFirst cs = .error fault ↔ ItemFlaw isFirst cs fault := by
  rw [itemStep_eq_nextKey]
  constructor
  · intro refused
    split at refused
    · rename_i stuck
      obtain rfl := Except.error.inj refused
      exact .key stuck
    · contradiction
    · rename_i key
      split at refused
      · rename_i foreign
        obtain rfl := Except.error.inj refused
        exact .identifier key (Uuid.ofChars?_eq_none_iff.1 foreign)
      · rename_i read
        have spelled := Uuid.ofChars?_eq_some_iff.1 read
        split at refused
        · rename_i stuck
          obtain rfl := Except.error.inj refused
          exact .colon key spelled stuck
        · rename_i colon
          split at refused
          · rename_i stuck
            obtain rfl := Except.error.inj refused
            exact .entry key spelled colon (readEntry_eq_error_iff.1 stuck)
          · contradiction
  · intro flaw
    cases flaw with
    | key stuck => simp [stuck]
    | identifier key foreign => simp [key, Uuid.ofChars?_eq_none_iff.2 foreign]
    | colon key spelled stuck => simp [key, spelled.read, stuck]
    | entry key spelled colon flaw =>
      simp [key, spelled.read, colon, readEntry_eq_error_iff.2 flaw]

theorem itemStep_eq_none_iff :
    itemStep isFirst cs = .ok (none, rest) ↔ nextKey? isFirst cs = .ok (none, rest) := by
  rw [itemStep_eq_nextKey]
  constructor
  · intro closed
    split at closed
    · contradiction
    · rename_i key
      obtain ⟨-, rfl⟩ := Prod.mk.inj (Except.ok.inj closed)
      exact key
    · repeat' split at closed
      all_goals simp at closed
  · intro key
    simp [key]

theorem readItemsFrom_of_error (stuck : itemStep isFirst cs = .error fault) :
    readItemsFrom seen isFirst cs = .error fault := by
  rw [readItemsFrom]
  split <;> simp_all

/-- Where items have been read, the rest of the catalog decides. -/
theorem ItemsRead.readItemsFrom_eq (read : ItemsRead isFirst cs items first left) :
    readItemsFrom seen isFirst cs = readItemsFrom (items.reverse ++ seen) first left := by
  induction read generalizing seen with
  | none => rfl
  | item step _ ih =>
    rw [readItemsFrom_of_item step, ih]
    simp

/-- The items of a catalog are read until its bracket is closed or one of them has a flaw. -/
theorem ItemsRead.exists_end (isFirst : Bool) (cs : List Char) :
    ∃ items first left, ItemsRead isFirst cs items first left ∧
      ∀ item rest, itemStep first left ≠ .ok (some item, rest) := by
  fun_induction readItemsFrom [] isFirst cs with
  | case1 seen isFirst cs fault stuck => exact ⟨[], isFirst, cs, .none, by simp [stuck]⟩
  | case2 seen isFirst cs rest closed => exact ⟨[], isFirst, cs, .none, by simp [closed]⟩
  | case3 seen isFirst cs item rest step _ ih =>
    obtain ⟨items, first, left, others, stops⟩ := ih
    exact ⟨item :: items, first, left, .item step others, stops⟩

/-- What a document is refused for is a flaw of it. -/
theorem document_eq_error_iff : document cs = .error fault ↔ Refused cs fault := by
  constructor
  · intro refused
    unfold document at refused
    split at refused
    · rename_i start opened
      obtain ⟨items, first, left, before, stops⟩ := ItemsRead.exists_end true start
      rw [before.readItemsFrom_eq] at refused
      match step : itemStep first left with
      | .error other =>
        simp only [readItemsFrom_of_error step] at refused
        obtain rfl := Except.error.inj refused
        exact .item opened before (itemStep_eq_error_iff.1 step)
      | .ok (none, rest) =>
        simp only [readItemsFrom_of_close step] at refused
        split at refused
        · contradiction
        · rename_i more
          obtain rfl := Except.error.inj refused
          exact .trailing opened before (itemStep_eq_none_iff.1 step) more
      | .ok (some item, rest) => exact absurd step (stops item rest)
    · rename_i noObject
      obtain rfl := Except.error.inj refused
      exact .shape noObject
  · intro flaw
    cases flaw with
    | shape noObject =>
      unfold document
      split
      · rename_i opened
        exact absurd opened (noObject _)
      · rfl
    | item opened before flaw =>
      simp [document, opened, before.readItemsFrom_eq,
        readItemsFrom_of_error (itemStep_eq_error_iff.2 flaw)]
    | @trailing items first start left rest opened before closed more =>
      simp only [document, opened, before.readItemsFrom_eq,
        readItemsFrom_of_close (itemStep_eq_none_iff.2 closed)]

end Runs

/-! ## Selecting -/

section Selecting

variable {text : String} {minimum low high : Mode} {few : Roster} {failure : SessionFailure}

theorem roster_eq_error_iff : roster text = .error failure ↔
    ∃ fault, Refused text.toList fault ∧ failure = .catalog (faultMessage text.toList fault) := by
  unfold roster
  cases read : document text.toList with
  | error fault =>
    constructor
    · intro same
      obtain rfl := Except.error.inj same
      exact ⟨fault, document_eq_error_iff.1 read, rfl⟩
    · rintro ⟨other, refused, rfl⟩
      obtain rfl := Except.error.inj (read.symm.trans (document_eq_error_iff.2 refused))
      rfl
  | ok items =>
    constructor
    · intro same
      contradiction
    · rintro ⟨fault, refused, -⟩
      have never := read.symm.trans (document_eq_error_iff.2 refused)
      contradiction

theorem parse_eq_error_iff :
    parse text minimum = .error failure ↔ roster text = .error failure := by
  unfold parse
  cases roster text <;> simp [Except.map]

theorem parse_eq_ok_iff : parse text minimum = .ok few ↔
    ∃ all, roster text = .ok all ∧ few = all.filter (isSelected minimum) := by
  unfold parse
  cases roster text <;> simp [Except.map, eq_comm]

/-- At the lowest minimum a catalog is taken as it is. -/
theorem parse_undefined (text : String) : parse text .undefined = roster text := by
  unfold parse
  cases roster text with
  | error failure => rfl
  | ok functions => simp only [Except.map, filter_undefined]

/-- What a higher minimum selects is selected from what a lower one does. -/
theorem filter_isSelected (ascending : low.label ≤ high.label) (functions : Roster) :
    (functions.filter (isSelected low)).filter (isSelected high) =
      functions.filter (isSelected high) := by
  rw [List.filter_filter]
  apply List.filter_congr
  intro f _
  by_cases above : high ≤ f.description.mode
  · have : low ≤ f.description.mode := Nat.le_trans ascending above
    simp [isSelected, above, this]
  · simp [isSelected, above]

/-- What a minimum mode does to the functions of a text. -/
structure Selection (text : String) : Prop where
  /-- A text that one minimum accepts is accepted by all. -/
  accepted (minimum : Mode) :
    (∃ few, parse text minimum = .ok few) ↔ ∃ all, parse text .undefined = .ok all
  /-- A text that is refused is refused in the same words for every minimum. -/
  refused (minimum : Mode) (failure : SessionFailure) :
    parse text minimum = .error failure ↔ parse text .undefined = .error failure
  /-- A text is refused for a flaw, wherever in it the flaw stands, and for nothing else. -/
  flawed (minimum : Mode) (failure : SessionFailure) : parse text minimum = .error failure ↔
    ∃ fault, Refused text.toList fault ∧ failure = .catalog (faultMessage text.toList fault)
  /-- Of a refused text nothing is reported either. -/
  silent {minimum : Mode} {failure : SessionFailure} (fails : parse text minimum = .error failure) :
    parseEvents text minimum = []
  /-- Those functions are selected whose mode is not below the minimum. -/
  selected {all : Roster} (accepts : parse text .undefined = .ok all) (minimum : Mode) :
    parse text minimum = .ok (all.filter fun f => minimum.label ≤ f.description.mode.label)
  /-- Only the last entry with an identifier can be selected: one that is below the minimum takes
  those in front of it along. -/
  last {minimum : Mode} {few : Roster} (accepts : parse text minimum = .ok few) :
    Roster.IsSorted few ∧ ∃ items, document text.toList = .ok items ∧ ∀ f, f ∈ few ↔
      Roster.last? (items.map fun (id, description) => .new id description) f.id = some f ∧
        minimum.label ≤ f.description.mode.label
  /-- A higher minimum leaves functions out and changes nothing else. -/
  narrows {low high : Mode} {many : Roster} (ascending : low.label ≤ high.label)
      (accepts : parse text low = .ok many) :
    ∃ few, parse text high = .ok few ∧ few.Sublist many ∧
      few = many.filter fun f => high.label ≤ f.description.mode.label

/-- The minimum mode only selects: whether a text is accepted does not depend on it. -/
theorem parse_selects (text : String) : Selection text where
  accepted minimum := by
    simp only [parse_eq_ok_iff, parse_undefined]
    constructor
    · rintro ⟨few, all, read, -⟩
      exact ⟨all, read⟩
    · rintro ⟨all, read⟩
      exact ⟨_, all, read, rfl⟩
  refused minimum failure := by rw [parse_undefined, parse_eq_error_iff]
  flawed minimum failure := by rw [parse_eq_error_iff, roster_eq_error_iff]
  silent fails := by
    rw [parse_eq_error_iff] at fails
    rw [parseEvents, fails]
  selected accepts minimum := by
    rw [parse_undefined] at accepts
    exact parse_eq_ok_iff.2 ⟨_, accepts, rfl⟩
  last {minimum few} accepts := by
    obtain ⟨all, read, rfl⟩ := parse_eq_ok_iff.1 accepts
    unfold roster at read
    split at read
    · contradiction
    · rename_i items whole
      obtain rfl := Except.ok.inj read
      refine ⟨(Roster.isSorted_ofList _).filter _, items, whole, fun f => ?_⟩
      rw [List.mem_filter, Roster.mem_ofList_iff]
      exact and_congr_right fun _ => decide_eq_true_iff
  narrows {low high many} ascending accepts := by
    obtain ⟨all, read, rfl⟩ := parse_eq_ok_iff.1 accepts
    have selects := filter_isSelected ascending all
    refine ⟨_, parse_eq_ok_iff.2 ⟨all, read, rfl⟩, ?_, selects.symm⟩
    rw [← selects]
    exact List.filter_sublist

/-- A key that spells no identifier, above an entry that no minimum gets to see. -/
example (minimum : Mode) : parse "\x7b\"x\":[]\x7d" minimum =
    .error (.catalog "UUID parsing failed at line 1 column 4") := by
  let behind := [':', '[', ']', '\x7d']
  have inside : Json.Inside ['x'] ('x' :: '"' :: behind) behind := .itself (by decide)
  have key : nextKey? true ('"' :: 'x' :: '"' :: behind) = .ok (some ['x'], behind) := by
    simp [nextKey?, Json.next, Json.skipBlanks, Json.isBlank, Json.Bracket.closing, Json.key,
      inside.text_eq]
  have foreign : Uuid.ofChars? ['x'] = none := by decide
  have refused : Refused "\x7b\"x\":[]\x7d".toList _ :=
    .item rfl .none (.identifier key (Uuid.ofChars?_eq_none_iff.1 foreign))
  exact parse_eq_error_iff.2 (roster_eq_error_iff.2 ⟨_, refused, by decide⟩)

end Selecting

end Catalog

end FunctionAgent
