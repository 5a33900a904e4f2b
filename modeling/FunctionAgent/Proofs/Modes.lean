import FunctionAgent.Proofs.Keys
import FunctionAgent.Proofs.Numerals
/-!
# Modes in a catalog

A mode is written in a catalog as a value of its own, and the values that stand for it are numerals
of its label and texts that say it (`ModeValue`). Whatever else stands there is refused, and the
whole catalog with it: what comes before the value is read without a look at it, and what comes
behind it does not depend on which mode it is.
-/

set_option autoImplicit false

namespace FunctionAgent

open FunctionAgent.Text

namespace Json

variable {n : Numeral} {limit acc k : Nat} {c : Char} {cs ds start left rest : List Char}

theorem isDigit_eq (c : Char) : isDigit c = c.isDigit := by
  rw [isDigit, digit?_eq]
  cases c.isDigit <;> rfl

/-- Digits are taken in whole if what they are worth lies within the limit. -/
theorem Numeral.absorb_eq_iff (within : acc ≤ limit) (digits : ∀ c ∈ ds, isDigit c = true) :
    absorb limit acc ds = (k, []) ↔ Nat.ofDigitChars 10 ds acc = k ∧ k ≤ limit := by
  induction ds generalizing acc with
  | nil =>
    simp only [absorb, Prod.mk.injEq, and_true, Nat.ofDigitChars_nil]
    constructor
    · rintro rfl
      exact ⟨rfl, within⟩
    · exact And.left
  | cons c ds ih =>
    obtain ⟨digit, others⟩ := List.forall_mem_cons.1 digits
    rw [isDigit_eq] at digit
    have value : (digit? c).getD 0 = c.toNat - '0'.toNat := by
      rw [digit?_eq, if_pos digit]
      rfl
    rw [absorb, value, Nat.ofDigitChars_cons]
    have grows := le_ofDigitChars (10 * acc + (c.toNat - '0'.toNat)) ds
    split
    · constructor
      · intro left
        simp at left
      · rintro ⟨rfl, small⟩
        omega
    · exact ih (by omega) others

theorem Numeral.natural?_eq_some_iff (digits : ∀ c ∈ n.whole, isDigit c = true) :
    n.natural? = some k ↔ n.fraction = none ∧ n.exponent = none ∧
      Nat.ofDigitChars 10 n.whole 0 = k ∧ k ≤ word64Max := by
  rw [← absorb_eq_iff (Nat.zero_le _) digits]
  unfold natural?
  split
  · rename_i value fraction exponent all
    simp [fraction, exponent, all]
  · rename_i other
    constructor
    · intro found
      contradiction
    · rintro ⟨fraction, exponent, all⟩
      exact absurd all (other k fraction exponent)

/-- A numeral that is rounded is no natural number. -/
theorem Numeral.real_ne_natural : n.real rest ≠ .ok (.natural k) := by
  unfold real
  split
  dsimp only
  split
  · split <;> simp
  · split
    · split <;> simp
    · split <;> simp

/-- A numeral is a natural number just if it is nothing but digits that are worth it. -/
theorem Numeral.number_eq_natural_iff (digits : ∀ c ∈ n.whole, isDigit c = true) :
    n.number rest = .ok (.natural k) ↔ n = ⟨false, n.whole, none, none⟩ ∧
      Nat.ofDigitChars 10 n.whole 0 = k ∧ k ≤ word64Max := by
  have parts : n = ⟨false, n.whole, none, none⟩ ↔
      n.isNegative = false ∧ n.fraction = none ∧ n.exponent = none := by
    cases n
    simp
  rw [parts, and_assoc, and_assoc, ← natural?_eq_some_iff digits]
  unfold number
  cases n.natural? with
  | none => simp [real_ne_natural]
  | some value =>
    cases n.isNegative with
    | false => simp
    | true =>
      have other : ¬(true = false) := by decide
      simp only [if_neg other]
      split <;> simp [real_ne_natural]

section Values

variable {b : Bracket} {s : Scalar} {shape : Shape}

theorem Figure.digits (figure : Figure n cs rest) : ∀ c ∈ n.whole, isDigit c = true := by
  have magnitude {isNegative : Bool} {cs : List Char} (magnitude : Magnitude isNegative n cs rest) :
      ∀ c ∈ n.whole, isDigit c = true := by
    cases magnitude with
    | parts whole =>
      cases whole with
      | zero => simp; rfl
      | digits digits => exact digits.all
  cases figure with
  | plain parts => exact magnitude parts
  | negative parts => exact magnitude parts

theorem not_figure_quote : ¬Figure n ('"' :: cs) rest := by
  intro figure
  obtain ⟨_, _, same, start⟩ := figure.head
  obtain ⟨rfl, -⟩ := List.cons.inj same
  rcases start with minus | digit
  · simp at minus
  · cases digit

/-- A value that starts like a scalar is read as one. -/
theorem value_eq_scalar (visible : isBlank c = false) (noList : c ≠ '[') (noObject : c ≠ '\x7b') :
    value limit (c :: cs) = (scalar (c :: cs)).map fun (s, left) => (.scalar s, left) := by
  have skipped : skipBlanks (c :: cs) = c :: cs := skipBlanks_cons visible
  have entered : enter (.full limit) [] (c :: cs) =
      (scalar (c :: cs)).map fun (_, left) => (none, left) := by
    unfold enter
    rw [skipped]
    split <;> simp_all
  rw [value, entered, skipped]
  cases scalar (c :: cs) <;> rfl

/-- A value in brackets is no scalar. -/
theorem value_bracket_ne_scalar : value limit (b.opening :: cs) ≠ .ok (.scalar s, left) := by
  have visible : isBlank b.opening = false := by cases b <;> rfl
  have skipped : skipBlanks (b.opening :: cs) = b.opening :: cs := skipBlanks_cons visible
  have entered : enter (.full limit) [] (b.opening :: cs) = .ok (some b, cs) ∨
      ∃ fault, enter (.full limit) [] (b.opening :: cs) = .error fault := by
    unfold enter
    rw [skipped]
    cases b <;> simp only [Bracket.opening] <;> split <;> simp
  intro read
  unfold value at read
  rcases entered with entered | ⟨fault, entered⟩
  · rw [entered] at read
    cases b with
    | list | object =>
      obtain ⟨_, _, same⟩ := eq_ok_of_map_eq_ok read
      cases same
  · rw [entered] at read
    contradiction

theorem Blanks.value_eq (blanks : Blanks start cs) : value limit start = value limit cs := by
  simp only [value, blanks.enter_eq, blanks.skip]

end Values

end Json

namespace Catalog

open FunctionAgent.Json

/-- A value that stands for a mode: a numeral of its label, or a text that says it. -/
inductive ModeValue (mode : Mode) : (cs rest : List Char) → Prop where
  | label {ds cs rest : List Char} (figure : Figure ⟨false, ds, none, none⟩ cs rest)
      (worth : Nat.ofDigitChars 10 ds 0 = mode.label) : ModeValue mode cs rest
  | text {s cs rest : List Char} (inside : Inside s cs rest) (said : mode.Said (trimmed s)) :
      ModeValue mode ('"' :: cs) rest

section Values

variable {mode : Mode} {c : Char} {cs v start left rest : List Char}

theorem modeOf_natural_eq_ok_iff {k : Nat} :
    modeOf (.scalar (.number (.natural k))) = .ok mode ↔ k = mode.label := by
  rw [← Mode.ofLabel?_eq_some_iff, modeOf]
  cases Mode.ofLabel? k <;> simp

theorem modeOf_text_eq_ok_iff {s : List Char} :
    modeOf (.scalar (.text s)) = .ok mode ↔ mode.Said (trimmed s) := by
  have said : Mode.parse (String.ofList s) = .ok mode ↔ _ := Mode.parse_eq_ok_iff
  rw [String.toList_ofList] at said
  rw [← said, modeOf]
  cases Mode.parse (String.ofList s) <;> simp [Except.mapError]

theorem readMode_eq_ok_iff_value : readMode cs = .ok (mode, left) ↔
    ∃ shape, value modeDepth cs = .ok (shape, left) ∧ modeOf shape = .ok mode := by
  unfold readMode
  constructor
  · intro read
    split at read
    · contradiction
    · rename_i shape behind found
      split at read
      · contradiction
      · rename_i meant
        obtain ⟨rfl, rfl⟩ := Prod.mk.inj (Except.ok.inj read)
        exact ⟨shape, found, meant⟩
  · rintro ⟨shape, found, meant⟩
    simp [found, meant]

theorem readMode_scalar_iff (visible : Json.isBlank c = false) (noList : c ≠ '[')
    (noObject : c ≠ '\x7b') : readMode (c :: cs) = .ok (mode, left) ↔
      ∃ s, scalar (c :: cs) = .ok (s, left) ∧ modeOf (.scalar s) = .ok mode := by
  rw [readMode_eq_ok_iff_value, value_eq_scalar visible noList noObject]
  cases scalar (c :: cs) with
  | error fault => simp [Except.map]
  | ok found =>
    obtain ⟨s, behind⟩ := found
    simp [Except.map]

/-- A value that stands for a mode starts with a digit or a quote. -/
theorem ModeValue.head (value : ModeValue mode (c :: cs) rest) : c = '"' ∨ isDigit c = true := by
  cases value with
  | text => exact .inl rfl
  | label figure =>
    cases figure with
    | plain magnitude =>
      cases magnitude with
      | parts whole =>
        obtain ⟨d, left, same, digit⟩ := whole.head
        obtain ⟨rfl, -⟩ := List.cons.inj same
        exact .inr digit
    | negative magnitude => cases magnitude

/-- A text stands for the mode that it says. -/
theorem modeValue_text_iff {s : List Char} (inside : Inside s cs rest) :
    ModeValue mode ('"' :: cs) rest ↔ Mode.parse (String.ofList s) = .ok mode := by
  rw [Mode.parse_eq_ok_iff, String.toList_ofList]
  constructor
  · intro stands
    cases stands with
    | label figure => exact absurd figure not_figure_quote
    | text again said =>
      -- The same characters are no two texts.
      have same := Except.ok.inj (inside.text_eq.symm.trans again.text_eq)
      obtain ⟨rfl, -⟩ := Prod.mk.inj same
      exact said
  · exact .text inside

/-- A numeral is read as a mode just if it is nothing but digits that are worth its label. -/
theorem readMode_figure_iff {n : Numeral} (figure : Figure n v rest) (delimited : Delimited rest) :
    readMode v = .ok (mode, left) ↔ ModeValue mode v rest ∧ left = rest := by
  have parts := figure.read delimited
  have digits := figure.digits
  obtain ⟨c, cs, rfl, start⟩ := figure.head
  obtain ⟨visible, noList, noObject, -, noText, noNull, noTrue, noFalse⟩ := numeral_start start
  have read : scalar (c :: cs) = (n.number rest).map fun k => (.number k, rest) := by
    have taken : number (c :: cs) = (n.number rest).map fun k => (k, rest) := by
      simp only [number, parts]
      cases n.number rest <;> rfl
    unfold scalar
    split <;> simp_all
    cases n.number rest <;> rfl
  rw [readMode_scalar_iff visible noList noObject, read]
  constructor
  · rintro ⟨s, found, meant⟩
    obtain ⟨k, counted, same⟩ := eq_ok_of_map_eq_ok found
    obtain ⟨rfl, rfl⟩ := Prod.mk.inj same
    cases k with
    | natural k =>
      obtain ⟨plain, worth, -⟩ := (Numeral.number_eq_natural_iff digits).1 counted
      rw [modeOf_natural_eq_ok_iff.1 meant] at worth
      rw [plain] at figure
      exact ⟨.label figure worth, rfl⟩
    | negative | real => cases meant
  · rintro ⟨stands, rfl⟩
    cases stands with
    | text => exact absurd rfl noText
    | @label ds _ _ other worth =>
      -- The same characters are no two numerals.
      have same := Except.ok.inj (parts.symm.trans (other.read delimited))
      obtain ⟨rfl, -⟩ := Prod.mk.inj same
      have small : mode.label ≤ word64Max := by cases mode <;> decide
      have counted : Numeral.number ⟨false, ds, none, none⟩ left = .ok (.natural mode.label) :=
        (Numeral.number_eq_natural_iff digits).2 ⟨rfl, worth, small⟩
      exact ⟨.number (.natural mode.label), by rw [counted]; rfl, modeOf_natural_eq_ok_iff.2 rfl⟩

/-- A text is read as a mode just if it says it. -/
theorem readMode_text_iff (unread : Unread cs rest) :
    readMode ('"' :: cs) = .ok (mode, left) ↔ ModeValue mode ('"' :: cs) rest ∧ left = rest := by
  have read : scalar ('"' :: cs) = (text cs).map fun found => (.text found.1, found.2) := rfl
  rw [readMode_scalar_iff (by decide) (by decide) (by decide), read]
  constructor
  · rintro ⟨_, found, meant⟩
    obtain ⟨⟨s, behind⟩, spelled, same⟩ := eq_ok_of_map_eq_ok found
    obtain ⟨rfl, rfl⟩ := Prod.mk.inj same
    have inside := text_eq_ok_iff.1 spelled
    obtain rfl := unread.eq_of_inside inside
    exact ⟨.text inside (modeOf_text_eq_ok_iff.1 meant), rfl⟩
  · rintro ⟨stands, rfl⟩
    cases stands with
    | @text s _ _ inside said =>
      exact ⟨.text s, by rw [inside.text_eq]; rfl, modeOf_text_eq_ok_iff.2 said⟩
    | label figure => exact absurd figure not_figure_quote

/-- A value is read as a mode just if it stands for it. -/
theorem readMode_eq_ok_iff (valid : Valid .value v rest) (delimited : Delimited rest) :
    readMode v = .ok (mode, left) ↔ ModeValue mode v rest ∧ left = rest := by
  cases valid with
  | number figure => exact readMode_figure_iff figure delimited
  | text unread => exact readMode_text_iff unread
  | null | yes | no =>
    rw [readMode_scalar_iff (by decide) (by decide) (by decide)]
    constructor
    · rintro ⟨s, read, meant⟩
      obtain ⟨rfl, -⟩ := Prod.mk.inj (Except.ok.inj read)
      cases meant
    · rintro ⟨stands, -⟩
      rcases stands.head with quote | digit
      · simp at quote
      · cases digit
  | @bracket b cs _ items =>
    rw [readMode_eq_ok_iff_value]
    constructor
    · rintro ⟨shape, found, meant⟩
      cases shape with
      | scalar s => exact absurd found value_bracket_ne_scalar
      | list | object => cases meant
    · rintro ⟨stands, -⟩
      rcases stands.head with quote | digit
      · cases b <;> simp [Bracket.opening] at quote
      · cases b <;> cases digit

end Values

/-! ## Where a mode stands -/

/-- Puts a mode into a draft. -/
def Draft.withMode (d : Draft) (mode : Mode) : Draft := { d with mode := some mode }

/-- The place of a mode in an entry, when the fields of a draft have been read in front of it:
behind its key in an object, or as the last field of a list. -/
inductive ModePlace (d : Draft) (slot : List Char) : Bracket → (cs : List Char) → Prop where
  | object {first : Bool} {cs start left key behind : List Char}
      (opened : Blanks cs ('\x7b' :: start)) (before : MembersRead .empty true start d first left)
      (gap : Gap first left ('"' :: key)) (label : Inside Field.mode.label.toList key behind)
      (fresh : d.mode = none) (colon : Blanks behind (':' :: slot)) : ModePlace d slot .object cs
  | list {first : Bool} {cs start left : List Char} (opened : Blanks cs ('[' :: start))
      (before : ElementsRead .empty true Field.all start d first [.mode] left)
      (gap : Gap first left slot) : ModePlace d slot .list cs

/-- Reads an entry on behind its mode. -/
def readBehind : Bracket → Draft → List Char → Except Halt (Description × List Char)
  | .object, d, cs => readMembers d false cs
  | .list, d, cs => readItems d false [] cs

/-- The place of an entry in a catalog, when some items have been read in front of it. -/
inductive EntryPlace (before : List (Uuid × Description)) (id : Uuid) (entry cs : List Char) :
    Prop where
  | behind {first : Bool} {start left name key behind : List Char}
      (opened : Blanks cs ('\x7b' :: start)) (items : ItemsRead true start before first left)
      (gap : Gap first left ('"' :: key)) (label : Inside name key behind)
      (spelled : id.Spelled name) (colon : Blanks behind (':' :: entry)) :
      EntryPlace before id entry cs

/-- A catalog that would be accepted but for the value that stands for the mode of one entry: with a
mode there, this entry is described in the given way up to the mode, between the others. -/
inductive Vacant (before : List (Uuid × Description)) (id : Uuid) (description : Description)
    (after : List (Uuid × Description)) (v rest cs : List Char) : Prop where
  | mode {b : Bracket} {d : Draft} {entry slot behind left : List Char}
      (catalog : EntryPlace before id entry cs) (place : ModePlace d slot b entry)
      (blanks : Blanks slot v) (valid : Valid .value v rest)
      (read : readBehind b (d.withMode description.mode) rest = .ok (description, behind))
      (items : readItemsFrom [] false behind = .ok (after, left)) (ends : Blanks left []) :
      Vacant before id description after v rest cs

section Places

variable {b : Bracket} {d e : Draft} {mode other : Mode} {isFirst : Bool} {field : Field}
  {description : Description} {before after items seen : List (Uuid × Description)} {id : Uuid}
  {cs entry slot v name behind left rest : List Char}

theorem Draft.has_withMode (given : d.mode.isSome) (mode : Mode) (field : Field) :
    (d.withMode mode).has field = d.has field := by
  cases field with
  | mode => exact given.symm
  | _ => rfl

theorem Draft.missing?_withMode (given : d.mode.isSome) (mode : Mode) :
    (d.withMode mode).missing? = d.missing? := by
  unfold missing?
  congr 1
  funext field
  rw [has_withMode given]

/-- Which mode it is makes no difference to the reading of another field. -/
theorem readField_withMode (read : readField d field cs = .ok (e, rest)) (given : d.mode.isSome)
    (another : field ≠ .mode) (mode : Mode) :
    readField (d.withMode mode) field cs = .ok (e.withMode mode, rest) ∧ e.mode.isSome := by
  cases field with
  | mode => exact absurd rfl another
  | author =>
    simp only [readField] at read ⊢
    split at read
    · contradiction
    · obtain ⟨rfl, rfl⟩ := Prod.mk.inj (Except.ok.inj read)
      exact ⟨rfl, given⟩
  | name | signature | description | version | executor | runtime =>
    simp only [readField] at read ⊢
    split at read
    · contradiction
    · obtain ⟨rfl, rfl⟩ := Prod.mk.inj (Except.ok.inj read)
      exact ⟨rfl, given⟩

theorem readMember_withMode (read : readMember d name cs = .ok (e, rest)) (given : d.mode.isSome)
    (mode : Mode) :
    readMember (d.withMode mode) name cs = .ok (e.withMode mode, rest) ∧ e.mode.isSome := by
  unfold readMember at read ⊢
  split at read
  · rename_i field _
    split at read
    · contradiction
    · rename_i fresh
      split at read
      · contradiction
      · have another : field ≠ .mode := by
          rintro rfl
          exact fresh given
        rw [Draft.has_withMode given, if_neg fresh]
        exact readField_withMode read given another mode
  · split at read
    · contradiction
    · split at read
      · contradiction
      · obtain ⟨rfl, rfl⟩ := Prod.mk.inj (Except.ok.inj read)
        exact ⟨rfl, given⟩

theorem memberStep_withMode (read : memberStep d isFirst cs = .ok (some e, rest))
    (given : d.mode.isSome) (mode : Mode) :
    memberStep (d.withMode mode) isFirst cs = .ok (some (e.withMode mode), rest) ∧
      e.mode.isSome := by
  rw [memberStep_eq_nextKey] at read ⊢
  split at read
  · contradiction
  · simp at read
  · split at read
    · contradiction
    · rename_i member
      obtain ⟨same, rfl⟩ := Prod.mk.inj (Except.ok.inj read)
      obtain rfl := Option.some.inj same
      obtain ⟨again, still⟩ := readMember_withMode member given mode
      simp [again, still]

theorem close_withMode {complaint : Field → Complaint}
    (closed : close d complaint cs = .ok (description, rest)) (given : d.mode.isSome)
    (mode : Mode) :
    close (d.withMode mode) complaint cs = .ok ({ description with mode }, rest) := by
  unfold close at closed ⊢
  rw [Draft.missing?_withMode given]
  split at closed
  · contradiction
  · obtain ⟨rfl, rfl⟩ := Prod.mk.inj (Except.ok.inj closed)
    rfl

/-- Which mode it is makes no difference to the reading of further members. -/
theorem readMembers_withMode (read : readMembers d isFirst cs = .ok (description, rest))
    (given : d.mode.isSome) (mode : Mode) :
    readMembers (d.withMode mode) isFirst cs = .ok ({ description with mode }, rest) := by
  fun_induction readMembers d isFirst cs with
  | case1 => contradiction
  | case2 d isFirst cs left closed =>
    have again : memberStep (d.withMode mode) isFirst cs = .ok (none, left) :=
      memberStep_eq_none_iff.2 (memberStep_eq_none_iff.1 closed)
    rw [readMembers_of_close again]
    exact close_withMode read given mode
  | case3 d isFirst cs next left step _ ih =>
    obtain ⟨again, still⟩ := memberStep_withMode step given mode
    rw [readMembers_of_member again]
    exact ih read still

theorem readBehind_withMode (read : readBehind b d cs = .ok (description, rest))
    (given : d.mode.isSome) (mode : Mode) :
    readBehind b (d.withMode mode) cs = .ok ({ description with mode }, rest) := by
  cases b with
  | object => exact readMembers_withMode read given mode
  | list =>
    simp only [readBehind, readItems] at read ⊢
    split at read
    · contradiction
    · exact close_withMode read given mode

/-- An entry goes on behind its mode in such a way that the mode is delimited. -/
theorem delimited_of_readBehind (read : readBehind b d cs = .ok (description, rest)) :
    Delimited cs := by
  cases b with
  | object =>
    rw [readBehind, readMembers] at read
    split at read
    · contradiction
    · rename_i closed
      have blanks := nextKey?_eq_none_iff.1 (memberStep_eq_none_iff.1 closed)
      exact blanks.delimited (delimited_closing .object _)
    · rename_i step
      rw [memberStep_eq_nextKey] at step
      split at step
      · contradiction
      · simp at step
      · rename_i key
        obtain ⟨_, gap, -⟩ := nextKey?_eq_some_iff.1 key
        exact gap.delimited
  | list =>
    simp only [readBehind, readItems] at read
    split at read
    · contradiction
    · rename_i ended
      unfold endList at ended
      split at ended
      · contradiction
      · rename_i skipped
        exact (blanks_of_skipBlanks skipped).delimited (delimited_closing .list _)
      · split at ended <;> contradiction
      · contradiction

/-- At its place the mode decides how an entry goes on. -/
theorem ModePlace.readEntry_eq (place : ModePlace d slot b entry) (blanks : Blanks slot v)
    (starts : ∃ c tail, v = c :: tail ∧ Json.isBlank c = false ∧ c ≠ ']') :
    readEntry entry = match readMode v with
      | .error halt => .error (halt.settle b)
      | .ok (mode, rest) => (readBehind b (d.withMode mode) rest).mapError (Halt.settle b) := by
  cases place with
  | @object first _ start left key behind opened before gap label fresh colon =>
    have skipped := opened.reach (by decide)
    have named : nextKey? first left = .ok (some Field.mode.label.toList, behind) :=
      nextKey?_eq_some_iff.2 ⟨key, gap, label⟩
    have behindKey := colon_eq_ok_iff.2 colon
    have absent : d.has .mode = false := by
      rw [Draft.has, fresh]
      rfl
    have same : readMode slot = readMode v := by rw [readMode, readMode, blanks.value_eq]
    have member : readMember d Field.mode.label.toList behind = match readMode v with
        | .error halt => .error halt
        | .ok (mode, rest) => .ok (d.withMode mode, rest) := by
      simp only [readMember, Field.ofLabel?_label, absent, behindKey, readField, same]
      rfl
    simp only [readEntry, skipped, before.readMembers_eq]
    cases read : readMode v with
    | error halt =>
      rw [read] at member
      have step : memberStep d first left = .error halt := by
        simp [memberStep_eq_nextKey, named, member]
      rw [readMembers_of_error step]
      rfl
    | ok found =>
      obtain ⟨mode, rest⟩ := found
      rw [read] at member
      have step : memberStep d first left = .ok (some (d.withMode mode), rest) := by
        simp [memberStep_eq_nextKey, named, member]
      rw [readMembers_of_member step]
      rfl
  | @list first _ start left opened before gap =>
    obtain ⟨c, tail, rfl, visible, inside⟩ := starts
    have skipped := opened.reach (by decide)
    have found : Json.next (.full modeDepth) .list first left = .ok (.item (c :: tail)) :=
      next_item (gap.append blanks) visible inside
    simp only [readEntry, skipped, before.readItems_eq, readItems, found, readField]
    cases readMode (c :: tail) with
    | error halt => rfl
    | ok found => rfl

theorem readItemsFrom_eq_ok_iff : readItemsFrom seen isFirst cs = .ok (items, rest) ↔
    ∃ later, readItemsFrom [] isFirst cs = .ok (later, rest) ∧ items = seen.reverse ++ later := by
  constructor
  · intro read
    obtain ⟨entries, later, stand, same, named⟩ := pairs_of_read read
    exact ⟨later, read_of_pairs stand named, same⟩
  · rintro ⟨later, read, rfl⟩
    obtain ⟨entries, _, stand, rfl, named⟩ := pairs_of_read read
    exact read_of_pairs stand named

/-- At its place an entry decides how a catalog goes on. -/
theorem EntryPlace.document_eq_ok_iff (place : EntryPlace before id entry cs) :
    document cs = .ok items ↔ ∃ description behind after left,
      readEntry entry = .ok (description, behind) ∧
        readItemsFrom [] false behind = .ok (after, left) ∧ Blanks left [] ∧
          items = before ++ (id, description) :: after := by
  obtain ⟨opened, read, gap, label, spelled, colon⟩ := place
  rename_i first start left name key behind
  have skipped := opened.reach (by decide)
  have named : nextKey? first left = .ok (some name, behind) :=
    nextKey?_eq_some_iff.2 ⟨key, gap, label⟩
  have behindKey := colon_eq_ok_iff.2 colon
  have whole : readItemsFrom [] true start = readItemsFrom before.reverse first left := by
    rw [read.readItemsFrom_eq, List.append_nil]
  simp only [document, skipped, whole]
  cases content : readEntry entry with
  | error fault =>
    have stuck : itemStep first left = .error fault :=
      itemStep_eq_error_iff.2 (.entry named spelled behindKey (readEntry_eq_error_iff.1 content))
    simp [readItemsFrom_of_error stuck]
  | ok found =>
    obtain ⟨description, more⟩ := found
    have step : itemStep first left = .ok (some (id, description), more) :=
      itemStep_eq_some_iff.2 ⟨name, behind, entry, named, spelled, behindKey, content⟩
    rw [readItemsFrom_of_item step]
    constructor
    · intro accepted
      split at accepted
      · contradiction
      · rename_i further
        obtain ⟨later, others, rfl⟩ := readItemsFrom_eq_ok_iff.1 further
        split at accepted
        · rename_i ends
          obtain rfl := Except.ok.inj accepted
          exact ⟨_, _, later, _, rfl, others, blanks_of_skipBlanks ends, by simp⟩
        · contradiction
    · rintro ⟨_, _, after, tail, same, others, ends, rfl⟩
      obtain ⟨rfl, rfl⟩ := Prod.mk.inj (Except.ok.inj same)
      have further : readItemsFrom ((id, description) :: before.reverse) false more =
          .ok (((id, description) :: before.reverse).reverse ++ after, tail) :=
        readItemsFrom_eq_ok_iff.2 ⟨after, others, rfl⟩
      have nothing : skipBlanks tail = [] := ends.skip
      rw [further]
      simp [nothing]

/-- Where a catalog misses a mode, the value decides whether it is accepted, and with which mode. -/
theorem Vacant.document_eq_ok_iff (vacant : Vacant before id description after v rest cs) :
    document cs = .ok items ↔ ∃ mode, ModeValue mode v rest ∧
      items = before ++ (id, { description with mode }) :: after := by
  obtain ⟨catalog, place, blanks, valid, read, others, ends⟩ := vacant
  rename_i b d entry slot behind tail
  have delimited := delimited_of_readBehind read
  have given (mode : Mode) :
      readBehind b (d.withMode mode) rest = .ok ({ description with mode }, behind) :=
    readBehind_withMode read rfl mode
  have entered := place.readEntry_eq blanks valid.head
  rw [catalog.document_eq_ok_iff]
  constructor
  · rintro ⟨described, more, later, left, content, further, ending, rfl⟩
    rw [entered] at content
    split at content
    · contradiction
    · rename_i mode behindMode meant
      obtain ⟨stands, rfl⟩ := (readMode_eq_ok_iff valid delimited).1 meant
      rw [given mode] at content
      obtain ⟨rfl, rfl⟩ := Prod.mk.inj (Except.ok.inj content)
      obtain ⟨rfl, rfl⟩ := Prod.mk.inj (Except.ok.inj (further.symm.trans others))
      exact ⟨mode, stands, rfl⟩
  · rintro ⟨mode, stands, rfl⟩
    have meant := (readMode_eq_ok_iff valid delimited).2 ⟨stands, rfl⟩
    refine ⟨{ description with mode }, behind, after, tail, ?_, others, ends, rfl⟩
    rw [entered, meant]
    simp only [given mode]
    rfl

theorem Vacant.exists_ok_iff {text : String}
    (vacant : Vacant before id description after v rest text.toList) (minimum : Mode) :
    (∃ few, parse text minimum = .ok few) ↔ ∃ mode, ModeValue mode v rest := by
  constructor
  · rintro ⟨few, accepts⟩
    obtain ⟨all, read, -⟩ := parse_eq_ok_iff.1 accepts
    obtain ⟨items, whole, -⟩ := roster_eq_ok_iff.1 read
    obtain ⟨mode, stands, -⟩ := vacant.document_eq_ok_iff.1 whole
    exact ⟨mode, stands⟩
  · rintro ⟨mode, stands⟩
    have whole := vacant.document_eq_ok_iff.2 ⟨mode, stands, rfl⟩
    exact ⟨_, parse_eq_ok_iff.2 ⟨_, roster_eq_ok_iff.2 ⟨_, whole, rfl⟩, rfl⟩⟩

theorem Vacant.exists_error_iff {text : String}
    (vacant : Vacant before id description after v rest text.toList) (minimum : Mode) :
    (∃ message, parse text minimum = .error (.catalog message)) ↔
      ∀ mode, ¬ModeValue mode v rest := by
  rw [← not_exists, ← vacant.exists_ok_iff minimum]
  constructor
  · rintro ⟨message, refused⟩ ⟨few, accepts⟩
    have never := refused.symm.trans accepts
    contradiction
  · intro refused
    cases whole : parse text minimum with
    | ok few => exact absurd ⟨few, whole⟩ refused
    | error failure =>
      obtain ⟨fault, -, rfl⟩ := roster_eq_error_iff.1 (parse_eq_error_iff.1 whole)
      exact ⟨_, rfl⟩

end Places

/-- How modes are said, on their own and in catalogs. -/
structure ModesAgree : Prop where
  /-- A text is read as a mode if it is a numeral of its label or its name, maybe between blanks. -/
  text (s : String) (mode : Mode) : Mode.parse s = .ok mode ↔ mode.Said (trimmed s.toList)
  /-- Any other text is refused. -/
  noText (s : String) :
    (∃ fault, Mode.parse s = .error fault) ↔ ∀ mode : Mode, ¬mode.Said (trimmed s.toList)
  /-- In a catalog a text stands for the mode that it is read as. -/
  textValue {s cs rest : List Char} (inside : Inside s cs rest) (mode : Mode) :
    ModeValue mode ('"' :: cs) rest ↔ Mode.parse (String.ofList s) = .ok mode
  /-- Where a catalog misses nothing but a mode, the value gives the entry the mode that it stands
  for. -/
  value {before after : List (Uuid × Description)} {id : Uuid} {description : Description}
      {v rest : List Char} {text : String}
      (vacant : Vacant before id description after v rest text.toList) (mode : Mode) :
    document text.toList = .ok (before ++ (id, { description with mode }) :: after) ↔
      ModeValue mode v rest
  /-- If the value stands for a mode, the catalog is accepted. -/
  accepted {before after : List (Uuid × Description)} {id : Uuid} {description : Description}
      {v rest : List Char} {text : String}
      (vacant : Vacant before id description after v rest text.toList) (minimum : Mode) :
    (∃ few, parse text minimum = .ok few) ↔ ∃ mode, ModeValue mode v rest
  /-- If it stands for none, the whole catalog is refused. -/
  refused {before after : List (Uuid × Description)} {id : Uuid} {description : Description}
      {v rest : List Char} {text : String}
      (vacant : Vacant before id description after v rest text.toList) (minimum : Mode) :
    (∃ message, parse text minimum = .error (.catalog message)) ↔ ∀ mode, ¬ModeValue mode v rest

/-- A mode is read alike on its own and in a catalog, and nothing else is taken for one. -/
theorem reads_modes_alike : ModesAgree where
  text s mode := Mode.parse_eq_ok_iff
  noText s := Mode.exists_error_iff
  textValue inside mode := modeValue_text_iff inside
  value {before after id description v rest text} vacant mode := by
    rw [vacant.document_eq_ok_iff]
    constructor
    · rintro ⟨other, stands, same⟩
      have described := (Prod.mk.inj (List.cons.inj (List.append_cancel_left same)).1).2
      obtain rfl : mode = other := congrArg Description.mode described
      exact stands
    · intro stands
      exact ⟨mode, stands, rfl⟩
  accepted vacant := vacant.exists_ok_iff
  refused vacant := vacant.exists_error_iff

/-- What follows the mode in the sample. -/
def afterMode : String :=
  ",\"name\":\"n\",\"signature\":\"s\",\"executor\":\"e\",\"runtime\":\"r\"\x7d\x7d"

/-- A catalog of one entry with a value for its mode. -/
def withModeValue (v : String) : String :=
  "\x7b\"" ++ (Uuid.nil.render ++ ("\":\x7b\"mode\":" ++ (v ++ afterMode)))

/-- A catalog is accepted with `" +03"` for a mode, and refused with `true`. -/
theorem reads_modes_alike_sample :
    document (withModeValue "\" +03\"").toList = .ok [(Uuid.nil, plain .beta)] ∧
      ∃ message, parse (withModeValue "true") .undefined = .error (.catalog message) := by
  have members : Members (plain .undefined) [.mode] false afterMode.toList ['\x7d'] := by
    refine .field (show Field.name ∉ _ by decide) (.comma .none .none) (.itself (by decide))
      .none .none (.text (s := "n") rfl (.itself (by decide))) ?_
    refine .field (show Field.signature ∉ _ by decide) (.comma .none .none) (.itself (by decide))
      .none .none (.text (s := "s") rfl (.itself (by decide))) ?_
    refine .field (show Field.executor ∉ _ by decide) (.comma .none .none) (.itself (by decide))
      .none .none (.text (s := "e") rfl (.itself (by decide))) ?_
    refine .field (show Field.runtime ∉ _ by decide) (.comma .none .none) (.itself (by decide))
      .none .none (.text (s := "r") rfl (.itself (by decide))) ?_
    refine .close (fun field missing => ?_) .none
    cases field <;> simp_all [IsDefault, plain]
  have vacant (v : String) (valid : Valid .value (v.toList ++ afterMode.toList) afterMode.toList) :
      Vacant [] .nil (plain .undefined) [] (v.toList ++ afterMode.toList) afterMode.toList
        (withModeValue v).toList := by
    simp only [withModeValue, String.toList_append, Uuid.render, String.toList_ofList]
    refine .mode (b := .object) (d := .empty)
      (.behind .none .none (.first .none) (.itself ?_) Uuid.nil.spelled_chars .none)
      (.object .none .none (.first .none) (.itself ?_) rfl .none) .none valid members.read ?_ .none
    · decide
    · decide
    · exact (Items.close .none).read
  constructor
  · have inside : Inside " +03".toList (" +03\"".toList ++ afterMode.toList) afterMode.toList :=
      .itself (by decide)
    have said : Mode.parse (String.ofList " +03".toList) = .ok .beta := by decide
    have stands := (reads_modes_alike.textValue inside .beta).2 said
    exact (reads_modes_alike.value (vacant "\" +03\"" (.text inside.unread)) .beta).2 stands
  · refine (reads_modes_alike.refused (vacant "true" .yes) .undefined).2 fun mode stands => ?_
    have start : 't' = '"' ∨ isDigit 't' = true := stands.head
    exact absurd start (by decide)

end Catalog

end FunctionAgent
