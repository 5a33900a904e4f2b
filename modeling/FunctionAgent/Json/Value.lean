import FunctionAgent.Json.Numeral
import FunctionAgent.Json.Text
/-!
# JSON values

A reader of values looks at the next character that is no blank. Lists and objects are walked item
by item with a stack of the brackets that are open. A value is walked with full care if it is
wanted, and then only to a given depth; a value that nobody wants is passed over, at any depth and
without a look at the range of numbers or the pairing of surrogates. The two ways of walking also
complain differently about what may not stand behind a comma.
-/

set_option autoImplicit false

namespace FunctionAgent.Json

/-- White space between the parts of a text. -/
def isBlank (c : Char) : Bool := c == ' ' || c == '\n' || c == '\t' || c == '\r'

/-- What is left behind the blanks. -/
def skipBlanks (cs : List Char) : List Char := cs.dropWhile isBlank

/-- Reads given letters. -/
def word : (letters cs : List Char) → Except (Fault Complaint) (List Char)
  | [], cs => .ok cs
  | _ :: _, [] => .error (.here .endInValue [])
  | l :: ls, c :: cs => if c = l then word ls cs else .error (.next .expectedWord (c :: cs))

/-- The fault where a numeral is broken; the end of the text may have its own cause. -/
def brokenNumeral (atEnd : Complaint) (left : List Char) : Fault Complaint :=
  .next (if left.isEmpty then atEnd else .invalidNumber) left

/-- Reads a number. -/
def number (cs : List Char) : Read Complaint Number :=
  match Numeral.read cs with
  | .error left => .error (brokenNumeral .endInValue left)
  | .ok (n, rest) =>
    match n.number rest with
    | .error fault => .error fault
    | .ok n => .ok (n, rest)

/-- Reads a value that holds no others; no blank stands in front. -/
def scalar (cs : List Char) : Read Complaint Scalar :=
  match cs with
  | [] => .error (.next .endInValue [])
  | 'n' :: rest => (word ['u', 'l', 'l'] rest).map fun left => (.null, left)
  | 't' :: rest => (word ['r', 'u', 'e'] rest).map fun left => (.bool true, left)
  | 'f' :: rest => (word ['a', 'l', 's', 'e'] rest).map fun left => (.bool false, left)
  | '"' :: rest => (text rest).map fun (s, left) => (.text s, left)
  | c :: rest =>
    if c = '-' ∨ isDigit c then (number (c :: rest)).map fun (n, left) => (.number n, left)
    else .error (.next .expectedValue (c :: rest))

/-- Passes over a number. -/
def passNumber (cs : List Char) : Except (Fault Complaint) (List Char) :=
  match Numeral.read cs with
  | .error left => .error (brokenNumeral .invalidNumber left)
  | .ok (_, rest) => .ok rest

/-- Passes over a value that holds no others. -/
def passScalar (cs : List Char) : Except (Fault Complaint) (List Char) :=
  match cs with
  | [] => .error (.next .endInValue [])
  | 'n' :: rest => word ['u', 'l', 'l'] rest
  | 't' :: rest => word ['r', 'u', 'e'] rest
  | 'f' :: rest => word ['a', 'l', 's', 'e'] rest
  | '"' :: rest => passText rest
  | c :: rest =>
    if c = '-' ∨ isDigit c then passNumber (c :: rest)
    else .error (.next .expectedValue (c :: rest))

/-- A bracket that is open. -/
inductive Bracket where
  | list
  | object
  deriving DecidableEq, Repr

namespace Bracket

/-- The character that closes a bracket. -/
def closing : Bracket → Char
  | .list => ']'
  | .object => '\x7d'

/-- The complaint at the end of the text inside a bracket. -/
def atEnd : Bracket → Complaint
  | .list => .endInList
  | .object => .endInObject

/-- The complaint about what follows an item. -/
def afterItem : Bracket → Complaint
  | .list => .expectedListEnd
  | .object => .expectedObjectEnd

end Bracket

/-- How a value is walked. -/
inductive Care where
  /-- All of it is checked, and brackets may be open at most so deep. -/
  | full (limit : Nat)
  /-- It is passed over. -/
  | lenient
  deriving DecidableEq, Repr

/-- Whether no bracket may be opened any more inside those that are open. -/
def Care.forbids (care : Care) (stack : List Bracket) : Bool :=
  match care with
  | .full limit => decide (limit ≤ stack.length)
  | .lenient => false

/-- What comes next inside a bracket. -/
inductive Next where
  /-- The bracket was closed. -/
  | closed (rest : List Char)
  /-- An item starts. -/
  | item (rest : List Char)
  deriving DecidableEq, Repr

/-- Goes on behind a comma. -/
def afterComma (care : Care) (b : Bracket) (cs : List Char) :
    Except (Fault Complaint) (List Char) :=
  match care with
  | .lenient => .ok (skipBlanks cs)
  | .full _ =>
    match skipBlanks cs with
    | [] => .error (.next .endInValue [])
    | c :: rest =>
      if c = b.closing then .error (.next .trailingComma (c :: rest)) else .ok (c :: rest)

/-- Goes on inside a bracket: to its end, to its first item, or over a comma to the next one. -/
def next (care : Care) (b : Bracket) (isFirst : Bool) (cs : List Char) :
    Except (Fault Complaint) Next :=
  match skipBlanks cs with
  | [] => .error (.next b.atEnd [])
  | c :: rest =>
    if c = b.closing then .ok (.closed rest)
    else if isFirst then .ok (.item (c :: rest))
    else if c = ',' then (afterComma care b rest).map .item
    else .error (.next b.afterItem (c :: rest))

/-- Reads the colon behind a key. -/
def colon (cs : List Char) : Except (Fault Complaint) (List Char) :=
  match skipBlanks cs with
  | [] => .error (.next .endInObject [])
  | ':' :: rest => .ok rest
  | rest => .error (.next .expectedColon rest)

/-- Reads a key; no blank stands in front. -/
def key (cs : List Char) : Read Complaint (List Char) :=
  match cs with
  | [] => .error (.next .endInObject [])
  | '"' :: rest => text rest
  | rest => .error (.next .keyNotText rest)

/-- Passes over a key. -/
def passKey (care : Care) (cs : List Char) : Except (Fault Complaint) (List Char) :=
  match care, cs with
  | .lenient, '"' :: rest => passText rest
  | _, cs => (key cs).map Prod.snd

/-- Passes over what stands in front of an item's value. -/
def passLabel (care : Care) (b : Bracket) (cs : List Char) : Except (Fault Complaint) (List Char) :=
  match b with
  | .list => .ok cs
  | .object =>
    match passKey care cs with
    | .error fault => .error fault
    | .ok rest => colon rest

/-- Passes over the first character of a list or an object, or over a whole other value; gives the
bracket that was opened. -/
def enter (care : Care) (stack : List Bracket) (cs : List Char) : Read Complaint (Option Bracket) :=
  match skipBlanks cs with
  | '[' :: rest =>
    if care.forbids stack then .error (.next .tooDeep ('[' :: rest)) else .ok (some .list, rest)
  | '\x7b' :: rest =>
    if care.forbids stack then .error (.next .tooDeep ('\x7b' :: rest))
    else .ok (some .object, rest)
  | cs =>
    match care with
    | .full _ => (scalar cs).map fun (_, rest) => (none, rest)
    | .lenient => (passScalar cs).map fun rest => (none, rest)

/-- The open brackets behind an entered value, and whether one of them was just opened. -/
def enclosed (stack : List Bracket) : Option Bracket → List Bracket × Bool
  | some b => (b :: stack, true)
  | none => (stack, false)

theorem length_skipBlanks (cs : List Char) : (skipBlanks cs).length ≤ cs.length :=
  (List.dropWhile_suffix _).length_le

theorem length_word {letters cs rest : List Char} (h : word letters cs = .ok rest) :
    rest.length ≤ cs.length := by
  induction letters generalizing cs with
  | nil => cases h; exact Nat.le_refl _
  | cons l ls ih =>
    cases cs with
    | nil => cases h
    | cons c cs =>
      simp only [word] at h
      split at h
      · have := ih h
        simp only [List.length_cons]; omega
      · cases h

theorem length_number {cs rest : List Char} {n : Number} (h : number cs = .ok (n, rest)) :
    rest.length < cs.length := by
  unfold number at h
  split at h
  · cases h
  · rename_i m left hr
    have := Numeral.length_read hr
    split at h
    · cases h
    · simp only [Except.ok.injEq, Prod.mk.injEq] at h
      obtain ⟨_, rfl⟩ := h
      exact this

/-- What a successful reading with a result of another form has read. -/
theorem eq_ok_of_map_eq_ok {ε α β : Type} {f : α → β} {x : Except ε α} {b : β}
    (h : x.map f = .ok b) : ∃ a, x = .ok a ∧ f a = b := by
  cases x with
  | error e => cases h
  | ok a => exact ⟨a, rfl, Except.ok.inj h⟩

theorem length_scalar {cs rest : List Char} {s : Scalar} (h : scalar cs = .ok (s, rest)) :
    rest.length < cs.length := by
  unfold scalar at h
  split at h
  · cases h
  iterate 3
    obtain ⟨left, hw, he⟩ := eq_ok_of_map_eq_ok h
    cases he
    have := length_word hw
    simp only [List.length_cons]; omega
  · obtain ⟨⟨_, _⟩, hw, he⟩ := eq_ok_of_map_eq_ok h
    cases he
    have := length_text hw
    simp only [List.length_cons]; omega
  · split at h
    · obtain ⟨⟨_, _⟩, hw, he⟩ := eq_ok_of_map_eq_ok h
      cases he
      exact length_number hw
    · cases h

theorem length_passScalar {cs rest : List Char} (h : passScalar cs = .ok rest) :
    rest.length < cs.length := by
  unfold passScalar at h
  split at h
  · cases h
  iterate 3
    have := length_word h
    simp only [List.length_cons]; omega
  · have := length_passText h
    simp only [List.length_cons]; omega
  · split at h
    · unfold passNumber at h
      split at h
      · cases h
      · rename_i n left hr
        cases h
        exact Numeral.length_read hr
    · cases h

theorem length_afterComma {care : Care} {b : Bracket} {cs rest : List Char}
    (h : afterComma care b cs = .ok rest) : rest.length ≤ cs.length := by
  have hs := length_skipBlanks cs
  unfold afterComma at h
  split at h
  · cases h; exact hs
  · split at h
    · cases h
    · rename_i heq
      split at h
      · cases h
      · cases h; rw [← heq]; exact hs

/-- Closing a bracket takes a character. -/
theorem length_closed {care : Care} {b : Bracket} {isFirst : Bool} {cs rest : List Char}
    (h : next care b isFirst cs = .ok (.closed rest)) : rest.length < cs.length := by
  have hs := length_skipBlanks cs
  unfold next at h
  split at h
  · cases h
  · rename_i c left heq
    rw [heq, List.length_cons] at hs
    split at h
    · cases h; omega
    · split at h
      · cases h
      · split at h
        · obtain ⟨_, _, he⟩ := eq_ok_of_map_eq_ok h
          cases he
        · cases h

/-- Going on to an item takes a character unless it is the first one. -/
theorem length_item {care : Care} {b : Bracket} {isFirst : Bool} {cs rest : List Char}
    (h : next care b isFirst cs = .ok (.item rest)) : rest.length ≤ cs.length := by
  have hs := length_skipBlanks cs
  unfold next at h
  split at h
  · cases h
  · rename_i c left heq
    rw [heq, List.length_cons] at hs
    split at h
    · cases h
    · split at h
      · cases h; simpa using hs
      · split at h
        · obtain ⟨r, hr, he⟩ := eq_ok_of_map_eq_ok h
          cases he
          have := length_afterComma hr
          omega
        · cases h

theorem length_colon {cs rest : List Char} (h : colon cs = .ok rest) : rest.length < cs.length := by
  have hs := length_skipBlanks cs
  unfold colon at h
  split at h
  · cases h
  · rename_i left heq
    rw [heq, List.length_cons] at hs
    cases h; omega
  · cases h

theorem length_key {cs s rest : List Char} (h : key cs = .ok (s, rest)) :
    rest.length < cs.length := by
  unfold key at h
  split at h
  · cases h
  · have := length_text h
    simp only [List.length_cons]; omega
  · cases h

theorem length_passKey {care : Care} {cs rest : List Char} (h : passKey care cs = .ok rest) :
    rest.length < cs.length := by
  unfold passKey at h
  split at h
  · have := length_passText h
    simp only [List.length_cons]; omega
  · obtain ⟨⟨_, _⟩, hv, he⟩ := eq_ok_of_map_eq_ok h
    cases he
    exact length_key hv

theorem length_passLabel {care : Care} {b : Bracket} {cs rest : List Char}
    (h : passLabel care b cs = .ok rest) : rest.length ≤ cs.length := by
  unfold passLabel at h
  split at h
  · cases h; exact Nat.le_refl _
  · split at h
    · cases h
    · rename_i left hk
      have := length_passKey hk
      have := length_colon h
      omega

theorem length_enter {care : Care} {stack : List Bracket} {cs rest : List Char}
    {b : Option Bracket} (h : enter care stack cs = .ok (b, rest)) : rest.length < cs.length := by
  have hs := length_skipBlanks cs
  unfold enter at h
  split at h
  iterate 2
    rename_i left heq
    rw [heq, List.length_cons] at hs
    split at h
    · cases h
    · cases h; omega
  · split at h
    · obtain ⟨⟨_, _⟩, hv, he⟩ := eq_ok_of_map_eq_ok h
      cases he
      have := length_scalar hv
      omega
    · obtain ⟨r, hr, he⟩ := eq_ok_of_map_eq_ok h
      cases he
      have := length_passScalar hr
      omega

/-- Goes on by one item, or over the end of the innermost bracket `b`; gives the brackets that are
open then, and whether one of them was just opened. -/
def step (care : Care) (b : Bracket) (outer : List Bracket) (isFirst : Bool) (cs : List Char) :
    Read Complaint (List Bracket × Bool) :=
  match next care b isFirst cs with
  | .error fault => .error fault
  | .ok (.closed rest) => .ok ((outer, false), rest)
  | .ok (.item rest) =>
    match passLabel care b rest with
    | .error fault => .error fault
    | .ok rest => (enter care (b :: outer) rest).map fun (opened, left) =>
        (enclosed (b :: outer) opened, left)

theorem length_step {care : Care} {b : Bracket} {outer : List Bracket} {isFirst : Bool}
    {cs rest : List Char} {found : List Bracket × Bool}
    (h : step care b outer isFirst cs = .ok (found, rest)) : rest.length < cs.length := by
  unfold step at h
  split at h
  · cases h
  · rename_i left hn
    have := length_closed hn
    cases h; exact this
  · rename_i left hn
    have := length_item hn
    split at h
    · cases h
    · rename_i left hl
      have := length_passLabel hl
      obtain ⟨⟨_, _⟩, hv, he⟩ := eq_ok_of_map_eq_ok h
      cases he
      have := length_enter hv
      omega

/-- Walks to the end of the outermost open bracket. -/
def walk (care : Care) (stack : List Bracket) (isFirst : Bool) (cs : List Char) :
    Except (Fault Complaint) (List Char) :=
  match stack with
  | [] => .ok cs
  | b :: outer =>
    match h : step care b outer isFirst cs with
    | .error fault => .error fault
    | .ok ((stack, isFirst), rest) =>
      have := length_step h
      walk care stack isFirst rest
termination_by cs.length

/-- Reads a whole value inside which brackets may be open at most so deep, and tells its shape. -/
def value (limit : Nat) (cs : List Char) : Read Complaint Shape :=
  match enter (.full limit) [] cs with
  | .error fault => .error fault
  | .ok (some .list, rest) => (walk (.full limit) [.list] true rest).map fun left => (.list, left)
  | .ok (some .object, rest) =>
    (walk (.full limit) [.object] true rest).map fun left => (.object, left)
  | .ok (none, _) => (scalar (skipBlanks cs)).map fun (s, left) => (.scalar s, left)

/-- Passes over a value. -/
def passValue (cs : List Char) : Except (Fault Complaint) (List Char) :=
  match enter .lenient [] cs with
  | .error fault => .error fault
  | .ok (opened, rest) => walk .lenient (enclosed [] opened).1 (enclosed [] opened).2 rest

/-- The fault of a value that is not what was wanted. Other values are read to be named, but of a
list or an object not even the bracket is taken. -/
def unexpected (wanted : String) (cs : List Char) : Fault Complaint :=
  match skipBlanks cs with
  | '[' :: rest => .here (.unexpected .list wanted) ('[' :: rest)
  | '\x7b' :: rest => .here (.unexpected .object wanted) ('\x7b' :: rest)
  | cs =>
    match scalar cs with
    | .error fault => fault
    | .ok (s, rest) => .here (.unexpected (.scalar s) wanted) rest

/-- Reads a text that is wanted. -/
def textValue (cs : List Char) : Read Complaint String :=
  match skipBlanks cs with
  | '"' :: rest => (text rest).map fun (s, left) => (String.ofList s, left)
  | cs => .error (unexpected "a string" cs)

/-- Reads a text that is wanted but may be null. -/
def optionalText (cs : List Char) : Read Complaint (Option String) :=
  match skipBlanks cs with
  | 'n' :: rest => (word ['u', 'l', 'l'] rest).map fun left => (none, left)
  | cs => (textValue cs).map fun (s, left) => (some s, left)

theorem length_walk {care : Care} {stack : List Bracket} {isFirst : Bool} {cs rest : List Char}
    (h : walk care stack isFirst cs = .ok rest) : rest.length ≤ cs.length := by
  fun_induction walk care stack isFirst cs with
  | case1 => cases h; exact Nat.le_refl _
  | case2 => cases h
  | case3 _ _ _ _ _ _ _ _ _ ih =>
    have := ih h
    omega

theorem length_value {limit : Nat} {cs rest : List Char} {s : Shape}
    (h : value limit cs = .ok (s, rest)) : rest.length < cs.length := by
  have hs := length_skipBlanks cs
  unfold value at h
  split at h
  · cases h
  iterate 2
    rename_i left he
    obtain ⟨r, hr, he'⟩ := eq_ok_of_map_eq_ok h
    cases he'
    have := length_walk hr
    have := length_enter he
    omega
  · obtain ⟨⟨_, _⟩, hv, he⟩ := eq_ok_of_map_eq_ok h
    cases he
    have := length_scalar hv
    omega

theorem length_passValue {cs rest : List Char} (h : passValue cs = .ok rest) :
    rest.length < cs.length := by
  unfold passValue at h
  split at h
  · cases h
  · rename_i opened left he
    have := length_walk h
    have := length_enter he
    omega

theorem length_textValue {cs rest : List Char} {s : String} (h : textValue cs = .ok (s, rest)) :
    rest.length < cs.length := by
  have hs := length_skipBlanks cs
  unfold textValue at h
  split at h
  · rename_i left heq
    rw [heq, List.length_cons] at hs
    obtain ⟨⟨_, _⟩, hv, he⟩ := eq_ok_of_map_eq_ok h
    cases he
    have := length_text hv
    omega
  · cases h

theorem length_optionalText {cs rest : List Char} {s : Option String}
    (h : optionalText cs = .ok (s, rest)) : rest.length < cs.length := by
  have hs := length_skipBlanks cs
  unfold optionalText at h
  split at h
  · rename_i left heq
    rw [heq, List.length_cons] at hs
    obtain ⟨r, hr, he⟩ := eq_ok_of_map_eq_ok h
    cases he
    have := length_word hr
    omega
  · obtain ⟨⟨_, _⟩, hv, he⟩ := eq_ok_of_map_eq_ok h
    cases he
    have := length_textValue hv
    omega

end FunctionAgent.Json
