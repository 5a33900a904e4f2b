import FunctionAgent.Proofs.Spelling
/-!
# Values that nobody wants

`Valid .value cs rest` says that `cs` is a JSON value with `rest` behind it, whatever it holds and
however deep it is nested. Lists and objects are described by what follows an open bracket: blanks
and the closing bracket, or an item and then the same again. Passing over such a value leaves just
what stands behind it (`Valid.passValue_eq`): a value inside of open brackets is passed over to
where the walk goes on behind it, by induction on how the value is put together.
-/

set_option autoImplicit false

namespace FunctionAgent.Json

/-- The character that opens a bracket. -/
def Bracket.opening : Bracket → Char
  | .list => '['
  | .object => '\x7b'

/-- A part of a JSON text: a value, or what stands behind an open bracket up to the closing one. -/
inductive Piece where
  | value
  | items (b : Bracket) (isFirst : Bool)

/-- What stands in front of an item: blanks, and a comma unless it is the first one. -/
inductive Gap : (isFirst : Bool) → (cs rest : List Char) → Prop where
  | first {cs rest : List Char} (blanks : Blanks cs rest) : Gap true cs rest
  | comma {cs between rest : List Char} (before : Blanks cs (',' :: between))
      (behind : Blanks between rest) : Gap false cs rest

/-- What stands in front of the value of an item: a key with its colon in an object. -/
inductive Label : Bracket → (cs rest : List Char) → Prop where
  | list {rest : List Char} : Label .list rest rest
  | object {cs between rest : List Char} (key : Unread cs between)
      (colon : Blanks between (':' :: rest)) : Label .object ('"' :: cs) rest

/-- A JSON value, or the items of a list or an object with the closing bracket. -/
inductive Valid : Piece → (cs rest : List Char) → Prop where
  | null {rest : List Char} : Valid .value ('n' :: 'u' :: 'l' :: 'l' :: rest) rest
  | yes {rest : List Char} : Valid .value ('t' :: 'r' :: 'u' :: 'e' :: rest) rest
  | no {rest : List Char} : Valid .value ('f' :: 'a' :: 'l' :: 's' :: 'e' :: rest) rest
  | number {n : Numeral} {cs rest : List Char} (figure : Figure n cs rest) : Valid .value cs rest
  | text {cs rest : List Char} (unread : Unread cs rest) : Valid .value ('"' :: cs) rest
  | bracket {b : Bracket} {cs rest : List Char} (items : Valid (.items b true) cs rest) :
      Valid .value (b.opening :: cs) rest
  | close {b : Bracket} {isFirst : Bool} {cs rest : List Char}
      (blanks : Blanks cs (b.closing :: rest)) : Valid (.items b isFirst) cs rest
  | item {b : Bracket} {isFirst : Bool} {cs labelled blank start left rest : List Char}
      (gap : Gap isFirst cs labelled) (label : Label b labelled blank) (blanks : Blanks blank start)
      (value : Valid .value start left) (items : Valid (.items b false) left rest) :
      Valid (.items b isFirst) cs rest

section Items

variable {b : Bracket} {isFirst : Bool} {care : Care} {cs left rest : List Char} {c : Char}

@[simp] theorem Bracket.isBlank_closing (b : Bracket) : isBlank b.closing = false := by
  cases b <;> rfl

theorem next_closed (blanks : Blanks cs (b.closing :: rest)) :
    next care b isFirst cs = .ok (.closed rest) := by
  have skipped := blanks.reach b.isBlank_closing
  simp [next, skipped]

/-- Over a gap the next item is found. -/
theorem next_item (gap : Gap isFirst cs (c :: left)) (visible : isBlank c = false)
    (inside : c ≠ b.closing) : next care b isFirst cs = .ok (.item (c :: left)) := by
  cases gap with
  | first blanks =>
    have skipped := blanks.reach visible
    simp [next, skipped, inside]
  | comma before behind =>
    have skipped := before.reach (by decide)
    have reached := behind.reach visible
    have other : ',' ≠ b.closing := by cases b <;> decide
    cases care <;> simp [next, skipped, other, afterComma, reached, inside, Except.map]

theorem colon_eq (blanks : Blanks cs (':' :: rest)) : colon cs = .ok rest := by
  have skipped := blanks.reach (by decide)
  simp [colon, skipped]

theorem Blanks.delimited (blanks : Blanks cs rest) (delimited : Delimited rest) : Delimited cs := by
  cases blanks with
  | none => exact delimited
  | more blank =>
    intro c next
    obtain rfl := Option.some.inj next
    exact .inl blank

theorem Blanks.trans {between : List Char} (first : Blanks cs between)
    (second : Blanks between rest) : Blanks cs rest := by
  induction first with
  | none => exact second
  | more blank _ ih => exact .more blank (ih second)

theorem Gap.append {between : List Char} (gap : Gap isFirst cs between)
    (blanks : Blanks between rest) : Gap isFirst cs rest := by
  cases gap with
  | first before => exact .first (before.trans blanks)
  | comma before behind => exact .comma before (behind.trans blanks)

theorem Gap.delimited (gap : Gap false cs rest) : Delimited cs := by
  cases gap with
  | comma before => exact before.delimited (by simp [Delimited])

theorem delimited_closing (b : Bracket) (rest : List Char) : Delimited (b.closing :: rest) := by
  cases b <;> simp [Delimited, Bracket.closing]

/-- What follows a value in a list or an object delimits it. -/
theorem Valid.delimited (valid : Valid (.items b false) cs rest) : Delimited cs := by
  cases valid with
  | close blanks => exact blanks.delimited (delimited_closing b rest)
  | item gap => exact gap.delimited

end Items

/-! ## Passing over -/

section Passing

variable {b : Bracket} {isFirst : Bool} {stack outer : List Bracket} {cs left rest : List Char}
  {c : Char}

theorem walk_of_step {found : List Bracket × Bool}
    (stepped : step .lenient b outer isFirst cs = .ok (found, rest)) :
    walk .lenient (b :: outer) isFirst cs = walk .lenient found.1 found.2 rest := by
  obtain ⟨stack, first⟩ := found
  rw [walk]
  split <;> simp_all

theorem walk_close (closed : next .lenient b isFirst cs = .ok (.closed rest)) :
    walk .lenient (b :: outer) isFirst cs = walk .lenient outer false rest := by
  have stepped : step .lenient b outer isFirst cs = .ok ((outer, false), rest) := by
    simp [step, closed]
  exact walk_of_step stepped

theorem walk_item {opened : Option Bracket} {between : List Char}
    (found : next .lenient b isFirst cs = .ok (.item left))
    (labelled : passLabel .lenient b left = .ok between)
    (entered : enter .lenient (b :: outer) between = .ok (opened, rest)) :
    walk .lenient (b :: outer) isFirst cs =
      walk .lenient (enclosed (b :: outer) opened).1 (enclosed (b :: outer) opened).2 rest := by
  have stepped : step .lenient b outer isFirst cs = .ok (enclosed (b :: outer) opened, rest) := by
    simp [step, found, labelled, entered, Except.map]
  exact walk_of_step stepped

theorem Blanks.enter_eq {care : Care} (blanks : Blanks cs rest) :
    enter care stack cs = enter care stack rest := by
  simp only [enter, blanks.skip]

theorem enter_bracket (b : Bracket) :
    enter .lenient stack (b.opening :: rest) = .ok (some b, rest) := by
  cases b <;> rfl

theorem enter_scalar (visible : isBlank c = false) (noList : c ≠ '[') (noObject : c ≠ '\x7b')
    (passed : passScalar (c :: left) = .ok rest) :
    enter .lenient stack (c :: left) = .ok (none, rest) := by
  have skipped : skipBlanks (c :: left) = c :: left := skipBlanks_cons visible
  unfold enter
  rw [skipped]
  split <;> simp_all [Except.map]

/-- What a numeral starts with starts nothing else. -/
theorem numeral_start (start : c = '-' ∨ isDigit c = true) :
    isBlank c = false ∧ c ≠ '[' ∧ c ≠ '\x7b' ∧ c ≠ ']' ∧ c ≠ '"' ∧ c ≠ 'n' ∧ c ≠ 't' ∧ c ≠ 'f' := by
  rcases start with rfl | digit
  · decide
  · refine ⟨?_, ?_, ?_, ?_, ?_, ?_, ?_, ?_⟩
    · cases blank : isBlank c with
      | false => rfl
      | true =>
        rcases isBlank_cases blank with rfl | rfl | rfl | rfl <;> cases digit
    all_goals
      rintro rfl
      cases digit

theorem Figure.passScalar_eq {n : Numeral} (figure : Figure n cs rest)
    (delimited : Delimited rest) : passScalar cs = .ok rest := by
  have read := figure.read delimited
  obtain ⟨c, left, rfl, start⟩ := figure.head
  obtain ⟨-, -, -, -, noText, noNull, noTrue, noFalse⟩ := numeral_start start
  simp_all [passScalar, passNumber]

/-- A value starts with a character that is no blank and closes no list. -/
theorem Valid.head (valid : Valid .value cs rest) :
    ∃ c left, cs = c :: left ∧ isBlank c = false ∧ c ≠ ']' := by
  cases valid with
  | null | yes | no | text => exact ⟨_, _, rfl, by decide, by decide⟩
  | @bracket b => exact ⟨_, _, rfl, by cases b <;> decide, by cases b <;> decide⟩
  | number figure =>
    obtain ⟨c, left, equal, start⟩ := figure.head
    obtain ⟨visible, -, -, open', -⟩ := numeral_start start
    exact ⟨c, left, equal, visible, open'⟩

/-- What passing over a piece of a text leads to: the walk goes on behind it. -/
def Passed : Piece → (cs rest : List Char) → Prop
  | .value, cs, rest =>
    Delimited rest → ∀ stack, ∃ opened left, enter .lenient stack cs = .ok (opened, left) ∧
      walk .lenient (enclosed stack opened).1 (enclosed stack opened).2 left
        = walk .lenient stack false rest
  | .items b isFirst, cs, rest =>
    ∀ outer, walk .lenient (b :: outer) isFirst cs = walk .lenient outer false rest

theorem passed_scalar (visible : isBlank c = false) (noList : c ≠ '[') (noObject : c ≠ '\x7b')
    (passed : Delimited rest → passScalar (c :: left) = .ok rest) :
    Passed .value (c :: left) rest := fun delimited _ =>
  ⟨none, rest, enter_scalar visible noList noObject (passed delimited), rfl⟩

/-- Every piece of a text is passed over. -/
theorem Valid.passed {piece : Piece} (valid : Valid piece cs rest) : Passed piece cs rest := by
  induction valid with
  | null | yes | no =>
    exact passed_scalar (by decide) (by decide) (by decide) fun _ => by simp [passScalar, word]
  | text unread =>
    exact passed_scalar (by decide) (by decide) (by decide)
      fun _ => by simp [passScalar, unread.pass]
  | number figure =>
    obtain ⟨c, left, rfl, start⟩ := figure.head
    obtain ⟨visible, noList, noObject, -⟩ := numeral_start start
    exact passed_scalar visible noList noObject fun delimited => figure.passScalar_eq delimited
  | @bracket b cs rest items ih =>
    intro delimited stack
    exact ⟨some b, cs, enter_bracket b, ih stack⟩
  | close blanks =>
    intro outer
    exact walk_close (next_closed blanks)
  | @item b isFirst cs labelled blank start left rest gap label blanks value items ihValue
      ihItems =>
    intro outer
    -- Inside of a bracket a value is followed by a gap or the closing bracket, which delimit it.
    obtain ⟨opened, behind, entered, walked⟩ := ihValue items.delimited (b :: outer)
    have reached : enter .lenient (b :: outer) blank = .ok (opened, behind) :=
      blanks.enter_eq.trans entered
    have onward : walk .lenient (b :: outer) isFirst cs =
        walk .lenient (enclosed (b :: outer) opened).1 (enclosed (b :: outer) opened).2 behind := by
      cases label with
      | list =>
        obtain ⟨c, tail, rfl, visible, inside⟩ := value.head
        exact walk_item (next_item (gap.append blanks) visible inside) rfl entered
      | @object keyed between blank key colon =>
        have labelled : passLabel .lenient .object ('"' :: keyed) = .ok blank := by
          simp [passLabel, passKey, key.pass, colon_eq colon]
        exact walk_item (next_item gap (by decide) (by decide)) labelled reached
    rw [onward, walked]
    exact ihItems outer

/-- Passing over a value leaves what stands behind it. -/
theorem Valid.passValue_eq (valid : Valid .value cs rest) (delimited : Delimited rest) :
    passValue cs = .ok rest := by
  obtain ⟨opened, left, entered, walked⟩ := valid.passed delimited []
  rw [passValue, entered]
  show walk .lenient (enclosed [] opened).1 (enclosed [] opened).2 left = .ok rest
  rw [walked, walk]

theorem Blanks.passValue_eq (blanks : Blanks cs rest) : passValue cs = passValue rest := by
  simp only [passValue, blanks.enter_eq]

end Passing

end FunctionAgent.Json
