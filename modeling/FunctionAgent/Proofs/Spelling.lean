import FunctionAgent.Json.Value
/-!
# How texts and numbers are spelled in JSON

The relations of this module say what may stand in a JSON text, without a word about how it is
read: `Blanks cs rest` says that `cs` is some blanks with `rest` behind them, and so on with the
inside of a text, with a text that nobody wants, and with a numeral. A text has many spellings,
since every character may be escaped. What is spelled in one of these ways is read as it is meant,
provided that a numeral is `Delimited`.
-/

set_option autoImplicit false

namespace FunctionAgent

open FunctionAgent.Text

namespace Text.Hex

/-- A digit of either case stands for its value. -/
def Spells (d : Fin 16) (c : Char) : Prop := c = digit d ∨ c = (digit d).toUpper

theorem Spells.digit?_eq {d : Fin 16} {c : Char} (spells : Spells d c) : digit? c = some d := by
  rcases spells with rfl | rfl
  · exact digit?_digit d
  · revert d
    decide

end Text.Hex

namespace Json

/-- Some blanks, and then the rest. -/
inductive Blanks : (cs rest : List Char) → Prop where
  | none {rest : List Char} : Blanks rest rest
  | more {c : Char} {cs rest : List Char} (blank : isBlank c = true) (blanks : Blanks cs rest) :
      Blanks (c :: cs) rest

/-- The four digits of a code unit. -/
inductive CodeUnit : Nat → (cs rest : List Char) → Prop where
  | digits {a b c d : Fin 16} {k l m n : Char} {rest : List Char} (first : Hex.Spells a k)
      (second : Hex.Spells b l) (third : Hex.Spells c m) (fourth : Hex.Spells d n) :
      CodeUnit (a.val * 0x1000 + b.val * 0x100 + c.val * 0x10 + d.val)
        (k :: l :: m :: n :: rest) rest

/-- The inside of a text with the closing quote. Every character but the control characters, the
quote and the backslash may stand for itself. It may also be escaped, in a short form if it has one,
and else by its code unit, or by two of them if it lies beyond the basic plane. -/
inductive Inside : (s cs rest : List Char) → Prop where
  | close {rest : List Char} : Inside [] ('"' :: rest) rest
  | plain {c : Char} {s cs rest : List Char} (unquoted : c ≠ '"') (unescaped : c ≠ '\\')
      (visible : isControl c = false) (inside : Inside s cs rest) : Inside (c :: s) (c :: cs) rest
  | short {e c : Char} {s cs rest : List Char} (known : shortEscape? e = some c)
      (inside : Inside s cs rest) : Inside (c :: s) ('\\' :: e :: cs) rest
  | unit {c : Char} {s cs tail rest : List Char} (digits : CodeUnit c.toNat cs tail)
      (inside : Inside s tail rest) : Inside (c :: s) ('\\' :: 'u' :: cs) rest
  | pair {c : Char} {high low : Nat} {s cs between tail rest : List Char}
      (beyond : c.toNat = 0x10000 + high * 0x400 + low) (small : low < 0x400)
      (first : CodeUnit (0xD800 + high) cs ('\\' :: 'u' :: between))
      (second : CodeUnit (0xDC00 + low) between tail) (inside : Inside s tail rest) :
      Inside (c :: s) ('\\' :: 'u' :: cs) rest

/-- Whether a character may stand for itself in a text. -/
def isPlain (c : Char) : Bool := c != '"' && c != '\\' && !isControl c

/-- The inside of a text that nobody wants: its escapes have the right form. -/
inductive Unread : (cs rest : List Char) → Prop where
  | close {rest : List Char} : Unread ('"' :: rest) rest
  | plain {c : Char} {cs rest : List Char} (unquoted : c ≠ '"') (unescaped : c ≠ '\\')
      (visible : isControl c = false) (unread : Unread cs rest) : Unread (c :: cs) rest
  | short {e c : Char} {cs rest : List Char} (known : shortEscape? e = some c)
      (unread : Unread cs rest) : Unread ('\\' :: e :: cs) rest
  | unit {n : Nat} {cs tail rest : List Char} (digits : CodeUnit n cs tail)
      (unread : Unread tail rest) : Unread ('\\' :: 'u' :: cs) rest

/-- Some digits, at least one. -/
inductive Digits : (ds cs rest : List Char) → Prop where
  | one {d : Char} {rest : List Char} (digit : isDigit d = true) : Digits [d] (d :: rest) rest
  | more {d : Char} {ds cs rest : List Char} (digit : isDigit d = true)
      (digits : Digits ds cs rest) : Digits (d :: ds) (d :: cs) rest

/-- The whole part of a numeral: a zero, or some digits of which the first one is no zero. -/
inductive Whole : (ds cs rest : List Char) → Prop where
  | zero {rest : List Char} : Whole ['0'] ('0' :: rest) rest
  | digits {ds cs rest : List Char} (digits : Digits ds cs rest) (nonzero : ds.head? ≠ some '0') :
      Whole ds cs rest

inductive Fraction : Option (List Char) → (cs rest : List Char) → Prop where
  | absent {rest : List Char} : Fraction none rest rest
  | present {ds cs rest : List Char} (digits : Digits ds cs rest) :
      Fraction (some ds) ('.' :: cs) rest

/-- The sign of an exponent, and whether it is negative. -/
inductive Sign : Bool → (cs rest : List Char) → Prop where
  | absent {rest : List Char} : Sign false rest rest
  | plus {rest : List Char} : Sign false ('+' :: rest) rest
  | minus {rest : List Char} : Sign true ('-' :: rest) rest

inductive Exponent : Option (Bool × List Char) → (cs rest : List Char) → Prop where
  | absent {rest : List Char} : Exponent none rest rest
  | present {e : Char} {isNegative : Bool} {ds cs between rest : List Char}
      (letter : e = 'e' ∨ e = 'E') (sign : Sign isNegative cs between)
      (digits : Digits ds between rest) : Exponent (some (isNegative, ds)) (e :: cs) rest

/-- A numeral behind its sign. -/
inductive Magnitude (isNegative : Bool) : Numeral → (cs rest : List Char) → Prop where
  | parts {ds cs between behind rest : List Char} {fraction : Option (List Char)}
      {exponent : Option (Bool × List Char)} (whole : Whole ds cs between)
      (part : Fraction fraction between behind) (power : Exponent exponent behind rest) :
      Magnitude isNegative ⟨isNegative, ds, fraction, exponent⟩ cs rest

inductive Figure : Numeral → (cs rest : List Char) → Prop where
  | plain {n : Numeral} {cs rest : List Char} (magnitude : Magnitude false n cs rest) :
      Figure n cs rest
  | negative {n : Numeral} {cs rest : List Char} (magnitude : Magnitude true n cs rest) :
      Figure n ('-' :: cs) rest

/-- Whether a text goes on in a way in which it may go on behind a value. -/
def Delimited (rest : List Char) : Prop :=
  ∀ c ∈ rest.head?, isBlank c = true ∨ c = ',' ∨ c = ']' ∨ c = '\x7d'

section Texts

variable {cs rest : List Char}

theorem isBlank_cases {c : Char} (blank : isBlank c = true) :
    c = ' ' ∨ c = '\n' ∨ c = '\t' ∨ c = '\r' := by
  simpa [isBlank, or_assoc] using blank

theorem Blanks.skip (blanks : Blanks cs rest) : skipBlanks cs = skipBlanks rest := by
  induction blanks with
  | none => rfl
  | more blank blanks ih =>
    rw [← ih]
    exact List.dropWhile_cons_of_pos blank

theorem skipBlanks_cons {c : Char} (visible : isBlank c = false) :
    skipBlanks (c :: rest) = c :: rest :=
  List.dropWhile_cons_of_neg (by simp [visible])

/-- Behind some blanks the next character is reached. -/
theorem Blanks.reach {c : Char} (blanks : Blanks cs (c :: rest)) (visible : isBlank c = false) :
    skipBlanks cs = c :: rest :=
  blanks.skip.trans (skipBlanks_cons visible)

theorem CodeUnit.read {n : Nat} (digits : CodeUnit n cs rest) : codeUnit cs = .ok (n, rest) := by
  cases digits with
  | digits first second third fourth =>
    simp only [codeUnit, first.digit?_eq, second.digit?_eq, third.digit?_eq, fourth.digit?_eq]

theorem escaped_unit {c : Char} (digits : CodeUnit c.toNat cs rest) :
    escaped ('u' :: cs) = .ok (c, rest) := by
  have valid : c.toNat < 0xD800 ∨ 0xDFFF < c.toNat ∧ c.toNat < 0x110000 := c.valid
  have notLow : isLowSurrogate c.toNat = false := by simp [isLowSurrogate]; omega
  have notHigh : isHighSurrogate c.toNat = false := by simp [isHighSurrogate]; omega
  simp [escaped, codePoint, digits.read, notLow, notHigh]

/-- A character beyond the basic plane by its two code units. -/
theorem escaped_pair {c : Char} {high low : Nat} {between tail : List Char}
    (beyond : c.toNat = 0x10000 + high * 0x400 + low) (small : low < 0x400)
    (first : CodeUnit (0xD800 + high) cs ('\\' :: 'u' :: between))
    (second : CodeUnit (0xDC00 + low) between tail) :
    escaped ('u' :: cs) = .ok (c, tail) := by
  have valid : c.toNat < 0xD800 ∨ 0xDFFF < c.toNat ∧ c.toNat < 0x110000 := c.valid
  have notLow : isLowSurrogate (0xD800 + high) = false := by simp [isLowSurrogate]; omega
  have isHigh : isHighSurrogate (0xD800 + high) = true := by simp [isHighSurrogate]; omega
  have isLow : isLowSurrogate (0xDC00 + low) = true := by simp [isLowSurrogate]; omega
  have value : pairValue (0xD800 + high) (0xDC00 + low) = c.toNat := by simp [pairValue]; omega
  simp [escaped, codePoint, first.read, notLow, isHigh, lowSurrogate, second.read, isLow, value]

/-- The letter of a code unit is no short escape. -/
theorem ne_unit_of_short {e c : Char} (known : shortEscape? e = some c) : e ≠ 'u' := by
  rintro rfl
  cases known

theorem escaped_short {e c : Char} (known : shortEscape? e = some c) :
    escaped (e :: rest) = .ok (c, rest) := by
  have other := ne_unit_of_short known
  unfold escaped
  split <;> simp_all

theorem textFrom_plain {c : Char} {seen : List Char} (unquoted : c ≠ '"') (unescaped : c ≠ '\\')
    (visible : isControl c = false) : textFrom seen (c :: rest) = textFrom (c :: seen) rest := by
  rw [textFrom]
  · simp [visible]
  · exact unquoted
  · exact unescaped

theorem textFrom_escaped {c : Char} {seen : List Char} (read : escaped cs = .ok (c, rest)) :
    textFrom seen ('\\' :: cs) = textFrom (c :: seen) rest := by
  rw [textFrom]
  split <;> simp_all

theorem passText_plain {c : Char} (unquoted : c ≠ '"') (unescaped : c ≠ '\\')
    (visible : isControl c = false) : passText (c :: rest) = passText rest := by
  rw [passText]
  · simp [visible]
  · exact unquoted
  · exact unescaped

theorem passEscaped_short {e c : Char} (known : shortEscape? e = some c) :
    passEscaped (e :: rest) = .ok rest := by
  have other := ne_unit_of_short known
  unfold passEscaped
  split <;> simp_all

theorem passEscaped_unit {n : Nat} (digits : CodeUnit n cs rest) :
    passEscaped ('u' :: cs) = .ok rest := by
  simp [passEscaped, digits.read]

theorem passText_escaped (passed : passEscaped cs = .ok rest) :
    passText ('\\' :: cs) = passText rest := by
  rw [passText]
  split <;> simp_all

/-- A text reads back from each of its spellings. -/
theorem Inside.read {s seen : List Char} (inside : Inside s cs rest) :
    textFrom seen cs = .ok (seen.reverse ++ s, rest) := by
  induction inside generalizing seen with
  | close => rw [textFrom, List.append_nil]
  | plain unquoted unescaped visible inside ih =>
    rw [textFrom_plain unquoted unescaped visible, ih]
    simp
  | short known inside ih =>
    rw [textFrom_escaped (escaped_short known), ih]
    simp
  | unit digits inside ih =>
    rw [textFrom_escaped (escaped_unit digits), ih]
    simp
  | pair beyond small first second inside ih =>
    rw [textFrom_escaped (escaped_pair beyond small first second), ih]
    simp

theorem Inside.text_eq {s : List Char} (inside : Inside s cs rest) : text cs = .ok (s, rest) :=
  inside.read

/-- A text without special characters spells itself. -/
theorem Inside.itself {s : List Char} (plain : s.all isPlain = true) :
    Inside s (s ++ '"' :: rest) rest := by
  induction s with
  | nil => exact .close
  | cons c s ih =>
    simp only [List.all_cons, Bool.and_eq_true] at plain
    obtain ⟨first, others⟩ := plain
    have ⟨⟨unquoted, unescaped⟩, visible⟩ :
        (c ≠ '"' ∧ c ≠ '\\') ∧ isControl c = false := by simpa [isPlain] using first
    exact .plain unquoted unescaped visible (ih others)

/-- What has the form of a text is passed over. -/
theorem Unread.pass (unread : Unread cs rest) : passText cs = .ok rest := by
  induction unread with
  | close => rw [passText]
  | plain unquoted unescaped visible unread ih =>
    rw [passText_plain unquoted unescaped visible, ih]
  | short known unread ih => rw [passText_escaped (passEscaped_short known), ih]
  | unit digits unread ih => rw [passText_escaped (passEscaped_unit digits), ih]

end Texts

section Numerals

variable {ds cs rest : List Char}

/-- Whether no digit comes next. -/
def Undigited (cs : List Char) : Prop := ∀ c ∈ cs.head?, isDigit c = false

theorem Delimited.not_numeral (delimited : Delimited rest) {c : Char} (next : c ∈ rest.head?) :
    isDigit c = false ∧ c ≠ '.' ∧ c ≠ 'e' ∧ c ≠ 'E' := by
  rcases delimited c next with blank | rfl | rfl | rfl
  · rcases isBlank_cases blank with rfl | rfl | rfl | rfl <;> decide
  · decide
  · decide
  · decide

theorem Digits.all (digits : Digits ds cs rest) : ∀ d ∈ ds, isDigit d = true := by
  induction digits with
  | one digit => simpa using digit
  | more digit digits ih =>
    intro d member
    rcases List.mem_cons.1 member with rfl | member
    · exact digit
    · exact ih d member

theorem Digits.eq_append (digits : Digits ds cs rest) : cs = ds ++ rest := by
  induction digits with
  | one => rfl
  | more digit digits ih => rw [ih, List.cons_append]

theorem Digits.ne_nil (digits : Digits ds cs rest) : ds ≠ [] := by
  cases digits <;> exact List.cons_ne_nil _ _

/-- A run of digits ends where no digit comes next. -/
theorem Digits.run_eq (digits : Digits ds cs rest) (ends : Undigited rest) :
    Numeral.run cs = .ok (ds, rest) := by
  have front : rest.takeWhile isDigit = [] := by
    cases rest with
    | nil => rfl
    | cons c rest => exact List.takeWhile_cons_of_neg (by simp [ends c rfl])
  have back : rest.dropWhile isDigit = rest := by
    cases rest with
    | nil => rfl
    | cons c rest => exact List.dropWhile_cons_of_neg (by simp [ends c rfl])
  have taken : cs.takeWhile isDigit = ds := by
    rw [digits.eq_append, List.takeWhile_append_of_pos digits.all, front, List.append_nil]
  have left : cs.dropWhile isDigit = rest := by
    rw [digits.eq_append, List.dropWhile_append_of_pos digits.all, back]
  rw [Numeral.run, taken, left]
  have some := digits.ne_nil
  cases ds with
  | nil => contradiction
  | cons d ds => rfl

theorem Digits.head (digits : Digits ds cs rest) :
    ∃ d left, cs = d :: left ∧ ds.head? = some d ∧ isDigit d = true := by
  cases digits with
  | one digit => exact ⟨_, _, rfl, rfl, digit⟩
  | more digit digits => exact ⟨_, _, rfl, rfl, digit⟩

theorem Whole.head (whole : Whole ds cs rest) : ∃ d left, cs = d :: left ∧ isDigit d = true := by
  cases whole with
  | zero => exact ⟨_, _, rfl, rfl⟩
  | digits digits nonzero =>
    obtain ⟨d, left, equal, -, digit⟩ := digits.head
    exact ⟨d, left, equal, digit⟩

theorem Whole.read (whole : Whole ds cs rest) (ends : Undigited rest) :
    Numeral.wholePart cs = .ok (ds, rest) := by
  cases whole with
  | zero =>
    have none : rest.head?.any isDigit = false := by
      cases rest with
      | nil => rfl
      | cons c rest => exact ends c rfl
    simp [Numeral.wholePart, none]
  | digits digits nonzero =>
    obtain ⟨d, left, rfl, first, -⟩ := digits.head
    unfold Numeral.wholePart
    split
    · rename_i equal
      obtain ⟨rfl, -⟩ := List.cons.inj equal
      exact absurd first nonzero
    · exact digits.run_eq ends

theorem Fraction.undigited {fraction : Option (List Char)} (part : Fraction fraction cs rest)
    (ends : Undigited rest) : Undigited cs := by
  cases part with
  | absent => exact ends
  | present => simp [Undigited, isDigit, digit?]

theorem Fraction.read {fraction : Option (List Char)} (part : Fraction fraction cs rest)
    (ends : Undigited rest) (pointless : rest.head? ≠ some '.') :
    Numeral.fractionPart cs = .ok (fraction, rest) := by
  cases part with
  | absent =>
    unfold Numeral.fractionPart
    split
    · simp at pointless
    · rfl
  | present digits =>
    rw [Numeral.fractionPart, digits.run_eq ends]
    rfl

theorem Sign.read {isNegative : Bool} (sign : Sign isNegative cs rest)
    (unsigned : ∀ c ∈ rest.head?, c ≠ '+' ∧ c ≠ '-') :
    Numeral.exponentSign cs = (isNegative, rest) := by
  cases sign with
  | absent =>
    unfold Numeral.exponentSign
    split
    · exact absurd rfl (unsigned _ rfl).1
    · exact absurd rfl (unsigned _ rfl).2
    · rfl
  | plus | minus => rfl

theorem Exponent.undigited {exponent : Option (Bool × List Char)}
    (power : Exponent exponent cs rest) (delimited : Delimited rest) :
    Undigited cs ∧ cs.head? ≠ some '.' := by
  cases power with
  | absent =>
    constructor
    · intro c next
      exact (delimited.not_numeral next).1
    · intro next
      exact (delimited.not_numeral next).2.1 rfl
  | present letter =>
    rcases letter with rfl | rfl <;> simp [Undigited, isDigit, digit?]

theorem Exponent.read {exponent : Option (Bool × List Char)} (power : Exponent exponent cs rest)
    (delimited : Delimited rest) : Numeral.exponentPart cs = .ok (exponent, rest) := by
  cases power with
  | absent =>
    cases cs with
    | nil => rfl
    | cons c cs =>
      obtain ⟨-, -, lower, upper⟩ := delimited.not_numeral rfl
      simp [Numeral.exponentPart, lower, upper]
  | @present e isNegative ds cs between rest letter sign digits =>
    have ends : Undigited rest := fun c next => (delimited.not_numeral next).1
    -- The sign ends where the digits begin, since no digit is a sign.
    obtain ⟨d, left, rfl, -, digit⟩ := digits.head
    have signed : Numeral.exponentSign cs = (isNegative, d :: left) := by
      refine sign.read fun c next => ?_
      obtain rfl : d = c := by simpa using next
      constructor
      · rintro rfl
        cases digit
      · rintro rfl
        cases digit
    rw [Numeral.exponentPart, if_pos letter, signed, digits.run_eq ends]
    rfl

theorem Magnitude.read {isNegative : Bool} {n : Numeral}
    (magnitude : Magnitude isNegative n cs rest) (delimited : Delimited rest) :
    Numeral.unsigned isNegative cs = .ok (n, rest) := by
  cases magnitude with
  | parts whole part power =>
    obtain ⟨ends, pointless⟩ := power.undigited delimited
    simp only [Numeral.unsigned, whole.read (part.undigited ends), part.read ends pointless,
      power.read delimited]

theorem Figure.head {n : Numeral} (figure : Figure n cs rest) :
    ∃ c left, cs = c :: left ∧ (c = '-' ∨ isDigit c = true) := by
  cases figure with
  | negative => exact ⟨_, _, rfl, .inl rfl⟩
  | plain magnitude =>
    cases magnitude with
    | parts whole =>
      obtain ⟨d, left, equal, digit⟩ := whole.head
      exact ⟨d, left, equal, .inr digit⟩

/-- A numeral reads back by its parts. -/
theorem Figure.read {n : Numeral} (figure : Figure n cs rest) (delimited : Delimited rest) :
    Numeral.read cs = .ok (n, rest) := by
  cases figure with
  | negative magnitude => exact magnitude.read delimited
  | plain magnitude =>
    have unsigned := magnitude.read delimited
    cases magnitude with
    | parts whole =>
      obtain ⟨d, left, rfl, digit⟩ := whole.head
      unfold Numeral.read
      split
      · rename_i equal
        obtain ⟨rfl, -⟩ := List.cons.inj equal
        cases digit
      · exact unsigned

end Numerals

end Json

end FunctionAgent
