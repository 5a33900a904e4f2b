import FunctionAgent.Proofs.Naming
/-!
# What a numeral is worth

Digits are worth what they say, with any zeros in front and without a limit (`Numerates`). A reader
with a limit reads just the numerals up to it (`natural_eq_ok_iff`), so nothing that is too large
wraps around to a value within. A mode is read from just those texts that are a numeral of its label
or its name, with blanks at the ends or without (`Mode.parse_eq_ok_iff`).
-/

set_option autoImplicit false

namespace FunctionAgent

namespace Text

variable {limit acc n : Nat} {beyond : NumeralFault} {cs body front back : List Char} {s : String}

/-- Whether some characters are digits, at least one, that are worth a number. -/
structure Numerates (cs : List Char) (n : Nat) : Prop where
  some : cs ≠ []
  digits : ∀ c ∈ cs, c.isDigit = true
  worth : Nat.ofDigitChars 10 cs 0 = n

theorem digit?_eq (c : Char) :
    digit? c = if c.isDigit then some (c.toNat - '0'.toNat) else none := by
  have same : ('0' ≤ c ∧ c ≤ '9') ↔ c.isDigit = true := by
    simp only [Char.isDigit, Bool.and_eq_true, decide_eq_true_eq]
    rfl
  simp only [digit?, same]

/-- Further digits never make a number smaller. -/
theorem le_ofDigitChars (acc : Nat) (cs : List Char) : acc ≤ Nat.ofDigitChars 10 cs acc := by
  induction cs generalizing acc with
  | nil => simp
  | cons c cs ih =>
    rw [Nat.ofDigitChars_cons]
    exact Nat.le_trans (by omega) (ih _)

theorem magnitudeFrom_eq_ok_iff (within : acc ≤ limit) :
    magnitudeFrom limit beyond acc cs = .ok n ↔
      (∀ c ∈ cs, c.isDigit = true) ∧ Nat.ofDigitChars 10 cs acc = n ∧ n ≤ limit := by
  induction cs generalizing acc with
  | nil =>
    simp only [magnitudeFrom, Except.ok.injEq, Nat.ofDigitChars_nil, List.not_mem_nil]
    constructor
    · rintro rfl
      exact ⟨by simp, rfl, within⟩
    · rintro ⟨-, rfl, -⟩
      rfl
  | cons c cs ih =>
    rw [magnitudeFrom, digit?_eq, Nat.ofDigitChars_cons, List.forall_mem_cons]
    by_cases digit : c.isDigit = true
    · rw [if_pos digit]
      dsimp only
      have grows := le_ofDigitChars (10 * acc + (c.toNat - '0'.toNat)) cs
      split
      · constructor
        · intro refused
          contradiction
        · rintro ⟨-, rfl, small⟩
          omega
      · rename_i small
        rw [ih (by omega)]
        simp [digit]
    · simp [digit]

theorem magnitude_eq_ok_iff :
    magnitude limit beyond cs = .ok n ↔ Numerates cs n ∧ n ≤ limit := by
  cases cs with
  | nil =>
    constructor
    · intro refused
      contradiction
    · rintro ⟨numerates, -⟩
      exact absurd rfl numerates.some
  | cons c cs =>
    rw [magnitude, magnitudeFrom_eq_ok_iff (Nat.zero_le limit)]
    · constructor
      · rintro ⟨digits, worth, small⟩
        exact ⟨⟨List.cons_ne_nil _ _, digits, worth⟩, small⟩
      · rintro ⟨⟨-, digits, worth⟩, small⟩
        exact ⟨digits, worth, small⟩
    · simp

/-- A natural number is read from its numerals, with a plus sign in front or without. -/
theorem natural_eq_ok_iff : natural limit s = .ok n ↔
    (∃ ds, (s.toList = ds ∨ s.toList = '+' :: ds) ∧ Numerates ds n) ∧ n ≤ limit := by
  unfold natural
  split
  · rename_i empty
    constructor
    · intro refused
      contradiction
    · rintro ⟨⟨ds, rfl | signed, numerates⟩, -⟩
      · exact absurd empty numerates.some
      · simp [empty] at signed
  · rename_i rest signed
    rw [magnitude_eq_ok_iff, signed]
    refine and_congr_left fun _ => ?_
    constructor
    · intro numerates
      exact ⟨rest, .inr rfl, numerates⟩
    · rintro ⟨ds, rfl | same, numerates⟩
      · exact absurd (numerates.digits '+' List.mem_cons_self) (by decide)
      · obtain rfl := (List.cons.inj same).2
        exact numerates
  · rename_i unsigned
    rw [magnitude_eq_ok_iff]
    refine and_congr_left fun _ => ?_
    constructor
    · intro numerates
      exact ⟨_, .inl rfl, numerates⟩
    · rintro ⟨ds, rfl | signed, numerates⟩
      · exact numerates
      · exact absurd signed (unsigned ds)

end Text

namespace Mode

open FunctionAgent.Text

variable {mode : Mode} {s : String}

/-- Whether some characters say a mode: its label as a numeral, or its name. -/
def Said (mode : Mode) (cs : List Char) : Prop :=
  (∃ ds, (cs = ds ∨ cs = '+' :: ds) ∧ Numerates ds mode.label) ∨ mode.Named cs

theorem ofLabel?_eq_some_iff {n : Nat} : ofLabel? n = some mode ↔ n = mode.label := by
  constructor
  · intro found
    have same := List.find?_some found
    exact (beq_iff_eq.1 same).symm
  · rintro rfl
    exact ofLabel?_label mode

theorem ofName?_eq_some_iff : ofName? s = some mode ↔ mode.Named s.toList := by
  constructor
  · intro found
    have same := List.find?_some found
    exact (beq_iff_eq.1 same).symm
  · intro named
    rw [← named.ofName?_eq, String.ofList_toList]

/-- A name is no numeral. -/
theorem Named.not_numerates {cs ds : List Char} {n : Nat} (named : mode.Named cs)
    (shape : cs = ds ∨ cs = '+' :: ds) : ¬Numerates ds n := by
  intro numerates
  obtain ⟨c, rest, rfl⟩ := List.exists_cons_of_ne_nil numerates.some
  have digit := numerates.digits c List.mem_cons_self
  have member : c ∈ cs := by rcases shape with rfl | rfl <;> simp
  have none := digit?_of_within (named.within member)
  simp [digit?_eq, digit] at none

/-- A mode is read from just those texts that say it between blanks. -/
theorem parse_eq_ok_iff : parse s = .ok mode ↔ mode.Said (trimmed s.toList) := by
  have bare : (trim s).toList = trimmed s.toList := String.toList_ofList
  rw [parse, ← bare]
  cases read : natural word64Max (trim s) with
  | ok n =>
    obtain ⟨⟨ds, shape, numerates⟩, -⟩ := natural_eq_ok_iff.1 read
    have same : (ofLabel? n).elim (.error (.label n)) .ok = Except.ok (ε := ModeFault) mode ↔
        n = mode.label := by
      rw [← ofLabel?_eq_some_iff]
      cases ofLabel? n <;> simp
    rw [same]
    constructor
    · rintro rfl
      exact .inl ⟨ds, shape, numerates⟩
    · rintro (⟨es, other, again⟩ | named)
      · -- Both ways to take the sign off leave the same digits.
        have small : mode.label ≤ word64Max := by cases mode <;> decide
        have reread := natural_eq_ok_iff.2 ⟨⟨es, other, again⟩, small⟩
        exact Except.ok.inj (read.symm.trans reread)
      · exact absurd numerates (named.not_numerates shape)
  | error fault =>
    have same : (ofName? (trim s)).elim (.error (.name (trim s))) .ok =
        Except.ok (ε := ModeFault) mode ↔ mode.Named (trim s).toList := by
      rw [← ofName?_eq_some_iff]
      cases ofName? (trim s) <;> simp
    rw [same]
    constructor
    · exact .inr
    · rintro (⟨ds, shape, numerates⟩ | named)
      · have small : mode.label ≤ word64Max := by cases mode <;> decide
        have reread := natural_eq_ok_iff.2 ⟨⟨ds, shape, numerates⟩, small⟩
        exact absurd (read.symm.trans reread) (by simp)
      · exact named

theorem exists_error_iff :
    (∃ fault, parse s = .error fault) ↔ ∀ mode : Mode, ¬mode.Said (trimmed s.toList) := by
  simp only [← parse_eq_ok_iff]
  cases parse s with
  | ok mode => simp
  | error fault => simp

end Mode

end FunctionAgent
