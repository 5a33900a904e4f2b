import FunctionAgent.Catalog.Mode
import FunctionAgent.Proofs.Spelling
import FunctionAgent.Uuid
/-!
# How functions and modes are named

An identifier is written in one of four ways, with digits of either case (`Uuid.Spelled`), and a
mode by its name in any case or by its label. Each of these is read as it is meant. The name of a
mode is never mistaken for a number, and no blank is cut off it, since its characters lie between
the capital and the small letters.
-/

set_option autoImplicit false

namespace FunctionAgent

open FunctionAgent.Text

namespace Text.Hex

/-- Some digits, each of either case. -/
inductive SpellsAll : List (Fin 16) → List Char → Prop where
  | nil : SpellsAll [] []
  | cons {d : Fin 16} {c : Char} {ds : List (Fin 16)} {cs : List Char} (first : Spells d c)
      (others : SpellsAll ds cs) : SpellsAll (d :: ds) (c :: cs)

theorem SpellsAll.mapM_eq {ds : List (Fin 16)} {cs : List Char} (spells : SpellsAll ds cs) :
    cs.mapM digit? = some ds := by
  induction spells with
  | nil => rfl
  | cons first others ih => simp [List.mapM_cons, first.digit?_eq, ih]

theorem SpellsAll.length_eq {ds : List (Fin 16)} {cs : List Char} (spells : SpellsAll ds cs) :
    cs.length = ds.length := by
  induction spells with
  | nil => rfl
  | cons first others ih => rw [List.length_cons, List.length_cons, ih]

theorem spellsAll_digit (ds : List (Fin 16)) : SpellsAll ds (ds.map digit) := by
  induction ds with
  | nil => exact .nil
  | cons d ds ih => exact .cons (.inl rfl) ih

end Text.Hex

namespace Uuid

/-- The ways to write an identifier: its digits alone, in groups, and the groups between braces or
behind the scheme of a URN. -/
inductive Spelled (id : Uuid) : List Char → Prop where
  | plain {cs : List Char} (digits : Hex.SpellsAll id.digits cs) : Spelled id cs
  | grouped {cs : List Char} (digits : Hex.SpellsAll id.digits cs) : Spelled id (hyphenate cs)
  | braced {cs : List Char} (digits : Hex.SpellsAll id.digits cs) :
      Spelled id ('\x7b' :: (hyphenate cs ++ ['\x7d']))
  | urn {scheme cs : List Char} (digits : Hex.SpellsAll id.digits cs)
      (folded : scheme.map Char.toLower = urnScheme) : Spelled id (scheme ++ hyphenate cs)

variable {id : Uuid} {cs : List Char}

theorem length_hyphenate (count : cs.length = 32) : (hyphenate cs).length = 36 := by
  simp [hyphenate]
  omega

theorem length_of_spellsAll (digits : Hex.SpellsAll id.digits cs) : cs.length = 32 :=
  digits.length_eq.trans id.length_digits

theorem ofSimple?_of_spellsAll (digits : Hex.SpellsAll id.digits cs) : ofSimple? cs = some id := by
  rw [ofSimple?, digits.mapM_eq]
  simp [ofDigits?, id.length_digits]

theorem ofHyphenated?_of_spellsAll (digits : Hex.SpellsAll id.digits cs) :
    ofHyphenated? (hyphenate cs) = some id := by
  rw [ofHyphenated?, dehyphenate?_hyphenate (length_of_spellsAll digits)]
  exact ofSimple?_of_spellsAll digits

/-- The printed form is one of the spellings. -/
theorem spelled_chars (id : Uuid) : id.Spelled id.chars := .grouped (Hex.spellsAll_digit id.digits)

/-- What is printed are digits and hyphens. -/
theorem mem_chars {c : Char} (member : c ∈ id.chars) : c = '-' ∨ ∃ d, c = Hex.digit d := by
  have inside : c ∈ id.digits.map Hex.digit ∨ c = '-' := by
    simp only [chars, hyphenate, List.append_assoc, List.cons_append, List.mem_append,
      List.mem_cons] at member
    rcases member with front | rfl | front | rfl | front | rfl | front | rfl | front
    · exact .inl (List.mem_of_mem_take front)
    · exact .inr rfl
    · exact .inl (List.mem_of_mem_drop (List.mem_of_mem_take front))
    · exact .inr rfl
    · exact .inl (List.mem_of_mem_drop (List.mem_of_mem_take front))
    · exact .inr rfl
    · exact .inl (List.mem_of_mem_drop (List.mem_of_mem_take front))
    · exact .inr rfl
    · exact .inl (List.mem_of_mem_drop front)
  rcases inside with digit | hyphen
  · obtain ⟨d, -, rfl⟩ := List.mem_map.1 digit
    exact .inr ⟨d, rfl⟩
  · exact .inl hyphen

/-- An identifier is read from each of its spellings. -/
theorem Spelled.read (spelled : Spelled id cs) : ofChars? cs = some id := by
  cases spelled with
  | plain digits =>
    rw [ofChars?, if_pos (length_of_spellsAll digits), ofSimple?_of_spellsAll digits]
  | grouped digits =>
    have length := length_hyphenate (length_of_spellsAll digits)
    simp [ofChars?, length, ofHyphenated?_of_spellsAll digits]
  | @braced cs digits =>
    have length := length_hyphenate (length_of_spellsAll digits)
    have inside : inBraces? ('\x7b' :: (hyphenate cs ++ ['\x7d'])) = some (hyphenate cs) := by
      simp [inBraces?]
    simp [ofChars?, length, inside, ofHyphenated?_of_spellsAll digits]
  | @urn scheme cs digits folded =>
    have length := length_hyphenate (length_of_spellsAll digits)
    have nine : scheme.length = 9 := by
      rw [← List.length_map Char.toLower, folded]
      rfl
    have count : urnScheme.length = 9 := rfl
    have behind : behindUrn? (scheme ++ hyphenate cs) = some (hyphenate cs) := by
      simp [behindUrn?, count, ← nine, folded]
    simp [ofChars?, length, nine, behind, ofHyphenated?_of_spellsAll digits]

end Uuid

namespace Mode

/-- The letters of a name of a mode, in any case. -/
def Named (mode : Mode) (cs : List Char) : Prop :=
  cs.map Char.toLower = mode.name.toList.map Char.toLower

variable {mode : Mode} {cs : List Char}

/-- The characters of a name lie between the capital and the small letters. -/
theorem Named.within (named : mode.Named cs) {c : Char} (member : c ∈ cs) :
    65 ≤ c.toNat ∧ c.toNat ≤ 122 := by
  have small : (mode.name.toList.map Char.toLower).all fun d => 95 ≤ d.toNat && d.toNat ≤ 122 := by
    cases mode <;> rfl
  have folded : c.toLower ∈ mode.name.toList.map Char.toLower := by
    rw [← named]
    exact List.mem_map_of_mem member
  have bounds : 95 ≤ c.toLower.toNat ∧ c.toLower.toNat ≤ 122 := by
    simpa using List.all_eq_true.1 small _ folded
  unfold Char.toLower at bounds
  split at bounds
  · rename_i capital
    exact ⟨capital.1, Nat.le_trans capital.2 (by decide)⟩
  · exact ⟨Nat.le_trans (by decide) bounds.1, bounds.2⟩

theorem Named.ne_nil (named : mode.Named cs) : cs ≠ [] := by
  rintro rfl
  revert named
  cases mode <;> simp [Named, name]

theorem Named.ofName?_eq (named : mode.Named cs) : ofName? (String.ofList cs) = some mode := by
  have same : (fun m : Mode => sameLetters m.name (String.ofList cs)) =
      fun m => foldCase m.name == foldCase mode.name := by
    funext m
    have folded : foldCase (String.ofList cs) = foldCase mode.name := by
      rw [foldCase, String.toList_ofList]
      exact named
    rw [sameLetters, folded]
  rw [ofName?, same]
  cases mode <;> rfl

theorem isBlank_of_within {c : Char} (within : 65 ≤ c.toNat ∧ c.toNat ≤ 122) :
    Text.isBlank c = false := by
  simp [Text.isBlank, blankRanges]
  omega

theorem digit?_of_within {c : Char} (within : 65 ≤ c.toNat ∧ c.toNat ≤ 122) : digit? c = none := by
  have beyond : ¬c ≤ '9' := by
    intro le
    have : c.toNat ≤ 57 := le
    omega
  simp [digit?, beyond]

/-- A name is read as that of its mode. -/
theorem Named.parse_eq (named : mode.Named cs) : parse (String.ofList cs) = .ok mode := by
  have whole : trim (String.ofList cs) = String.ofList cs := by
    have kept : trimmed cs = cs := by
      apply trimmed_eq_self
      · intro c first
        exact isBlank_of_within (named.within (List.mem_of_mem_head? first))
      · intro c last
        exact isBlank_of_within (named.within (List.mem_of_mem_getLast? last))
    rw [trim, String.toList_ofList, kept]
  have word : natural word64Max (String.ofList cs) = .error .invalidDigit := by
    obtain ⟨c, rest, rfl⟩ := List.exists_cons_of_ne_nil named.ne_nil
    have within := named.within List.mem_cons_self
    have unsigned : c ≠ '+' := by
      rintro rfl
      revert within
      decide
    simp [natural, magnitude, magnitudeFrom, digit?_of_within within, unsigned]
  simp [parse, whole, word, named.ofName?_eq]

theorem parse_label (mode : Mode) :
    parse (String.ofList [Nat.digitChar mode.label]) = .ok mode := by
  cases mode <;> rfl

end Mode

end FunctionAgent
