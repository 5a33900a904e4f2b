import FunctionAgent.Proofs.Identifiers
import FunctionAgent.Proofs.Skipping
/-!
# Whatever is read was spelled so

What is spelled in one of the ways that JSON has is read as it is meant. Here is the other
direction: whatever a reader accepts is one of these spellings. So a text is read as `s` just if it
spells `s` (`text_eq_ok_iff`), and the blanks, commas and colons of an object can be spoken of
without a word about its reader.
-/

set_option autoImplicit false

namespace FunctionAgent.Json

open FunctionAgent.Text

section Texts

variable {s seen cs left rest : List Char} {c : Char} {n : Nat}

theorem blanks_skipBlanks (cs : List Char) : Blanks cs (skipBlanks cs) := by
  induction cs with
  | nil => exact .none
  | cons c cs ih =>
    by_cases blank : isBlank c = true
    · have skipped : skipBlanks (c :: cs) = skipBlanks cs := List.dropWhile_cons_of_pos blank
      rw [skipped]
      exact .more blank ih
    · rw [skipBlanks_cons (by simpa using blank)]
      exact .none

/-- What is found behind the blanks stands behind blanks. -/
theorem blanks_of_skipBlanks (skipped : skipBlanks cs = rest) : Blanks cs rest :=
  skipped ▸ blanks_skipBlanks cs

theorem codeUnit_eq_ok_iff : codeUnit cs = .ok (n, rest) ↔ CodeUnit n cs rest := by
  constructor
  · intro read
    unfold codeUnit at read
    split at read
    · split at read
      · rename_i first second third fourth
        obtain ⟨rfl, rfl⟩ := Prod.mk.inj (Except.ok.inj read)
        exact .digits (Hex.spells_of_digit? first) (Hex.spells_of_digit? second)
          (Hex.spells_of_digit? third) (Hex.spells_of_digit? fourth)
      · contradiction
    · contradiction
  · exact CodeUnit.read

theorem CodeUnit.lt (digits : CodeUnit n cs rest) : n < 0x10000 := by
  cases digits
  omega

/-- A code unit that is no surrogate is the code point of its character. -/
theorem toNat_ofNat_of_unit (small : n < 0x10000) (notLow : isLowSurrogate n = false)
    (notHigh : isHighSurrogate n = false) : (Char.ofNat n).toNat = n := by
  simp only [isLowSurrogate, isHighSurrogate, Bool.and_eq_false_iff, decide_eq_false_iff_not]
    at notLow notHigh
  have valid : n.isValidChar := by
    rw [Nat.isValidChar]
    omega
  rw [Char.ofNat, dif_pos valid]
  rfl

/-- The code point of a surrogate pair. -/
theorem toNat_ofNat_pairValue {high low : Nat} (isHigh : isHighSurrogate high = true)
    (isLow : isLowSurrogate low = true) :
    (Char.ofNat (pairValue high low)).toNat =
      0x10000 + (high - 0xD800) * 0x400 + (low - 0xDC00) := by
  simp only [isLowSurrogate, isHighSurrogate, Bool.and_eq_true, decide_eq_true_eq] at isLow isHigh
  have value : pairValue high low = 0x10000 + (high - 0xD800) * 0x400 + (low - 0xDC00) := by
    rw [pairValue]
    omega
  have valid : (pairValue high low).isValidChar := by
    rw [Nat.isValidChar]
    omega
  rw [Char.ofNat, dif_pos valid]
  exact value

/-- What is read behind a backslash is an escape of a character. -/
theorem inside_of_escaped (read : escaped cs = .ok (c, left)) (inside : Inside s left rest) :
    Inside (c :: s) ('\\' :: cs) rest := by
  unfold escaped at read
  split at read
  · contradiction
  · unfold codePoint at read
    split at read
    · contradiction
    · rename_i n between unit
      have first := codeUnit_eq_ok_iff.1 unit
      split at read
      · contradiction
      · rename_i notLow
        split at read
        · rename_i isHigh
          unfold lowSurrogate at read
          split at read
          · split at read
            · contradiction
            · rename_i low behind unit
              have second := codeUnit_eq_ok_iff.1 unit
              split at read
              · rename_i isLow
                obtain ⟨rfl, rfl⟩ := Prod.mk.inj (Except.ok.inj read)
                have value := toNat_ofNat_pairValue isHigh isLow
                simp only [isHighSurrogate, isLowSurrogate, Bool.and_eq_true,
                  decide_eq_true_eq] at isHigh isLow
                rw [← Nat.add_sub_cancel' isHigh.1] at first
                rw [← Nat.add_sub_cancel' isLow.1] at second
                exact .pair value (by omega) first second inside
              · contradiction
          all_goals contradiction
        · rename_i notHigh
          obtain ⟨rfl, rfl⟩ := Prod.mk.inj (Except.ok.inj read)
          have value :=
            toNat_ofNat_of_unit first.lt (by simpa using notLow) (by simpa using notHigh)
          exact .unit (value.symm ▸ first) inside
  · split at read
    · rename_i known
      obtain ⟨rfl, rfl⟩ := Prod.mk.inj (Except.ok.inj read)
      exact .short known inside
    · contradiction

/-- The inside of a text that was read, with what had been seen of it before. -/
theorem inside_of_textFrom {all : List Char} (read : textFrom seen cs = .ok (all, rest)) :
    ∃ s, all = seen.reverse ++ s ∧ Inside s cs rest := by
  fun_induction textFrom seen cs with
  | case1 => contradiction
  | case2 seen cs =>
    obtain ⟨rfl, rfl⟩ := Prod.mk.inj (Except.ok.inj read)
    exact ⟨[], by simp, .close⟩
  | case3 seen cs c left escape _ ih =>
    obtain ⟨s, rfl, inside⟩ := ih read
    exact ⟨c :: s, by simp, inside_of_escaped escape inside⟩
  | case4 => contradiction
  | case5 => contradiction
  | case6 seen c cs unquoted unescaped visible ih =>
    obtain ⟨s, rfl, inside⟩ := ih read
    exact ⟨c :: s, by simp, .plain unquoted unescaped (by simpa using visible) inside⟩

/-- A text is read as what it spells. -/
theorem text_eq_ok_iff : text cs = .ok (s, rest) ↔ Inside s cs rest := by
  constructor
  · intro read
    obtain ⟨_, rfl, inside⟩ := inside_of_textFrom read
    exact inside
  · exact Inside.text_eq

/-- What spells a text has the form of one. -/
theorem Inside.unread (inside : Inside s cs rest) : Unread cs rest := by
  induction inside with
  | close => exact .close
  | plain unquoted unescaped visible _ ih => exact .plain unquoted unescaped visible ih
  | short known _ ih => exact .short known ih
  | unit digits _ ih => exact .unit digits ih
  | pair _ _ first second _ ih => exact .unit first (.unit second ih)

/-- A text of some form that spells something ends where its form ends. -/
theorem Unread.eq_of_inside (unread : Unread cs rest) (inside : Inside s cs left) : left = rest :=
  Except.ok.inj (inside.unread.pass.symm.trans unread.pass)

end Texts

section Items

variable {b : Bracket} {isFirst : Bool} {limit : Nat} {cs key name behind rest : List Char}

theorem colon_eq_ok_iff : colon cs = .ok rest ↔ Blanks cs (':' :: rest) := by
  constructor
  · intro read
    unfold colon at read
    split at read
    · contradiction
    · rename_i skipped
      obtain rfl := Except.ok.inj read
      exact blanks_of_skipBlanks skipped
    · contradiction
  · exact colon_eq

theorem next_eq_closed_iff :
    next (.full limit) b isFirst cs = .ok (.closed rest) ↔ Blanks cs (b.closing :: rest) := by
  constructor
  · intro found
    unfold next at found
    split at found
    · contradiction
    · rename_i skipped
      split at found
      · rename_i closing
        obtain rfl := Next.closed.inj (Except.ok.inj found)
        exact closing ▸ blanks_of_skipBlanks skipped
      · split at found
        · simp at found
        · split at found
          · obtain ⟨_, _, same⟩ := eq_ok_of_map_eq_ok found
            contradiction
          · contradiction
  · exact next_closed

/-- An item is found behind a gap. -/
theorem gap_of_next (found : next (.full limit) b isFirst cs = .ok (.item rest)) :
    Gap isFirst cs rest := by
  unfold next at found
  split at found
  · contradiction
  · rename_i skipped
    have before := blanks_of_skipBlanks skipped
    split at found
    · simp at found
    · split at found
      · rename_i first
        obtain rfl := Next.item.inj (Except.ok.inj found)
        rw [first]
        exact .first before
      · rename_i later
        obtain rfl : isFirst = false := by simpa using later
        split at found
        · rename_i comma
          obtain ⟨start, reached, same⟩ := eq_ok_of_map_eq_ok found
          obtain rfl := Next.item.inj same
          simp only [afterComma] at reached
          split at reached
          · contradiction
          · rename_i skipped
            split at reached
            · contradiction
            · obtain rfl := Except.ok.inj reached
              exact .comma (comma ▸ before) (blanks_of_skipBlanks skipped)
        · contradiction

end Items

end FunctionAgent.Json
