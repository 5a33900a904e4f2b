import FunctionAgent.Json.Fault
import FunctionAgent.Text.Hex
/-!
# JSON texts

A text stands between quotes. A backslash opens an escape; the escape of a character beyond the
basic plane is a pair of surrogates, and neither half stands alone. Control characters have to be
escaped. A text whose value is not wanted is passed over instead of read: its escapes have to be
spelled right, but surrogates are not paired.
-/

set_option autoImplicit false

namespace FunctionAgent.Json

open FunctionAgent.Text

/-- A character that has to be escaped in a text. -/
def isControl (c : Char) : Bool := decide (c.toNat < 0x20)

/-- The character that a letter behind a backslash stands for. -/
def shortEscape? (c : Char) : Option Char :=
  match c with
  | '"' => some '"'
  | '\\' => some '\\'
  | '/' => some '/'
  | 'b' => some '\x08'
  | 'f' => some '\x0c'
  | 'n' => some '\n'
  | 'r' => some '\r'
  | 't' => some '\t'
  | _ => none

/-- The first half of a surrogate pair. -/
def isHighSurrogate (n : Nat) : Bool := decide (0xD800 ≤ n) && decide (n < 0xDC00)

/-- The second half of a surrogate pair. -/
def isLowSurrogate (n : Nat) : Bool := decide (0xDC00 ≤ n) && decide (n < 0xE000)

/-- The code point of a surrogate pair. -/
def pairValue (high low : Nat) : Nat := (high - 0xD800) * 0x400 + (low - 0xDC00) + 0x10000

/-- The fault of four bytes that are not four digits, or of fewer than four. -/
def hexFault (cs : List Char) : Fault Complaint :=
  ⟨if 4 ≤ byteSize (cs.take 4) then .invalidEscape else .endInText, cs, 4⟩

/-- Reads the four digits of a code unit. -/
def codeUnit (cs : List Char) : Read Complaint Nat :=
  match cs with
  | a :: b :: c :: d :: rest =>
    match Hex.digit? a, Hex.digit? b, Hex.digit? c, Hex.digit? d with
    | some a, some b, some c, some d =>
      .ok (a.val * 0x1000 + b.val * 0x100 + c.val * 0x10 + d.val, rest)
    | _, _, _, _ => .error (hexFault cs)
  | _ => .error (hexFault cs)

/-- Reads the second half of a pair, with the backslash and the letter in front of it. -/
def lowSurrogate (high : Nat) (cs : List Char) : Read Complaint Char :=
  match cs with
  | '\\' :: 'u' :: rest =>
    match codeUnit rest with
    | .error fault => .error fault
    | .ok (low, rest) =>
      if isLowSurrogate low then .ok (Char.ofNat (pairValue high low), rest)
      else .error (.here .loneSurrogate rest)
  | ['\\'] => .error (.here .endInText [])
  | '\\' :: rest => .error (.next .missingSurrogate rest)
  | [] => .error (.here .endInText [])
  | rest => .error (.next .missingSurrogate rest)

/-- Reads the digits behind `\u`, and the second escape of a pair. -/
def codePoint (cs : List Char) : Read Complaint Char :=
  match codeUnit cs with
  | .error fault => .error fault
  | .ok (n, rest) =>
    if isLowSurrogate n then .error (.here .loneSurrogate rest)
    else if isHighSurrogate n then lowSurrogate n rest
    else .ok (Char.ofNat n, rest)

/-- Reads what follows a backslash. -/
def escaped (cs : List Char) : Read Complaint Char :=
  match cs with
  | [] => .error (.here .endInText [])
  | 'u' :: rest => codePoint rest
  | c :: rest =>
    match shortEscape? c with
    | some d => .ok (d, rest)
    | none => .error (.next .invalidEscape (c :: rest))

/-- Passes over what follows a backslash. -/
def passEscaped (cs : List Char) : Except (Fault Complaint) (List Char) :=
  match cs with
  | [] => .error (.here .endInText [])
  | 'u' :: rest =>
    match codeUnit rest with
    | .error fault => .error fault
    | .ok (_, rest) => .ok rest
  | c :: rest =>
    if (shortEscape? c).isSome then .ok rest else .error (.next .invalidEscape (c :: rest))

theorem length_codeUnit {cs rest : List Char} {n : Nat} (h : codeUnit cs = .ok (n, rest)) :
    rest.length < cs.length := by
  unfold codeUnit at h
  split at h
  · split at h
    · cases h; simp only [List.length_cons]; omega
    · cases h
  · cases h

theorem length_lowSurrogate {high : Nat} {cs rest : List Char} {c : Char}
    (h : lowSurrogate high cs = .ok (c, rest)) : rest.length < cs.length := by
  unfold lowSurrogate at h
  split at h
  · split at h
    · cases h
    · rename_i low left hu
      have := length_codeUnit hu
      split at h
      · simp only [Except.ok.injEq, Prod.mk.injEq] at h
        obtain ⟨_, rfl⟩ := h
        simp only [List.length_cons]; omega
      · cases h
  all_goals cases h

theorem length_codePoint {cs rest : List Char} {c : Char} (h : codePoint cs = .ok (c, rest)) :
    rest.length < cs.length := by
  unfold codePoint at h
  split at h
  · cases h
  · rename_i n left hu
    have := length_codeUnit hu
    split at h
    · cases h
    · split at h
      · have := length_lowSurrogate h
        omega
      · simp only [Except.ok.injEq, Prod.mk.injEq] at h
        obtain ⟨_, rfl⟩ := h
        exact this

theorem length_escaped {cs rest : List Char} {c : Char} (h : escaped cs = .ok (c, rest)) :
    rest.length < cs.length := by
  unfold escaped at h
  split at h
  · cases h
  · have := length_codePoint h
    simp only [List.length_cons]; omega
  · split at h
    · cases h; simp
    · cases h

theorem length_passEscaped {cs rest : List Char} (h : passEscaped cs = .ok rest) :
    rest.length < cs.length := by
  unfold passEscaped at h
  split at h
  · cases h
  · split at h
    · cases h
    · rename_i n left hu
      have := length_codeUnit hu
      cases h
      simp only [List.length_cons]; omega
  · split at h
    · cases h; simp
    · cases h

/-- Reads the rest of a text up to its closing quote; `seen` holds what came before, the last
character first. -/
def textFrom (seen : List Char) (cs : List Char) : Read Complaint (List Char) :=
  match cs with
  | [] => .error (.here .endInText [])
  | '"' :: rest => .ok (seen.reverse, rest)
  | '\\' :: rest =>
    match h : escaped rest with
    | .ok (c, left) =>
      have := length_escaped h
      textFrom (c :: seen) left
    | .error fault => .error fault
  | c :: rest =>
    if isControl c then .error (.next .controlCharacter (c :: rest)) else textFrom (c :: seen) rest
termination_by cs.length

/-- Reads a text whose opening quote has been read. -/
def text (cs : List Char) : Read Complaint (List Char) := textFrom [] cs

/-- Passes over a text whose opening quote has been read. -/
def passText (cs : List Char) : Except (Fault Complaint) (List Char) :=
  match cs with
  | [] => .error (.here .endInText [])
  | '"' :: rest => .ok rest
  | '\\' :: rest =>
    match h : passEscaped rest with
    | .ok left =>
      have := length_passEscaped h
      passText left
    | .error fault => .error fault
  | c :: rest =>
    if isControl c then .error (.here .controlCharacter (c :: rest)) else passText rest
termination_by cs.length

theorem length_textFrom {seen cs s rest : List Char} (h : textFrom seen cs = .ok (s, rest)) :
    rest.length < cs.length := by
  fun_induction textFrom seen cs with
  | case1 => cases h
  | case2 => cases h; simp
  | case3 seen tail c left he hl ih =>
    have := ih h
    simp only [List.length_cons]; omega
  | case4 => cases h
  | case5 => cases h
  | case6 seen c tail _ _ _ ih =>
    have := ih h
    simp only [List.length_cons]; omega

theorem length_text {cs s rest : List Char} (h : text cs = .ok (s, rest)) :
    rest.length < cs.length := length_textFrom h

theorem length_passText {cs rest : List Char} (h : passText cs = .ok rest) :
    rest.length < cs.length := by
  fun_induction passText cs with
  | case1 => cases h
  | case2 => cases h; simp
  | case3 tail left he hl ih =>
    have := ih h
    simp only [List.length_cons]; omega
  | case4 => cases h
  | case5 => cases h
  | case6 c tail _ _ _ ih =>
    have := ih h
    simp only [List.length_cons]; omega

end FunctionAgent.Json
