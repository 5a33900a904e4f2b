/-!
# White space

Blank characters are those with the Unicode property `White_Space`. Settings and names are read
with the blanks at both ends cut off, so a text that was copied with a no-break space or a line
separator still reads as meant, while a zero-width space is an ordinary character.
-/

set_option autoImplicit false

namespace FunctionAgent.Text

/-- The code points with the property `White_Space`, as closed ranges in ascending order. -/
def blankRanges : List (Nat × Nat) :=
  [(0x9, 0xD), (0x20, 0x20), (0x85, 0x85), (0xA0, 0xA0), (0x1680, 0x1680), (0x2000, 0x200A),
    (0x2028, 0x2029), (0x202F, 0x202F), (0x205F, 0x205F), (0x3000, 0x3000)]

/-- Whether a character is white space. -/
def isBlank (c : Char) : Bool :=
  blankRanges.any fun (lo, hi) => decide (lo ≤ c.toNat) && decide (c.toNat ≤ hi)

/-- The characters between the blanks at both ends. -/
def trimmed (cs : List Char) : List Char :=
  ((cs.dropWhile isBlank).reverse.dropWhile isBlank).reverse

/-- A text without the blanks at its ends. -/
def trim (s : String) : String :=
  String.ofList (trimmed s.toList)

/-- Every ASCII blank of the core library is a blank here. -/
theorem isBlank_of_isWhitespace {c : Char} (h : c.isWhitespace = true) : isBlank c = true := by
  simp only [Char.isWhitespace, Bool.or_eq_true, decide_eq_true_eq] at h
  rcases h with ((h | h) | h) | h <;> subst h <;> decide

/-- A text that starts and ends in other characters is its own trimming. -/
theorem trimmed_eq_self {cs : List Char} (first : ∀ c ∈ cs.head?, isBlank c = false)
    (last : ∀ c ∈ cs.getLast?, isBlank c = false) : trimmed cs = cs := by
  have front : cs.dropWhile isBlank = cs := by
    cases cs with
    | nil => rfl
    | cons c r => simp [List.dropWhile, first c (by simp)]
  have back : cs.reverse.dropWhile isBlank = cs.reverse := by
    cases hr : cs.reverse with
    | nil => rfl
    | cons c r =>
      have : cs.getLast? = some c := by rw [← List.head?_reverse, hr]; rfl
      simp [List.dropWhile, last c (by simp [this])]
  simp [trimmed, front, back]

/-- What is left after trimming ends in no blank. -/
theorem getLast?_trimmed {cs : List Char} {c : Char} (last : c ∈ (trimmed cs).getLast?) :
    isBlank c = false := by
  rw [trimmed, List.getLast?_reverse, Option.mem_def] at last
  have first := List.head?_dropWhile_not isBlank (cs.dropWhile isBlank).reverse
  rwa [last] at first

/-- What is left after trimming starts with no blank. -/
theorem head?_trimmed {cs : List Char} {c : Char} (first : c ∈ (trimmed cs).head?) :
    isBlank c = false := by
  have suffix := List.dropWhile_suffix isBlank (l := (cs.dropWhile isBlank).reverse)
  obtain ⟨front, parts⟩ := suffix
  rw [trimmed, List.head?_reverse, Option.mem_def] at first
  have kept : (cs.dropWhile isBlank).head? = some c := by
    rw [← List.getLast?_reverse, ← parts, List.getLast?_append, first]
    rfl
  have outer := List.head?_dropWhile_not isBlank cs
  rwa [kept] at outer

@[simp] theorem trimmed_trimmed (cs : List Char) : trimmed (trimmed cs) = trimmed cs :=
  trimmed_eq_self (fun _ first => head?_trimmed first) (fun _ last => getLast?_trimmed last)

end FunctionAgent.Text
