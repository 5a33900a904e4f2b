import FunctionAgent.Proofs.Rendering
/-!
# A way to write any catalog

Whatever texts the descriptions of some functions hold, there is a catalog with these functions.
Each text is written with escapes for the characters that cannot stand for themselves
(`inside_written`), each description as a list of all its fields (`entry_listed`), and each
identifier as it is printed.
-/

set_option autoImplicit false

namespace FunctionAgent

open FunctionAgent.Text

namespace Json

variable {rest : List Char}

/-- How a character can be written in a text: for itself, or escaped. -/
def writtenChar (c : Char) : List Char :=
  if c = '"' ∨ c = '\\' then ['\\', c]
  else if isControl c then
    ['\\', 'u', '0', '0', Hex.digit (Hex.halves (.ofNat c.toNat)).1,
      Hex.digit (Hex.halves (.ofNat c.toNat)).2]
  else [c]

theorem codeUnit_of_control {c : Char} (control : isControl c = true) :
    CodeUnit c.toNat ('0' :: '0' :: Hex.digit (Hex.halves (.ofNat c.toNat)).1 ::
      Hex.digit (Hex.halves (.ofNat c.toNat)).2 :: rest) rest := by
  have small : c.toNat < 0x20 := of_decide_eq_true control
  have digits : CodeUnit _ ('0' :: '0' :: Hex.digit (Hex.halves (.ofNat c.toNat)).1 ::
      Hex.digit (Hex.halves (.ofNat c.toNat)).2 :: rest) rest :=
    .digits (a := 0) (b := 0) (.inl rfl) (.inl rfl) (.inl rfl) (.inl rfl)
  have worth : (0 : Fin 16).val * 0x1000 + (0 : Fin 16).val * 0x100 +
      (Hex.halves (.ofNat c.toNat)).1.val * 0x10 + (Hex.halves (.ofNat c.toNat)).2.val =
        c.toNat := by
    simp only [Hex.halves, Fin.ofNat, UInt8.toNat_ofNat']
    omega
  rwa [worth] at digits

/-- Whatever a text is, it can be written. -/
theorem inside_written (s rest : List Char) :
    Inside s (s.flatMap writtenChar ++ '"' :: rest) rest := by
  induction s with
  | nil => exact .close
  | cons c s ih =>
    rw [List.flatMap_cons, List.append_assoc]
    unfold writtenChar
    split
    · rename_i special
      have known : shortEscape? c = some c := by
        rcases special with rfl | rfl <;> rfl
      exact .short known ih
    · rename_i ordinary
      obtain ⟨unquoted, unescaped⟩ := not_or.1 ordinary
      split
      · rename_i control
        exact .unit (codeUnit_of_control control) ih
      · rename_i visible
        exact .plain unquoted unescaped (by simpa using visible) ih

end Json

namespace Uuid

theorem isPlain_chars (id : Uuid) : id.chars.all Json.isPlain = true := by
  have digits : ∀ d, Json.isPlain (Hex.digit d) = true := by decide
  rw [List.all_eq_true]
  intro c member
  rcases id.mem_chars member with rfl | ⟨d, rfl⟩
  · decide
  · exact digits d

end Uuid

namespace Catalog

open FunctionAgent.Json

/-- A text between quotes. -/
def inQuotes (s : String) : List Char := '"' :: (s.toList.flatMap writtenChar ++ ['"'])

/-- A description as the list of its fields. -/
def listed (d : Description) : List Char :=
  '[' :: (inQuotes d.name ++ ',' :: (inQuotes d.signature ++ ',' :: (inQuotes d.description ++
    ',' :: (inQuotes d.version ++ ',' :: (d.author.elim "null".toList inQuotes ++
      ',' :: (inQuotes d.executor ++ ',' :: (inQuotes d.runtime ++
        [',', Nat.digitChar d.mode.label, ']'])))))))

/-- Some items of a catalog with its closing bracket. -/
def itemized (isFirst : Bool) : List (Uuid × Description) → List Char
  | [] => ['\x7d']
  | (id, d) :: pairs => (if isFirst then [] else [',']) ++
    '"' :: (id.chars ++ '"' :: ':' :: (listed d ++ itemized false pairs))

/-- A catalog of some functions. -/
def composed (pairs : List (Uuid × Description)) : String :=
  String.ofList ('\x7b' :: itemized true pairs)

variable {d : Description} {field : Field} {s : String}

theorem written_inQuotes (carried : text? d field = some s) (rest : List Char) :
    Written d field (inQuotes s ++ rest) rest := by
  simp only [inQuotes, List.cons_append, List.append_assoc, List.nil_append]
  exact .text carried (inside_written s.toList rest)

theorem written_author (d : Description) (rest : List Char) :
    Written d .author (d.author.elim "null".toList inQuotes ++ rest) rest := by
  cases missing : d.author with
  | none => exact .noAuthor missing
  | some s => exact written_inQuotes (show text? d .author = some s from missing) rest

/-- A description is written by the list of its fields. -/
theorem entry_listed (d : Description) (rest : List Char) : Entry d (listed d ++ rest) rest := by
  simp only [listed, List.cons_append, List.append_assoc, List.nil_append]
  refine .list (.field (.first .none) (written_inQuotes rfl _) ?_)
  refine .field (.comma .none .none) (written_inQuotes rfl _) ?_
  refine .field (.comma .none .none) (written_inQuotes rfl _) ?_
  refine .field (.comma .none .none) (written_inQuotes rfl _) ?_
  refine .field (.comma .none .none) (written_author d _) ?_
  refine .field (.comma .none .none) (written_inQuotes rfl _) ?_
  refine .field (.comma .none .none) (written_inQuotes rfl _) ?_
  exact .field (.comma .none .none) .label (.close .none)

theorem items_itemized (pairs : List (Uuid × Description)) (isFirst : Bool) :
    Items pairs isFirst (itemized isFirst pairs) [] := by
  induction pairs generalizing isFirst with
  | nil => exact .close .none
  | cons pair pairs ih =>
    obtain ⟨id, d⟩ := pair
    have gap (cs : List Char) : Gap isFirst ((if isFirst then [] else [',']) ++ cs) cs := by
      cases isFirst with
      | true => exact .first .none
      | false => exact .comma .none .none
    exact .item (gap _) (.itself id.isPlain_chars) id.spelled_chars .none .none
      (entry_listed d _) (ih false)

/-- Whatever the functions are, there is a catalog of them. -/
theorem rendering_composed (pairs : List (Uuid × Description)) :
    Rendering pairs (composed pairs).toList := by
  rw [composed, String.toList_ofList]
  exact .document .none (items_itemized pairs true) .none

end Catalog

end FunctionAgent
