import FunctionAgent.Text.Blank
/-!
# Environment variables

Settings come as variables, and a file in the working directory may add some that are not set yet.
The file holds one `NAME=value` on each line, with `export` in front if one likes. A value may be
put in single quotes, which keep everything, or in double quotes, and may go on over several lines
inside them. Outside single quotes a backslash takes the next character as it is, and a dollar sign
stands in front of the name of a variable whose value is put in its place.

The file is read up to the first line that is none of these; what stood before it counts.
-/

set_option autoImplicit false

namespace FunctionAgent

open FunctionAgent.Text

/-- Variables with their values. -/
abbrev Environment := List (String × String)

namespace Environment

/-- The value of a variable, if it is set; an empty value is one. -/
def get? (e : Environment) (name : String) : Option String := e.lookup name

/-- Sets a variable that is not set. -/
def addUnlessSet (e : Environment) (name value : String) : Environment :=
  if (e.get? name).isSome then e else e ++ [(name, value)]

/-! ## Lines -/

/-- What the end of a piece of text leaves open. -/
inductive Opening where
  /-- Nothing: here a line may end. -/
  | closed
  /-- A blank, behind which a comment may begin. -/
  | blank
  | escape
  | single
  | singleEscape
  | double
  | doubleEscape
  deriving DecidableEq, Repr

/-- What one more character leaves open. -/
def Opening.next : Opening → Char → Opening
  | .escape, _ => .closed
  | .single, c => if c = '\\' then .singleEscape else if c = '\'' then .closed else .single
  | .singleEscape, _ => .single
  | .double, c => if c = '\\' then .doubleEscape else if c = '"' then .closed else .double
  | .doubleEscape, _ => .double
  | state, c =>
    if c = '\\' then .escape
    else if c = '"' then .double
    else if c = '\'' then .single
    else if state = .closed ∧ isBlank c ∧ c ≠ '\n' ∧ c ≠ '\r' then .blank
    else .closed

/-- The text in front of a comment, if there is one, and what the text leaves open. -/
def uncommented : Opening → List Char → List Char × Option Opening
  | state, [] => ([], some state)
  | state, c :: rest =>
    if state = .blank ∧ c = '#' then ([], none)
    else ((c :: (uncommented (state.next c) rest).1), (uncommented (state.next c) rest).2)

/-- The pieces of a text that end in a line feed, and what stands behind the last of them. -/
def rawLines : List Char → List (List Char)
  | [] => []
  | '\n' :: rest => ['\n'] :: rawLines rest
  | c :: rest =>
    match rawLines rest with
    | [] => [[c]]
    | line :: lines => (c :: line) :: lines

/-- A line without its end. -/
def chomped (line : List Char) : List Char :=
  match line.reverse with
  | '\n' :: '\r' :: rest => rest.reverse
  | '\n' :: rest => rest.reverse
  | _ => line

/-- The lines of a file, with those joined that leave a quote open; `none` stands for one that is
left open by the end of the file. -/
def lines (before : List Char) (state : Opening) : List (List Char) → List (Option (List Char))
  | [] => if state = .closed then [] else [none]
  | raw :: rest =>
    if ((before ++ raw).dropWhile isBlank).head? = some '#' then
      some [] :: lines [] .closed rest
    else
      match uncommented state raw with
      | (kept, none) => some (before ++ kept) :: lines [] .closed rest
      | (_, some .closed) => some (chomped (before ++ raw)) :: lines [] .closed rest
      | (_, some state) => lines (before ++ raw) state rest

/-! ## Values -/

/-- How the next character of a value is taken. -/
inductive Reading where
  /-- As it is, inside double quotes or outside of any. -/
  | plain (isQuoted : Bool)
  /-- As it is, inside single quotes. -/
  | single
  /-- As it is, behind a backslash. -/
  | escaped (isQuoted : Bool)
  /-- As part of the name of a variable. -/
  | name (isQuoted : Bool) (name : List Char)
  /-- As part of a name in braces. -/
  | braced (isQuoted : Bool) (name : List Char)
  /-- Behind the value, where only blanks and a comment may stand. -/
  | over

/-- The characters that a backslash protects. -/
def protectable : List Char := ['\\', '\'', '"', '$', ' ']

/-- What the name of a variable is replaced by. -/
def expansion (e : Environment) (name : List Char) : List Char :=
  ((e.get? (String.ofList name)).getD "").toList

/-- Reads a value; `none` if it is malformed. Names without braces are letters and digits of
ASCII. -/
def value (e : Environment) : Reading → List Char → Option (List Char)
  | .plain isQuoted, [] => if isQuoted then none else some []
  | .escaped isQuoted, [] => if isQuoted then none else some []
  | .name isQuoted name, [] => if isQuoted then none else some (e.expansion name)
  | .single, [] => none
  | .braced _ _, [] => none
  | .over, [] => some []
  | .over, c :: rest =>
    if c = ' ' ∨ c = '\t' then value e .over rest else if c = '#' then some [] else none
  | .escaped isQuoted, c :: rest =>
    if c ∈ protectable then (value e (.plain isQuoted) rest).map (c :: ·)
    else if c = 'n' then (value e (.plain isQuoted) rest).map ('\n' :: ·)
    else none
  | .single, c :: rest =>
    if c = '\'' then value e (.plain false) rest else (value e .single rest).map (c :: ·)
  | .name isQuoted name, c :: rest =>
    if c.isAlphanum then value e (.name isQuoted (name ++ [c])) rest
    else if c = '\x7b' ∧ name.isEmpty then value e (.braced isQuoted []) rest
    else if c = '$' then (value e (.name isQuoted []) rest).map (e.expansion name ++ ·)
    else (value e (.plain isQuoted) rest).map (e.expansion name ++ c :: ·)
  | .braced isQuoted name, c :: rest =>
    if c = '\x7d' then (value e (.plain isQuoted) rest).map (e.expansion name ++ ·)
    else value e (.braced isQuoted (name ++ [c])) rest
  | .plain isQuoted, c :: rest =>
    if c = '$' then value e (.name isQuoted []) rest
    else if c = '"' then value e (.plain (!isQuoted)) rest
    else if c = '\\' then value e (.escaped isQuoted) rest
    else if !isQuoted && c == '\'' then value e .single rest
    else if !isQuoted && (c == ' ' || c == '\t') then value e .over rest
    else (value e (.plain isQuoted) rest).map (c :: ·)

/-! ## Settings -/

/-- Whether the name of a variable may begin with a character. -/
def isNameStart (c : Char) : Bool := c.isAlpha || c == '_'

/-- Whether the name of a variable may contain a character. -/
def isNamePart (c : Char) : Bool := c.isAlphanum || c == '_' || c == '.'

/-- The name in front, and the text behind it and behind blanks. -/
def leadingName : List Char → Option (String × List Char)
  | [] => none
  | c :: rest =>
    if isNameStart c then
      some (String.ofList (c :: rest.takeWhile isNamePart),
        (rest.dropWhile isNamePart).dropWhile isBlank)
    else none

/-- The text behind an equals sign and behind blanks. -/
def behindEquals : List Char → Option (List Char)
  | '=' :: rest => some (rest.dropWhile isBlank)
  | _ => none

/-- The name in front of a value; `export` may stand before it, or be the name itself. -/
def assignment (line : List Char) : Option (String × List Char) :=
  match leadingName line with
  | none => none
  | some (name, rest) =>
    match behindEquals rest with
    | some value => some (name, value)
    | none =>
      if name = "export" then
        (leadingName rest).bind fun (name, rest) => (behindEquals rest).map (name, ·)
      else none

/-- What a line sets, if anything; `none` if it is malformed. -/
def setting (e : Environment) (line : List Char) : Option (Option (String × String)) :=
  match trimmed line with
  | [] => some none
  | '#' :: _ => some none
  | text =>
    (assignment text).bind fun (name, rest) =>
      match rest with
      | [] | '#' :: _ => some (some (name, ""))
      | rest => (value e (.plain false) rest).map fun v => some (name, String.ofList v)

/-- Adds the settings of some lines, up to the first that is malformed. -/
def addLines (e : Environment) : List (Option (List Char)) → Environment
  | [] | none :: _ => e
  | some line :: rest =>
    match setting e line with
    | none => e
    | some none => addLines e rest
    | some (some (name, value)) => addLines (e.addUnlessSet name value) rest

/-- Adds the settings of a file; variables that are set stay as they are. -/
def addFile (e : Environment) (text : String) : Environment :=
  let cs := match text.toList with
    | '\uFEFF' :: rest => rest
    | cs => cs
  e.addLines (lines [] .closed (rawLines cs))

end Environment

end FunctionAgent
