import Mathlib.Data.List.DropRight
import Mathlib.Data.List.TakeWhile
/-!
# Places that addresses name

How a client takes an address of HTTP to pieces. Blanks at both ends are left off, and tabs and line
ends are left out wherever they stand. Behind the scheme, whose letters may be capitals, and any
number of slashes stands the authority, and behind this a path, a query and a fragment. A backslash
is a slash. Segments of one or two dots, which may be spelled by their codes, are no names: they
lead to the same place and to the one above.

The parts of a place are kept as they are spelled; that a client spells some characters by their
codes before it sends them does not change which part they belong to. Which authorities there are is
a parameter.
-/

set_option autoImplicit false

namespace FunctionAgent

/-- What an address names, with each part as it is spelled. -/
structure Place where
  scheme : List Char
  authority : List Char
  path : List (List Char)
  query : Option (List Char)
  fragment : Option (List Char)
  deriving DecidableEq, Repr

namespace Place

/-- Control characters and the space, which are left off at both ends of an address. -/
def isTrimmed (c : Char) : Bool := decide (c.toNat ≤ 0x20)

/-- Tabs and line ends, which are left out wherever they stand. -/
def isVoid (c : Char) : Bool := c == '\t' || c == '\n' || c == '\r'

def isSlash (c : Char) : Bool := c == '/' || c == '\\'

/-- What an authority ends at. -/
def isEnd (c : Char) : Bool := isSlash c || c == '?' || c == '#'

/-- An address without what is left off and left out. -/
def clean (cs : List Char) : List Char :=
  ((cs.dropWhile isTrimmed).rdropWhile isTrimmed).filter (!isVoid ·)

/-- What stands behind the first place of a mark. -/
def behind? (mark : Char) (cs : List Char) : Option (List Char) :=
  match cs.dropWhile (· != mark) with
  | [] => none
  | _ :: rest => some rest

/-- The scheme of an address, in small letters, and what stands behind it. -/
def scheme? (cs : List Char) : Option (List Char × List Char) :=
  let scheme := (cs.takeWhile (· != ':')).map Char.toLower
  if scheme = "http".toList ∨ scheme = "https".toList then
    (behind? ':' cs).map fun rest => (scheme, rest)
  else none

/-- Whether a segment stands for the same place: a dot, in any spelling. -/
def isHere (s : List Char) : Bool :=
  [".", "%2e"].any fun dots => dots.toList == s.map Char.toLower

/-- Whether a segment stands for the place above: two dots, in any spelling. -/
def isAbove (s : List Char) : Bool :=
  ["..", ".%2e", "%2e.", "%2e%2e"].any fun dots => dots.toList == s.map Char.toLower

/-- Goes on from a place by one segment. -/
def step (path : List (List Char)) (s : List Char) : List (List Char) :=
  if isHere s then path else if isAbove s then path.dropLast else path ++ [s]

/-- Goes on from a place by some segments. Dots at the end lead to a place with no name. -/
def resolve (path : List (List Char)) : List (List Char) → List (List Char)
  | [] => path
  | [last] => if isHere last || isAbove last then step path last ++ [[]] else path ++ [last]
  | s :: next :: rest => resolve (step path s) (next :: rest)

/-- The place with some scheme and authority and what stands behind them. The path goes up to the
query, and the query up to the fragment. -/
def ofTail (scheme authority tail : List Char) : Place :=
  let front := tail.takeWhile (· != '#')
  { scheme, authority
    path := resolve [] (((front.takeWhile (· != '?')).drop 1).splitOnP isSlash)
    query := behind? '?' front
    fragment := behind? '#' tail }

/-- The place with some scheme and what stands behind its colon, if the authority is one of those
that there are. -/
def ofRest? (accepts : List Char → Bool) (scheme rest : List Char) : Option Place :=
  let named := rest.dropWhile isSlash
  let authority := named.takeWhile (!isEnd ·)
  if authority ≠ [] ∧ accepts authority then
    some (ofTail scheme authority (named.dropWhile (!isEnd ·)))
  else none

/-- The place that an address names. -/
def read (accepts : List Char → Bool) (cs : List Char) : Option Place :=
  (scheme? (clean cs)).bind fun (scheme, rest) => ofRest? accepts scheme rest

/-! ## Segments -/

/-- Whether a segment is no name. -/
def IsDots (s : List Char) : Prop := isHere s = true ∨ isAbove s = true

/-- Whether a text can be a segment. -/
def IsSegment (s : List Char) : Prop := ∀ c ∈ s, isEnd c = false ∧ isVoid c = false

section Segments

variable {s : List Char} {path segments more : List (List Char)}

theorem step_of_name (name : ¬IsDots s) : step path s = path ++ [s] := by
  obtain ⟨here, above⟩ := not_or.1 name
  rw [step, if_neg here, if_neg above]

theorem length_step_le (path : List (List Char)) (dots : IsDots s) :
    (step path s).length ≤ path.length := by
  unfold step
  split
  · exact Nat.le_refl _
  · rename_i here
    rw [if_pos (dots.resolve_left here), List.length_dropLast]
    exact Nat.sub_le _ _

/-- Dots are spelled with six characters at most. -/
theorem not_isDots_of_lt (long : 6 < s.length) : ¬IsDots s := by
  have spelled {dots : List String} (short : ∀ d ∈ dots, d.toList.length ≤ 6)
      (found : (dots.any fun d => d.toList == s.map Char.toLower) = true) : False := by
    obtain ⟨d, member, same⟩ := List.any_eq_true.1 found
    have count := congrArg List.length (beq_iff_eq.1 same)
    rw [List.length_map] at count
    have := short d member
    omega
  rintro (here | above)
  · exact spelled (by decide) here
  · exact spelled (by decide) above

theorem mem_step {first : List Char} (member : s ∈ step path first) : s ∈ path ∨ s = first := by
  unfold step at member
  split at member
  · exact .inl member
  · split at member
    · exact .inl ((List.dropLast_sublist path).mem member)
    · simpa using member

theorem resolve_name (name : ¬IsDots s) : resolve path [s] = path ++ [s] := by
  have dots : ¬(isHere s || isAbove s) = true := by simpa [IsDots] using name
  rw [resolve, if_neg dots]

theorem resolve_append (some : more ≠ []) :
    resolve path (segments ++ more) = resolve (segments.foldl step path) more := by
  induction segments generalizing path with
  | nil => rfl
  | cons first segments ih =>
    obtain ⟨next, rest, shape⟩ := List.exists_cons_of_ne_nil
      (List.append_ne_nil_of_right_ne_nil segments some)
    rw [List.cons_append, shape, resolve, ← shape, ih]
    rfl

/-- The segments of a resolved path are those that it was resolved from. -/
theorem mem_resolve (member : s ∈ resolve path segments) :
    s ∈ path ∨ s ∈ segments ∨ s = [] := by
  induction path, segments using resolve.induct with
  | case1 path => exact .inl member
  | case2 path last dots =>
    rw [resolve, if_pos dots] at member
    rcases List.mem_append.1 member with inside | unnamed
    · rcases mem_step inside with before | rfl
      · exact .inl before
      · exact .inr (.inl List.mem_cons_self)
    · exact .inr (.inr (List.mem_singleton.1 unnamed))
  | case3 path last name =>
    rw [resolve, if_neg name] at member
    rcases List.mem_append.1 member with before | here
    · exact .inl before
    · exact .inr (.inl here)
  | case4 path first next rest ih =>
    rw [resolve] at member
    rcases ih member with inside | later | empty
    · rcases mem_step inside with before | rfl
      · exact .inl before
      · exact .inr (.inl List.mem_cons_self)
    · exact .inr (.inl (List.mem_cons_of_mem first later))
    · exact .inr (.inr empty)

/-- A piece of a split is made of what was split, but not of what it was split at. -/
theorem of_mem_piece (p : Char → Bool) (cs : List Char) :
    ∀ s ∈ cs.splitOnP p, ∀ c ∈ s, c ∈ cs ∧ p c = false := by
  cases first : cs.find? p with
  | none =>
    have unmarked : ∀ c ∈ cs, p c = false := by simpa using first
    rw [List.splitOnP_eq_singleton unmarked]
    intro s piece c inside
    obtain rfl := List.mem_singleton.1 piece
    exact ⟨inside, unmarked c inside⟩
  | some mark =>
    -- The first piece goes up to the mark, and the others are pieces of what is behind it.
    obtain ⟨marked, front, rest, rfl, before⟩ := List.find?_eq_some_iff_append.1 first
    have unmarked : ∀ c ∈ front, p c = false := by simpa using before
    rw [List.splitOnP_append_cons_of_forall_mem unmarked mark marked]
    intro s piece c inside
    rcases List.mem_cons.1 piece with rfl | later
    · exact ⟨List.mem_append_left _ inside, unmarked c inside⟩
    · obtain ⟨behind, plain⟩ := of_mem_piece p rest s later c inside
      exact ⟨List.mem_append_right front (List.mem_cons_of_mem mark behind), plain⟩
termination_by cs.length
decreasing_by simp only [List.length_append, List.length_cons, *]; omega

/-- Segments with slashes between them are taken apart as these segments. -/
theorem splitOnP_intercalate (some : segments ≠ []) (whole : ∀ s ∈ segments, IsSegment s) :
    (['/'].intercalate segments).splitOnP isSlash = segments := by
  have slashless {s : List Char} (segment : IsSegment s) : ∀ c ∈ s, isSlash c = false := by
    intro c inside
    have ends := (segment c inside).1
    simp only [isEnd, Bool.or_eq_false_iff] at ends
    exact ends.1.1
  induction segments with
  | nil => exact absurd rfl some
  | cons first segments ih =>
    have here := slashless (whole first List.mem_cons_self)
    cases segments with
    | nil => simpa using List.splitOnP_eq_singleton here
    | cons second segments =>
      rw [List.intercalate_cons_cons, List.append_assoc, List.singleton_append,
        List.splitOnP_append_cons_of_forall_mem here '/' rfl,
        ih (by simp) fun s member => whole s (List.mem_cons_of_mem first member)]

end Segments

/-! ## Addresses that go on behind a slash -/

section Behind

variable {mark c : Char} {cs front tail text : List Char} {accepts : List Char → Bool}
  {place base : Place}

/-- A text is read up to a character that ends the reading, whatever is behind this. -/
theorem takeWhile_append_stop (p : Char → Bool) (stops : p c = false) (front tail : List Char) :
    (front ++ c :: tail).takeWhile p = front.takeWhile p := by
  induction front with
  | nil => simp [stops]
  | cons d front ih => simp only [List.cons_append, List.takeWhile_cons, ih]

theorem dropWhile_append_stop (p : Char → Bool) (stops : p c = false) (front tail : List Char) :
    (front ++ c :: tail).dropWhile p = front.dropWhile p ++ c :: tail := by
  induction front with
  | nil => simp [stops]
  | cons d front ih =>
    simp only [List.cons_append, List.dropWhile_cons, ih]
    split <;> rfl

theorem takeWhile_eq_self (missing : mark ∉ cs) : cs.takeWhile (· != mark) = cs := by
  rw [List.takeWhile_eq_self_iff]
  intro c inside
  rw [bne_iff_ne]
  rintro rfl
  exact missing inside

theorem takeWhile_of_not_mem (missing : mark ∉ front) :
    (front ++ text).takeWhile (· != mark) = front ++ text.takeWhile (· != mark) :=
  List.takeWhile_append_of_pos (List.takeWhile_eq_self_iff.1 (takeWhile_eq_self missing))

theorem takeWhile_of_mem (marked : mark ∈ front) :
    (front ++ text).takeWhile (· != mark) = front.takeWhile (· != mark) := by
  obtain ⟨before, after, rfl, -⟩ := List.eq_append_cons_of_mem marked
  have stops := takeWhile_append_stop (· != mark) (bne_self_eq_false mark) before
  rw [List.append_assoc, List.cons_append, stops, stops]

theorem behind?_eq_none_iff : behind? mark cs = none ↔ mark ∉ cs := by
  have unmarked : cs.dropWhile (· != mark) = [] ↔ mark ∉ cs := by
    rw [List.dropWhile_eq_nil_iff]
    constructor
    · intro all inside
      simpa using all mark inside
    · intro missing c inside
      rw [bne_iff_ne]
      rintro rfl
      exact missing inside
  rw [← unmarked, behind?]
  split <;> simp [*]

theorem behind?_append (missing : mark ∉ front) :
    behind? mark (front ++ mark :: text) = some text := by
  have all := behind?_eq_none_iff.2 missing
  unfold behind? at all ⊢
  rw [dropWhile_append_stop (· != mark) (bne_self_eq_false mark)]
  split at all
  · rename_i none
    rw [none]
    rfl
  · contradiction

theorem scheme?_append (missing : ':' ∉ front) : scheme? (front ++ ':' :: text) =
    if front.map Char.toLower = "http".toList ∨ front.map Char.toLower = "https".toList then
      some (front.map Char.toLower, text)
    else none := by
  have before : (front ++ ':' :: text).takeWhile (· != ':') = front := by
    rw [takeWhile_of_not_mem missing, List.takeWhile_cons_of_neg (by simp), List.append_nil]
  rw [scheme?, before, behind?_append missing]
  rfl

theorem mem_of_scheme? {scheme rest : List Char} (schemed : scheme? cs = some (scheme, rest))
    (member : c ∈ rest) : c ∈ cs := by
  simp only [scheme?] at schemed
  split at schemed
  · obtain ⟨found, behind, same⟩ := Option.map_eq_some_iff.1 schemed
    obtain ⟨-, rfl⟩ := Prod.mk.inj same
    unfold behind? at behind
    split at behind
    · contradiction
    · rename_i mark others shape
      obtain rfl := Option.some.inj behind
      exact List.dropWhile_subset _ (shape ▸ List.mem_cons_of_mem mark member)
  · contradiction

/-- A text that goes on behind a slash, and does not end in a blank there, is cleaned in two
parts. -/
theorem clean_append (front : List Char) (ends : ∀ c ∈ text.getLast?, isTrimmed c = false) :
    clean (front ++ '/' :: text) =
      (front.dropWhile isTrimmed).filter (!isVoid ·) ++ '/' :: text.filter (!isVoid ·) := by
  have kept : ((front.dropWhile isTrimmed ++ '/' :: text).rdropWhile isTrimmed)
      = front.dropWhile isTrimmed ++ '/' :: text := by
    rcases List.eq_nil_or_concat text with rfl | ⟨initial, last, rfl⟩
    · exact List.rdropWhile_concat_neg isTrimmed _ '/' (by decide)
    · have nonblank : isTrimmed last = false := ends last (by simp)
      have whole := List.rdropWhile_concat_neg isTrimmed
        (front.dropWhile isTrimmed ++ '/' :: initial) last (by simp [nonblank])
      simpa using whole
  rw [clean, dropWhile_append_stop isTrimmed rfl, kept, List.filter_append, List.filter_cons_of_pos]
  decide

theorem ofRest?_append {scheme rest : List Char}
    (named : ofRest? accepts scheme (rest ++ ['/']) = some base) :
    ∃ tail, ∀ text : List Char, ofRest? accepts scheme (rest ++ '/' :: text) =
      some (ofTail base.scheme base.authority (tail ++ '/' :: text)) := by
  have slash : isSlash '/' = true := rfl
  cases left : rest.dropWhile isSlash with
  | nil => simp [ofRest?, List.dropWhile_append, left, slash] at named
  | cons c others =>
    have goes (text : List Char) :
        (rest ++ '/' :: text).dropWhile isSlash = (c :: others) ++ '/' :: text := by
      simp [List.dropWhile_append, left]
    have ends : (!isEnd '/') = false := rfl
    simp only [ofRest?, goes, takeWhile_append_stop (!isEnd ·) ends,
      dropWhile_append_stop (!isEnd ·) ends] at named ⊢
    split at named
    · rename_i accepted
      obtain rfl := Option.some.inj named
      exact ⟨_, fun text => if_pos accepted⟩
    · contradiction

/-- Where an address that ends in a slash names a place, the addresses that go on behind the slash
have the same scheme and authority. -/
theorem read_behind (named : read accepts (front ++ ['/']) = some base) :
    ∃ tail, ∀ text : List Char, (∀ c ∈ text.getLast?, isTrimmed c = false) →
      read accepts (front ++ '/' :: text) =
        some (ofTail base.scheme base.authority (tail ++ '/' :: text.filter (!isVoid ·))) := by
  have cleaned : clean (front ++ ['/']) =
      (front.dropWhile isTrimmed).filter (!isVoid ·) ++ ['/'] := clean_append front (by simp)
  generalize start : (front.dropWhile isTrimmed).filter (!isVoid ·) = kept at cleaned
  rw [read, cleaned] at named
  by_cases colon : ':' ∈ kept
  · obtain ⟨scheme, rest, rfl, missing⟩ := List.eq_append_cons_of_mem colon
    rw [List.append_assoc, List.cons_append, scheme?_append missing] at named
    split at named
    · rename_i known
      obtain ⟨tail, goes⟩ := ofRest?_append named
      refine ⟨tail, fun text ends => ?_⟩
      rw [read, clean_append front ends, start, List.append_assoc, List.cons_append,
        scheme?_append missing, if_pos known]
      exact goes _
    · contradiction
  · have missing : behind? ':' (kept ++ ['/']) = none :=
      behind?_eq_none_iff.2 (by simpa using colon)
    simp [scheme?, missing] at named

/-- What has a query or a fragment leads nowhere else by what it goes on with. -/
theorem path_ofTail_of_marked (scheme authority text : List Char)
    (marked : '#' ∈ tail ∨ '?' ∈ tail) :
    (ofTail scheme authority (tail ++ text)).path = (ofTail scheme authority tail).path := by
  by_cases hash : '#' ∈ tail
  · simp only [ofTail, takeWhile_of_mem hash]
  · have question := marked.resolve_left hash
    simp only [ofTail, takeWhile_of_not_mem hash, takeWhile_of_mem question, takeWhile_eq_self hash]

/-- What has neither leads by the text behind its last slash to segments below it. -/
theorem path_ofTail (scheme authority : List Char) (noHash : '#' ∉ tail) (noQuestion : '?' ∉ tail) :
    ∃ path, ∀ text, (ofTail scheme authority (tail ++ '/' :: text)).path = resolve path
      (((text.takeWhile (· != '#')).takeWhile (· != '?')).splitOnP isSlash) := by
  have front (text : List Char) : ((tail ++ '/' :: text).takeWhile (· != '#')).takeWhile (· != '?')
      = tail ++ '/' :: (text.takeWhile (· != '#')).takeWhile (· != '?') := by
    rw [takeWhile_of_not_mem noHash, List.takeWhile_cons_of_pos (by decide),
      takeWhile_of_not_mem noQuestion, List.takeWhile_cons_of_pos (by decide)]
  cases tail with
  | nil => exact ⟨[], fun text => by simp only [ofTail, front]; rfl⟩
  | cons d tail =>
    refine ⟨(tail.splitOnP isSlash).foldl step [], fun text => ?_⟩
    simp only [ofTail, front]
    rw [List.cons_append, List.drop_succ_cons, List.drop_zero,
      List.splitOnP_append_cons _ _ (show isSlash '/' = true from rfl),
      resolve_append (List.splitOnP_ne_nil _ _)]

theorem ofTail_open_iff (scheme authority tail : List Char) :
    (ofTail scheme authority tail).query = none ∧ (ofTail scheme authority tail).fragment = none ↔
      '#' ∉ tail ∧ '?' ∉ tail := by
  simp only [ofTail, behind?_eq_none_iff]
  constructor
  · rintro ⟨question, hash⟩
    rw [takeWhile_eq_self hash] at question
    exact ⟨hash, question⟩
  · rintro ⟨hash, question⟩
    exact ⟨fun inside => question (List.takeWhile_subset _ inside), hash⟩

/-- What has neither is known by its path. -/
theorem ofTail_eq (scheme authority : List Char) (noHash : '#' ∉ tail) (noQuestion : '?' ∉ tail) :
    ofTail scheme authority tail =
      ⟨scheme, authority, (ofTail scheme authority tail).path, none, none⟩ := by
  obtain ⟨query, fragment⟩ := (ofTail_open_iff scheme authority tail).2 ⟨noHash, noQuestion⟩
  calc ofTail scheme authority tail
    _ = ⟨scheme, authority, (ofTail scheme authority tail).path,
          (ofTail scheme authority tail).query, (ofTail scheme authority tail).fragment⟩ := rfl
    _ = _ := by rw [query, fragment]

/-- The segments of a path are segments. -/
theorem isSegment_of_mem_read {s : List Char} (named : read accepts cs = some place)
    (member : s ∈ place.path) : IsSegment s := by
  obtain ⟨⟨scheme, rest⟩, schemed, named⟩ := Option.bind_eq_some_iff.1 named
  simp only [ofRest?] at named
  split at named
  · obtain rfl := Option.some.inj named
    rcases mem_resolve member with none | piece | rfl
    · simp at none
    · intro c inside
      obtain ⟨front, slash⟩ := of_mem_piece isSlash _ s piece c inside
      have unasked := List.mem_of_mem_drop front
      have whole := List.takeWhile_subset _ unasked
      have question := List.mem_takeWhile_imp unasked
      have hash := List.mem_takeWhile_imp whole
      have behind : c ∈ rest := List.dropWhile_subset _
        (List.dropWhile_subset _ (List.takeWhile_subset _ whole))
      have kept := List.of_mem_filter (mem_of_scheme? schemed behind)
      rw [bne_iff_ne] at question hash
      simpa [isEnd, slash, question, hash] using kept
    · simp [IsSegment]
  · contradiction

end Behind

end Place

end FunctionAgent
