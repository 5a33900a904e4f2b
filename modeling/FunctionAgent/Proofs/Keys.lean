import FunctionAgent.Proofs.Composing
import FunctionAgent.Proofs.Objects
import FunctionAgent.Proofs.Selecting
/-!
# The keys of a catalog

A key is a text that spells an identifier, and several keys may spell the same one. For each
identifier only the last entry counts (`Counts`), and the minimum mode is put to this entry alone.
The functions that are selected stand in the order of their identifiers, which is the same for
their bytes as for their printed forms: the digits are printed in groups of fixed lengths, and the
letters among them stand behind the others.
-/

set_option autoImplicit false

namespace FunctionAgent

open FunctionAgent.Text

/-! ## The order of identifiers -/

theorem append_lt_append_iff {α : Type} [LT α] {a b r s : List α} (count : a.length = b.length) :
    a ++ r < b ++ s ↔ a < b ∨ a = b ∧ r < s := by
  induction a generalizing b with
  | nil =>
    obtain rfl := List.length_eq_zero_iff.1 count.symm
    simp
  | cons x a ih =>
    obtain ⟨y, b, rfl⟩ := List.exists_cons_of_length_eq_add_one count.symm
    rw [List.cons_append, List.cons_append, List.cons_lt_cons_iff, List.cons_lt_cons_iff,
      ih (by simpa using count), List.cons.injEq]
    tauto

theorem map_lt_map_iff {α β : Type} [LT α] [LT β] {f : α → β} {as bs : List α}
    (injective : ∀ x y, f x = f y ↔ x = y) (monotone : ∀ x y, f x < f y ↔ x < y) :
    as.map f < bs.map f ↔ as < bs := by
  induction as generalizing bs with
  | nil => cases bs <;> simp
  | cons x as ih =>
    cases bs with
    | nil => simp
    | cons y bs =>
      rw [List.map_cons, List.map_cons, List.cons_lt_cons_iff, List.cons_lt_cons_iff, ih,
        injective, monotone]

namespace Text.Hex

/-- The high half decides first. -/
theorem ofHalves_lt_iff {hi lo hi' lo' : Fin 16} :
    ofHalves hi lo < ofHalves hi' lo' ↔ hi < hi' ∨ hi = hi' ∧ lo < lo' := by
  rw [UInt8.lt_iff_toNat_lt, Fin.lt_def, Fin.lt_def, Fin.ext_iff]
  simp only [ofHalves, UInt8.toNat_ofNat']
  omega

/-- The digits stand in the order of their values: the letters behind the others. -/
theorem digit_lt_iff (d e : Fin 16) : digit d < digit e ↔ d < e := by
  revert d e
  decide

theorem digit_inj (d e : Fin 16) : digit d = digit e ↔ d = e := by
  revert d e
  decide

end Text.Hex

namespace Uuid

variable {u v : Uuid} {ds es : List (Fin 16)} {as bs : List Char}

theorem pairs_lt_iff (even : 2 ∣ ds.length) (count : ds.length = es.length) :
    pairs ds < pairs es ↔ ds < es := by
  induction ds using pairs.induct generalizing es with
  | case1 hi lo ds ih =>
    obtain ⟨hi', es, rfl⟩ := List.exists_cons_of_length_eq_add_one count.symm
    obtain ⟨lo', es, rfl⟩ := List.exists_cons_of_length_eq_add_one (Nat.succ.inj count).symm
    have shorter : 2 ∣ ds.length := by
      simp only [List.length_cons] at even
      omega
    have same : Hex.ofHalves hi lo = Hex.ofHalves hi' lo' ↔ hi = hi' ∧ lo = lo' :=
      ⟨Hex.ofHalves_injective, by rintro ⟨rfl, rfl⟩; rfl⟩
    rw [pairs, pairs, List.cons_lt_cons_iff, List.cons_lt_cons_iff, List.cons_lt_cons_iff,
      ih shorter (by simpa using count), Hex.ofHalves_lt_iff, same]
    tauto
  | case2 ds short =>
    cases ds with
    | nil =>
      obtain rfl := List.length_eq_zero_iff.1 count.symm
      simp [pairs]
    | cons hi ds =>
      cases ds with
      | nil => simp at even
      | cons lo ds => exact absurd rfl (short hi lo ds)

/-- The order of the bytes. -/
theorem bytes_lt_iff : u.bytes < v.bytes ↔ u < v :=
  pairs_lt_iff (by simp [u.length_digits]) (u.length_digits.trans v.length_digits.symm)

/-- The five groups of 32 characters. -/
theorem exists_groups (count : as.length = 32) : ∃ a b c d e, as = a ++ b ++ c ++ d ++ e ∧
    a.length = 8 ∧ b.length = 4 ∧ c.length = 4 ∧ d.length = 4 := by
  have cut (n : Nat) : (as.drop n).take 4 ++ as.drop (n + 4) = as.drop n := by
    rw [← List.drop_drop, List.take_append_drop]
  have second : (as.drop 8).take 4 ++ as.drop 12 = as.drop 8 := cut 8
  have third : (as.drop 12).take 4 ++ as.drop 16 = as.drop 12 := cut 12
  have fourth : (as.drop 16).take 4 ++ as.drop 20 = as.drop 16 := cut 16
  refine ⟨as.take 8, (as.drop 8).take 4, (as.drop 12).take 4, (as.drop 16).take 4, as.drop 20,
    ?_, ?_, ?_, ?_, ?_⟩
  · rw [List.append_assoc, List.append_assoc, List.append_assoc, fourth, third, second,
      List.take_append_drop]
  all_goals simp [count]

/-- A hyphen between a group and what follows it does not change the order. -/
theorem group_lt_iff {r s t w : List Char} (count : as.length = bs.length)
    (others : r < s ↔ t < w) : as ++ '-' :: r < bs ++ '-' :: s ↔ as ++ t < bs ++ w := by
  rw [append_lt_append_iff count, append_lt_append_iff count, List.cons_lt_cons_self, others]

theorem hyphenate_lt_iff (first : as.length = 32) (second : bs.length = 32) :
    hyphenate as < hyphenate bs ↔ as < bs := by
  obtain ⟨a, b, c, d, e, rfl, ha, hb, hc, hd⟩ := exists_groups first
  obtain ⟨a', b', c', d', e', rfl, ha', hb', hc', hd'⟩ := exists_groups second
  rw [hyphenate_append ha hb hc hd, hyphenate_append ha' hb' hc' hd']
  simp only [List.append_assoc, List.cons_append]
  apply group_lt_iff (ha.trans ha'.symm)
  apply group_lt_iff (hb.trans hb'.symm)
  apply group_lt_iff (hc.trans hc'.symm)
  exact group_lt_iff (hd.trans hd'.symm) Iff.rfl

/-- The order of the printed forms. -/
theorem render_lt_iff : u.render < v.render ↔ u < v := by
  have count (w : Uuid) : (w.digits.map Hex.digit).length = 32 := by simp [w.length_digits]
  rw [String.lt_iff, render, render, String.toList_ofList, String.toList_ofList, chars, chars,
    hyphenate_lt_iff (count u) (count v), map_lt_map_iff Hex.digit_inj Hex.digit_lt_iff]
  rfl

end Uuid

namespace Roster

variable {f : Function} {fs : List Function} {id : Uuid}

theorem last?_cons : last? (f :: fs) id =
    (last? fs id).or (if f.id = id then some f else none) := by
  by_cases named : f.id = id
  · simp [last?, named, List.getLast?_cons]
  · simp [last?, named]

end Roster

namespace Catalog

open FunctionAgent.Json

/-! ## The entries of a document -/

/-- Whether an entry describes a function. -/
def Describes (d : Description) (cs rest : List Char) : Prop := readEntry cs = .ok (d, rest)

theorem sole_describes : Sole Describes := by
  intro d e cs rest left read again
  exact Prod.mk.inj (Except.ok.inj (read.symm.trans again))

/-- The entry that counts for an identifier: the last one of those whose keys spell it. -/
inductive Counts (id : Uuid) : List (List Char × Description) → Description → Prop where
  | here {name : List Char} {d : Description} {others : List (List Char × Description)}
      (spelled : id.Spelled name) (last : ∀ entry ∈ others, ¬id.Spelled entry.1) :
      Counts id ((name, d) :: others) d
  | later {entry : List Char × Description} {d : Description}
      {others : List (List Char × Description)} (counts : Counts id others d) :
      Counts id (entry :: others) d

/-- Whether an item is what an entry was read as. -/
def Names (entry : List Char × Description) (item : Uuid × Description) : Prop :=
  item.1.Spelled entry.1 ∧ item.2 = entry.2

section Reading

variable {isFirst : Bool} {cs name key behind left rest : List Char} {id : Uuid} {d : Description}
  {entries : List (List Char × Description)} {items seen : List (Uuid × Description)}

theorem nextKey?_eq_some_iff : nextKey? isFirst cs = .ok (some name, behind) ↔
    ∃ key, Gap isFirst cs ('"' :: key) ∧ Inside name key behind := by
  constructor
  · intro read
    unfold nextKey? at read
    split at read
    · contradiction
    · simp at read
    · rename_i found
      split at read
      · contradiction
      · rename_i label
        obtain ⟨same, rfl⟩ := Prod.mk.inj (Except.ok.inj read)
        obtain rfl := Option.some.inj same
        unfold Json.key at label
        split at label
        · contradiction
        · exact ⟨_, gap_of_next found, text_eq_ok_iff.1 label⟩
        · contradiction
  · rintro ⟨key, gap, label⟩
    have found : Json.next (.full modeDepth) .object isFirst cs = .ok (.item ('"' :: key)) :=
      next_item gap (by decide) (by decide)
    simp [nextKey?, found, Json.key, label.text_eq]

theorem nextKey?_eq_none_iff :
    nextKey? isFirst cs = .ok (none, rest) ↔ Blanks cs ('\x7d' :: rest) := by
  constructor
  · intro read
    unfold nextKey? at read
    split at read
    · contradiction
    · rename_i closed
      obtain ⟨-, rfl⟩ := Prod.mk.inj (Except.ok.inj read)
      exact next_eq_closed_iff.1 closed
    · split at read
      · contradiction
      · simp at read
  · intro blanks
    have closed : Json.next (.full modeDepth) .object isFirst cs = .ok (.closed rest) :=
      next_closed blanks
    simp [nextKey?, closed]

/-- An item is read where a key, a colon and an entry stand. -/
theorem itemStep_eq_some_iff : itemStep isFirst cs = .ok (some (id, d), rest) ↔
    ∃ name behind start, nextKey? isFirst cs = .ok (some name, behind) ∧ id.Spelled name ∧
      Json.colon behind = .ok start ∧ readEntry start = .ok (d, rest) := by
  rw [itemStep_eq_nextKey]
  constructor
  · intro read
    split at read
    · contradiction
    · simp at read
    · rename_i key
      split at read
      · contradiction
      · rename_i spelled
        split at read
        · contradiction
        · rename_i colon
          split at read
          · contradiction
          · rename_i entry
            simp only [Except.ok.injEq, Prod.mk.injEq, Option.some.injEq] at read
            obtain ⟨⟨rfl, rfl⟩, rfl⟩ := read
            exact ⟨_, _, _, key, Uuid.ofChars?_eq_some_iff.1 spelled, colon, entry⟩
  · rintro ⟨name, behind, start, key, spelled, colon, entry⟩
    simp [key, spelled.read, colon, entry]

/-- What is read up to the closing bracket are entries. -/
theorem pairs_of_read (read : readItemsFrom seen isFirst cs = .ok (items, rest)) :
    ∃ entries later, Pairs Describes isFirst cs entries rest ∧ items = seen.reverse ++ later ∧
      List.Forall₂ Names entries later := by
  fun_induction readItemsFrom seen isFirst cs with
  | case1 => contradiction
  | case2 seen isFirst cs left closed =>
    obtain ⟨rfl, rfl⟩ := Prod.mk.inj (Except.ok.inj read)
    have blanks := nextKey?_eq_none_iff.1 (itemStep_eq_none_iff.1 closed)
    exact ⟨[], [], .close blanks, by simp, .nil⟩
  | case3 seen isFirst cs item left step _ ih =>
    obtain ⟨id, d⟩ := item
    obtain ⟨name, behind, start, key, spelled, colon, entry⟩ := itemStep_eq_some_iff.1 step
    obtain ⟨text, gap, label⟩ := nextKey?_eq_some_iff.1 key
    obtain ⟨entries, later, others, rfl, named⟩ := ih read
    refine ⟨(name, d) :: entries, (id, d) :: later, ?_, by simp, .cons ⟨spelled, rfl⟩ named⟩
    exact .member gap label (colon_eq_ok_iff.1 colon) entry others

/-- Entries are read up to the closing bracket if their keys spell identifiers. -/
theorem read_of_pairs (stand : Pairs Describes isFirst cs entries rest)
    (named : List.Forall₂ Names entries items) :
    readItemsFrom seen isFirst cs = .ok (seen.reverse ++ items, rest) := by
  induction stand generalizing seen items with
  | @close isFirst cs rest blanks =>
    cases named
    have closed : itemStep isFirst cs = .ok (none, rest) :=
      itemStep_eq_none_iff.2 (nextKey?_eq_none_iff.2 blanks)
    rw [readItemsFrom_of_close closed, List.append_nil]
  | @member isFirst d entries name cs text behind start left rest gap label colon read others ih =>
    cases named with
    | @cons _ item _ items names named =>
      obtain ⟨id, given⟩ := item
      obtain ⟨spelled, rfl⟩ : id.Spelled name ∧ d = given := ⟨names.1, names.2.symm⟩
      have key : nextKey? isFirst cs = .ok (some name, behind) :=
        nextKey?_eq_some_iff.2 ⟨text, gap, label⟩
      have step : itemStep isFirst cs = .ok (some (id, d), left) :=
        itemStep_eq_some_iff.2 ⟨name, behind, start, key, spelled, colon_eq_ok_iff.2 colon, read⟩
      rw [readItemsFrom_of_item step, ih named]
      simp

/-- A document is read as the items that its entries name. -/
theorem document_eq_ok_iff :
    document cs = .ok items ↔
      ∃ entries, IsObject Describes cs entries ∧ List.Forall₂ Names entries items := by
  constructor
  · intro read
    unfold document at read
    split at read
    · rename_i opened
      split at read
      · contradiction
      · rename_i inside
        split at read
        · rename_i behind
          obtain rfl := Except.ok.inj read
          obtain ⟨entries, later, stand, rfl, named⟩ := pairs_of_read inside
          exact ⟨entries, ⟨blanks_of_skipBlanks opened, stand, blanks_of_skipBlanks behind⟩, named⟩
        · contradiction
    · contradiction
  · rintro ⟨entries, ⟨before, inside, behind⟩, named⟩
    have opened := before.reach (by decide)
    have nothing : skipBlanks _ = [] := behind.skip
    have read : readItemsFrom [] true _ = _ := read_of_pairs inside named
    simp [document, opened, read, nothing]

end Reading

/-! ## The entry that counts -/

section Counting

variable {id : Uuid} {d : Description} {entry : List Char × Description}
  {entries : List (List Char × Description)} {items : List (Uuid × Description)}

theorem counts_cons_iff : Counts id (entry :: entries) d ↔ Counts id entries d ∨
    id.Spelled entry.1 ∧ entry.2 = d ∧ ∀ other ∈ entries, ¬id.Spelled other.1 := by
  constructor
  · intro counts
    cases counts with
    | here spelled last => exact .inr ⟨spelled, rfl, last⟩
    | later counts => exact .inl counts
  · rintro (counts | ⟨spelled, rfl, last⟩)
    · exact .later counts
    · exact .here spelled last

theorem Names.spelled_iff {item : Uuid × Description} (names : Names entry item) :
    id.Spelled entry.1 ↔ item.1 = id :=
  ⟨names.1.unique, fun same => same ▸ names.1⟩

/-- The functions that items describe. -/
def described (items : List (Uuid × Description)) : List Function :=
  items.map fun (id, description) => .new id description

theorem last?_eq_none_iff (named : List.Forall₂ Names entries items) :
    Roster.last? (described items) id = none ↔ ∀ entry ∈ entries, ¬id.Spelled entry.1 := by
  induction named with
  | nil => simp [described, Roster.last?]
  | @cons entry item entries items names named ih =>
    have others : Roster.last? (described (item :: items)) id =
        (Roster.last? (described items) id).or
        (if item.1 = id then some (.new item.1 item.2) else none) := Roster.last?_cons
    rw [others, Option.or_eq_none_iff, ih, List.forall_mem_cons, names.spelled_iff]
    by_cases same : item.1 = id <;> simp [same]

/-- The entry that counts for an identifier describes the last function that has it. -/
theorem counts_iff (named : List.Forall₂ Names entries items) :
    Counts id entries d ↔ Roster.last? (described items) id = some (.new id d) := by
  induction named with
  | nil =>
    constructor
    · intro counts
      cases counts
    · intro found
      simp [described, Roster.last?] at found
  | @cons entry item entries items names named ih =>
    have others : Roster.last? (described (item :: items)) id =
        (Roster.last? (described items) id).or
        (if item.1 = id then some (.new item.1 item.2) else none) := Roster.last?_cons
    rw [counts_cons_iff, ih, names.spelled_iff, ← last?_eq_none_iff named, others,
      Option.or_eq_some_iff, ← names.2]
    refine or_congr_right ?_
    by_cases same : item.1 = id
    · simp [same, Function.new, and_comm]
    · simp [same]

theorem exists_spelled (named : List.Forall₂ Names entries items) :
    ∀ entry ∈ entries, ∃ id : Uuid, id.Spelled entry.1 := by
  induction named with
  | nil => simp
  | cons names _ ih => exact List.forall_mem_cons.2 ⟨⟨_, names.1⟩, ih⟩

/-- The last function with an identifier is the one that the entry that counts describes. -/
theorem last?_eq_some_iff {f : Function} (named : List.Forall₂ Names entries items) :
    Roster.last? (described items) f.id = some f ↔
      f.state = .unspecified ∧ Counts f.id entries f.description := by
  rw [counts_iff named]
  constructor
  · intro found
    have member : f ∈ described items :=
      (List.mem_filter.1 (List.mem_of_getLast? found)).1
    obtain ⟨item, -, rfl⟩ := List.mem_map.1 member
    exact ⟨rfl, found⟩
  · rintro ⟨unannounced, found⟩
    rw [found]
    obtain ⟨id, description, state⟩ := f
    obtain rfl : state = .unspecified := unannounced
    rfl

end Counting

/-- Which functions are selected from a text with some entries. -/
structure Keyed (cs : List Char) (entries : List (List Char × Description)) (minimum : Mode)
    (few : Roster) : Prop where
  holds : IsObject Describes cs entries
  only : ∀ other, IsObject Describes cs other → other = entries
  spelled : ∀ entry ∈ entries, ∃ id : Uuid, id.Spelled entry.1
  /-- The identifiers ascend strictly by their bytes, and no less by their printed forms. -/
  bytes : few.Pairwise fun f g => f.id.bytes < g.id.bytes
  printed : few.Pairwise fun f g => f.id.render < g.id.render
  distinct : (few.map Function.id).Nodup
  /-- A function is selected just if the entry that counts for its identifier describes it and is
  not below the minimum. -/
  selected : ∀ f, f ∈ few ↔ f.state = .unspecified ∧ Counts f.id entries f.description ∧
    minimum.label ≤ f.description.mode.label
  /-- If the entry that counts is below the minimum, those in front of it are of no help. -/
  overruled : ∀ id d, Counts id entries d → d.mode.label < minimum.label → ∀ f ∈ few, f.id ≠ id

theorem roster_eq_ok_iff {text : String} {all : Roster} : roster text = .ok all ↔
    ∃ items, document text.toList = .ok items ∧ all = Roster.ofList (described items) := by
  unfold roster
  cases document text.toList with
  | error fault => simp
  | ok items => simp [described, eq_comm]

/-- Of all entries with one identifier the last counts, and the identifiers ascend. -/
theorem parse_keeps_last {text : String} {minimum : Mode} {few : Roster}
    (accepts : parse text minimum = .ok few) :
    ∃ entries, Keyed text.toList entries minimum few := by
  obtain ⟨all, read, rfl⟩ := parse_eq_ok_iff.1 accepts
  obtain ⟨items, whole, rfl⟩ := roster_eq_ok_iff.1 read
  obtain ⟨entries, holds, named⟩ := document_eq_ok_iff.1 whole
  have sorted := (Roster.isSorted_ofList (described items)).filter (isSelected minimum)
  have selected (f : Function) : f ∈ (Roster.ofList (described items)).filter (isSelected minimum) ↔
      f.state = .unspecified ∧ Counts f.id entries f.description ∧
        minimum.label ≤ f.description.mode.label := by
    rw [List.mem_filter, Roster.mem_ofList_iff, last?_eq_some_iff named, and_assoc]
    exact and_congr_right fun _ => and_congr_right fun _ => decide_eq_true_iff
  refine ⟨entries, holds, fun _ again => again.unique sole_describes holds, exists_spelled named,
    sorted.imp Uuid.bytes_lt_iff.2, sorted.imp Uuid.render_lt_iff.2, ?_, selected, ?_⟩
  · refine List.pairwise_map.2 (sorted.imp ?_)
    intro f g before same
    exact Uuid.lt_irrefl f.id (same ▸ before)
  · rintro _ d counts below f member rfl
    obtain ⟨-, other, above⟩ := (selected f).1 member
    -- What counts for an identifier is the description of one function.
    have same := ((counts_iff named).1 counts).symm.trans ((counts_iff named).1 other)
    obtain rfl : d = f.description := congrArg Function.description (Option.some.inj same)
    omega

/-- A function that is described by nothing but its mode. -/
def plain (mode : Mode) : Description := ⟨"n", "s", "", "", none, "e", "r", mode⟩

/-- A function above the minimum, and behind it one that is below it and whose key spells the same
identifier in another way. -/
def overruled (other : Uuid) : String :=
  String.ofList ('\x7b' :: '"' :: (Uuid.nil.digits.map Hex.digit ++
    '"' :: ':' :: (listed (plain .stable) ++ ',' :: '"' :: (other.chars ++
      '"' :: ':' :: (listed (plain .beta) ++ ',' :: '"' :: ("URN:UUID:".toList ++ Uuid.nil.chars ++
        '"' :: ':' :: (listed (plain .undefined) ++ ['\x7d'])))))))

theorem parse_keeps_last_below :
    let other : Uuid := ⟨List.replicate 32 1, by decide⟩
    let beta : Function := .new other (plain .beta)
    parse (overruled other) .beta = .ok [beta] ∧
      ∃ entries, Keyed (overruled other).toList entries .beta [beta] := by
  intro other beta
  have rendering : Rendering [(.nil, plain .stable), (other, plain .beta), (.nil, plain .undefined)]
      (overruled other).toList := by
    rw [overruled, String.toList_ofList]
    have digits := Hex.spellsAll_digit Uuid.nil.digits
    refine .document .none (.item (.first .none) (.itself ?_) (.plain digits) .none .none
      (entry_listed _ _) (.item (.comma .none .none) (.itself ?_) other.spelled_chars .none .none
        (entry_listed _ _) (.item (.comma .none .none) (.itself ?_) (.urn digits ?_) .none .none
          (entry_listed _ _) (.close .none)))) .none
    all_goals decide
  have accepted : parse (overruled other) .beta = .ok [beta] := by
    refine parse_eq_ok_iff.2 ⟨_, roster_eq_ok_iff.2 ⟨_, rendering.read, rfl⟩, ?_⟩
    decide
  exact ⟨accepted, parse_keeps_last accepted⟩

end Catalog

end FunctionAgent
