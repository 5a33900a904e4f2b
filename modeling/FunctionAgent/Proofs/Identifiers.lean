import FunctionAgent.Catalog.Function
import FunctionAgent.Proofs.Naming
import FunctionAgent.Proofs.Withdrawal
/-!
# Which texts are identifiers

A text is read as an identifier just if it is one of the spellings of it
(`Uuid.parse?_eq_some_iff`). So a roster finds a function for a text just if the text spells its
identifier: how it is spelled does not matter, and a text that comes close to a spelling is none.
Identifiers are as good as their 16 bytes.
-/

set_option autoImplicit false

namespace FunctionAgent

open FunctionAgent.Text

namespace Text.Hex

/-- What is read as a digit spells it. -/
theorem spells_of_digit? {c : Char} {d : Fin 16} (read : digit? c = some d) : Spells d c := by
  have small : c.toNat < 103 := by
    unfold digit? at read
    split at read
    · rename_i range
      have : c.toNat ≤ 57 := range.2
      omega
    · split at read
      · rename_i range
        have : c.toNat ≤ 102 := range.2
        omega
      · split at read
        · rename_i range
          have : c.toNat ≤ 70 := range.2
          omega
        · contradiction
  have all : ∀ n < 103, ∀ d, digit? (Char.ofNat n) = some d →
      Char.ofNat n = digit d ∨ Char.ofNat n = (digit d).toUpper := by decide +kernel
  have spells := all c.toNat small d
  rw [Char.ofNat_toNat] at spells
  exact spells read

theorem spellsAll_of_mapM {cs : List Char} {ds : List (Fin 16)} (read : cs.mapM digit? = some ds) :
    SpellsAll ds cs := by
  induction cs generalizing ds with
  | nil =>
    obtain rfl : [] = ds := by simpa using read
    exact .nil
  | cons c cs ih =>
    simp only [List.mapM_cons, Option.pure_def, Option.bind_eq_bind, Option.bind_eq_some_iff,
      Option.some.injEq] at read
    obtain ⟨d, first, rest, others, rfl⟩ := read
    exact .cons (spells_of_digit? first) (ih others)

theorem ofHalves_injective {hi lo hi' lo' : Fin 16} (same : ofHalves hi lo = ofHalves hi' lo') :
    hi = hi' ∧ lo = lo' := by
  have equal := congrArg UInt8.toNat same
  simp only [ofHalves, UInt8.toNat_ofNat'] at equal
  constructor
  · apply Fin.ext
    omega
  · apply Fin.ext
    omega

end Text.Hex

namespace Uuid

variable {id : Uuid} {cs ds : List Char}

theorem spellsAll_of_ofSimple? (read : ofSimple? cs = some id) : Hex.SpellsAll id.digits cs := by
  obtain ⟨digits, all, whole⟩ := Option.bind_eq_some_iff.1 read
  unfold ofDigits? at whole
  split at whole
  · obtain rfl := Option.some.inj whole
    exact Hex.spellsAll_of_mapM all
  · contradiction

theorem hyphenate_append {a b c d e : List Char} (first : a.length = 8) (second : b.length = 4)
    (third : c.length = 4) (fourth : d.length = 4) :
    hyphenate (a ++ b ++ c ++ d ++ e) =
      a ++ '-' :: b ++ '-' :: c ++ '-' :: d ++ '-' :: e := by
  simp (disch := omega) [hyphenate, List.drop_append, List.drop_eq_nil_of_le, first, second, third]

/-- Only what was grouped is ungrouped. -/
theorem eq_hyphenate_of_dehyphenate? (read : dehyphenate? cs = some ds) : cs = hyphenate ds := by
  unfold dehyphenate? at read
  split at read
  · rename_i shape
    obtain ⟨count, first, second, third, fourth⟩ := shape
    obtain rfl := Option.some.inj read
    have hyphen {n : Nat} (found : cs[n]? = some '-') : cs.drop n = '-' :: cs.drop (n + 1) := by
      rw [List.drop_eq_getElem?_toList_append, found]
      rfl
    have group {n : Nat} (found : cs[n]? = some '-') :
        cs.drop n = '-' :: ((cs.drop (n + 1)).take 4 ++ cs.drop (n + 5)) := by
      have later : cs.drop (n + 5) = (cs.drop (n + 1)).drop 4 := by rw [List.drop_drop]
      rw [hyphen found, later, List.take_append_drop]
    rw [hyphenate_append]
    · calc
        cs = cs.take 8 ++ cs.drop 8 := (List.take_append_drop 8 cs).symm
        _ = _ := by
          rw [group first, group second, group third, hyphen fourth]
          simp only [List.append_assoc, List.cons_append]
    · simp [count]
    · simp [count]
    · simp [count]
    · simp [count]
  · contradiction

theorem spelled_of_ofHyphenated? (read : ofHyphenated? cs = some id) :
    ∃ digits, Hex.SpellsAll id.digits digits ∧ cs = hyphenate digits := by
  obtain ⟨digits, grouped, whole⟩ := Option.bind_eq_some_iff.1 read
  exact ⟨digits, spellsAll_of_ofSimple? whole, eq_hyphenate_of_dehyphenate? grouped⟩

theorem eq_braced_of_inBraces? (read : inBraces? cs = some ds) :
    cs = '\x7b' :: (ds ++ ['\x7d']) := by
  unfold inBraces? at read
  split at read
  · rename_i rest
    split at read
    · rename_i closed
      obtain rfl := Option.some.inj read
      obtain ⟨inside, rfl⟩ := List.getLast?_eq_some_iff.1 closed
      rw [List.dropLast_concat]
    · contradiction
  · contradiction

theorem eq_append_of_behindUrn? (read : behindUrn? cs = some ds) :
    ∃ scheme, scheme.map Char.toLower = urnScheme ∧ cs = scheme ++ ds := by
  unfold behindUrn? at read
  split at read
  · rename_i folded
    obtain rfl := Option.some.inj read
    exact ⟨_, folded, (List.take_append_drop _ cs).symm⟩
  · contradiction

/-- Only spellings of an identifier are read as it. -/
theorem spelled_of_ofChars? (read : ofChars? cs = some id) : id.Spelled cs := by
  unfold ofChars? at read
  split at read
  · exact .plain (spellsAll_of_ofSimple? read)
  · split at read
    · obtain ⟨digits, spells, rfl⟩ := spelled_of_ofHyphenated? read
      exact .grouped spells
    · split at read
      · obtain ⟨inside, braced, whole⟩ := Option.bind_eq_some_iff.1 read
        obtain ⟨digits, spells, rfl⟩ := spelled_of_ofHyphenated? whole
        obtain rfl := eq_braced_of_inBraces? braced
        exact .braced spells
      · split at read
        · obtain ⟨behind, urn, whole⟩ := Option.bind_eq_some_iff.1 read
          obtain ⟨digits, spells, rfl⟩ := spelled_of_ofHyphenated? whole
          obtain ⟨scheme, folded, rfl⟩ := eq_append_of_behindUrn? urn
          exact .urn spells folded
        · contradiction

theorem ofChars?_eq_some_iff : ofChars? cs = some id ↔ id.Spelled cs := by
  constructor
  · exact spelled_of_ofChars?
  · exact Spelled.read

theorem ofChars?_eq_none_iff : ofChars? cs = none ↔ ∀ id : Uuid, ¬id.Spelled cs := by
  rw [Option.eq_none_iff_forall_ne_some]
  exact forall_congr' fun id => not_congr ofChars?_eq_some_iff

theorem parse?_eq_some_iff {s : String} : parse? s = some id ↔ id.Spelled s.toList :=
  ofChars?_eq_some_iff

/-- No text spells two identifiers. -/
theorem Spelled.unique {other : Uuid} (spelled : id.Spelled cs) (again : other.Spelled cs) :
    id = other :=
  Option.some.inj (spelled.read.symm.trans again.read)

theorem pairs_injective {ds es : List (Fin 16)} (even : 2 ∣ ds.length)
    (count : ds.length = es.length) (same : pairs ds = pairs es) : ds = es := by
  induction ds using pairs.induct generalizing es with
  | case1 hi lo ds ih =>
    match es, count with
    | hi' :: lo' :: es, count =>
      obtain ⟨first, others⟩ := List.cons.inj same
      obtain ⟨rfl, rfl⟩ := Hex.ofHalves_injective first
      have shorter : 2 ∣ ds.length := by
        simp only [List.length_cons] at even
        omega
      rw [ih shorter (by simpa using count) others]
  | case2 ds short =>
    match ds, even, short, count with
    | [], _, _, count => exact (List.length_eq_zero_iff.1 count.symm).symm
    | [d], even, _, _ => simp at even
    | hi :: lo :: ds, _, short, _ => exact absurd rfl (short hi lo ds)

/-- Identifiers with the same bytes are the same. -/
theorem bytes_injective {u v : Uuid} (same : u.bytes = v.bytes) : u = v := by
  have digits := pairs_injective (by simp [u.length_digits])
    (u.length_digits.trans v.length_digits.symm) same
  obtain ⟨ds, _⟩ := u
  obtain ⟨es, _⟩ := v
  obtain rfl : ds = es := digits
  rfl

theorem bytes_inj {u v : Uuid} : u.bytes = v.bytes ↔ u = v :=
  ⟨bytes_injective, congrArg bytes⟩

end Uuid

/-- A function whose identifier has letters. -/
def lettered : Function := ⟨⟨List.replicate 32 ⟨10, by decide⟩, by decide⟩, default, .unspecified⟩

namespace Roster

variable {r : Roster} {f : Function} {s : String}

theorem mem_of_find? {id : Uuid} (found : r.find? id = some f) : f ∈ r ∧ f.id = id :=
  ⟨List.mem_of_find?_eq_some found, by simpa using List.find?_some found⟩

/-- A text names the function whose identifier it spells. -/
theorem resolve?_eq_some_iff (sorted : IsSorted r) :
    r.resolve? s = some f ↔ f ∈ r ∧ f.id.Spelled s.toList := by
  constructor
  · intro resolved
    obtain ⟨id, read, found⟩ := Option.bind_eq_some_iff.1 resolved
    obtain ⟨member, rfl⟩ := mem_of_find? found
    exact ⟨member, Uuid.parse?_eq_some_iff.1 read⟩
  · rintro ⟨member, spelled⟩
    rw [resolve?, Uuid.parse?_eq_some_iff.2 spelled, Option.bind_some]
    exact find?_of_mem sorted member

theorem resolve?_eq_none_iff (sorted : IsSorted r) :
    r.resolve? s = none ↔ ∀ f ∈ r, ¬f.id.Spelled s.toList := by
  rw [Option.eq_none_iff_forall_ne_some]
  refine forall_congr' fun f => ?_
  rw [ne_eq, resolve?_eq_some_iff sorted, not_and]

end Roster

end FunctionAgent
