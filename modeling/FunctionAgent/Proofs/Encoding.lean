import FunctionAgent.Text.Base64
/-!
# How bytes are written in Base64

What a text in Base64 stands for is told by its groups: four digits are one number of 24 bits, and
so are the three bytes that they stand for (`Spells`). The last group may be short by one byte or
two, in whose place there are no bits but zeros. Bytes are written in this way (`spells_encode`),
and a text is read just if it is written so (`decode?_eq_some_iff`).
-/

set_option autoImplicit false

namespace FunctionAgent.Text.Base64

/-- The digits in the order of their worth. -/
def alphabet : List Char :=
  "ABCDEFGHIJKLMNOPQRSTUVWXYZabcdefghijklmnopqrstuvwxyz0123456789+/".toList

/-- Whether a character is the digit of a worth. -/
def Worth (c : Char) (n : Nat) : Prop := alphabet[n]? = some c

/-- A text that stands for some bytes. -/
inductive Spells : (bytes : List UInt8) → (cs : List Char) → Prop where
  | nil : Spells [] []
  | one {a : UInt8} {p q : Char} {x y : Nat} (first : Worth p x) (second : Worth q y)
      (bits : a.toNat * 0x10000 = x * 0x40000 + y * 0x1000) : Spells [a] [p, q, '=', '=']
  | two {a b : UInt8} {p q r : Char} {x y z : Nat} (first : Worth p x) (second : Worth q y)
      (third : Worth r z)
      (bits : a.toNat * 0x10000 + b.toNat * 0x100 = x * 0x40000 + y * 0x1000 + z * 0x40) :
      Spells [a, b] [p, q, r, '=']
  | three {a b c : UInt8} {bytes : List UInt8} {p q r s : Char} {cs : List Char} {x y z w : Nat}
      (first : Worth p x) (second : Worth q y) (third : Worth r z) (fourth : Worth s w)
      (bits : a.toNat * 0x10000 + b.toNat * 0x100 + c.toNat =
        x * 0x40000 + y * 0x1000 + z * 0x40 + w)
      (others : Spells bytes cs) : Spells (a :: b :: c :: bytes) (p :: q :: r :: s :: cs)

variable {c : Char} {n : Nat} {cs : List Char} {bytes other : List UInt8}

/-! ## Digits -/

theorem Worth.lt (worth : Worth c n) : n < 64 := by
  obtain ⟨bound, -⟩ := List.getElem?_eq_some_iff.1 worth
  exact bound

theorem worth_digit (small : n < 64) : Worth (digit n) n := by
  have all : ∀ n < 64, alphabet[n]? = some (digit n) := by decide +kernel
  exact all n small

theorem Worth.digit?_eq (worth : Worth c n) : digit? c = some n := by
  have all : ∀ n < 64, alphabet[n]?.bind digit? = some n := by decide +kernel
  have read := all n worth.lt
  rwa [worth] at read

theorem digit?_eq_some_iff : digit? c = some n ↔ Worth c n := by
  refine ⟨fun read => ?_, Worth.digit?_eq⟩
  have ascii : c.toNat ≤ 'z'.toNat := by
    unfold digit? at read
    split at read
    · rename_i within
      exact Nat.le_trans within.2 (by decide)
    split at read
    · rename_i within
      exact within.2
    split at read
    · rename_i within
      exact Nat.le_trans within.2 (by decide)
    split at read
    · rename_i same
      rw [same]
      decide
    split at read
    · rename_i same
      rw [same]
      decide
    · contradiction
  have all : ∀ code ≤ 'z'.toNat, ∀ n ∈ digit? (Char.ofNat code),
      alphabet[n]? = some (Char.ofNat code) := by decide +kernel
  have found := all c.toNat ascii n
  rw [Char.ofNat_toNat] at found
  exact found read

theorem Worth.ne_pad (worth : Worth c n) : c ≠ '=' := by
  rintro rfl
  have read := worth.digit?_eq
  contradiction

/-! ## Reading and writing -/

theorem ofNat_eq {a : UInt8} (same : n = a.toNat) : UInt8.ofNat n = a := by
  rw [same, UInt8.ofNat_toNat]

/-- What is spelled is read. -/
theorem Spells.decode?_eq (spells : Spells bytes cs) : decode? cs = some bytes := by
  induction spells with
  | nil => rfl
  | @one a p q x y first second bits =>
    have := first.lt
    have := second.lt
    have whole : UInt8.ofNat (x * 4 + y / 16) = a := ofNat_eq (by omega)
    have spare : y % 16 = 0 := by omega
    simp [decode?, first.digit?_eq, second.digit?_eq, whole, spare]
  | @two a b p q r x y z first second third bits =>
    have := first.lt
    have := second.lt
    have := third.lt
    have := b.toNat_lt
    have high : UInt8.ofNat (x * 4 + y / 16) = a := ofNat_eq (by omega)
    have low : UInt8.ofNat (y % 16 * 16 + z / 4) = b := ofNat_eq (by omega)
    have spare : z % 4 = 0 := by omega
    -- What stands in front of the pad is none itself, so that this is the way of reading.
    have noPad := third.ne_pad
    simp [decode?, first.digit?_eq, second.digit?_eq, third.digit?_eq, high, low, spare]
  | @three a b c bytes p q r s cs x y z w first second third fourth bits others ih =>
    have := first.lt
    have := second.lt
    have := third.lt
    have := fourth.lt
    have := b.toNat_lt
    have := c.toNat_lt
    have high : UInt8.ofNat (x * 4 + y / 16) = a := ofNat_eq (by omega)
    have middle : UInt8.ofNat (y % 16 * 16 + z / 4) = b := ofNat_eq (by omega)
    have low : UInt8.ofNat (z % 4 * 64 + w) = c := ofNat_eq (by omega)
    have noEnd := fourth.ne_pad
    simp [decode?, first.digit?_eq, second.digit?_eq, third.digit?_eq, fourth.digit?_eq, high,
      middle, low, ih, noEnd]

/-- What a text is read as, it spells. -/
theorem spells_of_decode? (read : decode? cs = some bytes) : Spells bytes cs := by
  have worth {n : Nat} (small : n < 256) : (UInt8.ofNat n).toNat = n := by
    rw [UInt8.toNat_ofNat', Nat.mod_eq_of_lt small]
  fun_induction decode? cs generalizing bytes with
  | case1 =>
    obtain rfl := Option.some.inj read
    exact .nil
  | case2 p q x y second first spare =>
    obtain rfl := Option.some.inj read
    rw [digit?_eq_some_iff] at first second
    have := first.lt
    have := second.lt
    refine .one first second ?_
    rw [worth (by omega)]
    omega
  | case5 p q r noPad x y z third second first spare =>
    obtain rfl := Option.some.inj read
    rw [digit?_eq_some_iff] at first second third
    have := first.lt
    have := second.lt
    have := third.lt
    refine .two first second third ?_
    rw [worth (by omega), worth (by omega)]
    omega
  | case8 p q r s rest _ _ x y z w bytes others fourth third second first ih =>
    obtain rfl := Option.some.inj read
    rw [digit?_eq_some_iff] at first second third fourth
    have := first.lt
    have := second.lt
    have := third.lt
    have := fourth.lt
    refine .three first second third fourth ?_ (ih others)
    rw [worth (by omega), worth (by omega), worth (by omega)]
    omega
  | case3 | case4 | case6 | case7 | case9 | case10 => cases read

theorem decode?_eq_some_iff : decode? cs = some bytes ↔ Spells bytes cs :=
  ⟨spells_of_decode?, Spells.decode?_eq⟩

/-- Whatever the bytes are, they are written so that they are spelled. -/
theorem spells_encode (bytes : List UInt8) : Spells bytes (encode bytes) := by
  fun_induction encode bytes with
  | case1 => exact .nil
  | case2 a =>
    have := a.toNat_lt
    exact .one (worth_digit (by omega)) (worth_digit (by omega)) (by omega)
  | case3 a b =>
    have := a.toNat_lt
    have := b.toNat_lt
    exact .two (worth_digit (by omega)) (worth_digit (by omega)) (worth_digit (by omega)) (by omega)
  | case4 a b c bytes ih =>
    have := a.toNat_lt
    have := b.toNat_lt
    have := c.toNat_lt
    exact .three (worth_digit (by omega)) (worth_digit (by omega)) (worth_digit (by omega))
      (worth_digit (by omega)) (by omega) ih

theorem read?_render (bytes : List UInt8) : read? (render bytes) = some bytes := by
  rw [read?, render, String.toList_ofList, decode?_eq_some_iff]
  exact spells_encode bytes

/-- Different bytes are written differently. -/
theorem render_injective (same : render bytes = render other) : bytes = other := by
  have read := read?_render bytes
  rw [same, read?_render] at read
  exact (Option.some.inj read).symm

/-- The characters of a text are digits and, in the places of missing bytes, pads. -/
theorem Spells.mem (spells : Spells bytes cs) (member : c ∈ cs) : c = '=' ∨ ∃ n, Worth c n := by
  induction spells with
  | nil => simp at member
  | one first second =>
    simp only [List.mem_cons, List.not_mem_nil, or_false] at member
    rcases member with rfl | rfl | rfl | rfl
    · exact .inr ⟨_, first⟩
    · exact .inr ⟨_, second⟩
    · exact .inl rfl
    · exact .inl rfl
  | two first second third =>
    simp only [List.mem_cons, List.not_mem_nil, or_false] at member
    rcases member with rfl | rfl | rfl | rfl
    · exact .inr ⟨_, first⟩
    · exact .inr ⟨_, second⟩
    · exact .inr ⟨_, third⟩
    · exact .inl rfl
  | three first second third fourth _ _ ih =>
    simp only [List.mem_cons] at member
    rcases member with rfl | rfl | rfl | rfl | member
    · exact .inr ⟨_, first⟩
    · exact .inr ⟨_, second⟩
    · exact .inr ⟨_, third⟩
    · exact .inr ⟨_, fourth⟩
    · exact ih member

end FunctionAgent.Text.Base64
