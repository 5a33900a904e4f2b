/-!
# Variable-length numbers

Numbers of 64 bits are written in groups of seven bits, the lowest first, and every byte but the
last has its high bit set. A number takes at most ten bytes, and the tenth holds one bit. The main
statement is that reading gives the written number back and leaves what follows.
-/

set_option autoImplicit false

namespace FunctionAgent.Wire

/-- The encoded form of messages. -/
abbrev Bytes := List UInt8

namespace Varint

/-- Writes a number in at most `more + 1` bytes. -/
def encodeWithin : (more : Nat) → Nat → Bytes
  | 0, n => [UInt8.ofNat n]
  | more + 1, n =>
    if n < 128 then [UInt8.ofNat n]
    else UInt8.ofNat (n % 128 + 128) :: encodeWithin more (n / 128)

/-- Writes a number of 64 bits. -/
def encode (n : Nat) : Bytes := encodeWithin 9 n

/-- Reads a number of at most `more + 1` bytes; after nine more groups only one bit is left. -/
def decodeWithin : (more : Nat) → Bytes → Option (Nat × Bytes)
  | _, [] => none
  | 0, b :: rest => if b.toNat < 2 then some (b.toNat, rest) else none
  | more + 1, b :: rest =>
    if b.toNat < 128 then some (b.toNat, rest)
    else (decodeWithin more rest).map fun (n, after) => (b.toNat - 128 + 128 * n, after)

/-- Reads a number of 64 bits. -/
def decode (bytes : Bytes) : Option (Nat × Bytes) := decodeWithin 9 bytes

theorem decodeWithin_encodeWithin (more n : Nat) (rest : Bytes) (h : n < 2 * Nat.pow 128 more) :
    decodeWithin more (encodeWithin more n ++ rest) = some (n, rest) := by
  induction more generalizing n with
  | zero =>
    have hn : n < 2 := by simpa using h
    have : (UInt8.ofNat n).toNat = n := by simp only [UInt8.toNat_ofNat']; omega
    simp [encodeWithin, decodeWithin, this, hn]
  | succ more ih =>
    simp only [encodeWithin]
    split
    · rename_i hn
      have : (UInt8.ofNat n).toNat = n := by simp only [UInt8.toNat_ofNat']; omega
      simp [decodeWithin, this, hn]
    · rename_i hn
      have byte : (UInt8.ofNat (n % 128 + 128)).toNat = n % 128 + 128 := by
        simp only [UInt8.toNat_ofNat']; omega
      have small : n / 128 < 2 * Nat.pow 128 more := by
        have wider : Nat.pow 128 (more + 1) = Nat.pow 128 more * 128 := rfl
        omega
      simp only [List.cons_append, decodeWithin, byte, ih _ small,
        show ¬(n % 128 + 128 < 128) by omega, if_false, Option.map_some]
      congr 2
      omega

theorem decode_encode {n : Nat} (rest : Bytes) (h : n < 18_446_744_073_709_551_616) :
    decode (encode n ++ rest) = some (n, rest) :=
  decodeWithin_encodeWithin 9 n rest (by simpa using h)

theorem encode_ne_nil (n : Nat) : encode n ≠ [] := by
  simp only [encode, encodeWithin]
  split <;> simp

end Varint

end FunctionAgent.Wire
