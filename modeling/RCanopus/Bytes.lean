import RCanopus.Const
import Mathlib.Tactic.Linarith

/-!
# Integers as bytes

The memory image of the integer fields on a host of either byte order, and `size_t` arithmetic.
All the messages of one run live on hosts of one byte order, the parameter `h`.
-/

namespace RCanopus

/-- The byte order of the host. -/
inductive Endian where
  | little
  | big
  deriving DecidableEq, Repr

/-- The two bytes of a `uint16_t` in memory. -/
def u16Bytes (h : Endian) (x : UInt16) : List UInt8 :=
  match h with
  | .little => [UInt8.ofNat (x.toNat % 256), UInt8.ofNat (x.toNat / 256)]
  | .big => [UInt8.ofNat (x.toNat / 256), UInt8.ofNat (x.toNat % 256)]

/-- The `uint16_t` that two bytes of memory hold. -/
def u16OfBytes (h : Endian) (a b : UInt8) : UInt16 :=
  match h with
  | .little => UInt16.ofNat (a.toNat + 256 * b.toNat)
  | .big => UInt16.ofNat (b.toNat + 256 * a.toNat)

/-- The four bytes of a `uint32_t` in memory. -/
def u32Bytes (h : Endian) (x : UInt32) : List UInt8 :=
  let bytes := [UInt8.ofNat (x.toNat % 256), UInt8.ofNat (x.toNat / 256 % 256),
    UInt8.ofNat (x.toNat / 65536 % 256), UInt8.ofNat (x.toNat / 16777216)]
  match h with
  | .little => bytes
  | .big => bytes.reverse

/-- The `uint32_t` that four bytes of memory hold. -/
def u32OfBytes (h : Endian) (a b c d : UInt8) : UInt32 :=
  match h with
  | .little =>
    UInt32.ofNat (a.toNat + 256 * b.toNat + 65536 * c.toNat + 16777216 * d.toNat)
  | .big =>
    UInt32.ofNat (d.toNat + 256 * c.toNat + 65536 * b.toNat + 16777216 * a.toNat)

theorem length_u16Bytes (h : Endian) (x : UInt16) : (u16Bytes h x).length = 2 := by
  cases h <;> rfl

theorem length_u32Bytes (h : Endian) (x : UInt32) : (u32Bytes h x).length = 4 := by
  cases h <;> rfl

/-- The `uint16_t` at an offset of a buffer. Out of the buffer there is nothing to read. -/
def u16At (h : Endian) (buf : List UInt8) (off : Nat) : UInt16 :=
  match buf.drop off with
  | a :: b :: _ => u16OfBytes h a b
  | _ => 0

/-- The `uint32_t` at an offset of a buffer. -/
def u32At (h : Endian) (buf : List UInt8) (off : Nat) : UInt32 :=
  match buf.drop off with
  | a :: b :: c :: d :: _ => u32OfBytes h a b c d
  | _ => 0

/-- Reading back what was written. -/
theorem u16At_append (h : Endian) (pre rest : List UInt8) (x : UInt16) :
    u16At h (pre ++ (u16Bytes h x ++ rest)) pre.length = x := by
  have hx := x.toNat_lt
  have hlo : (UInt8.ofNat (x.toNat % 256)).toNat = x.toNat % 256 := by
    rw [UInt8.toNat_ofNat']; omega
  have hhi : (UInt8.ofNat (x.toNat / 256)).toNat = x.toNat / 256 := by
    rw [UInt8.toNat_ofNat']; omega
  have hsum : x.toNat % 256 + 256 * (x.toNat / 256) = x.toNat := by omega
  unfold u16At
  rw [List.drop_left]
  cases h with
  | little =>
    show UInt16.ofNat _ = x
    rw [hlo, hhi, hsum]
    exact UInt16.ofNat_toNat
  | big =>
    show UInt16.ofNat _ = x
    rw [hlo, hhi, hsum]
    exact UInt16.ofNat_toNat

/-- Reading back what was written. -/
theorem u32At_append (h : Endian) (pre rest : List UInt8) (x : UInt32) :
    u32At h (pre ++ (u32Bytes h x ++ rest)) pre.length = x := by
  have hx := x.toNat_lt
  have h0 : (UInt8.ofNat (x.toNat % 256)).toNat = x.toNat % 256 := by
    rw [UInt8.toNat_ofNat']; omega
  have h1 : (UInt8.ofNat (x.toNat / 256 % 256)).toNat = x.toNat / 256 % 256 := by
    rw [UInt8.toNat_ofNat']; omega
  have h2 : (UInt8.ofNat (x.toNat / 65536 % 256)).toNat = x.toNat / 65536 % 256 := by
    rw [UInt8.toNat_ofNat']; omega
  have h3 : (UInt8.ofNat (x.toNat / 16777216)).toNat = x.toNat / 16777216 := by
    rw [UInt8.toNat_ofNat']; omega
  have hsum : x.toNat % 256 + 256 * (x.toNat / 256 % 256) + 65536 * (x.toNat / 65536 % 256)
      + 16777216 * (x.toNat / 16777216) = x.toNat := by omega
  unfold u32At
  rw [List.drop_left]
  cases h with
  | little =>
    show UInt32.ofNat _ = x
    rw [h0, h1, h2, h3, hsum]
    exact UInt32.ofNat_toNat
  | big =>
    show UInt32.ofNat _ = x
    rw [h0, h1, h2, h3, hsum]
    exact UInt32.ofNat_toNat

/-! ## `size_t` -/

/-- Unsigned 64-bit subtraction, which wraps below zero. -/
def sizeSub (a b : Nat) : Nat := (a + (2 ^ 64 - b)) % 2 ^ 64

/-- The conversion of an `int` to `size_t`. -/
def sizeOfInt (i : Int) : Nat := (i % 2 ^ 64).toNat

theorem sizeSub_eq {a b : Nat} (hb : b ≤ a) (ha : a < 2 ^ 64) : sizeSub a b = a - b := by
  unfold sizeSub
  omega

theorem sizeOfInt_natCast {n : Nat} (hn : n < 2 ^ 64) : sizeOfInt n = n := by
  unfold sizeOfInt
  omega

end RCanopus
