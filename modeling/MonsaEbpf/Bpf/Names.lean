/-
Module: MonsaEbpf.Bpf.Names
Layer: Bpf
Purpose: Names in arrays of bytes, as `%s` prints them: the bytes before the first zero. A terminated name is
  shorter than its array.
Imports: MonsaEbpf.Bpf.Helpers
Trusted boundary: human-reviewed model of strings in C
Main exports: nameOf, charsOf, Terminated, charsOf_injective, ne_zero_of_mem_nameOf, length_nameOf_lt
-/
import Mathlib.Data.List.TakeWhile
import MonsaEbpf.Bpf.Helpers

namespace MonsaEbpf

/-- What `%s` prints of an array: the bytes before the first zero. -/
def nameOf {length : Nat} (array : Vector U8 length) : List U8 :=
  array.toList.takeWhile (· ≠ 0)

/-- Bytes on the terminal. -/
def charsOf (bytes : List U8) : List Char :=
  bytes.map fun byte => Char.ofNat byte.toNat

/-- The array holds a terminator, as the arrays do that the helpers of the kernel fill in. -/
def Terminated {length : Nat} (array : Vector U8 length) : Prop :=
  0 ∈ array.toList

instance {length : Nat} (array : Vector U8 length) : Decidable (Terminated array) :=
  inferInstanceAs (Decidable (0 ∈ array.toList))

theorem toNat_ofNat_byte (byte : U8) : (Char.ofNat byte.toNat).toNat = byte.toNat := by
  have small := byte.isLt
  have valid : byte.toNat.isValidChar := Or.inl (by omega)
  rw [Char.ofNat, dif_pos valid]
  rfl

theorem charsOf_injective : Function.Injective charsOf := by
  apply List.map_injective_iff.mpr
  intro first second same
  have number := congrArg Char.toNat same
  rw [toNat_ofNat_byte, toNat_ofNat_byte] at number
  exact BitVec.eq_of_toNat_eq number

/-- No byte of a name is the terminator. -/
theorem ne_zero_of_mem_nameOf {length : Nat} {array : Vector U8 length} {byte : U8}
    (member : byte ∈ nameOf array) : byte ≠ 0 :=
  of_decide_eq_true (List.mem_takeWhile_imp (p := fun byte => decide (byte ≠ 0)) member)

/-- A terminated name is shorter than its array. -/
theorem length_nameOf_lt {length : Nat} {array : Vector U8 length} (terminated : Terminated array) :
    (nameOf array).length < length := by
  have shorter := (List.takeWhile_sublist (l := array.toList) (· ≠ 0)).length_le
  rw [Vector.length_toList] at shorter
  apply Nat.lt_of_le_of_ne shorter
  intro whole
  have all : nameOf array = array.toList :=
    (List.takeWhile_sublist (l := array.toList) (· ≠ 0)).eq_of_length (whole.trans (Vector.length_toList).symm)
  exact ne_zero_of_mem_nameOf (all ▸ terminated : 0 ∈ nameOf array) rfl

end MonsaEbpf
