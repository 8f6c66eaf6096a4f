/-
Module: MonsaEbpf.Lib.DottedQuad
Layer: Lib
Purpose: The text of unsigned numbers and of addresses. A number ends where the first character that is no
  digit stands, so a text in which separators follow the numbers determines them; in particular an address
  is determined by its dotted quad.
Imports: MonsaEbpf.Lib.Wire
Trusted boundary: none
Main exports: DottedQuad.decimal, DottedQuad.decimal_injective, DottedQuad.decimal_append_inj,
  DottedQuad.dottedQuad, DottedQuad.dottedQuad_inj, DottedQuad.addressText,
  DottedQuad.addressText_injective, DottedQuad.quadOf, DottedQuad.addressText_swap32,
  DottedQuad.addressText_wordAt
-/
import Mathlib.Data.List.TakeWhile
import MonsaEbpf.Lib.Wire

namespace DottedQuad

open Wire

/-! ### Numbers -/

/-- The digits of a number, without leading zeros. -/
def decimal (number : Nat) : List Char :=
  Nat.toDigits 10 number

theorem decimal_injective : Function.Injective decimal := by
  intro first second same
  have read := congrArg (Nat.ofDigitChars 10 · 0) same
  rwa [decimal, decimal, Nat.ofDigitChars_ten_toDigits, Nat.ofDigitChars_ten_toDigits] at read

theorem isDigit_of_mem_decimal {number : Nat} {char : Char} (member : char ∈ decimal number) :
    char.isDigit = true :=
  Nat.isDigit_of_mem_toDigits (by decide) (by decide) member

/-- The digits are what stands before the first other character. -/
theorem takeWhile_decimal (number : Nat) {separator : Char} (other : separator.isDigit = false)
    (rest : List Char) : (decimal number ++ separator :: rest).takeWhile Char.isDigit = decimal number := by
  rw [List.takeWhile_append_of_pos fun char => isDigit_of_mem_decimal,
    List.takeWhile_cons_of_neg (by rw [other]; decide), List.append_nil]

/-- A number before a separator is determined by the text, and so is the rest. -/
theorem decimal_append_inj {first second : Nat} {separator : Char} (other : separator.isDigit = false)
    {rest rest' : List Char}
    (same : decimal first ++ separator :: rest = decimal second ++ separator :: rest') :
    first = second ∧ rest = rest' := by
  have digits := congrArg (List.takeWhile Char.isDigit) same
  rw [takeWhile_decimal first other, takeWhile_decimal second other] at digits
  obtain rfl := decimal_injective digits
  exact ⟨rfl, (List.cons.inj (List.append_cancel_left same)).2⟩

/-! ### Addresses -/

/-- Four bytes in decimal with points between them. -/
def dottedQuad (first second third fourth : Byte) : List Char :=
  decimal first.toNat ++ '.' :: (decimal second.toNat ++ '.' ::
    (decimal third.toNat ++ '.' :: decimal fourth.toNat))

/-- **A dotted quad determines its bytes.** -/
theorem dottedQuad_inj {first second third fourth first' second' third' fourth' : Byte}
    (same : dottedQuad first second third fourth = dottedQuad first' second' third' fourth') :
    first = first' ∧ second = second' ∧ third = third' ∧ fourth = fourth' := by
  obtain ⟨sameFirst, afterFirst⟩ := decimal_append_inj rfl same
  obtain ⟨sameSecond, afterSecond⟩ := decimal_append_inj rfl afterFirst
  obtain ⟨sameThird, afterThird⟩ := decimal_append_inj rfl afterSecond
  exact ⟨BitVec.eq_of_toNat_eq sameFirst, BitVec.eq_of_toNat_eq sameSecond,
    BitVec.eq_of_toNat_eq sameThird, BitVec.eq_of_toNat_eq (decimal_injective afterThird)⟩

/-- The dotted quad of an address as it lies in the memory of the host, lowest byte first. -/
def addressText (address : BitVec 32) : List Char :=
  dottedQuad (byteOf address 0) (byteOf address 1) (byteOf address 2) (byteOf address 3)

theorem addressText_injective : Function.Injective addressText := by
  intro first second same
  obtain ⟨zeroth, one, two, three⟩ := dottedQuad_inj same
  rw [← byteOf_append_append first, ← byteOf_append_append second, zeroth, one, two, three]

/-- The dotted quad of an address as a number, highest byte first. -/
def quadOf (address : BitVec 32) : List Char :=
  dottedQuad (byteOf address 3) (byteOf address 2) (byteOf address 1) (byteOf address 0)

/-- An address in network order lies in memory highest byte first. -/
theorem addressText_swap32 (address : BitVec 32) : addressText (swap32 address) = quadOf address := by
  obtain ⟨zeroth, first, second, third⟩ := byteOf_word (byteOf address 0) (byteOf address 1)
    (byteOf address 2) (byteOf address 3)
  rw [addressText, swap32, zeroth, first, second, third, quadOf]

/-- The text of an address loaded from a packet is that of its four bytes there. -/
theorem addressText_wordAt (bytes : List Byte) (offset : Nat) :
    addressText (wordAt bytes offset) = dottedQuad (byteAt bytes offset) (byteAt bytes (offset + 1))
      (byteAt bytes (offset + 2)) (byteAt bytes (offset + 3)) := by
  obtain ⟨zeroth, first, second, third⟩ := byteOf_word (byteAt bytes (offset + 3))
    (byteAt bytes (offset + 2)) (byteAt bytes (offset + 1)) (byteAt bytes offset)
  rw [addressText, wordAt, halfAt, halfAt, zeroth, first, second, third]

end DottedQuad
