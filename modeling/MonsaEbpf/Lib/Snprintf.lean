/-
Module: MonsaEbpf.Lib.Snprintf
Layer: Lib
Purpose: Text that `snprintf` leaves in a buffer. A number in a field is its digits behind as many zeros as the
  field needs; two numbers with a point between them are read back whatever the width of the field, and the
  places behind the point are the width when the number fits in. Written into a buffer, a text without a
  terminator is all there exactly when it is shorter than the size that the call was given.
Imports: MonsaEbpf.Lib.DottedQuad
Trusted boundary: human-reviewed model of snprintf
Main exports: Snprintf.padded, Snprintf.length_padded, Snprintf.readNumber, Snprintf.fixedPoint,
  Snprintf.readFixedPoint_fixedPoint, Snprintf.snprintf, Snprintf.cString, Snprintf.cString_snprintf_eq_iff
-/
import MonsaEbpf.Lib.DottedQuad

namespace Snprintf

open DottedQuad

/-! ### Numbers in fields -/

/-- A number in a field that is filled up with zeros, `%0*llu`. A number too long for its field is not cut. -/
def padded (width number : Nat) : List Char :=
  (decimal number).leftpad width '0'

theorem length_decimal_le_iff {number width : Nat} (positive : 0 < width) :
    (decimal number).length ≤ width ↔ number < 10 ^ width :=
  Nat.length_toDigits_le_iff (by omega) positive

/-- A number that fits in fills its field. -/
theorem length_padded {number width : Nat} (positive : 0 < width) (fits : number < 10 ^ width) :
    (padded width number).length = width := by
  have short := (length_decimal_le_iff positive).mpr fits
  rw [padded, List.length_leftpad]
  exact max_eq_left short

theorem isDigit_of_mem_padded {width number : Nat} {char : Char} (member : char ∈ padded width number) :
    char.isDigit = true := by
  rcases List.mem_append.mp member with zero | digit
  · rw [List.eq_of_mem_replicate zero]
    rfl
  · exact isDigit_of_mem_decimal digit

/-! ### Reading numbers -/

/-- The number that a text of digits stands for. -/
def readNumber (text : List Char) : Option Nat :=
  if !text.isEmpty && text.all Char.isDigit then some (Nat.ofDigitChars 10 text 0) else none

theorem readNumber_of_digits {text : List Char} (nonempty : text ≠ [])
    (digits : ∀ char ∈ text, char.isDigit = true) :
    readNumber text = some (Nat.ofDigitChars 10 text 0) := by
  rw [readNumber, List.isEmpty_eq_false_iff.mpr nonempty, List.all_eq_true.mpr digits]
  rfl

@[simp] theorem readNumber_decimal (number : Nat) : readNumber (decimal number) = some number := by
  have nonempty : decimal number ≠ [] := Nat.toDigits_ne_nil
  rw [readNumber_of_digits nonempty fun char => isDigit_of_mem_decimal]
  exact congrArg some Nat.ofDigitChars_ten_toDigits

/-- The zeros in front do not change what is read. -/
@[simp] theorem readNumber_padded (width number : Nat) : readNumber (padded width number) = some number := by
  have nonempty : padded width number ≠ [] :=
    List.append_ne_nil_of_right_ne_nil _ Nat.toDigits_ne_nil
  rw [readNumber_of_digits nonempty fun char => isDigit_of_mem_padded, padded, List.leftpad,
    Nat.ofDigitChars_append, Nat.ofDigitChars_replicate_zero, Nat.mul_zero]
  exact congrArg some Nat.ofDigitChars_ten_toDigits

/-! ### Two numbers with a point between them -/

/-- A number, a point, and a number in a field of the given places. -/
def fixedPoint (places whole part : Nat) : List Char :=
  decimal whole ++ '.' :: padded places part

/-- Reads the numbers before and behind the first point, the second one as a count of the smallest unit. -/
def readFixedPoint (places : Nat) (text : List Char) : Option Nat := do
  let whole ← readNumber (text.takeWhile (· ≠ '.'))
  let part ← readNumber (text.dropWhile (· ≠ '.')).tail
  return whole * 10 ^ places + part

theorem ne_point_of_mem_decimal {number : Nat} {char : Char} (member : char ∈ decimal number) : char ≠ '.' := by
  rintro rfl
  exact absurd (isDigit_of_mem_decimal member) (by decide)

/-- **What is printed is read back.** -/
theorem readFixedPoint_fixedPoint (places whole part : Nat) :
    readFixedPoint places (fixedPoint places whole part) = some (whole * 10 ^ places + part) := by
  have before : (fixedPoint places whole part).takeWhile (· ≠ '.') = decimal whole := by
    rw [fixedPoint, List.takeWhile_append_of_pos fun char member =>
      decide_eq_true (ne_point_of_mem_decimal member), List.takeWhile_cons_of_neg (by decide), List.append_nil]
  have behind : (fixedPoint places whole part).dropWhile (· ≠ '.') = '.' :: padded places part := by
    rw [fixedPoint, List.dropWhile_append_of_pos fun char member =>
      decide_eq_true (ne_point_of_mem_decimal member), List.dropWhile_cons_of_neg (by decide)]
  rw [readFixedPoint, before, behind, List.tail_cons, readNumber_decimal, readNumber_padded]
  rfl

theorem length_fixedPoint_le {places digits whole part : Nat} (places_pos : 0 < places) (positive : 0 < digits)
    (short : whole < 10 ^ digits) (fits : part < 10 ^ places) :
    (fixedPoint places whole part).length ≤ digits + 1 + places := by
  have first := (length_decimal_le_iff positive).mpr short
  rw [fixedPoint, List.length_append, List.length_cons, length_padded places_pos fits]
  omega

/-! ### Buffers -/

/-- The character that ends a string in C. -/
def nul : Char := '\x00'

/-- `snprintf` for a formatted text: the buffer after the call, and the length of the whole text, which the call
returns. At most `size` characters are written, the last one the terminator. -/
def snprintf (buffer : List Char) (size : Nat) (text : List Char) : List Char × Nat :=
  if size = 0 then (buffer, text.length)
  else
    let written := text.take (size - 1) ++ [nul]
    (written ++ buffer.drop written.length, text.length)

/-- The string in a buffer, which ends before the first terminator. -/
def cString (buffer : List Char) : List Char :=
  buffer.takeWhile (· ≠ nul)

/-- The string in the buffer is as much of the text as fits in before the terminator. -/
theorem cString_snprintf {text : List Char} (nulFree : nul ∉ text) {size : Nat} (positive : 0 < size)
    (buffer : List Char) : cString (snprintf buffer size text).1 = text.take (size - 1) := by
  have other : ∀ char ∈ text.take (size - 1), decide (char ≠ nul) = true := fun char member =>
    decide_eq_true fun same => nulFree (same ▸ List.mem_of_mem_take member)
  rw [snprintf, if_neg (by omega)]
  dsimp only [cString]
  rw [List.append_assoc, List.takeWhile_append_of_pos other, List.singleton_append,
    List.takeWhile_cons_of_neg (by decide), List.append_nil]

/-- **A text is not truncated exactly when it is shorter than the size.** -/
theorem cString_snprintf_eq_iff {text : List Char} (nulFree : nul ∉ text) {size : Nat} (positive : 0 < size)
    (buffer : List Char) : cString (snprintf buffer size text).1 = text ↔ text.length < size := by
  rw [cString_snprintf nulFree positive, List.take_eq_self_iff]
  omega

end Snprintf
