/-
Module: MonsaEbpf.Lib.Wire
Layer: Lib
Purpose: Byte strings as a little-endian host reads them. A load outside the bytes is a fault; `byteAt`,
  `halfAt` and `wordAt` are the total readings that a load inside the bytes returns. Numbers in network
  order are written with `put16` and `put32`, and a host load followed by a byte swap reads them back.
Trusted boundary: none
Main exports: Wire.loadByte, Wire.load16, Wire.load32, Wire.byteAt, Wire.halfAt, Wire.wordAt,
  Wire.swap16, Wire.swap32, Wire.put16, Wire.put32, Wire.swap16_halfAt_put16, Wire.swap32_wordAt_put32
-/
import Mathlib.Data.BitVec

namespace Wire

abbrev Byte := BitVec 8

/-- What can go wrong when bytes are read. -/
inductive Fault where
  | outOfBounds (offset : Nat)
deriving DecidableEq, Repr

abbrev Access := Except Fault

/-- Load one byte. -/
def loadByte (bytes : List Byte) (offset : Nat) : Access Byte :=
  match bytes[offset]? with
  | some byte => .ok byte
  | none => .error (.outOfBounds offset)

/-- Load two bytes, the least significant one first. -/
def load16 (bytes : List Byte) (offset : Nat) : Access (BitVec 16) := do
  let low ← loadByte bytes offset
  let high ← loadByte bytes (offset + 1)
  return high ++ low

/-- Load four bytes, the least significant one first. -/
def load32 (bytes : List Byte) (offset : Nat) : Access (BitVec 32) := do
  let low ← load16 bytes offset
  let high ← load16 bytes (offset + 2)
  return high ++ low

/-- The byte at an offset, zero outside the bytes. -/
def byteAt (bytes : List Byte) (offset : Nat) : Byte :=
  bytes[offset]?.getD 0

/-- The 16-bit number a host load reads at an offset. -/
def halfAt (bytes : List Byte) (offset : Nat) : BitVec 16 :=
  byteAt bytes (offset + 1) ++ byteAt bytes offset

/-- The 32-bit number a host load reads at an offset. -/
def wordAt (bytes : List Byte) (offset : Nat) : BitVec 32 :=
  halfAt bytes (offset + 2) ++ halfAt bytes offset

theorem loadByte_inside {bytes : List Byte} {offset : Nat} (inside : offset < bytes.length) :
    loadByte bytes offset = .ok (byteAt bytes offset) := by
  simp [loadByte, byteAt, List.getElem?_eq_getElem inside]

theorem load16_inside {bytes : List Byte} {offset : Nat} (inside : offset + 2 ≤ bytes.length) :
    load16 bytes offset = .ok (halfAt bytes offset) := by
  rw [load16, loadByte_inside (show offset < bytes.length by omega),
    loadByte_inside (show offset + 1 < bytes.length by omega)]
  rfl

theorem load32_inside {bytes : List Byte} {offset : Nat} (inside : offset + 4 ≤ bytes.length) :
    load32 bytes offset = .ok (wordAt bytes offset) := by
  rw [load32, load16_inside (show offset + 2 ≤ bytes.length by omega),
    load16_inside (show offset + 2 + 2 ≤ bytes.length by omega)]
  rfl

/-! ### Concatenation -/

theorem byteAt_append_right (first second : List Byte) (offset : Nat) :
    byteAt (first ++ second) (first.length + offset) = byteAt second offset := by
  simp [byteAt, List.getElem?_append_right]

theorem halfAt_append_right (first second : List Byte) (offset : Nat) :
    halfAt (first ++ second) (first.length + offset) = halfAt second offset := by
  rw [halfAt, halfAt, Nat.add_assoc, byteAt_append_right, byteAt_append_right]

theorem wordAt_append_right (first second : List Byte) (offset : Nat) :
    wordAt (first ++ second) (first.length + offset) = wordAt second offset := by
  rw [wordAt, wordAt, Nat.add_assoc, halfAt_append_right, halfAt_append_right]

/-! ### Network order -/

/-- The byte of a number at a position, counted from the least significant one. -/
def byteOf {w : Nat} (value : BitVec w) (position : Nat) : Byte :=
  value.extractLsb' (8 * position) 8

/-- Exchange the two bytes of a number. -/
def swap16 (value : BitVec 16) : BitVec 16 :=
  byteOf value 0 ++ byteOf value 1

/-- Reverse the four bytes of a number. -/
def swap32 (value : BitVec 32) : BitVec 32 :=
  (byteOf value 0 ++ byteOf value 1 : BitVec 16) ++ (byteOf value 2 ++ byteOf value 3 : BitVec 16)

/-- A 16-bit number, the most significant byte first. -/
def put16 (value : BitVec 16) : List Byte :=
  [byteOf value 1, byteOf value 0]

/-- A 32-bit number, the most significant byte first. -/
def put32 (value : BitVec 32) : List Byte :=
  [byteOf value 3, byteOf value 2, byteOf value 1, byteOf value 0]

@[simp] theorem length_put16 (value : BitVec 16) : (put16 value).length = 2 := rfl

@[simp] theorem length_put32 (value : BitVec 32) : (put32 value).length = 4 := rfl

/-- The bytes of a number, put together again. -/
theorem byteOf_append (value : BitVec 16) : byteOf value 1 ++ byteOf value 0 = value := by
  apply BitVec.eq_of_getLsbD_eq
  intro i inside
  simp only [byteOf, BitVec.getLsbD_append, BitVec.getLsbD_extractLsb']
  grind

theorem byteOf_append_append (value : BitVec 32) :
    (byteOf value 3 ++ byteOf value 2 : BitVec 16) ++ (byteOf value 1 ++ byteOf value 0 : BitVec 16) =
      value := by
  apply BitVec.eq_of_getLsbD_eq
  intro i inside
  simp only [byteOf, BitVec.getLsbD_append, BitVec.getLsbD_extractLsb']
  grind

@[simp] theorem byteOf_zero_append (high low : Byte) : byteOf (high ++ low : BitVec 16) 0 = low := by
  apply BitVec.eq_of_getLsbD_eq
  intro i inside
  simp only [byteOf, BitVec.getLsbD_append, BitVec.getLsbD_extractLsb']
  grind

@[simp] theorem byteOf_one_append (high low : Byte) : byteOf (high ++ low : BitVec 16) 1 = high := by
  apply BitVec.eq_of_getLsbD_eq
  intro i inside
  simp only [byteOf, BitVec.getLsbD_append, BitVec.getLsbD_extractLsb']
  grind

/-- The bytes of a word that was put together from four. -/
theorem byteOf_word (third second first zeroth : Byte) :
    byteOf ((third ++ second : BitVec 16) ++ (first ++ zeroth : BitVec 16)) 0 = zeroth ∧
      byteOf ((third ++ second : BitVec 16) ++ (first ++ zeroth : BitVec 16)) 1 = first ∧
      byteOf ((third ++ second : BitVec 16) ++ (first ++ zeroth : BitVec 16)) 2 = second ∧
      byteOf ((third ++ second : BitVec 16) ++ (first ++ zeroth : BitVec 16)) 3 = third := by
  refine ⟨?_, ?_, ?_, ?_⟩ <;>
  · apply BitVec.eq_of_getLsbD_eq
    intro i inside
    simp only [byteOf, BitVec.getLsbD_append, BitVec.getLsbD_extractLsb']
    grind

theorem swap16_append (high low : Byte) : swap16 (high ++ low) = low ++ high := by
  rw [swap16, byteOf_zero_append, byteOf_one_append]

theorem swap32_append (third second first zeroth : Byte) :
    swap32 ((third ++ second : BitVec 16) ++ (first ++ zeroth : BitVec 16)) =
      (zeroth ++ first : BitVec 16) ++ (second ++ third : BitVec 16) := by
  apply BitVec.eq_of_getLsbD_eq
  intro i inside
  simp only [swap32, byteOf, BitVec.getLsbD_append, BitVec.getLsbD_extractLsb']
  grind

/-- Swapping is its own inverse. -/
@[simp] theorem swap16_swap16 (value : BitVec 16) : swap16 (swap16 value) = value := by
  rw [← byteOf_append value, swap16_append, swap16_append]

@[simp] theorem swap32_swap32 (value : BitVec 32) : swap32 (swap32 value) = value := by
  rw [← byteOf_append_append value, swap32_append, swap32_append]

/-- A number is the same in both orders exactly if its two bytes are equal. -/
theorem swap16_eq_self_iff (value : BitVec 16) : swap16 value = value ↔ byteOf value 0 = byteOf value 1 := by
  constructor
  · intro same
    have low := congrArg (byteOf · 0) same
    rw [swap16, byteOf_zero_append] at low
    exact low.symm
  · intro same
    rw [swap16, same]
    nth_rewrite 2 [← same]
    exact byteOf_append value

/-- A 16-bit number in network order, loaded by the host and swapped. -/
theorem swap16_halfAt_put16 (value : BitVec 16) (rest : List Byte) :
    swap16 (halfAt (put16 value ++ rest) 0) = value := by
  have loaded : halfAt (put16 value ++ rest) 0 = byteOf value 0 ++ byteOf value 1 := rfl
  rw [loaded, swap16_append, byteOf_append]

/-- A 32-bit number in network order, loaded by the host and swapped. -/
theorem swap32_wordAt_put32 (value : BitVec 32) (rest : List Byte) :
    swap32 (wordAt (put32 value ++ rest) 0) = value := by
  have loaded : wordAt (put32 value ++ rest) 0 =
      (byteOf value 0 ++ byteOf value 1 : BitVec 16) ++ (byteOf value 2 ++ byteOf value 3 : BitVec 16) := rfl
  rw [loaded, swap32_append, byteOf_append_append]

end Wire
