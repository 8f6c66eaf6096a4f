/-
Module: MonsaEbpf.Lib.ByteReads
Layer: Lib
Purpose: Programs that read a byte string, as trees of their reads. Where the next read goes may depend on
  what was read before. One tree has two readings: the value it computes, or the fault of its first read
  outside the bytes (`run`), and the offsets at which it reads (`offsets`). It has no fault exactly when all
  the offsets lie inside (`run_ok_iff`).
Imports: MonsaEbpf.Lib.Wire
Trusted boundary: none
Main exports: Wire.ByteReader, Wire.ByteReader.run, Wire.ByteReader.offsets, Wire.ByteReader.run_bind,
  Wire.ByteReader.run_ok_iff, Wire.ByteReader.offsets_inside
-/
import MonsaEbpf.Lib.Wire

namespace Wire

/-- A program that reads bytes one at a time and returns a value. -/
inductive ByteReader (α : Type) where
  | done (value : α)
  | read (offset : Nat) (next : Byte → ByteReader α)

namespace ByteReader

variable {α β : Type}

/-- Sequencing grafts the continuation onto the leaves. -/
def bind : ByteReader α → (α → ByteReader β) → ByteReader β
  | .done value, rest => rest value
  | .read offset next, rest => .read offset fun byte => (next byte).bind rest

instance : Monad ByteReader where
  pure := .done
  bind := bind

/-- The value that the program returns; its first read outside the bytes is a fault. -/
def run (bytes : List Byte) : ByteReader α → Access α
  | .done value => .ok value
  | .read offset next => loadByte bytes offset >>= fun byte => (next byte).run bytes

/-- The offsets at which the program reads, in order, up to its first read outside the bytes. -/
def offsets (bytes : List Byte) : ByteReader α → List Nat
  | .done _ => []
  | .read offset next =>
      offset :: match bytes[offset]? with
        | none => []
        | some byte => (next byte).offsets bytes

/-- Read one byte. -/
def byte (offset : Nat) : ByteReader Byte :=
  .read offset .done

/-- Read two bytes, the least significant one first. -/
def half (offset : Nat) : ByteReader (BitVec 16) := do
  let low ← byte offset
  let high ← byte (offset + 1)
  return high ++ low

/-- Read four bytes, the least significant one first. -/
def word (offset : Nat) : ByteReader (BitVec 32) := do
  let low ← half offset
  let high ← half (offset + 2)
  return high ++ low

variable (bytes : List Byte)

@[simp] theorem run_pure (value : α) : (pure value : ByteReader α).run bytes = .ok value := rfl

/-- Sequential composition runs the two parts one after the other. -/
@[simp] theorem run_bind (reader : ByteReader α) (rest : α → ByteReader β) :
    (reader >>= rest).run bytes = reader.run bytes >>= fun value => (rest value).run bytes := by
  induction reader with
  | done value => rfl
  | read offset next ih =>
      change (loadByte bytes offset >>= fun byte => (next byte >>= rest).run bytes) =
        (loadByte bytes offset >>= fun byte => (next byte).run bytes) >>= _
      cases loadByte bytes offset with
      | error fault => rfl
      | ok byte => exact ih byte

@[simp] theorem run_ite (condition : Prop) [Decidable condition] (yes no : ByteReader α) :
    (if condition then yes else no).run bytes =
      if condition then yes.run bytes else no.run bytes :=
  apply_ite (run bytes) condition yes no

@[simp] theorem run_byte (offset : Nat) : (byte offset).run bytes = loadByte bytes offset := by
  change (loadByte bytes offset >>= fun byte => .ok byte) = _
  cases loadByte bytes offset <;> rfl

@[simp] theorem run_half (offset : Nat) : (half offset).run bytes = load16 bytes offset := by
  simp only [half, load16, run_bind, run_byte]
  rfl

@[simp] theorem run_word (offset : Nat) : (word offset).run bytes = load32 bytes offset := by
  simp only [word, load32, run_bind, run_half]
  rfl

/-- **A program has no fault exactly when all its reads are inside the bytes.** -/
theorem run_ok_iff (reader : ByteReader α) :
    (∃ value, reader.run bytes = .ok value) ↔ ∀ offset ∈ reader.offsets bytes, offset < bytes.length := by
  induction reader with
  | done value => simp [run, offsets]
  | read offset next ih =>
      by_cases inside : offset < bytes.length
      · rw [run, offsets, loadByte, List.getElem?_eq_getElem inside]
        change (∃ value, (next bytes[offset]).run bytes = .ok value) ↔ _
        rw [ih, List.forall_mem_cons, and_iff_right inside]
      · rw [run, offsets, loadByte, List.getElem?_eq_none (Nat.le_of_not_lt inside)]
        refine iff_of_false ?_ fun all => inside (all offset List.mem_cons_self)
        rintro ⟨value, returned⟩
        cases returned

variable {bytes}

/-- A program that returns a value has read inside the bytes only. -/
theorem offsets_inside {reader : ByteReader α} {value : α} (returned : reader.run bytes = .ok value) :
    ∀ offset ∈ reader.offsets bytes, offset < bytes.length :=
  (run_ok_iff bytes reader).mp ⟨value, returned⟩

end ByteReader

end Wire
