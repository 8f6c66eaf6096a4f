/-
Module: MonsaEbpf.Lib.Printf
Layer: Lib
Purpose: The lines of `printf` calls whose arguments may be calls of `inet_ntoa`. Such a call writes its
  result into one static buffer and returns a pointer to it; the buffer is read when the line is formatted,
  after all arguments have been evaluated, in an order that the language leaves open. Every address of a
  line then shows what the call evaluated last wrote, so a line is what it seems to be in the program text
  when its addresses are all the same, in particular when it has at most one.
Imports: MonsaEbpf.Lib.DottedQuad
Trusted boundary: human-reviewed model of printf and inet_ntoa
Main exports: Printf.Piece, Printf.ArgumentOrder, Printf.printf, Printf.printfs, Printf.bufferAfter_mem,
  Printf.printf_eq_meant, Printf.printf_eq_meant_iff, Printf.printfs_eq_meant
-/
import MonsaEbpf.Lib.DottedQuad

namespace Printf

open DottedQuad

/-- A stretch of a line: text of the format or of a constant argument, an unsigned number in decimal or
hexadecimal, or the result of `inet_ntoa` for an address in network order. -/
inductive Piece where
  | text (literal : String)
  | number (value : Nat)
  | hexadecimal (value : Nat)
  | inetNtoa (address : BitVec 32)
deriving DecidableEq, Repr

namespace Piece

/-- The static buffer when the argument has been evaluated. -/
def evaluate (buffer : List Char) : Piece → List Char
  | .inetNtoa address => addressText address
  | .text _ | .number _ | .hexadecimal _ => buffer

/-- What the stretch shows when the line is formatted. -/
def shown (buffer : List Char) : Piece → List Char
  | .text literal => literal.toList
  | .number value => decimal value
  | .hexadecimal value => Nat.toDigits 16 value
  | .inetNtoa _ => buffer

/-- What the stretch stands for in the program text. -/
def meant : Piece → List Char
  | .text literal => literal.toList
  | .number value => decimal value
  | .hexadecimal value => Nat.toDigits 16 value
  | .inetNtoa address => addressText address

/-- The address of a call of `inet_ntoa`. -/
def address? : Piece → Option (BitVec 32)
  | .inetNtoa address => some address
  | .text _ | .number _ | .hexadecimal _ => none

end Piece

/-- An order in which the arguments of a call are evaluated. -/
structure ArgumentOrder where
  arrange : List Piece → List Piece
  perm : ∀ pieces, (arrange pieces).Perm pieces

namespace ArgumentOrder

def leftToRight : ArgumentOrder where
  arrange := id
  perm := List.Perm.refl

def rightToLeft : ArgumentOrder where
  arrange := List.reverse
  perm := List.reverse_perm

end ArgumentOrder

/-- The addresses of a line. -/
def addresses (pieces : List Piece) : List (BitVec 32) :=
  pieces.filterMap Piece.address?

@[simp] theorem addresses_nil : addresses [] = [] := rfl

@[simp] theorem addresses_text (literal : String) (pieces : List Piece) :
    addresses (.text literal :: pieces) = addresses pieces := rfl

@[simp] theorem addresses_number (value : Nat) (pieces : List Piece) :
    addresses (.number value :: pieces) = addresses pieces := rfl

@[simp] theorem addresses_hexadecimal (value : Nat) (pieces : List Piece) :
    addresses (.hexadecimal value :: pieces) = addresses pieces := rfl

@[simp] theorem addresses_inetNtoa (address : BitVec 32) (pieces : List Piece) :
    addresses (.inetNtoa address :: pieces) = address :: addresses pieces := rfl

section Calls

variable (order : ArgumentOrder) (buffer : List Char)

/-- The static buffer when all arguments of a call have been evaluated. -/
def bufferAfter (pieces : List Piece) : List Char :=
  (order.arrange pieces).foldl Piece.evaluate buffer

/-- One call: the line, and the static buffer after it. -/
def printf (pieces : List Piece) : List Char × List Char :=
  (pieces.flatMap (Piece.shown (bufferAfter order buffer pieces)), bufferAfter order buffer pieces)

/-- Calls one after the other. -/
def printfs (buffer : List Char) : List (List Piece) → List Char × List Char
  | [] => ([], buffer)
  | pieces :: calls =>
      let line := printf order buffer pieces
      let rest := printfs line.2 calls
      (line.1 ++ rest.1, rest.2)

end Calls

/-! ### The buffer holds one of the addresses -/

theorem foldl_evaluate_of_none {pieces : List Piece} (none : addresses pieces = []) (buffer : List Char) :
    pieces.foldl Piece.evaluate buffer = buffer := by
  induction pieces with
  | nil => rfl
  | cons piece pieces ih =>
      cases piece with
      | inetNtoa address => cases none
      | text literal => exact ih none
      | number value => exact ih none
      | hexadecimal value => exact ih none

theorem foldl_evaluate_mem {pieces : List Piece} (some : addresses pieces ≠ []) (buffer : List Char) :
    ∃ address ∈ addresses pieces, pieces.foldl Piece.evaluate buffer = addressText address := by
  induction pieces generalizing buffer with
  | nil => exact absurd rfl some
  | cons piece pieces ih =>
      cases piece with
      | text literal => exact ih some buffer
      | number value => exact ih some buffer
      | hexadecimal value => exact ih some buffer
      | inetNtoa address =>
          by_cases last : addresses pieces = []
          · exact ⟨address, List.mem_cons_self, foldl_evaluate_of_none last _⟩
          · obtain ⟨later, member, written⟩ := ih last (addressText address)
            exact ⟨later, List.mem_cons_of_mem _ member, written⟩

section Order

variable (order : ArgumentOrder) (buffer : List Char)

theorem addresses_arrange_perm (pieces : List Piece) :
    (addresses (order.arrange pieces)).Perm (addresses pieces) :=
  (order.perm pieces).filterMap _

/-- **Whatever the order, the buffer ends with one of the addresses of the line.** -/
theorem bufferAfter_mem {pieces : List Piece} (some : addresses pieces ≠ []) :
    ∃ address ∈ addresses pieces, bufferAfter order buffer pieces = addressText address := by
  have same := addresses_arrange_perm order pieces
  have arranged : addresses (order.arrange pieces) ≠ [] := fun none => some (none ▸ same).nil_eq.symm
  obtain ⟨address, member, written⟩ := foldl_evaluate_mem arranged buffer
  exact ⟨address, same.subset member, written⟩

/-- **A line whose addresses are all the same is as the program text has it.** -/
theorem printf_eq_meant {pieces : List Piece}
    (same : ∀ first ∈ addresses pieces, ∀ second ∈ addresses pieces, first = second) :
    (printf order buffer pieces).1 = pieces.flatMap Piece.meant := by
  apply List.flatMap_congr
  intro piece member
  cases piece with
  | text literal => rfl
  | number value => rfl
  | hexadecimal value => rfl
  | inetNtoa shown =>
      have among : shown ∈ addresses pieces := List.mem_filterMap.mpr ⟨.inetNtoa shown, member, rfl⟩
      obtain ⟨last, lastMember, written⟩ := bufferAfter_mem order buffer (List.ne_nil_of_mem among)
      rw [Piece.shown, Piece.meant, written, same last lastMember shown among]

theorem flatMap_shown_of_none {pieces : List Piece} (none : addresses pieces = []) (buffer : List Char) :
    pieces.flatMap (Piece.shown buffer) = pieces.flatMap Piece.meant := by
  induction pieces with
  | nil => rfl
  | cons piece pieces ih =>
      cases piece with
      | inetNtoa address => cases none
      | text literal => exact congrArg _ (ih none)
      | number value => exact congrArg _ (ih none)
      | hexadecimal value => exact congrArg _ (ih none)

/-- The first address of a line, with what stands before and after it. -/
theorem addresses_eq_cons {pieces : List Piece} {address : BitVec 32} {rest : List (BitVec 32)}
    (found : addresses pieces = address :: rest) :
    ∃ front back, pieces = front ++ .inetNtoa address :: back ∧ addresses front = [] ∧
      addresses back = rest := by
  obtain ⟨front, piece, back, rfl, none, here, after⟩ := List.filterMap_eq_cons_iff.mp found
  refine ⟨front, back, ?_, List.filterMap_eq_nil_iff.mpr none, after⟩
  cases piece with
  | inetNtoa other => rw [Option.some.inj here]
  | text literal => cases here
  | number value => cases here
  | hexadecimal value => cases here

/-- **A line with two addresses is as the program text has it exactly when they are the same.** -/
theorem printf_eq_meant_iff {pieces : List Piece} {first second : BitVec 32}
    (both : addresses pieces = [first, second]) :
    (printf order buffer pieces).1 = pieces.flatMap Piece.meant ↔ first = second := by
  constructor
  · intro line
    obtain ⟨last, member, written⟩ := bufferAfter_mem order buffer (both ▸ List.cons_ne_nil _ _)
    rw [printf, written] at line
    rw [both] at member
    obtain ⟨front, behind, rfl, frontNone, behindOne⟩ := addresses_eq_cons both
    obtain ⟨middle, back, rfl, middleNone, backNone⟩ := addresses_eq_cons behindOne
    simp only [List.flatMap_append, List.flatMap_cons, Piece.shown, Piece.meant,
      flatMap_shown_of_none frontNone, flatMap_shown_of_none middleNone,
      flatMap_shown_of_none backNone] at line
    have fromFirst := List.append_cancel_left line
    rcases List.mem_pair.mp member with rfl | rfl
    · have fromSecond := List.append_cancel_left (List.append_cancel_left fromFirst)
      exact addressText_injective (List.append_cancel_right fromSecond)
    · exact (addressText_injective (List.append_cancel_right fromFirst)).symm
  · rintro rfl
    apply printf_eq_meant
    rw [both]
    simp

/-- **Calls with at most one address each print what the program text has.** -/
theorem printfs_eq_meant {calls : List (List Piece)}
    (single : ∀ pieces ∈ calls, (addresses pieces).length ≤ 1) :
    (printfs order buffer calls).1 = calls.flatten.flatMap Piece.meant := by
  induction calls generalizing buffer with
  | nil => rfl
  | cons pieces calls ih =>
      have rest := ih (printf order buffer pieces).2 fun other member =>
        single other (List.mem_cons_of_mem _ member)
      have first : (printf order buffer pieces).1 = pieces.flatMap Piece.meant := by
        have few := single pieces List.mem_cons_self
        rcases found : addresses pieces with _ | ⟨address, _ | ⟨other, more⟩⟩
        · exact printf_eq_meant order buffer (by simp [found])
        · exact printf_eq_meant order buffer (by simp [found])
        · rw [found] at few
          exact absurd few (by simp)
      rw [List.flatten_cons, List.flatMap_append, ← first, ← rest]
      rfl

end Order

end Printf
