/-
Module: MonsaEbpf.Lib.LogLines
Layer: Lib
Purpose: Logs whose lines have a number, a free text and another number. The text may hold anything, line ends
  included, so the text of one line can begin with the text of another. When the free texts are short, the
  log as a whole still determines its lines: where a shorter text could end instead, a line would have to
  begin that does not look like one.
Imports: MonsaEbpf.Lib.DottedQuad
Trusted boundary: none
Main exports: LogLines.numeral_append_inj, LogLines.Entry, LogLines.LineShape, LogLines.LineShape.line,
  LogLines.LineShape.log, LogLines.LineShape.log_injective
-/
import MonsaEbpf.Lib.DottedQuad

namespace LogLines

/-! ### Numerals -/

/-- The digits of the bases up to sixteen are letters and digits. -/
theorem isAlphanum_digitChar {digit : Nat} (small : digit < 16) : digit.digitChar.isAlphanum = true := by
  have all : ∀ digit : Fin 16, digit.val.digitChar.isAlphanum = true := by decide
  exact all ⟨digit, small⟩

theorem digitChar_inj {first second : Nat} (small : first < 16) (small' : second < 16)
    (same : first.digitChar = second.digitChar) : first = second := by
  have all : ∀ first second : Fin 16, first.val.digitChar = second.val.digitChar → first = second := by
    decide
  exact congrArg Fin.val (all ⟨first, small⟩ ⟨second, small'⟩ same)

section Numerals

variable {base : Nat} (large : 1 < base) (small : base ≤ 16)

include large small

theorem isAlphanum_of_mem_toDigits {number : Nat} {char : Char} (member : char ∈ Nat.toDigits base number) :
    char.isAlphanum = true := by
  induction number using Nat.strongRecOn with
  | ind number ih =>
      rw [Nat.toDigits_eq_if large] at member
      split at member
      · rename_i single
        rw [List.mem_singleton.mp member]
        exact isAlphanum_digitChar (by omega)
      · rename_i several
        rcases List.mem_append.mp member with front | last
        · exact ih (number / base) (Nat.div_lt_self (by omega) large) front
        · rw [List.mem_singleton.mp last]
          exact isAlphanum_digitChar (by have := Nat.mod_lt number (show 0 < base by omega); omega)

/-- **A numeral determines its number.** -/
theorem toDigits_injective : Function.Injective (Nat.toDigits base) := by
  intro first
  induction first using Nat.strongRecOn with
  | ind first ih =>
      intro second same
      have inBase (number : Nat) : number % base < 16 := by
        have := Nat.mod_lt number (show 0 < base by omega)
        omega
      rw [Nat.toDigits_eq_if large, Nat.toDigits_eq_if large (n := second)] at same
      split at same <;> split at same
      · exact digitChar_inj (by omega) (by omega) (List.cons.inj same).1
      · have length := congrArg List.length same
        simp only [List.length_append, List.length_singleton] at length
        have positive := Nat.length_toDigits_pos (b := base) (n := second / base)
        omega
      · have length := congrArg List.length same
        simp only [List.length_append, List.length_singleton] at length
        have positive := Nat.length_toDigits_pos (b := base) (n := first / base)
        omega
      · obtain ⟨front, last⟩ := List.append_inj' same rfl
        have quotient := ih (first / base) (Nat.div_lt_self (by omega) large) front
        have remainder := digitChar_inj (inBase first) (inBase second) (List.cons.inj last).1
        rw [← Nat.div_add_mod first base, quotient, remainder, Nat.div_add_mod]

/-- A numeral before a separator is determined by the text, and so is the rest. -/
theorem numeral_append_inj {separator : Char} (other : separator.isAlphanum = false) {first second : Nat}
    {rest rest' : List Char}
    (same : Nat.toDigits base first ++ separator :: rest =
      Nat.toDigits base second ++ separator :: rest') :
    first = second ∧ rest = rest' := by
  have stops (number : Nat) (rest : List Char) :
      (Nat.toDigits base number ++ separator :: rest).takeWhile Char.isAlphanum =
        Nat.toDigits base number := by
    rw [List.takeWhile_append_of_pos fun char => isAlphanum_of_mem_toDigits large small,
      List.takeWhile_cons_of_neg (by rw [other]; decide), List.append_nil]
  have digits := congrArg (List.takeWhile Char.isAlphanum) same
  rw [stops, stops] at digits
  obtain rfl := toDigits_injective large small digits
  exact ⟨rfl, (List.cons.inj (List.append_cancel_left same)).2⟩

end Numerals

/-! ### Lines -/

/-- What one line is about: a number, a free text, and another number. -/
structure Entry where
  id : Nat
  free : List Char
  number : Nat
deriving DecidableEq, Repr

/-- The fixed parts of a line, each of which begins behind a blank but the first: a word and a mark before the
first number, a label before the text, and a sign before the second number. The texts that are meant have at
most `limit` characters. -/
structure LineShape (limit : Nat) where
  word : List Char
  mark : Char
  before : List Char
  label : List Char
  sign : Char
  closing : List Char
  base : Nat
  large : 1 < base
  small : base ≤ 16
  word_solid : ' ' ∉ word
  closing_solid : ' ' ∉ sign :: closing
  differ : mark ≠ sign
  short : limit ≤ word.length + closing.length + 4

namespace LineShape

variable {limit : Nat} (shape : LineShape limit)

/-- What stands behind the free text. -/
def ending (number : Nat) : List Char :=
  ' ' :: shape.sign :: (shape.closing ++ (Nat.toDigits shape.base number ++ ['\n']))

/-- The line of an entry. -/
def line (entry : Entry) : List Char :=
  shape.word ++ ' ' :: shape.mark :: (shape.before ++ (Nat.toDigits 10 entry.id ++ ' ' ::
    (shape.label ++ (entry.free ++ shape.ending entry.number))))

/-- The lines one after another. -/
def log (entries : List Entry) : List Char :=
  entries.flatMap shape.line

/-- No free text is longer than meant. -/
def Short (limit : Nat) (entries : List Entry) : Prop :=
  ∀ entry ∈ entries, entry.free.length ≤ limit

variable {shape}

/-- A log is empty, or it begins with the word and the mark. -/
theorem log_begins (entries : List Entry) :
    shape.log entries = [] ∨ ∃ rest, shape.log entries = shape.word ++ ' ' :: shape.mark :: rest := by
  cases entries with
  | nil => exact Or.inl rfl
  | cons entry rest =>
      right
      rw [log, List.flatMap_cons, line]
      simp only [List.append_assoc, List.cons_append]
      exact ⟨_, rfl⟩

/-- A separator behind a text without separators is at its end or later. -/
theorem append_eq_separated {α : Type} {solid rest front behind : List α} {separator : α}
    (free : separator ∉ solid) (same : solid ++ rest = front ++ separator :: behind)
    (short : front.length ≤ solid.length) : rest = separator :: behind := by
  rcases List.append_eq_append_iff.mp same with ⟨between, longer, rest⟩ | ⟨between, shorter, later⟩
  · have empty : between = [] := by
      rw [longer, List.length_append] at short
      exact List.eq_nil_of_length_eq_zero (by omega)
    rw [rest, empty]
    rfl
  · cases between with
    | nil => exact later.symm
    | cons first between =>
        obtain ⟨rfl, _⟩ := List.cons.inj later
        exact absurd (shorter ▸ List.mem_append_right front List.mem_cons_self) free

/-- What stands between the blank of an ending and the next line has no blank. -/
theorem solid_ending (number : Nat) :
    ' ' ∉ shape.sign :: (shape.closing ++ (Nat.toDigits shape.base number ++ ['\n'])) := by
  intro blank
  rcases List.mem_append.mp (List.cons_append ▸ blank : ' ' ∈ (shape.sign :: shape.closing) ++ _) with
    fixed | numeral
  · exact shape.closing_solid fixed
  · rcases List.mem_append.mp numeral with digit | lineEnd
    · exact absurd (isAlphanum_of_mem_toDigits shape.large shape.small digit) (by decide)
    · exact absurd (List.mem_singleton.mp lineEnd) (by decide)

/-- **No ending is found later in a text than where it is**, as long as the distance is one of a short text. -/
theorem gap_empty {gap : List Char} (near : gap.length ≤ limit) {number number' : Nat}
    {entries entries' : List Entry}
    (same : shape.ending number ++ shape.log entries = gap ++ (shape.ending number' ++ shape.log entries')) :
    gap = [] := by
  cases gap with
  | nil => rfl
  | cons first gap =>
      obtain ⟨_, same⟩ := List.cons.inj same
      change (shape.sign :: (shape.closing ++ (Nat.toDigits shape.base number ++ ['\n']))) ++
        shape.log entries = gap ++ ' ' :: shape.sign :: _ at same
      have solid := shape.solid_ending number
      have positive := Nat.length_toDigits_pos (b := shape.base) (n := number)
      rcases shape.log_begins entries with isEmpty | ⟨rest, begins⟩
      · have length := congrArg List.length same
        rw [isEmpty] at same length
        have nothing := append_eq_separated solid same (by
          rw [List.length_append, List.length_append, List.length_cons] at length
          simp only [List.length_nil, List.length_cons] at length ⊢
          omega)
        cases nothing
      · rw [begins, ← List.append_assoc] at same
        have longer : ' ' ∉ (shape.sign :: (shape.closing ++
            (Nat.toDigits shape.base number ++ ['\n']))) ++ shape.word := by
          rw [List.mem_append, not_or]
          exact ⟨solid, shape.word_solid⟩
        have reached := append_eq_separated longer same (by
          have short := shape.short
          simp only [List.length_cons, List.length_append, List.length_nil] at near ⊢
          omega)
        -- the text goes on like an ending, but what stands there is the beginning of a line
        exact absurd (List.cons.inj (List.cons.inj reached).2).1 shape.differ

/-- The first line of a log and what follows it are determined. -/
theorem line_append_inj {entry entry' : Entry} {entries entries' : List Entry}
    (short : entry.free.length ≤ limit) (short' : entry'.free.length ≤ limit)
    (same : shape.line entry ++ shape.log entries = shape.line entry' ++ shape.log entries') :
    entry = entry' ∧ shape.log entries = shape.log entries' := by
  simp only [line, List.append_assoc, List.cons_append, List.append_cancel_left_eq, List.cons.injEq,
    true_and] at same
  obtain ⟨sameId, same⟩ := numeral_append_inj (by decide) (by decide) (by decide) same
  rw [List.append_cancel_left_eq] at same
  have sameFree : entry.free = entry'.free := by
    rcases List.append_eq_append_iff.mp same with ⟨gap, longer, later⟩ | ⟨gap, longer, later⟩
    · rw [longer, List.length_append] at short'
      rw [longer, gap_empty (by omega) later, List.append_nil]
    · rw [longer, List.length_append] at short
      rw [longer, gap_empty (by omega) later, List.append_nil]
  rw [sameFree, List.append_cancel_left_eq] at same
  simp only [ending, List.cons_append, List.append_assoc, List.cons.injEq, List.append_cancel_left_eq,
    true_and] at same
  obtain ⟨sameNumber, same⟩ := numeral_append_inj shape.large shape.small (by decide) same
  refine ⟨?_, same⟩
  cases entry
  cases entry'
  congr

/-- **A log determines its lines.** -/
theorem log_injective {entries entries' : List Entry} (short : Short limit entries)
    (short' : Short limit entries') (same : shape.log entries = shape.log entries') :
    entries = entries' := by
  induction entries generalizing entries' with
  | nil =>
      cases entries' with
      | nil => rfl
      | cons entry rest =>
          have line : shape.line entry ++ shape.log rest = [] := same.symm
          simp [LineShape.line] at line
  | cons entry rest ih =>
      cases entries' with
      | nil =>
          have line : shape.line entry ++ shape.log rest = [] := same
          simp [LineShape.line] at line
      | cons entry' rest' =>
          obtain ⟨rfl, later⟩ := line_append_inj (short entry List.mem_cons_self)
            (short' entry' List.mem_cons_self) same
          rw [ih (fun other member => short other (List.mem_cons_of_mem _ member))
            (fun other member => short' other (List.mem_cons_of_mem _ member)) later]

end LineShape

end LogLines
