/-
Module: MonsaEbpf.User.Timestamps
Layer: User
Purpose: The timestamps that the user programs of the kprobe and kretprobe examples of S2-advanced print. Their
  `format_timestamp` has one body, seconds and nanoseconds with a point between them, written into a buffer of
  32 characters. The text is never longer than 21 characters, its fraction has nine digits, and the number of
  nanoseconds is read back from it, so different timestamps are printed differently.
Imports: MonsaEbpf.Bpf.Helpers, MonsaEbpf.Lib.Snprintf
Trusted boundary: human-reviewed translation
Main exports: formatTimestamp, TimestampUser, TimestampUser.timestampLine, timestampText,
  readFixedPoint_timestampText, timestamps_print_lossless
-/
import MonsaEbpf.Bpf.Helpers
import MonsaEbpf.Lib.Snprintf

namespace MonsaEbpf.User

open DottedQuad Snprintf

/-! ### The user programs -/

/-- `format_timestamp` of both programs, with the format `"%llu.%09llu"`: the buffer after the call. -/
def formatTimestamp (tsNs : U64) (buf : List Char) (len : Nat) : List Char :=
  let sec := tsNs / 1000000000
  let nsec := tsNs % 1000000000
  (snprintf buf len (fixedPoint 9 sec.toNat nsec.toNat)).1

/-- `sizeof(ts)` in `handle_event`. -/
def sizeofTs : Nat := 32

/-- The string in `ts`, a buffer on the stack with whatever stood there, when it is printed. -/
def shownTimestamp (ts : Vector Char sizeofTs) (tsNs : U64) : List Char :=
  cString (formatTimestamp tsNs ts.toList sizeofTs)

/-- The programs that print timestamps. -/
inductive TimestampUser where
  | kprobe
  | kretprobe
deriving DecidableEq, Repr

namespace TimestampUser

/-- What stands before the timestamp. -/
def label : TimestampUser → String
  | .kprobe => "  Timestamp:  "
  | .kretprobe => "  Timestamp:   "

/-- The line of the timestamp in `handle_event`. -/
def timestampLine (user : TimestampUser) (ts : Vector Char sizeofTs) (tsNs : U64) : List Char :=
  user.label.toList ++ (shownTimestamp ts tsNs ++ "\n".toList)

end TimestampUser

/-! ### The text -/

/-- A number of nanoseconds in seconds, with nine places behind the point. -/
def timestampText (nanoseconds : Nat) : List Char :=
  fixedPoint 9 (nanoseconds / 10 ^ 9) (nanoseconds % 10 ^ 9)

/-- The remainder has room in nine digits. -/
theorem remainder_lt (nanoseconds : Nat) : nanoseconds % 10 ^ 9 < 10 ^ 9 :=
  Nat.mod_lt _ (by omega)

/-- The last timestamp of 64 bits, 18446744073709551615, has eleven digits for its seconds. -/
theorem seconds_lt (tsNs : U64) : tsNs.toNat / 10 ^ 9 < 10 ^ 11 := by
  rw [Nat.div_lt_iff_lt_mul (by omega)]
  calc tsNs.toNat < 2 ^ 64 := tsNs.isLt
    _ < 10 ^ 11 * 10 ^ 9 := by omega

/-- Eleven digits, the point and nine digits at most, which leaves room in the buffer. -/
theorem length_timestampText_lt (tsNs : U64) : (timestampText tsNs.toNat).length < sizeofTs := by
  have length : (timestampText tsNs.toNat).length ≤ 11 + 1 + 9 :=
    length_fixedPoint_le (by omega) (by omega) (seconds_lt tsNs) (remainder_lt tsNs.toNat)
  calc (timestampText tsNs.toNat).length ≤ 11 + 1 + 9 := length
    _ < sizeofTs := by decide

/-- **The number of nanoseconds is read back.** -/
theorem readFixedPoint_timestampText (nanoseconds : Nat) :
    readFixedPoint 9 (timestampText nanoseconds) = some nanoseconds := by
  rw [timestampText, readFixedPoint_fixedPoint, Nat.div_add_mod']

theorem timestampText_injective : Function.Injective timestampText := by
  intro first second same
  have read := congrArg (readFixedPoint 9) same
  rw [readFixedPoint_timestampText, readFixedPoint_timestampText] at read
  exact Option.some.inj read

/-- Digits before the point, and nine digits behind it. -/
theorem timestampText_digits (nanoseconds : Nat) : ∃ before behind : List Char,
    timestampText nanoseconds = before ++ '.' :: behind ∧
      (∀ char ∈ before, char.isDigit = true) ∧ (∀ char ∈ behind, char.isDigit = true) ∧
      behind.length = 9 := by
  exists decimal (nanoseconds / 10 ^ 9), padded 9 (nanoseconds % 10 ^ 9)
  have width := length_padded (by omega) (remainder_lt nanoseconds)
  exact ⟨rfl, fun char => isDigit_of_mem_decimal, fun char => isDigit_of_mem_padded, width⟩

theorem nul_notMem_timestampText (nanoseconds : Nat) : nul ∉ timestampText nanoseconds := by
  obtain ⟨before, behind, text, digits, places, _⟩ := timestampText_digits nanoseconds
  rw [text, List.mem_append, List.mem_cons]
  rintro (member | point | member)
  · exact absurd (digits nul member) (by decide)
  · exact absurd point (by decide)
  · exact absurd (places nul member) (by decide)

/-! ### The buffer -/

theorem formatTimestamp_eq (tsNs : U64) (buf : List Char) (len : Nat) :
    formatTimestamp tsNs buf len = (snprintf buf len (timestampText tsNs.toNat)).1 := by
  rw [formatTimestamp, BitVec.toNat_udiv, BitVec.toNat_umod]
  rfl

/-- Whatever stood in the buffer, the text is all there. -/
theorem shownTimestamp_eq (ts : Vector Char sizeofTs) (tsNs : U64) :
    shownTimestamp ts tsNs = timestampText tsNs.toNat := by
  rw [shownTimestamp, formatTimestamp_eq]
  apply (cString_snprintf_eq_iff (nul_notMem_timestampText _) (by decide) ts.toList).mpr
  exact length_timestampText_lt tsNs

/-- **Timestamps are printed without loss.** Whatever stood in the buffer, no timestamp is truncated; its text
has nine digits behind the point, the number of nanoseconds is read back from it, and the lines of two
timestamps are the same only if the timestamps are. -/
theorem timestamps_print_lossless (user : TimestampUser) (ts ts' : Vector Char sizeofTs)
    (tsNs tsNs' : U64) :
    ((timestampText tsNs.toNat).length < sizeofTs ∧ shownTimestamp ts tsNs = timestampText tsNs.toNat) ∧
      (∃ before behind : List Char, shownTimestamp ts tsNs = before ++ '.' :: behind ∧
        (∀ char ∈ before, char.isDigit = true) ∧ (∀ char ∈ behind, char.isDigit = true) ∧
        behind.length = 9) ∧
      readFixedPoint 9 (shownTimestamp ts tsNs) = some tsNs.toNat ∧
      (shownTimestamp ts tsNs = shownTimestamp ts' tsNs' ↔ tsNs = tsNs') ∧
      (user.timestampLine ts tsNs = user.timestampLine ts' tsNs' ↔ tsNs = tsNs') := by
  rw [TimestampUser.timestampLine, TimestampUser.timestampLine, List.append_cancel_left_eq,
    List.append_cancel_right_eq, shownTimestamp_eq, shownTimestamp_eq]
  have injective : timestampText tsNs.toNat = timestampText tsNs'.toNat ↔ tsNs = tsNs' := by
    rw [timestampText_injective.eq_iff, BitVec.toNat_inj]
  exact ⟨⟨length_timestampText_lt tsNs, rfl⟩, timestampText_digits tsNs.toNat,
    readFixedPoint_timestampText tsNs.toNat, injective, injective⟩

end MonsaEbpf.User
