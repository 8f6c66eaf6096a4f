/-
Module: MonsaEbpf.S2.ForgedReports
Layer: S2
Purpose: Why the log of the lsm monitor is only read back for paths without line ends. A path has room for the
  end of one report and the beginning of another, so `handle_event` prints for one record what it prints for
  any two with short paths. This is about `handle_event` alone, which prints whatever path a record holds: the
  hook of this repository stores "unknown" in every record.
Imports: MonsaEbpf.S2.EventReports
Trusted boundary: none
Main exports: Bytewise, bytesOf, arrayOf, forgedPath, forged, lsm_reports_forged
-/
import MonsaEbpf.S2.EventReports

namespace MonsaEbpf.S2

open DottedQuad Printf ReportRows Snprintf

/-! ### Texts in arrays -/

/-- A text of bytes without a terminator. -/
def Bytewise (text : List Char) : Prop :=
  ∀ char ∈ text, 0 < char.toNat ∧ char.toNat < 256

instance (text : List Char) : Decidable (Bytewise text) :=
  List.decidableBAll (fun char : Char => 0 < char.toNat ∧ char.toNat < 256) text

/-- The bytes of a text. -/
def bytesOf (text : List Char) : List U8 :=
  text.map fun char => BitVec.ofNat 8 char.toNat

/-- An array with these bytes first and zeros behind them. -/
def arrayOf (length : Nat) (bytes : List U8) : Vector U8 length :=
  Vector.ofFn fun i => bytes.getD i 0

namespace Bytewise

theorem append {text text' : List Char} (first : Bytewise text) (second : Bytewise text') :
    Bytewise (text ++ text') :=
  List.forall_mem_append.mpr ⟨first, second⟩

theorem decimal (number : Nat) : Bytewise (decimal number) := by
  intro char member
  have digit := isDigit_of_mem_decimal member
  rw [Char.isDigit, Bool.and_eq_true, decide_eq_true_eq, decide_eq_true_eq] at digit
  have low : '0'.val.toNat ≤ char.val.toNat := digit.1
  have high : char.val.toNat ≤ '9'.val.toNat := digit.2
  change 48 ≤ char.toNat at low
  change char.toNat ≤ 57 at high
  omega

/-- The characters of a name are bytes other than the terminator. -/
theorem name {length : Nat} (array : Vector U8 length) : Bytewise (charsOf (nameOf array)) := by
  intro char member
  obtain ⟨byte, found, rfl⟩ := List.mem_map.mp member
  have nonzero := ne_zero_of_mem_nameOf found
  have positive : byte.toNat ≠ 0 := fun zero => nonzero (BitVec.eq_of_toNat_eq zero)
  rw [toNat_ofNat_byte]
  exact ⟨Nat.pos_of_ne_zero positive, byte.isLt⟩

/-- The report of rows whose labels and texts are bytes. -/
theorem report {E : Type} {rows : List (Row E)} {event : E}
    (bytewise : ∀ row ∈ rows, Bytewise row.label ∧ Bytewise (row.item.text event)) :
    Bytewise (report rows event) := by
  have lineEnd : Bytewise ['\n'] := by decide
  induction rows with
  | nil => exact List.forall_mem_nil _
  | cons row rows ih =>
      obtain ⟨label, text⟩ := bytewise row List.mem_cons_self
      rw [report_cons]
      exact (label.append (text.append lineEnd)).append
        (ih fun row' member => bytewise row' (List.mem_cons_of_mem _ member))

end Bytewise

section Arrays

variable {text : List Char} (bytewise : Bytewise text)

include bytewise

theorem charsOf_bytesOf : charsOf (bytesOf text) = text := by
  rw [charsOf, bytesOf, List.map_map]
  nth_rewrite 2 [← List.map_id text]
  apply List.map_congr_left
  intro char member
  have small := (bytewise char member).2
  change Char.ofNat (char.toNat % 256) = char
  rw [Nat.mod_eq_of_lt small, Char.ofNat_toNat]

theorem zero_notMem_bytesOf : 0 ∉ bytesOf text := by
  intro member
  obtain ⟨char, found, zero⟩ := List.mem_map.mp member
  have number : char.toNat % 256 = 0 := congrArg BitVec.toNat zero
  have inside := bytewise char found
  omega

end Arrays

section Padded

variable {bytes : List U8} {length : Nat} (short : bytes.length < length)

include short

theorem toList_arrayOf :
    (arrayOf length bytes).toList = bytes ++ List.replicate (length - bytes.length) 0 := by
  apply List.ext_getElem
  · simp
    omega
  · intro i inside _
    simp only [arrayOf, Vector.toList_ofFn, List.getElem_ofFn, List.getElem_append, List.getElem_replicate]
    split
    · simp [List.getD, *]
    · simp [List.getD, *]

theorem terminated_arrayOf : Terminated (arrayOf length bytes) := by
  rw [Terminated, toList_arrayOf short]
  apply List.mem_append_right
  exact List.mem_replicate.mpr ⟨by omega, rfl⟩

theorem nameOf_arrayOf (nonzero : 0 ∉ bytes) : nameOf (arrayOf length bytes) = bytes := by
  obtain ⟨rest, more⟩ : ∃ rest, length - bytes.length = rest + 1 :=
    ⟨length - bytes.length - 1, by omega⟩
  have kept (byte : U8) (member : byte ∈ bytes) : decide (byte ≠ 0) = true := by
    apply decide_eq_true
    rintro rfl
    exact nonzero member
  rw [nameOf, toList_arrayOf short, more, List.replicate_succ, List.takeWhile_append_of_pos kept,
    List.takeWhile_cons_of_neg (by decide), List.append_nil]

end Padded

/-! ### The forgery -/

/-- The rows before the path. -/
def lsmHead : List (Row LsmEvent) :=
  [.heading "=== LSM File Open Event ===",
    numberRow "  PID:      " LsmEvent.pid,
    nameRow "  Comm:     " LsmEvent.comm,
    idRow LsmEvent.uid LsmEvent.gid,
    numberRow "  Cgroup:   " LsmEvent.cgroupId]

/-- The rows behind the path. -/
def lsmTail : List (Row LsmEvent) :=
  [choiceRow "  Decision: " "ALLOW" "DENY" fun evt => evt.decision = 0,
    countRow LsmEvent.count,
    .heading ""]

/-- What is printed between the path of a record and the path of the next one. -/
def betweenPaths (evt evt' : LsmEvent) : List Char :=
  '\n' :: (report lsmTail evt ++ (report lsmHead evt' ++ "  Path:     ".toList))

/-- A path that goes on as the log would. -/
def forgedPath (evt evt' : LsmEvent) : List Char :=
  charsOf (nameOf evt.path) ++ (betweenPaths evt evt' ++ charsOf (nameOf evt'.path))

/-- The record with this path, and with the decision and the count of the second record. -/
def forged (evt evt' : LsmEvent) : LsmEvent :=
  { evt with
    path := arrayOf 256 (bytesOf (forgedPath evt evt'))
    decision := evt'.decision
    count := evt'.count }

theorem report_lsm (evt : LsmEvent) : report fileOpenReporter.rows evt =
    report lsmHead evt ++
      ("  Path:     ".toList ++ (charsOf (nameOf evt.path) ++ '\n' :: report lsmTail evt)) := by
  simp [fileOpenReporter, lsmHead, lsmTail]

theorem bytewise_lsmHead (evt : LsmEvent) : Bytewise (report lsmHead evt) := by
  apply Bytewise.report
  have ids : Bytewise (decimal evt.uid.toNat ++ '/' :: ([] ++ decimal evt.gid.toNat)) :=
    (Bytewise.decimal _).append ((show Bytewise ['/'] by decide).append (Bytewise.decimal _))
  intro row member
  simp only [lsmHead, List.mem_cons, List.not_mem_nil, or_false] at member
  rcases member with rfl | rfl | rfl | rfl | rfl
  · exact ⟨by decide, List.forall_mem_nil _⟩
  · exact ⟨by decide, Bytewise.decimal _⟩
  · exact ⟨by decide, Bytewise.name _⟩
  · exact ⟨by decide, ids⟩
  · exact ⟨by decide, Bytewise.decimal _⟩

theorem bytewise_lsmTail (evt : LsmEvent) : Bytewise (report lsmTail evt) := by
  apply Bytewise.report
  have word : Bytewise (if decide (evt.decision = 0) = true then "ALLOW" else "DENY").toList := by
    split <;> decide
  intro row member
  simp only [lsmTail, List.mem_cons, List.not_mem_nil, or_false] at member
  rcases member with rfl | rfl | rfl
  · exact ⟨by decide, word⟩
  · exact ⟨by decide, Bytewise.decimal _⟩
  · exact ⟨by decide, List.forall_mem_nil _⟩

theorem bytewise_forgedPath (evt evt' : LsmEvent) : Bytewise (forgedPath evt evt') := by
  have lineEnd : Bytewise ['\n'] := by decide
  have label : Bytewise "  Path:     ".toList := by decide
  exact (Bytewise.name _).append ((lineEnd.append ((bytewise_lsmTail evt).append
    ((bytewise_lsmHead evt').append label))).append (Bytewise.name _))

/-- Numbers of 32 bits have ten digits at most, numbers of 64 bits twenty. -/
theorem length_decimal_word (number : U32) : (decimal number.toNat).length ≤ 10 :=
  (length_decimal_le_iff (by decide)).mpr (by have := number.isLt; omega)

theorem length_decimal_long (number : U64) : (decimal number.toNat).length ≤ 20 :=
  (length_decimal_le_iff (by decide)).mpr (by have := number.isLt; omega)

theorem length_betweenPaths (evt : LsmEvent) {evt' : LsmEvent} (terminated : Terminated evt'.comm) :
    (betweenPaths evt evt').length ≤ 211 := by
  have pid := length_decimal_word evt'.pid
  have uid := length_decimal_word evt'.uid
  have gid := length_decimal_word evt'.gid
  have cgroup := length_decimal_long evt'.cgroupId
  have count := length_decimal_long evt.count
  have comm := length_nameOf_lt terminated
  have word : (if decide (evt.decision = 0) = true then "ALLOW" else "DENY").toList.length ≤ 5 := by
    split <;> decide
  simp [betweenPaths, lsmHead, lsmTail, idLine, countRow, charsOf, Piece.meant] at word ⊢
  omega

theorem path_forged (evt evt' : LsmEvent) :
    (forged evt evt').path = arrayOf 256 (bytesOf (forgedPath evt evt')) := by
  rw [forged]

/-- The path ends before its array does. -/
theorem length_forgedPath {evt evt' : LsmEvent} (terminated : Terminated evt'.comm)
    (short : (nameOf evt.path).length + (nameOf evt'.path).length ≤ 44) :
    (bytesOf (forgedPath evt evt')).length < 256 := by
  have between := length_betweenPaths evt terminated
  rw [bytesOf, List.length_map, forgedPath, List.length_append, List.length_append, charsOf, charsOf,
    List.length_map, List.length_map]
  omega

/-- The report of the forged record is the two reports. -/
theorem report_forged {evt evt' : LsmEvent} (terminated : Terminated evt'.comm)
    (short : (nameOf evt.path).length + (nameOf evt'.path).length ≤ 44) :
    report fileOpenReporter.rows (forged evt evt') =
      report fileOpenReporter.rows evt ++ report fileOpenReporter.rows evt' := by
  have bytewise := bytewise_forgedPath evt evt'
  have path : charsOf (nameOf (forged evt evt').path) = forgedPath evt evt' := by
    rw [path_forged, nameOf_arrayOf (length_forgedPath terminated short) (zero_notMem_bytesOf bytewise),
      charsOf_bytesOf bytewise]
  have head : report lsmHead (forged evt evt') = report lsmHead evt := by simp [lsmHead, forged]
  have tail : report lsmTail (forged evt evt') = report lsmTail evt' := by simp [lsmTail, countRow, forged]
  rw [report_lsm, path, head, tail, report_lsm evt, report_lsm evt', forgedPath, betweenPaths]
  simp only [List.append_assoc, List.cons_append]

/-- **`handle_event` prints the same for one record as for any two records with short paths**, byte for byte: for
a record with the command of the first one, in which command and path are terminated. -/
theorem lsm_reports_forged (evt evt' : LsmEvent) (own : Terminated evt.comm) (terminated : Terminated evt'.comm)
    (short : (nameOf evt.path).length + (nameOf evt'.path).length ≤ 44) :
    (forged evt evt').comm = evt.comm ∧ Terminated (forged evt evt').comm ∧ Terminated (forged evt evt').path ∧
      ∀ order buffer order' buffer',
        fileOpenReporter.log order buffer [forged evt evt'] = fileOpenReporter.log order' buffer' [evt, evt'] := by
  have comm : (forged evt evt').comm = evt.comm := by rw [forged]
  refine ⟨comm, comm.symm ▸ own, ?_, ?_⟩
  · rw [path_forged]
    exact terminated_arrayOf (length_forgedPath terminated short)
  intro order buffer order' buffer'
  rw [lsm_reportsDetermine.prints, lsm_reportsDetermine.prints, List.flatMap_cons, List.flatMap_cons,
    List.flatMap_cons, report_forged terminated short]
  simp only [List.flatMap_nil, List.append_nil]

/-- A record with an empty path. -/
def unnamed (pid : U32) (decision : S32) : LsmEvent where
  timestampNs := 0
  pid := pid
  tid := pid
  uid := 1000
  gid := 1000
  cgroupId := 1
  comm := .replicate 16 0
  path := .replicate 256 0
  flags := 0
  mode := 0
  decision := decision
  count := 1

/-- A second report, of a denial for another process. -/
theorem lsm_reports_forged_denial :
    (forged (unnamed 7 0) (unnamed 1 (-1))).comm = (unnamed 7 0).comm ∧
      Terminated (forged (unnamed 7 0) (unnamed 1 (-1))).comm ∧
      Terminated (forged (unnamed 7 0) (unnamed 1 (-1))).path ∧ ∀ order buffer order' buffer',
        fileOpenReporter.log order buffer [forged (unnamed 7 0) (unnamed 1 (-1))] =
          fileOpenReporter.log order' buffer' [unnamed 7 0, unnamed 1 (-1)] :=
  lsm_reports_forged (unnamed 7 0) (unnamed 1 (-1)) (by decide) (by decide) (by decide)

end MonsaEbpf.S2
