/-
Module: MonsaEbpf.S2.EventReports
Layer: S2
Purpose: What the logs of the user programs say. Every program prints a report for each record, with rows for
  the members that it shows. Names of commands may hold any bytes, line ends included, and still the logs
  determine what they show of the records, because the kernel cuts names off before they could imitate the
  rows that follow. Paths of files are not cut off early enough. A string that is not terminated is not meant:
  `%s` would read on behind its array.
Imports: MonsaEbpf.Lib.ReportRows, MonsaEbpf.S2.EventLines
Trusted boundary: none
Main exports: Reporter, Reporter.log, ReportsDetermine, reportsDetermine_of_rows, logs_determine_reports
-/
import MonsaEbpf.Lib.ReportRows
import MonsaEbpf.S2.EventLines

namespace MonsaEbpf.S2

open Printf ReportRows DottedQuad Snprintf

/-- A user program that prints reports: the size that it checks, the calls of `printf` for a record, the rows
that these print, and the records that are meant. -/
structure Reporter (E : Type) where
  size : Nat
  lines : E → List (List Piece)
  rows : List (Row E)
  Meant : E → Prop

namespace Reporter

variable {E : Type} (reporter : Reporter E)

/-- What polling prints for records, one after another, each of the size of the structure. -/
def log (order : ArgumentOrder) : List Char → List E → List Char
  | _, [] => []
  | buffer, evt :: later =>
      let handled := handleEvent reporter.size reporter.lines order buffer evt reporter.size
      handled.2.1 ++ log order handled.2.2 later

end Reporter

/-- The log of a user program is the text of the reports, whatever order the arguments are evaluated in, and two
logs of meant records are the same only if they show the same, record by record and row by row. -/
structure ReportsDetermine {E : Type} (reporter : Reporter E) : Prop where
  prints : ∀ order buffer records,
    reporter.log order buffer records = records.flatMap (report reporter.rows)
  determines : ∀ order buffer order' buffer' records records',
    (∀ evt ∈ records, reporter.Meant evt) → (∀ evt ∈ records', reporter.Meant evt) →
    reporter.log order buffer records = reporter.log order' buffer' records' →
    records.map (shown reporter.rows) = records'.map (shown reporter.rows)

/-- Programs whose calls have at most one address each and print their rows. -/
theorem reportsDetermine_of_rows {E : Type} {reporter : Reporter E}
    (single : ∀ evt, ∀ pieces ∈ reporter.lines evt, (addresses pieces).length ≤ 1)
    (printed : ∀ evt, (reporter.lines evt).flatten.flatMap Piece.meant = report reporter.rows evt)
    (fits : ∀ evt, reporter.Meant evt → ∀ row ∈ reporter.rows, row.Fits evt)
    (some : reporter.rows ≠ []) (checked : unambiguous reporter.rows reporter.rows = true) :
    ReportsDetermine reporter := by
  have prints : ∀ order buffer records,
      reporter.log order buffer records = records.flatMap (report reporter.rows) := by
    intro order buffer records
    induction records generalizing buffer with
    | nil => rfl
    | cons evt later ih =>
        rw [Reporter.log, List.flatMap_cons, ← printed, ih, handleEvent, if_neg (Nat.lt_irrefl _)]
        exact congrArg (· ++ _) (printfs_eq_meant order buffer (single evt))
  refine ⟨prints, ?_⟩
  intro order buffer order' buffer' records records' meant meant' same
  rw [prints, prints, ← log_eq_flatMap, ← log_eq_flatMap] at same
  exact log_determines some checked (fun evt member => fits evt (meant evt member))
    (fun evt member => fits evt (meant' evt member)) same

/-! ### Rows -/

section Rows

variable {E : Type}

/-- A row of one unsigned number. -/
def numberRow (label : String) {width : Nat} (value : E → BitVec width) : Row E :=
  .solid label (.number fun evt => (value evt).toNat)

def hexadecimalRow (label : String) {width : Nat} (value : E → BitVec width) : Row E :=
  .solid label (.hexadecimal fun evt => (value evt).toNat)

def signedRow (label : String) {width : Nat} (value : E → BitVec width) : Row E :=
  .solid label (.signed fun evt => (value evt).toInt)

/-- A row of a name that is shorter than its array. -/
def nameRow (label : String) {length : Nat} (value : E → Vector U8 length) : Row E :=
  .free label (length - 1) (.word fun evt => charsOf (nameOf (value evt)))

/-- A name without line ends. -/
def OneLine {length : Nat} (array : Vector U8 length) : Prop :=
  10 ∉ nameOf array

/-- A row of a name without line ends. -/
def plainNameRow (label : String) {length : Nat} (value : E → Vector U8 length) : Row E :=
  .word label fun evt => charsOf (nameOf (value evt))

/-- Two numbers with a separator. -/
def pairItem (separator : Char) (other : separator.isDigit = false) (first second : E → Nat) : Item E :=
  .beside (.number first) separator [] (.number second) fun _ member =>
    absurd (isDigit_of_mem_decimal member) (by rw [other]; decide)

def idRow (uid gid : E → U32) : Row E :=
  .solid "  UID/GID:  " (pairItem '/' rfl (fun evt => (uid evt).toNat) fun evt => (gid evt).toNat)

/-- An address and a port. -/
def endpointRow (label : String) (address : E → U32) (port : E → U16) : Row E :=
  .solid label (.beside (.address address) ':' [] (.number fun evt => (port evt).toNat)
    fun _ => Item.notMem_addressText _ rfl (by decide))

/-- A number of bytes. -/
def lengthRow (value : E → U32) : Row E :=
  .solid "  Len:      " (.followed (.number fun evt => (value evt).toNat) " bytes".toList)

def countRow (value : E → U64) : Row E :=
  numberRow "  Count:    " value

/-- A number in hexadecimal, with more of them behind it. -/
def hexadecimalsItem (value : E → U64) (rest : Item E) : Item E :=
  .beside (.hexadecimal fun evt => (value evt).toNat) ',' " 0x".toList rest fun _ member =>
    absurd (LogLines.isAlphanum_of_mem_toDigits (by decide) (by decide) member) (by decide)

/-- A number of thousandths. -/
def thousandthsItem (value : E → Nat) : Item E :=
  .fixed 3 (fun evt => value evt / 1000) fun evt => value evt % 1000

def latencyRow (thousandths : U64 → Nat) (value : E → U64) : Row E :=
  .solid "  Latency:  " (.followed
    (.beside (.number fun evt => (value evt).toNat) ' ' "ns (".toList
      (thousandthsItem fun evt => thousandths (value evt)) fun _ member =>
        absurd (isDigit_of_mem_decimal member) (by decide)) " μs)".toList)

/-- `"  Arg0-2:   0x%llx, 0x%llx, 0x%llx\n"`. -/
def argsRow (arg0 arg1 arg2 : E → U64) : Row E :=
  .solid "  Arg0-2:   0x"
    (hexadecimalsItem arg0 (hexadecimalsItem arg1 (.hexadecimal fun evt => (arg2 evt).toNat)))

def timestampRow (label : String) (value : E → U64) : Row E :=
  .solid label (.fixed 9 (fun evt => (value evt).toNat / 10 ^ 9) fun evt => (value evt).toNat % 10 ^ 9)

def microsRow (label : String) (thousandths : E → Nat) : Row E :=
  .solid label (.followed (thousandthsItem thousandths) " us".toList)

/-- The status, and the error code on a line of its own. -/
def statusText (isError : U8) (errorCode : S32) : List Char :=
  if isError ≠ 0 then "ERROR\n  Error Code:  ".toList ++ signedText errorCode.toInt else "SUCCESS".toList

/-- What a status shows: nothing but that there was no error, or the error code. -/
def statusShown (isError : U8) (errorCode : S32) : List Nat :=
  if isError ≠ 0 then [1, if errorCode.toInt < 0 then 1 else 0, errorCode.toInt.natAbs] else [0]

theorem statusShown_eq_of_text {isError isError' : U8} {errorCode errorCode' : S32}
    (same : statusText isError errorCode = statusText isError' errorCode') :
    statusShown isError errorCode = statusShown isError' errorCode' := by
  rw [statusText, statusText] at same
  rw [statusShown, statusShown]
  by_cases failed : isError ≠ 0 <;> by_cases failed' : isError' ≠ 0
  · rw [if_pos failed, if_pos failed', List.append_cancel_left_eq] at same
    rw [if_pos failed, if_pos failed', signedText_injective same]
  · rw [if_pos failed, if_neg failed'] at same
    exact absurd (List.cons.inj same).1 (by decide)
  · rw [if_neg failed, if_pos failed'] at same
    exact absurd (List.cons.inj same).1 (by decide)
  · rw [if_neg failed, if_neg failed']

/-- An error code has a sign and ten digits at most. -/
theorem length_statusText_le (isError : U8) (errorCode : S32) :
    (statusText isError errorCode).length ≤ 41 := by
  have magnitude : errorCode.toInt.natAbs < 10 ^ 10 := by
    have low := BitVec.le_toInt errorCode
    have high := BitVec.toInt_lt (x := errorCode)
    omega
  have digits := (length_decimal_le_iff (by decide)).mpr magnitude
  rw [statusText, signedText]
  by_cases failed : isError ≠ 0
  · rw [if_pos failed]
    by_cases negative : errorCode.toInt < 0 <;> simp [negative] <;> omega
  · rw [if_neg failed]
    decide

def statusRow (isError : E → U8) (errorCode : E → S32) : Row E where
  label := "  Status:      ".toList
  kind := .free 41
  item :=
    { text evt := statusText (isError evt) (errorCode evt)
      shown evt := statusShown (isError evt) (errorCode evt)
      reads := statusShown_eq_of_text }

/-- A row of one of two words. -/
def choiceRow (label yes no : String) (choice : E → Bool) : Row E :=
  .word label fun evt => (if choice evt then yes else no).toList

/-- A row of the name of a protocol. -/
def protoRow (protocol : E → U8) : Row E :=
  .word "  Proto:    " fun evt => (protoName (protocol evt)).toList

/-! ### Every row fits -/

section Fits

variable (label : String) {width length : Nat} (evt : E)

@[simp] theorem fits_numberRow (value : E → BitVec width) : (numberRow label value).Fits evt :=
  Row.fits_solid (Item.solid_number _ evt)

@[simp] theorem fits_hexadecimalRow (value : E → BitVec width) : (hexadecimalRow label value).Fits evt :=
  Row.fits_solid (Item.solid_hexadecimal _ evt)

@[simp] theorem fits_signedRow (value : E → BitVec width) : (signedRow label value).Fits evt :=
  Row.fits_solid (Item.solid_signed _ evt)

@[simp] theorem fits_nameRow {value : E → Vector U8 length} (terminated : Terminated (value evt)) :
    (nameRow label value).Fits evt := by
  apply Row.fits_free
  have short := length_nameOf_lt terminated
  change (charsOf (nameOf (value evt))).length ≤ length - 1
  rw [charsOf, List.length_map]
  omega

/-- The line end is the byte 10. -/
theorem lineEnd_mem_charsOf {bytes : List U8} (member : '\n' ∈ charsOf bytes) : (10 : U8) ∈ bytes := by
  obtain ⟨byte, found, same⟩ := List.mem_map.mp member
  have number := congrArg Char.toNat same
  rw [toNat_ofNat_byte] at number
  have ten : byte = 10 := BitVec.eq_of_toNat_eq number
  exact ten ▸ found

@[simp] theorem fits_plainNameRow {value : E → Vector U8 length} (plain : OneLine (value evt)) :
    (plainNameRow label value).Fits evt :=
  Row.fits_word fun member => plain (lineEnd_mem_charsOf member)

@[simp] theorem fits_idRow (uid gid : E → U32) : (idRow uid gid).Fits evt :=
  Row.fits_solid (Item.solid_beside (Item.solid_number _ evt) (by decide) List.not_mem_nil
    (Item.solid_number _ evt))

@[simp] theorem fits_pairRow (separator : Char) (other : separator.isDigit = false)
    (apart : '\n' ≠ separator) (first second : E → Nat) :
    (Row.solid label (pairItem separator other first second)).Fits evt :=
  Row.fits_solid (Item.solid_beside (Item.solid_number _ evt) apart List.not_mem_nil
    (Item.solid_number _ evt))

@[simp] theorem fits_endpointRow (address : E → U32) (port : E → U16) :
    (endpointRow label address port).Fits evt :=
  Row.fits_solid (Item.solid_beside (Item.solid_address _ evt) (by decide) List.not_mem_nil
    (Item.solid_number _ evt))

@[simp] theorem fits_lengthRow (value : E → U32) : (lengthRow value).Fits evt :=
  Row.fits_solid (Item.solid_followed (Item.solid_number _ evt) (by decide))

@[simp] theorem fits_countRow (value : E → U64) : (countRow value).Fits evt :=
  fits_numberRow _ evt value

@[simp] theorem fits_latencyRow (thousandths : U64 → Nat) (value : E → U64) :
    (latencyRow thousandths value).Fits evt :=
  Row.fits_solid (Item.solid_followed (Item.solid_beside (Item.solid_number _ evt) (by decide) (by decide)
    (Item.solid_fixed 3 _ _ evt)) (by decide))

@[simp] theorem fits_argsRow (arg0 arg1 arg2 : E → U64) : (argsRow arg0 arg1 arg2).Fits evt :=
  Row.fits_solid (Item.solid_beside (Item.solid_hexadecimal _ evt) (by decide) (by decide)
    (Item.solid_beside (Item.solid_hexadecimal _ evt) (by decide) (by decide) (Item.solid_hexadecimal _ evt)))

@[simp] theorem fits_timestampRow (value : E → U64) : (timestampRow label value).Fits evt :=
  Row.fits_solid (Item.solid_fixed 9 _ _ evt)

@[simp] theorem fits_microsRow (value : E → Nat) : (microsRow label value).Fits evt :=
  Row.fits_solid (Item.solid_followed (Item.solid_fixed 3 _ _ evt) (by decide))

@[simp] theorem fits_statusRow (isError : E → U8) (errorCode : E → S32) :
    (statusRow isError errorCode).Fits evt :=
  length_statusText_le (isError evt) (errorCode evt)

@[simp] theorem fits_choiceRow {yes no : String} (single : '\n' ∉ yes.toList) (single' : '\n' ∉ no.toList)
    (choice : E → Bool) : (choiceRow label yes no choice).Fits evt := by
  apply Row.fits_word
  cases choice evt
  · exact single'
  · exact single

@[simp] theorem fits_protoRow (protocol : E → U8) : (protoRow protocol).Fits evt := by
  apply Row.fits_word
  rw [protoName]
  split
  · decide
  · split <;> decide

end Fits

/-! ### What the rows print -/

section Printed

variable (label : String) {width length : Nat} (evt : E)

@[simp] theorem printed_numberRow (value : E → BitVec width) : (numberRow label value).printed evt =
    label.toList ++ (decimal (value evt).toNat ++ ['\n']) := rfl

@[simp] theorem printed_hexadecimalRow (value : E → BitVec width) : (hexadecimalRow label value).printed evt =
    label.toList ++ (Nat.toDigits 16 (value evt).toNat ++ ['\n']) := rfl

@[simp] theorem printed_signedRow (value : E → BitVec width) : (signedRow label value).printed evt =
    label.toList ++ (signedText (value evt).toInt ++ ['\n']) := rfl

@[simp] theorem printed_nameRow (value : E → Vector U8 length) : (nameRow label value).printed evt =
    label.toList ++ (charsOf (nameOf (value evt)) ++ ['\n']) := rfl

@[simp] theorem printed_plainNameRow (value : E → Vector U8 length) : (plainNameRow label value).printed evt =
    label.toList ++ (charsOf (nameOf (value evt)) ++ ['\n']) := rfl

@[simp] theorem printed_word (text : E → List Char) : (Row.word label text).printed evt =
    label.toList ++ (text evt ++ ['\n']) := rfl

@[simp] theorem printed_idRow (uid gid : E → U32) : (idRow uid gid).printed evt =
    (idLine (uid evt) (gid evt)).flatMap Piece.meant := by
  simp [idRow, idLine, Row.printed, Row.solid, pairItem, Item.beside, Item.number, Piece.meant]

@[simp] theorem printed_latencyRow (thousandths : U64 → Nat) (value : E → U64) :
    (latencyRow thousandths value).printed evt =
      (latencyLine thousandths (value evt)).flatMap Piece.meant := by
  simp [latencyRow, latencyLine, Row.printed, Row.solid, thousandthsItem, Item.beside, Item.followed,
    Item.number, Item.fixed, Piece.meant]

@[simp] theorem printed_timestampRow (value : E → U64) : (timestampRow label value).printed evt =
    label.toList ++ (User.timestampText (value evt).toNat ++ ['\n']) := rfl

@[simp] theorem printed_microsRow (thousandths : E → Nat) : (microsRow label thousandths).printed evt =
    label.toList ++ ((thousandthsPieces (thousandths evt)).flatMap Piece.meant ++ " us\n".toList) := by
  simp [microsRow, Row.printed, Row.solid, thousandthsItem, Item.followed, Item.fixed]

theorem printed_status (isError : U8) (errorCode : S32) :
    "  Status:      ".toList ++ (statusText isError errorCode ++ ['\n']) =
      (wordLine "  Status:      " (if isError ≠ 0 then "ERROR" else "SUCCESS")).flatMap Piece.meant ++
        (errorLines isError errorCode).flatten.flatMap Piece.meant := by
  rw [statusText, errorLines]
  by_cases failed : isError ≠ 0
  · rw [if_pos failed, if_pos failed, if_pos failed]
    simp
  · rw [if_neg failed, if_neg failed, if_neg failed]
    simp

@[simp] theorem printed_statusRow (isError : E → U8) (errorCode : E → S32) :
    (statusRow isError errorCode).printed evt =
      (wordLine "  Status:      " (if isError evt ≠ 0 then "ERROR" else "SUCCESS")).flatMap Piece.meant ++
        (errorLines (isError evt) (errorCode evt)).flatten.flatMap Piece.meant :=
  printed_status (isError evt) (errorCode evt)

@[simp] theorem printed_choiceRow (yes no : String) (choice : E → Bool) :
    (choiceRow label yes no choice).printed evt =
      label.toList ++ ((if choice evt then yes else no).toList ++ ['\n']) := rfl

@[simp] theorem printed_protoRow (protocol : E → U8) : (protoRow protocol).printed evt =
    (wordLine "  Proto:    " (protoName (protocol evt))).flatMap Piece.meant := by
  simp [protoRow]

@[simp] theorem printed_argsRow (arg0 arg1 arg2 : E → U64) : (argsRow arg0 arg1 arg2).printed evt =
    [Piece.text "  Arg0-2:   0x", .hexadecimal (arg0 evt).toNat, .text ", 0x", .hexadecimal (arg1 evt).toNat,
      .text ", 0x", .hexadecimal (arg2 evt).toNat, .text "\n"].flatMap Piece.meant := by
  simp [argsRow, hexadecimalsItem, Row.printed, Row.solid, Item.beside, Item.hexadecimal, Piece.meant]

@[simp] theorem printed_pairRow (separator : Char) (other : separator.isDigit = false)
    (first second : E → Nat) : (Row.solid label (pairItem separator other first second)).printed evt =
      label.toList ++ (decimal (first evt) ++ separator :: (decimal (second evt) ++ ['\n'])) := by
  simp [Row.printed, Row.solid, pairItem, Item.beside, Item.number]

@[simp] theorem printed_lengthRow (value : E → U32) : (lengthRow value).printed evt =
    [Piece.text "  Len:      ", .number (value evt).toNat, .text " bytes\n"].flatMap Piece.meant := by
  simp [lengthRow, Row.printed, Row.solid, Item.followed, Item.number, Piece.meant]

@[simp] theorem printed_srcRow (address : E → U32) (port : E → U16) :
    (endpointRow "  Src:      " address port).printed evt =
      (srcLine (address evt) (port evt)).flatMap Piece.meant := by
  simp [endpointRow, srcLine, Row.printed, Row.solid, Item.beside, Item.address, Item.number, Piece.meant]

@[simp] theorem printed_dstRow (address : E → U32) (port : E → U16) :
    (endpointRow "  Dst:      " address port).printed evt =
      (dstLine (address evt) (port evt)).flatMap Piece.meant := by
  simp [endpointRow, dstLine, Row.printed, Row.solid, Item.beside, Item.address, Item.number, Piece.meant]

/-- The last line of a report ends the line of the count and an empty one. -/
@[simp] theorem printed_countRow (value : E → U64) : (countRow value).printed evt ++ ['\n'] =
    (lastCountLine (value evt)).flatMap Piece.meant := by
  simp [countRow, lastCountLine, Piece.meant]

end Printed

end Rows

/-! ### Processes -/

def kprobeReporter : Reporter (Vector Char User.sizeofTs × KprobeEvent) where
  size := sizeofKprobeEvent
  lines := kprobeEventLines
  rows := [.heading "=== Kprobe Event ===",
    timestampRow "  Timestamp:  " fun record => record.2.timestampNs,
    nameRow "  Function:   " fun record => record.2.funcName,
    numberRow "  PID:        " fun record => record.2.pid,
    numberRow "  TID:        " fun record => record.2.tid,
    numberRow "  PPID:       " fun record => record.2.ppid,
    nameRow "  Comm:       " fun record => record.2.comm,
    numberRow "  UID:        " fun record => record.2.uid,
    numberRow "  GID:        " fun record => record.2.gid,
    numberRow "  Cgroup ID:  " fun record => record.2.cgroupId,
    hexadecimalRow "  Arg0:       0x" fun record => record.2.arg0,
    hexadecimalRow "  Arg1:       0x" fun record => record.2.arg1,
    hexadecimalRow "  Arg2:       0x" fun record => record.2.arg2,
    numberRow "  Call Count: " fun record => record.2.count,
    .heading ""]
  Meant record := Terminated record.2.funcName ∧ Terminated record.2.comm

theorem kprobe_reportsDetermine : ReportsDetermine kprobeReporter := by
  apply reportsDetermine_of_rows
  case single => simp [kprobeReporter, kprobeEventLines]
  case printed => simp [kprobeReporter, kprobeEventLines, User.shownTimestamp_eq, Piece.meant]
  case fits =>
    rintro record ⟨function, comm⟩
    simp [kprobeReporter, function, comm]
  case some => simp [kprobeReporter]
  case checked => decide

def kretprobeReporter (thousandths : U64 → Nat) :
    Reporter (Vector Char User.sizeofTs × KretprobeEvent) where
  size := sizeofKretprobeEvent
  lines := kretprobeEventLines thousandths
  rows := [.heading "=== Kretprobe Event ===",
    timestampRow "  Timestamp:   " fun record => record.2.timestampNs,
    nameRow "  Function:    " fun record => record.2.funcName,
    numberRow "  PID:         " fun record => record.2.pid,
    numberRow "  TID:         " fun record => record.2.tid,
    nameRow "  Comm:        " fun record => record.2.comm,
    numberRow "  UID:         " fun record => record.2.uid,
    numberRow "  GID:         " fun record => record.2.gid,
    numberRow "  Cgroup ID:   " fun record => record.2.cgroupId,
    signedRow "  Return Val:  " fun record => record.2.retval,
    statusRow (fun record => record.2.isError) fun record => record.2.errorCode,
    microsRow "  Latency:     " fun record => thousandths record.2.latencyNs,
    .heading ""]
  Meant record := Terminated record.2.funcName ∧ Terminated record.2.comm

theorem kretprobe_reportsDetermine (thousandths : U64 → Nat) :
    ReportsDetermine (kretprobeReporter thousandths) := by
  apply reportsDetermine_of_rows
  case single =>
    intro record
    simp only [kretprobeReporter, kretprobeEventLines, List.forall_mem_append]
    refine ⟨⟨?_, single_errorLines record.2.isError record.2.errorCode⟩, ?_⟩ <;> simp
  case printed => simp [kretprobeReporter, kretprobeEventLines, User.shownTimestamp_eq, Piece.meant]
  case fits =>
    rintro record ⟨function, comm⟩
    simp [kretprobeReporter, function, comm]
  case some => simp [kretprobeReporter]
  case checked => rfl

def uprobeReporter : Reporter UprobeEvent where
  size := sizeofUprobeEvent
  lines := uprobeEventLines
  rows := [.heading "=== Uprobe Event ===",
    numberRow "  PID:      " UprobeEvent.pid,
    nameRow "  Comm:     " UprobeEvent.comm,
    idRow UprobeEvent.uid UprobeEvent.gid,
    numberRow "  Cgroup:   " UprobeEvent.cgroupId,
    argsRow UprobeEvent.arg0 UprobeEvent.arg1 UprobeEvent.arg2,
    countRow UprobeEvent.count,
    .heading ""]
  Meant evt := Terminated evt.comm

theorem uprobe_reportsDetermine : ReportsDetermine uprobeReporter := by
  apply reportsDetermine_of_rows
  case single => simp [uprobeReporter, uprobeEventLines]
  case printed => simp [uprobeReporter, uprobeEventLines, Piece.meant]
  case fits =>
    rintro evt (terminated : Terminated evt.comm)
    simp [uprobeReporter, terminated]
  case some => simp [uprobeReporter]
  case checked => decide

def uretprobeReporter (thousandths : U64 → Nat) : Reporter UretprobeEvent where
  size := sizeofUretprobeEvent
  lines := uretprobeEventLines thousandths
  rows := [.heading "=== Uretprobe Event ===",
    numberRow "  PID:      " UretprobeEvent.pid,
    nameRow "  Comm:     " UretprobeEvent.comm,
    idRow UretprobeEvent.uid UretprobeEvent.gid,
    latencyRow thousandths UretprobeEvent.latencyNs,
    signedRow "  RetVal:   " UretprobeEvent.retval,
    .heading ""]
  Meant evt := Terminated evt.comm

theorem uretprobe_reportsDetermine (thousandths : U64 → Nat) :
    ReportsDetermine (uretprobeReporter thousandths) := by
  apply reportsDetermine_of_rows
  case single => simp [uretprobeReporter, uretprobeEventLines]
  case printed => simp [uretprobeReporter, uretprobeEventLines, Piece.meant]
  case fits =>
    rintro evt (terminated : Terminated evt.comm)
    simp [uretprobeReporter, terminated]
  case some => simp [uretprobeReporter]
  case checked => rfl

def fentryFexitReporter (thousandths : U64 → Nat) : Reporter FentryFexitEvent where
  size := sizeofFentryFexitEvent
  lines := fentryFexitEventLines thousandths
  rows := [.heading "=== Fentry/Fexit Event ===",
    numberRow "  PID:      " FentryFexitEvent.pid,
    nameRow "  Comm:     " FentryFexitEvent.comm,
    idRow FentryFexitEvent.uid FentryFexitEvent.gid,
    latencyRow thousandths FentryFexitEvent.latencyNs,
    signedRow "  RetVal:   " FentryFexitEvent.retval,
    countRow FentryFexitEvent.count,
    .heading ""]
  Meant evt := Terminated evt.comm

theorem fentryFexit_reportsDetermine (thousandths : U64 → Nat) :
    ReportsDetermine (fentryFexitReporter thousandths) := by
  apply reportsDetermine_of_rows
  case single => simp [fentryFexitReporter, fentryFexitEventLines]
  case printed => simp [fentryFexitReporter, fentryFexitEventLines, Piece.meant]
  case fits =>
    rintro evt (terminated : Terminated evt.comm)
    simp [fentryFexitReporter, terminated]
  case some => simp [fentryFexitReporter]
  case checked => rfl

def tpReporter : Reporter TpEvent where
  size := sizeofTpEvent
  lines := tpEventLines
  rows := [.heading "=== Tracepoint Event (sched_process_exec) ===",
    numberRow "  PID:      " TpEvent.pid,
    nameRow "  Comm:     " TpEvent.comm,
    idRow TpEvent.uid TpEvent.gid,
    numberRow "  CPU:      " TpEvent.cpu,
    numberRow "  Cgroup:   " TpEvent.cgroupId,
    countRow TpEvent.count,
    .heading ""]
  Meant evt := Terminated evt.comm

theorem tp_reportsDetermine : ReportsDetermine tpReporter := by
  apply reportsDetermine_of_rows
  case single => simp [tpReporter, tpEventLines]
  case printed => simp [tpReporter, tpEventLines, Piece.meant]
  case fits =>
    rintro evt (terminated : Terminated evt.comm)
    simp [tpReporter, terminated]
  case some => simp [tpReporter]
  case checked => decide

def rawTpReporter : Reporter RawTpEvent where
  size := sizeofRawTpEvent
  lines := rawTpEventLines
  rows := [.heading "=== Raw Tracepoint Event ===",
    numberRow "  PID:      " RawTpEvent.pid,
    nameRow "  Comm:     " RawTpEvent.comm,
    idRow RawTpEvent.uid RawTpEvent.gid,
    numberRow "  CPU:      " RawTpEvent.cpu,
    numberRow "  Cgroup:   " RawTpEvent.cgroupId,
    countRow RawTpEvent.count,
    .heading ""]
  Meant evt := Terminated evt.comm

theorem rawTp_reportsDetermine : ReportsDetermine rawTpReporter := by
  apply reportsDetermine_of_rows
  case single => simp [rawTpReporter, rawTpEventLines]
  case printed => simp [rawTpReporter, rawTpEventLines, Piece.meant]
  case fits =>
    rintro evt (terminated : Terminated evt.comm)
    simp [rawTpReporter, terminated]
  case some => simp [rawTpReporter]
  case checked => decide

def perfSampleReporter : Reporter PerfSample where
  size := sizeofPerfSample
  lines := perfSampleLines
  rows := [.heading "=== Perf Event Sample (cpu-cycles) ===",
    numberRow "  PID:      " PerfSample.pid,
    nameRow "  Comm:     " PerfSample.comm,
    numberRow "  CPU:      " PerfSample.cpu,
    numberRow "  Period:   " PerfSample.period,
    countRow PerfSample.count,
    .heading ""]
  Meant evt := Terminated evt.comm

theorem perfSample_reportsDetermine : ReportsDetermine perfSampleReporter := by
  apply reportsDetermine_of_rows
  case single => simp [perfSampleReporter, perfSampleLines]
  case printed => simp [perfSampleReporter, perfSampleLines, Piece.meant]
  case fits =>
    rintro evt (terminated : Terminated evt.comm)
    simp [perfSampleReporter, terminated]
  case some => simp [perfSampleReporter]
  case checked => decide

/-! ### Files -/

/-- A path without line ends is meant. -/
def fileOpenReporter : Reporter LsmEvent where
  size := sizeofLsmEvent
  lines := lsmEventLines
  rows := [.heading "=== LSM File Open Event ===",
    numberRow "  PID:      " LsmEvent.pid,
    nameRow "  Comm:     " LsmEvent.comm,
    idRow LsmEvent.uid LsmEvent.gid,
    numberRow "  Cgroup:   " LsmEvent.cgroupId,
    plainNameRow "  Path:     " LsmEvent.path,
    choiceRow "  Decision: " "ALLOW" "DENY" fun evt => evt.decision = 0,
    countRow LsmEvent.count,
    .heading ""]
  Meant evt := Terminated evt.comm ∧ Terminated evt.path ∧ OneLine evt.path

theorem lsm_reportsDetermine : ReportsDetermine fileOpenReporter := by
  apply reportsDetermine_of_rows
  case single => simp [fileOpenReporter, lsmEventLines]
  case printed => simp [fileOpenReporter, lsmEventLines, Piece.meant]
  case fits =>
    rintro evt ⟨terminated, -, plain⟩
    simp [fileOpenReporter, terminated, plain]
  case some => simp [fileOpenReporter]
  case checked => decide

/-! ### Sockets and packets -/

def socketFilterReporter : Reporter SocketFilterEvent where
  size := sizeofSocketFilterEvent
  lines := socketFilterEventLines
  rows := [.heading "=== Socket Filter Event (sampled) ===",
    protoRow SocketFilterEvent.protocol,
    endpointRow "  Src:      " SocketFilterEvent.saddr SocketFilterEvent.sport,
    endpointRow "  Dst:      " SocketFilterEvent.daddr SocketFilterEvent.dport,
    lengthRow SocketFilterEvent.len,
    countRow SocketFilterEvent.count,
    .heading ""]
  Meant _ := True

theorem socketFilter_reportsDetermine : ReportsDetermine socketFilterReporter := by
  apply reportsDetermine_of_rows
  case single => simp [socketFilterReporter, socketFilterEventLines]
  case printed => simp [socketFilterReporter, socketFilterEventLines, Piece.meant]
  case fits =>
    intro evt _
    simp [socketFilterReporter]
  case some => simp [socketFilterReporter]
  case checked => decide

def skLookupReporter : Reporter SkLookupEvent where
  size := sizeofSkLookupEvent
  lines := skLookupEventLines
  rows := [.heading "=== SK_LOOKUP Event ===",
    protoRow SkLookupEvent.protocol,
    endpointRow "  Src:      " SkLookupEvent.saddr SkLookupEvent.sport,
    endpointRow "  Dst:      " SkLookupEvent.daddr SkLookupEvent.dport,
    countRow SkLookupEvent.count,
    .heading ""]
  Meant _ := True

theorem skLookup_reportsDetermine : ReportsDetermine skLookupReporter := by
  apply reportsDetermine_of_rows
  case single => simp [skLookupReporter, skLookupEventLines]
  case printed => simp [skLookupReporter, skLookupEventLines, lastCountLine, Piece.meant]
  case fits =>
    intro evt _
    simp [skLookupReporter]
  case some => simp [skLookupReporter]
  case checked => decide

def tcReporter : Reporter TcEvent where
  size := sizeofTcEvent
  lines := tcEventLines
  rows := [.heading "=== TC Event (sampled) ===",
    protoRow TcEvent.protocol,
    endpointRow "  Src:      " TcEvent.saddr TcEvent.sport,
    endpointRow "  Dst:      " TcEvent.daddr TcEvent.dport,
    lengthRow TcEvent.len,
    hexadecimalRow "  Mark:     0x" TcEvent.mark,
    countRow TcEvent.count,
    .heading ""]
  Meant _ := True

theorem tc_reportsDetermine : ReportsDetermine tcReporter := by
  apply reportsDetermine_of_rows
  case single => simp [tcReporter, tcEventLines]
  case printed => simp [tcReporter, tcEventLines, lastCountLine, Piece.meant]
  case fits =>
    intro evt _
    simp [tcReporter]
  case some => simp [tcReporter]
  case checked => decide

def cgroupSkbReporter : Reporter CgroupSkbEvent where
  size := sizeofCgroupSkbEvent
  lines := cgroupSkbEventLines
  rows := [.heading "=== Cgroup SKB Event ===",
    numberRow "  Cgroup:   " CgroupSkbEvent.cgroupId,
    lengthRow CgroupSkbEvent.len,
    countRow CgroupSkbEvent.count,
    .heading ""]
  Meant _ := True

theorem cgroupSkb_reportsDetermine : ReportsDetermine cgroupSkbReporter := by
  apply reportsDetermine_of_rows
  case single => simp [cgroupSkbReporter, cgroupSkbEventLines]
  case printed => simp [cgroupSkbReporter, cgroupSkbEventLines, Piece.meant]
  case fits =>
    intro evt _
    simp [cgroupSkbReporter]
  case some => simp [cgroupSkbReporter]
  case checked => decide

def cgroupSockAddrReporter : Reporter CgroupSockAddrEvent where
  size := sizeofCgroupSockAddrEvent
  lines := sockAddrEventLines
  rows := [.heading "=== Cgroup Sock Addr Event ===",
    numberRow "  Cgroup:   " CgroupSockAddrEvent.cgroupId,
    numberRow "  Family:   " CgroupSockAddrEvent.family,
    endpointRow "  Dst:      " CgroupSockAddrEvent.daddr CgroupSockAddrEvent.dport,
    countRow CgroupSockAddrEvent.count,
    .heading ""]
  Meant _ := True

theorem cgroupSockAddr_reportsDetermine : ReportsDetermine cgroupSockAddrReporter := by
  apply reportsDetermine_of_rows
  case single => simp [cgroupSockAddrReporter, sockAddrEventLines]
  case printed => simp [cgroupSockAddrReporter, sockAddrEventLines, lastCountLine, Piece.meant]
  case fits =>
    intro evt _
    simp [cgroupSockAddrReporter]
  case some => simp [cgroupSockAddrReporter]
  case checked => decide

/-! ### Cgroups -/

def cgroupSockReporter : Reporter CgroupSockEvent where
  size := sizeofCgroupSockEvent
  lines := cgroupSockEventLines
  rows := [.heading "=== Cgroup Sock Event ===",
    numberRow "  Cgroup:   " CgroupSockEvent.cgroupId,
    numberRow "  Family:   " CgroupSockEvent.family,
    numberRow "  Type:     " CgroupSockEvent.type,
    numberRow "  Protocol: " CgroupSockEvent.protocol,
    countRow CgroupSockEvent.count,
    .heading ""]
  Meant _ := True

theorem cgroupSock_reportsDetermine : ReportsDetermine cgroupSockReporter := by
  apply reportsDetermine_of_rows
  case single => simp [cgroupSockReporter, cgroupSockEventLines]
  case printed => simp [cgroupSockReporter, cgroupSockEventLines, Piece.meant]
  case fits =>
    intro evt _
    simp [cgroupSockReporter]
  case some => simp [cgroupSockReporter]
  case checked => decide

def cgroupSockoptReporter : Reporter CgroupSockoptEvent where
  size := sizeofCgroupSockoptEvent
  lines := cgroupSockoptEventLines
  rows := [.heading "=== Cgroup Sockopt Event ===",
    numberRow "  Cgroup:   " CgroupSockoptEvent.cgroupId,
    signedRow "  Level:    " CgroupSockoptEvent.level,
    signedRow "  Optname:  " CgroupSockoptEvent.optname,
    countRow CgroupSockoptEvent.count,
    .heading ""]
  Meant _ := True

theorem cgroupSockopt_reportsDetermine : ReportsDetermine cgroupSockoptReporter := by
  apply reportsDetermine_of_rows
  case single => simp [cgroupSockoptReporter, cgroupSockoptEventLines]
  case printed => simp [cgroupSockoptReporter, cgroupSockoptEventLines, Piece.meant]
  case fits =>
    intro evt _
    simp [cgroupSockoptReporter]
  case some => simp [cgroupSockoptReporter]
  case checked => decide

def cgroupDeviceReporter : Reporter CgroupDeviceEvent where
  size := sizeofCgroupDeviceEvent
  lines := cgroupDeviceEventLines
  rows := [.heading "=== Cgroup Device Event ===",
    numberRow "  Cgroup:   " CgroupDeviceEvent.cgroupId,
    .solid "  Device:   " (pairItem ':' rfl (fun evt => evt.major.toNat) fun evt => evt.minor.toNat),
    hexadecimalRow "  Access:   0x" CgroupDeviceEvent.accessType,
    choiceRow "  Allowed:  " "YES" "NO" fun evt => evt.allowed ≠ 0,
    countRow CgroupDeviceEvent.count,
    .heading ""]
  Meant _ := True

theorem cgroupDevice_reportsDetermine : ReportsDetermine cgroupDeviceReporter := by
  apply reportsDetermine_of_rows
  case single => simp [cgroupDeviceReporter, cgroupDeviceEventLines]
  case printed => simp [cgroupDeviceReporter, cgroupDeviceEventLines, Piece.meant]
  case fits =>
    intro evt _
    simp [cgroupDeviceReporter]
  case some => simp [cgroupDeviceReporter]
  case checked => decide

def cgroupBpfReporter : Reporter CgroupBpfEvent where
  size := sizeofCgroupBpfEvent
  lines := cgroupBpfEventLines
  rows := [.heading "=== Cgroup BPF Event ===",
    numberRow "  Cgroup:   " CgroupBpfEvent.cgroupId,
    numberRow "  PID:      " CgroupBpfEvent.pid,
    nameRow "  Comm:     " CgroupBpfEvent.comm,
    countRow CgroupBpfEvent.count,
    .heading ""]
  Meant evt := Terminated evt.comm

theorem cgroupBpf_reportsDetermine : ReportsDetermine cgroupBpfReporter := by
  apply reportsDetermine_of_rows
  case single => simp [cgroupBpfReporter, cgroupBpfEventLines]
  case printed => simp [cgroupBpfReporter, cgroupBpfEventLines, Piece.meant]
  case fits =>
    rintro evt (terminated : Terminated evt.comm)
    simp [cgroupBpfReporter, terminated]
  case some => simp [cgroupBpfReporter]
  case checked => decide

/-- The names of sysctls have no line ends. -/
def cgroupSysctlReporter : Reporter CgroupSysctlEvent where
  size := sizeofCgroupSysctlEvent
  lines := cgroupSysctlEventLines
  rows := [.heading "=== Cgroup Sysctl Event ===",
    numberRow "  Cgroup:   " CgroupSysctlEvent.cgroupId,
    plainNameRow "  Name:     " CgroupSysctlEvent.name,
    choiceRow "  Write:    " "YES" "NO" fun evt => evt.write ≠ 0,
    countRow CgroupSysctlEvent.count,
    .heading ""]
  Meant evt := Terminated evt.name ∧ OneLine evt.name

theorem cgroupSysctl_reportsDetermine : ReportsDetermine cgroupSysctlReporter := by
  apply reportsDetermine_of_rows
  case single => simp [cgroupSysctlReporter, cgroupSysctlEventLines]
  case printed => simp [cgroupSysctlReporter, cgroupSysctlEventLines, Piece.meant]
  case fits =>
    rintro evt ⟨-, plain⟩
    simp [cgroupSysctlReporter, plain]
  case some => simp [cgroupSysctlReporter]
  case checked => decide

/-! ### All logs -/

/-- **The logs of the user programs of S2-advanced determine what their reports show**, whatever bytes the names
of commands and functions have and whatever `%.3f` shows. All strings are meant to be terminated, and paths and
the names of sysctls to have no line ends. -/
theorem logs_determine_reports (thousandths : U64 → Nat) :
    (ReportsDetermine kprobeReporter ∧ ReportsDetermine (kretprobeReporter thousandths) ∧
      ReportsDetermine uprobeReporter ∧ ReportsDetermine (uretprobeReporter thousandths) ∧
      ReportsDetermine (fentryFexitReporter thousandths) ∧ ReportsDetermine tpReporter ∧
      ReportsDetermine rawTpReporter ∧ ReportsDetermine perfSampleReporter ∧ ReportsDetermine fileOpenReporter) ∧
    (ReportsDetermine socketFilterReporter ∧ ReportsDetermine skLookupReporter ∧
      ReportsDetermine tcReporter) ∧
    ReportsDetermine cgroupSkbReporter ∧ ReportsDetermine cgroupSockAddrReporter ∧
    ReportsDetermine cgroupSockReporter ∧ ReportsDetermine cgroupSockoptReporter ∧
    ReportsDetermine cgroupDeviceReporter ∧ ReportsDetermine cgroupBpfReporter ∧
    ReportsDetermine cgroupSysctlReporter :=
  ⟨⟨kprobe_reportsDetermine, kretprobe_reportsDetermine thousandths, uprobe_reportsDetermine,
      uretprobe_reportsDetermine thousandths, fentryFexit_reportsDetermine thousandths, tp_reportsDetermine,
      rawTp_reportsDetermine, perfSample_reportsDetermine, lsm_reportsDetermine⟩,
    ⟨socketFilter_reportsDetermine, skLookup_reportsDetermine, tc_reportsDetermine⟩,
    cgroupSkb_reportsDetermine, cgroupSockAddr_reportsDetermine, cgroupSock_reportsDetermine,
    cgroupSockopt_reportsDetermine, cgroupDevice_reportsDetermine, cgroupBpf_reportsDetermine,
    cgroupSysctl_reportsDetermine⟩

end MonsaEbpf.S2
