/-
Module: MonsaEbpf.S1.EventLogs
Layer: S1
Purpose: The user programs of kprobe, fentry_fexit and lsm of S1-basic, from the bytes in the ring buffer to the
  text on the terminal. Command names may hold any bytes, blanks and line ends included, so a line can look
  like the beginning of another record; the logs still determine the records, because a name that the
  kernel terminates is too short to imitate the end of one line and the beginning of the next.
Imports: MonsaEbpf.Bpf.Names, MonsaEbpf.Lib.CLayout, MonsaEbpf.Lib.LogLines, MonsaEbpf.Lib.Printf,
  MonsaEbpf.S1.FentryFexit, MonsaEbpf.S1.LsmFileOpen
Trusted boundary: human-reviewed translation
Main exports: EventType, execEvent, execLatencyEvent, fileOpenEvent, EventTool, execTool, latencyTool,
  fileOpenTool, EventTool.handleEvent, EventTool.poll, LogDetermines, logs_determine_records
-/
import MonsaEbpf.Bpf.Names
import MonsaEbpf.Lib.CLayout
import MonsaEbpf.Lib.LogLines
import MonsaEbpf.Lib.Printf
import MonsaEbpf.S1.FentryFexit
import MonsaEbpf.S1.LsmFileOpen

namespace MonsaEbpf.S1

open Wire CLayout LogLines Printf

/-! ### The records -/

/-- The members of an event: a PID, a command name, and a number. -/
inductive EventField where
  | pid
  | comm
  | number
deriving DecidableEq, Repr

/-- An event type with its three members. -/
structure EventType (E : Type) where
  width : Nat
  numberType : CType
  wide : 2 ^ width = 256 ^ numberType.size
  pid : E → U32
  comm : E → Comm
  number : E → BitVec width
  make : U32 → Comm → BitVec width → E
  make_members : ∀ evt, make (pid evt) (comm evt) (number evt) = evt

/-- `struct exec_event`. -/
def execEvent : EventType ExecEvent where
  width := 64
  numberType := .int64
  wide := by decide
  pid := ExecEvent.pid
  comm := ExecEvent.comm
  number := ExecEvent.count
  make := ExecEvent.mk
  make_members _ := rfl

/-- `struct exec_latency_event`. -/
def execLatencyEvent : EventType ExecLatencyEvent where
  width := 64
  numberType := .int64
  wide := by decide
  pid := ExecLatencyEvent.pid
  comm := ExecLatencyEvent.comm
  number := ExecLatencyEvent.durationNs
  make := ExecLatencyEvent.mk
  make_members _ := rfl

/-- `struct file_open_event`. -/
def fileOpenEvent : EventType FileOpenEvent where
  width := 32
  numberType := .int32
  wide := by decide
  pid := FileOpenEvent.pid
  comm := FileOpenEvent.comm
  number := FileOpenEvent.mask
  make := FileOpenEvent.mk
  make_members _ := rfl

namespace EventType

variable {E : Type} (event : EventType E)

/-- The structure as both the .bpf.c file and the _user.c file declare it. -/
def declaration : Declaration EventField :=
  [(.pid, .int32), (.comm, .array .int8 16), (.number, event.numberType)]

def format : Record EventField E where
  type
    | .pid => .int32
    | .comm => .array .int8 16
    | .number => event.numberType
  bytesOf evt
    | .pid => encode 4 (event.pid evt)
    | .comm => (event.comm evt).toList
    | .number => encode event.numberType.size (event.number evt)
  ofBytes bytes :=
    event.make (decode 32 (bytes .pid)) (decodeArray 16 (bytes .comm)) (decode event.width (bytes .number))
  length_bytesOf evt field := by
    cases field <;> simp [CType.size]
  ofBytes_bytesOf evt := by
    simp [decode_encode event.wide, event.make_members]

theorem declares : Declares event.format event.declaration where
  types := by simp [declaration, format]
  complete field := by cases field <;> simp [declaration]

/-- The sizes that the size checks compare with. -/
example :
    sizeof execEvent.declaration = 32 ∧ sizeof execLatencyEvent.declaration = 32 ∧
      sizeof fileOpenEvent.declaration = 24 := by
  decide

end EventType

/-! ### The lines -/

/-- `"execve pid=%u comm=%s count=%llu\n"`. -/
def execLine (evt : ExecEvent) : List Piece :=
  [.text "execve pid=", .number evt.pid.toNat, .text " comm=", .text (.ofList (charsOf (nameOf evt.comm))),
    .text " count=", .number evt.count.toNat, .text "\n"]

/-- `"exec pid=%u comm=%s latency_ns=%llu\n"`. -/
def execLatencyLine (evt : ExecLatencyEvent) : List Piece :=
  [.text "exec pid=", .number evt.pid.toNat, .text " comm=", .text (.ofList (charsOf (nameOf evt.comm))),
    .text " latency_ns=", .number evt.durationNs.toNat, .text "\n"]

/-- `"file_open pid=%u comm=%s mask=0x%x\n"`. -/
def fileOpenLine (evt : FileOpenEvent) : List Piece :=
  [.text "file_open pid=", .number evt.pid.toNat, .text " comm=",
    .text (.ofList (charsOf (nameOf evt.comm))), .text " mask=0x", .hexadecimal evt.mask.toNat, .text "\n"]

/-! ### The user programs -/

/-- A user program that prints a line for each record. -/
structure EventTool (E : Type) where
  event : EventType E
  line : E → List Piece

namespace EventTool

variable {E : Type} (tool : EventTool E)

/-- `handle_event`: the number returned and the output. Records that are too short are left out. -/
def handleEvent (memory : Memory) (dataSz : Nat) : Access (S32 × List Char) :=
  match consume tool.event.format tool.event.declaration memory dataSz with
  | none => .ok (0, [])
  | some evt => evt.map fun evt => (0, (tool.line evt).flatMap Piece.meant)

/-- The output for the records that polling delivers, one after another. -/
def poll : List (Memory × Nat) → Access (List Char)
  | [] => .ok []
  | (memory, dataSz) :: records => do
      let first ← tool.handleEvent memory dataSz
      let later ← poll records
      return first.2 ++ later

/-- A record in the ring buffer, laid out over whatever its memory held before. -/
def sent (record : Memory × E) : Memory × Nat :=
  (produce tool.event.format tool.event.declaration record.1 record.2, sizeof tool.event.declaration)

/-- The record is read back, and its line is printed. -/
theorem handleEvent_sent (record : Memory × E) :
    tool.handleEvent (tool.sent record).1 (tool.sent record).2 =
      .ok (0, (tool.line record.2).flatMap Piece.meant) := by
  rw [handleEvent, sent, consume_produce tool.event.format tool.event.declares (Nat.le_refl _)]
  rfl

/-- What is printed for records are their lines. -/
theorem poll_sent (records : List (Memory × E)) :
    tool.poll (records.map tool.sent) =
      .ok ((records.map Prod.snd).flatMap fun evt => (tool.line evt).flatMap Piece.meant) := by
  induction records with
  | nil => rfl
  | cons record rest ih =>
      have first := tool.handleEvent_sent record
      rw [List.map_cons, poll, first, ih]
      rfl

end EventTool

/-- The user program of kprobe. -/
def execTool : EventTool ExecEvent := ⟨execEvent, execLine⟩

/-- The user program of fentry_fexit. -/
def latencyTool : EventTool ExecLatencyEvent := ⟨execLatencyEvent, execLatencyLine⟩

/-- The user program of lsm. -/
def fileOpenTool : EventTool FileOpenEvent := ⟨fileOpenEvent, fileOpenLine⟩

/-! ### What a log says -/

section Shown

variable {E : Type} (event : EventType E)

/-- What a line shows of a record. -/
def EventType.shown (evt : E) : U32 × List U8 × BitVec event.width :=
  (event.pid evt, nameOf (event.comm evt), event.number evt)

/-- The entry of the log for a record. -/
def EventType.entry (evt : E) : Entry where
  id := (event.pid evt).toNat
  free := charsOf (nameOf (event.comm evt))
  number := (event.number evt).toNat

/-- An entry has all that the line shows. -/
theorem shown_eq_of_entry_eq {evt evt' : E} (same : event.entry evt = event.entry evt') :
    event.shown evt = event.shown evt' := by
  obtain ⟨pid, name, number⟩ := Entry.mk.inj same
  rw [EventType.shown, EventType.shown, BitVec.eq_of_toNat_eq pid, charsOf_injective name,
    BitVec.eq_of_toNat_eq number]

end Shown

/-- A log determines what its lines show: polling prints every record, and two sequences of records with
terminated names that print the same show the same, one by one. -/
structure LogDetermines {E : Type} (tool : EventTool E) : Prop where
  prints : ∀ records : List (Memory × E), ∃ log, tool.poll (records.map tool.sent) = .ok log
  determines : ∀ records records' : List (Memory × E),
    (∀ record ∈ records, Terminated (tool.event.comm record.2)) →
    (∀ record ∈ records', Terminated (tool.event.comm record.2)) →
    tool.poll (records.map tool.sent) = tool.poll (records'.map tool.sent) →
    records.map (fun record => tool.event.shown record.2) =
      records'.map fun record => tool.event.shown record.2

/-- Lines of a shape whose texts are as long as names make a log that determines what they show. -/
theorem logDetermines_of_shape {E : Type} {tool : EventTool E} (shape : LineShape 15)
    (shaped : ∀ evt, (tool.line evt).flatMap Piece.meant = shape.line (tool.event.entry evt)) :
    LogDetermines tool where
  prints records := ⟨_, tool.poll_sent records⟩
  determines records records' terminated terminated' same := by
    have logged (records : List (Memory × E)) : ((records.map Prod.snd).flatMap fun evt =>
        (tool.line evt).flatMap Piece.meant) =
          shape.log (records.map fun record => tool.event.entry record.2) := by
      rw [LineShape.log, List.flatMap_map, List.flatMap_map]
      congr
      funext record
      exact shaped record.2
    have short {records : List (Memory × E)}
        (terminated : ∀ record ∈ records, Terminated (tool.event.comm record.2)) :
        LineShape.Short 15 (records.map fun record => tool.event.entry record.2) := by
      intro entry member
      obtain ⟨record, found, rfl⟩ := List.mem_map.mp member
      have bound := length_nameOf_lt (terminated record found)
      rw [EventType.entry, charsOf, List.length_map]
      omega
    rw [tool.poll_sent, tool.poll_sent, logged, logged] at same
    have entries := LineShape.log_injective (short terminated) (short terminated') (Except.ok.inj same)
    rw [← List.forall₂_eq_eq_eq, List.forall₂_map_left_iff, List.forall₂_map_right_iff] at entries ⊢
    exact entries.imp fun _ _ => shown_eq_of_entry_eq tool.event

/-- The format of a line has a shape when its fixed texts have it. -/
theorem meant_line (shape : LineShape 15) (entry : Entry) {head label sign : String} {numeral : Piece}
    (begins : head.toList = shape.word ++ ' ' :: shape.mark :: shape.before)
    (labelled : label.toList = ' ' :: shape.label) (signed : sign.toList = ' ' :: shape.sign :: shape.closing)
    (number : numeral.meant = Nat.toDigits shape.base entry.number) :
    [Piece.text head, .number entry.id, .text label, .text (.ofList entry.free), .text sign, numeral,
      .text "\n"].flatMap Piece.meant = shape.line entry := by
  have lineEnd : "\n".toList = ['\n'] := rfl
  have text (literal : String) : (Piece.text literal).meant = literal.toList := rfl
  have id : (Piece.number entry.id).meant = Nat.toDigits 10 entry.id := rfl
  simp only [List.flatMap_cons, List.flatMap_nil, text, id, begins, labelled, signed, number, lineEnd,
    String.toList_ofList, LineShape.line, LineShape.ending, List.append_assoc, List.cons_append,
    List.append_nil]

/-! ### The three shapes -/

/-- For a name of fifteen bytes the fixed text of this line is just long enough. -/
def execShape : LineShape 15 where
  word := "execve".toList
  mark := 'p'
  before := "id=".toList
  label := "comm=".toList
  sign := 'c'
  closing := "ount=".toList
  base := 10
  large := by decide
  small := by decide
  word_solid := by decide
  closing_solid := by decide
  differ := by decide
  short := by decide

def latencyShape : LineShape 15 where
  word := "exec".toList
  mark := 'p'
  before := "id=".toList
  label := "comm=".toList
  sign := 'l'
  closing := "atency_ns=".toList
  base := 10
  large := by decide
  small := by decide
  word_solid := by decide
  closing_solid := by decide
  differ := by decide
  short := by decide

def fileOpenShape : LineShape 15 where
  word := "file_open".toList
  mark := 'p'
  before := "id=".toList
  label := "comm=".toList
  sign := 'm'
  closing := "ask=0x".toList
  base := 16
  large := by decide
  small := by decide
  word_solid := by decide
  closing_solid := by decide
  differ := by decide
  short := by decide

/-- **The logs of the three programs determine what their lines show of the records**, whatever bytes the
command names have, and whatever is in the padding of the records. -/
theorem logs_determine_records :
    LogDetermines execTool ∧ LogDetermines latencyTool ∧ LogDetermines fileOpenTool := by
  refine ⟨logDetermines_of_shape execShape fun evt => ?_, logDetermines_of_shape latencyShape fun evt => ?_,
    logDetermines_of_shape fileOpenShape fun evt => ?_⟩
  · exact meant_line execShape (execEvent.entry evt) rfl rfl rfl rfl
  · exact meant_line latencyShape (execLatencyEvent.entry evt) rfl rfl rfl rfl
  · exact meant_line fileOpenShape (fileOpenEvent.entry evt) rfl rfl rfl rfl

end MonsaEbpf.S1
