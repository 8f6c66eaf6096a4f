/-
Module: MonsaEbpf.S1.LsmFileOpen
Layer: S1
Purpose: S1-basic/examples/security/lsm/lsm_file_open.bpf.c. The hook reports every opened file and always
  allows it; whether the record finds room makes no difference to the verdict. A run leaves the reports of the
  opens that found room.
Imports: MonsaEbpf.S1.Kprobe
Trusted boundary: human-reviewed translation
Main exports: FileOpenEvent, FileOpenCall, FileOpenMaps, msbFileOpen, exec_msbFileOpen, fileOpenEvents_run
-/
import MonsaEbpf.S1.Kprobe

namespace MonsaEbpf.S1

/-- `struct file_open_event`. -/
structure FileOpenEvent where
  pid : U32
  comm : Comm
  mask : S32
deriving Repr, DecidableEq

/-- What one invocation sees: its task, the mask of the open, and the memory for its record. -/
structure FileOpenCall where
  task : Task
  mask : S32
  reserved : Option FileOpenEvent

/-- The program has a ring buffer and no map. -/
structure FileOpenMaps where
  fileOpenEvents : List FileOpenEvent

def fileOpenEvents : RingRef FileOpenMaps FileOpenEvent where
  get := FileOpenMaps.fileOpenEvents
  set := fun _ events => { fileOpenEvents := events }

/-- `evt` when it is copied out. -/
def FileOpenCall.evt (call : FileOpenCall) : FileOpenEvent where
  pid := pidOf call.task.pidTgid
  comm := call.task.comm
  mask := call.mask

/-- `msb_file_open`. -/
def msbFileOpen (call : FileOpenCall) : StepProgram (BpfOp Empty) FileOpenMaps S32 := do
  let _ ← bpfRingbufOutput fileOpenEvents call.evt call.reserved
  return 0

/-- The open is allowed, and reported if there is room. -/
theorem exec_msbFileOpen (call : FileOpenCall) (maps : FileOpenMaps) :
    (msbFileOpen call).exec maps =
      (0, { fileOpenEvents := maps.fileOpenEvents ++ if call.reserved.isSome then [call.evt] else [] }) := by
  rw [msbFileOpen, bpfRingbufOutput_bind, emitEvent]
  cases call.reserved with
  | none => exact congrArg (fun events => (0, FileOpenMaps.mk events)) (List.append_nil _).symm
  | some memory => rfl

/-- Run the hook alone. -/
def FileOpenMaps.step (maps : FileOpenMaps) (call : FileOpenCall) : FileOpenMaps :=
  ((msbFileOpen call).exec maps).2

/-- **The reports of a run** are those of the opens that found room, in order. -/
theorem fileOpenEvents_run (maps : FileOpenMaps) (calls : List FileOpenCall) :
    (Runs.run FileOpenMaps.step maps calls).fileOpenEvents =
      maps.fileOpenEvents ++ calls.filterMap fun call => call.reserved.map fun _ => call.evt := by
  induction calls generalizing maps with
  | nil => exact (List.append_nil _).symm
  | cons call rest ih =>
      rw [Runs.run_cons, ih, FileOpenMaps.step, exec_msbFileOpen, List.append_assoc]
      cases granted : call.reserved with
      | none => simp [granted]
      | some memory => simp [granted]

end MonsaEbpf.S1
