/-
Module: MonsaEbpf.S1.Kprobe
Layer: S1
Purpose: S1-basic/examples/tracing/kprobe/example_kprobe.bpf.c. The handler counts an execve under its PID and
  copies a record from its stack into the ring buffer. `bpf_ringbuf_output` reserves a record, copies, and
  commits it; the handler does not look at its result.
Imports: MonsaEbpf.Bpf.CountingHandler
Trusted boundary: human-reviewed translation, the two parts of bpf_ringbuf_output
Main exports: bpfRingbufOutput, ExecEvent, ExecCall, ExecMaps, msbEsecve, esecve, esecve_handler
-/
import MonsaEbpf.Bpf.CountingHandler

namespace MonsaEbpf.S1

/-- `bpf_ringbuf_output`: zero, or `-EAGAIN` when no record can be reserved. -/
def bpfRingbufOutput {μ σ E : Type} (ring : RingRef σ E) (evt : E) (reserved : Option E) :
    StepProgram (BpfOp μ) σ S32 := do
  let memory ← bpfRingbufReserve reserved
  match memory with
  | none => return -11
  | some _ => do
      bpfRingbufSubmit ring evt
      return 0

/-- Copying a record out is reserving one, overwriting all of it, and submitting it. -/
theorem bpfRingbufOutput_bind {μ σ E α : Type} (ring : RingRef σ E) (evt : E) (reserved : Option E)
    (verdict : α) :
    (bpfRingbufOutput ring evt reserved >>= fun _ => return verdict : StepProgram (BpfOp μ) σ α) =
      emitEvent ring reserved (fun _ => evt) verdict := by
  rw [bpfRingbufOutput, emitEvent, bind_assoc]
  congr
  funext memory
  cases memory <;> rfl

/-- `struct exec_event`. -/
structure ExecEvent where
  pid : U32
  comm : Comm
  count : U64
deriving Repr, DecidableEq

/-- What one invocation sees: its task, and the memory that the ring buffer has for its record. -/
structure ExecCall where
  task : Task
  reserved : Option ExecEvent

/-- The maps of the program. -/
abbrev ExecMaps := CounterMaps U32 ExecEvent 1024

def execCounts : MapRef CounterMap ExecMaps U32 U64 1024 := CounterMaps.counters
def execEvents : RingRef ExecMaps ExecEvent := CounterMaps.ring

/-- The PID of a call. -/
def ExecCall.pid (call : ExecCall) : U32 := pidOf call.task.pidTgid

/-- `evt` when it is copied out. -/
def ExecCall.evt (call : ExecCall) (newCount : U64) : ExecEvent where
  pid := call.pid
  comm := call.task.comm
  count := newCount

/-- `msb_esecve`. -/
def msbEsecve (call : ExecCall) : StepProgram (BpfOp CounterMap) ExecMaps S32 := do
  let newCount ← countEvent execCounts call.pid
  let _ ← bpfRingbufOutput execEvents (call.evt newCount) call.reserved
  return 0

/-- The program as a counting handler. -/
def esecve : CountingHandler CounterMap ExecMaps U32 ExecCall ExecEvent S32 1024 :=
  .emitting execCounts execEvents .initial rfl CounterMaps.apart (fun call => some call.pid) (fun _ => 0)
    ExecCall.reserved (fun call newCount _ => call.evt newCount) fun _ => 0

/-- The program is of the emitting shape. -/
theorem msbEsecve_eq (call : ExecCall) :
    msbEsecve call = countAndEmit execCounts execEvents call.pid call.reserved
      (fun newCount _ => call.evt newCount) 0 := by
  rw [msbEsecve, countAndEmit]
  congr
  funext newCount
  exact bpfRingbufOutput_bind _ _ _ _

theorem esecve_handler : esecve.handler = msbEsecve := by
  funext call
  rw [msbEsecve_eq]
  rfl

end MonsaEbpf.S1
