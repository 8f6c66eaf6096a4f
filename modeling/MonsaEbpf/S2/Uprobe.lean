/-
Module: MonsaEbpf.S2.Uprobe
Layer: S2
Purpose: S2-advanced/examples/userspace/uprobe/example_uprobe.bpf.c, and the kprobe program seen as a
  counting handler beside it. Both count a call under its PID and stream an event with the count. The
  `bpf_printk` lines change no state and are left out.
Imports: MonsaEbpf.Bpf.CountingHandler, MonsaEbpf.S2.Kprobe
Trusted boundary: human-reviewed translation
Main exports: UprobeEvent, UprobeCall, UprobeMaps, msbUprobeEntry, uprobe, uprobe_handler, kprobe,
  kprobe_handler
-/
import MonsaEbpf.Bpf.CountingHandler
import MonsaEbpf.S2.Kprobe

namespace MonsaEbpf.S2

/-- `struct uprobe_event`. -/
structure UprobeEvent where
  timestampNs : U64
  pid : U32
  tid : U32
  uid : U32
  gid : U32
  cgroupId : U64
  comm : Comm
  arg0 : U64
  arg1 : U64
  arg2 : U64
  count : U64
  funcName : Vector U8 32
deriving Repr, DecidableEq

/-- What one invocation sees: its task, the clock, the registers, and the outcome of its reservation. -/
structure UprobeCall where
  task : Task
  ktimeGetNs : U64
  ptRegsParm1 : U64
  ptRegsParm2 : U64
  ptRegsParm3 : U64
  reserved : Option UprobeEvent

/-- The maps of the program. -/
abbrev UprobeMaps := CounterMaps U32 UprobeEvent 10240

def uprobeCounts : MapRef CounterMap UprobeMaps U32 U64 10240 := CounterMaps.counters
def uprobeEvents : RingRef UprobeMaps UprobeEvent := CounterMaps.ring

/-- The string `"user_function"` with its terminating zero. -/
def userFunctionName : List U8 :=
  [0x75, 0x73, 0x65, 0x72, 0x5f, 0x66, 0x75, 0x6e, 0x63, 0x74, 0x69, 0x6f, 0x6e, 0]

/-- The event of a call, written over the reserved memory. -/
def UprobeCall.fill (call : UprobeCall) (newCount : U64) (evt : UprobeEvent) : UprobeEvent :=
  { evt with
    timestampNs := call.ktimeGetNs
    pid := pidOf call.task.pidTgid
    tid := tidOf call.task.pidTgid
    uid := call.task.uid
    gid := call.task.gid
    cgroupId := call.task.cgroupId
    comm := call.task.comm
    arg0 := call.ptRegsParm1
    arg1 := call.ptRegsParm2
    arg2 := call.ptRegsParm3
    count := newCount
    funcName := memcpy evt.funcName userFunctionName }

/-- `msb_uprobe_entry`. -/
def msbUprobeEntry (call : UprobeCall) : StepProgram (BpfOp CounterMap) UprobeMaps S32 :=
  countAndEmit uprobeCounts uprobeEvents (pidOf call.task.pidTgid) call.reserved call.fill 0

/-- The PID of a call. -/
def UprobeCall.pid? (call : UprobeCall) : Option U32 :=
  some (pidOf call.task.pidTgid)

/-- The program as a counting handler. -/
def uprobe : CountingHandler CounterMap UprobeMaps U32 UprobeCall UprobeEvent S32 10240 :=
  .emitting uprobeCounts uprobeEvents .initial rfl CounterMaps.apart UprobeCall.pid? (fun _ => 0)
    UprobeCall.reserved UprobeCall.fill fun _ => 0

theorem uprobe_handler : uprobe.handler = msbUprobeEntry := rfl

/-! ### The kprobe program -/

/-- The PID of a call. -/
def KprobeCall.pid? (call : KprobeCall) : Option U32 :=
  some (pidOf call.task.pidTgid)

/-- The event of a call, written over the reserved memory. -/
def KprobeCall.fill (call : KprobeCall) (newCount : U64) (evt : KprobeEvent) : KprobeEvent :=
  { evt with
    timestampNs := call.ktimeGetNs
    pid := pidOf call.task.pidTgid
    tid := tidOf call.task.pidTgid
    ppid := 0
    uid := call.task.uid
    gid := call.task.gid
    cgroupId := call.task.cgroupId
    comm := call.task.comm
    arg0 := call.ptRegsParm1
    arg1 := call.ptRegsParm2
    arg2 := call.ptRegsParm3
    count := newCount
    funcName := memcpy evt.funcName execveName }

theorem kprobe_apart : kprobeEvents.Apart kprobeCounts where
  ring_get_set _ _ := rfl
  map_get_ring _ _ := rfl
  ring_get_map _ _ := rfl

/-- The kprobe program as a counting handler. -/
def kprobe : CountingHandler KprobeMap KprobeMaps U32 KprobeCall KprobeEvent S32 10240 :=
  .emitting kprobeCounts kprobeEvents .initial rfl kprobe_apart KprobeCall.pid? (fun _ => 0)
    KprobeCall.reserved KprobeCall.fill fun _ => 0

theorem emitEvent_fill (call : KprobeCall) (newCount : U64) :
    emitEvent kprobeEvents call.reserved (call.fill newCount) 0 = kprobeEmit call newCount := by
  rw [emitEvent, kprobeEmit]
  congr
  funext evt
  cases evt <;> rfl

theorem kprobe_handler : kprobe.handler = msbKprobeExecve := by
  funext call
  rw [msbKprobeExecve, ← funext (emitEvent_fill call)]
  rfl

end MonsaEbpf.S2
