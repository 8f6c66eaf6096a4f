/-
Module: MonsaEbpf.S2.Tracepoint
Layer: S2
Purpose: S2-advanced/examples/tracing/tracepoint/example_tracepoint.bpf.c and its raw sibling
  S2-advanced/examples/tracing/raw_tracepoint/example_raw_tracepoint.bpf.c. Both count an exec under its
  PID and stream an event with the count. The `bpf_printk` lines change no state and are left out.
Imports: MonsaEbpf.Bpf.CountingHandler
Trusted boundary: human-reviewed translation
Main exports: TpEvent, TpCall, TpMaps, msbTracepoint, tracepoint, tracepoint_handler, RawTpEvent,
  RawTpCall, RawTpMaps, msbRawTracepoint, rawTracepoint, rawTracepoint_handler
-/
import MonsaEbpf.Bpf.CountingHandler

namespace MonsaEbpf.S2

/-- `struct tp_event`. -/
structure TpEvent where
  timestampNs : U64
  pid : U32
  tid : U32
  uid : U32
  gid : U32
  cgroupId : U64
  comm : Comm
  count : U64
  prio : S32
  cpu : U32
deriving Repr, DecidableEq

/-- What one invocation sees: its task, the clock, its CPU, and the outcome of its reservation. -/
structure TpCall where
  task : Task
  ktimeGetNs : U64
  smpProcessorId : U32
  reserved : Option TpEvent

/-- The maps of the program. -/
abbrev TpMaps := CounterMaps U32 TpEvent 10240

def tpCounts : MapRef CounterMap TpMaps U32 U64 10240 := CounterMaps.counters
def tpEvents : RingRef TpMaps TpEvent := CounterMaps.ring

/-- The event of a call; every field of the reserved memory is written. -/
def TpCall.fill (call : TpCall) (newCount : U64) (_ : TpEvent) : TpEvent where
  timestampNs := call.ktimeGetNs
  pid := pidOf call.task.pidTgid
  tid := tidOf call.task.pidTgid
  uid := call.task.uid
  gid := call.task.gid
  cgroupId := call.task.cgroupId
  comm := call.task.comm
  count := newCount
  prio := 0
  cpu := call.smpProcessorId

/-- `msb_tracepoint`. -/
def msbTracepoint (call : TpCall) : StepProgram (BpfOp CounterMap) TpMaps S32 :=
  countAndEmit tpCounts tpEvents (pidOf call.task.pidTgid) call.reserved call.fill 0

/-- The PID of a call. -/
def TpCall.pid? (call : TpCall) : Option U32 :=
  some (pidOf call.task.pidTgid)

/-- The program as a counting handler. -/
def tracepoint : CountingHandler CounterMap TpMaps U32 TpCall TpEvent S32 10240 :=
  .emitting tpCounts tpEvents .initial rfl CounterMaps.apart TpCall.pid? (fun _ => 0) TpCall.reserved
    TpCall.fill fun _ => 0

theorem tracepoint_handler : tracepoint.handler = msbTracepoint := rfl

/-! ### The raw tracepoint -/

/-- `struct raw_tp_event`. -/
structure RawTpEvent where
  timestampNs : U64
  pid : U32
  tid : U32
  uid : U32
  gid : U32
  cgroupId : U64
  comm : Comm
  count : U64
  cpu : U32
deriving Repr, DecidableEq

structure RawTpCall where
  task : Task
  ktimeGetNs : U64
  smpProcessorId : U32
  reserved : Option RawTpEvent

/-- The maps of the program. -/
abbrev RawTpMaps := CounterMaps U32 RawTpEvent 10240

def rawTpCounts : MapRef CounterMap RawTpMaps U32 U64 10240 := CounterMaps.counters
def rawTpEvents : RingRef RawTpMaps RawTpEvent := CounterMaps.ring

/-- The event of a call; every field of the reserved memory is written. -/
def RawTpCall.fill (call : RawTpCall) (newCount : U64) (_ : RawTpEvent) : RawTpEvent where
  timestampNs := call.ktimeGetNs
  pid := pidOf call.task.pidTgid
  tid := tidOf call.task.pidTgid
  uid := call.task.uid
  gid := call.task.gid
  cgroupId := call.task.cgroupId
  comm := call.task.comm
  count := newCount
  cpu := call.smpProcessorId

/-- `msb_raw_tracepoint`. -/
def msbRawTracepoint (call : RawTpCall) : StepProgram (BpfOp CounterMap) RawTpMaps S32 :=
  countAndEmit rawTpCounts rawTpEvents (pidOf call.task.pidTgid) call.reserved call.fill 0

/-- The PID of a call. -/
def RawTpCall.pid? (call : RawTpCall) : Option U32 :=
  some (pidOf call.task.pidTgid)

/-- The program as a counting handler. -/
def rawTracepoint : CountingHandler CounterMap RawTpMaps U32 RawTpCall RawTpEvent S32 10240 :=
  .emitting rawTpCounts rawTpEvents .initial rfl CounterMaps.apart RawTpCall.pid? (fun _ => 0)
    RawTpCall.reserved RawTpCall.fill fun _ => 0

theorem rawTracepoint_handler : rawTracepoint.handler = msbRawTracepoint := rfl

end MonsaEbpf.S2
