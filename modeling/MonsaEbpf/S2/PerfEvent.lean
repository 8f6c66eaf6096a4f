/-
Module: MonsaEbpf.S2.PerfEvent
Layer: S2
Purpose: S2-advanced/examples/perf/example_perf_event.bpf.c. The program counts a sample of the hardware
  counter under the PID it hit and sends 1/100 of them. The `bpf_printk` line changes no state and is left
  out.
Imports: MonsaEbpf.Bpf.CountingHandler
Trusted boundary: human-reviewed translation
Main exports: PerfSample, PerfCall, PerfMaps, msbPerfEvent, perfEvent, perfEvent_handler
-/
import MonsaEbpf.Bpf.CountingHandler

namespace MonsaEbpf.S2

/-- `struct perf_sample`. -/
structure PerfSample where
  timestampNs : U64
  pid : U32
  tid : U32
  cpu : U32
  period : U64
  comm : Comm
  count : U64
deriving Repr, DecidableEq

/-- What one invocation sees; `samplePeriod` is a field of `struct bpf_perf_event_data`. -/
structure PerfCall where
  task : Task
  ktimeGetNs : U64
  smpProcessorId : U32
  samplePeriod : U64
  reserved : Option PerfSample

/-- The maps of the program. -/
abbrev PerfMaps := CounterMaps U32 PerfSample 10240

def perfCounts : MapRef CounterMap PerfMaps U32 U64 10240 := CounterMaps.counters
def perfEvents : RingRef PerfMaps PerfSample := CounterMaps.ring

/-- The record of a sample; every field of the reserved memory is written. -/
def PerfCall.fill (call : PerfCall) (newCount : U64) (_ : PerfSample) : PerfSample where
  timestampNs := call.ktimeGetNs
  pid := pidOf call.task.pidTgid
  tid := tidOf call.task.pidTgid
  cpu := call.smpProcessorId
  period := call.samplePeriod
  comm := call.task.comm
  count := newCount

/-- `msb_perf_event`. -/
def msbPerfEvent (call : PerfCall) : StepProgram (BpfOp CounterMap) PerfMaps S32 :=
  countAndSample perfCounts perfEvents (pidOf call.task.pidTgid) call.reserved call.fill 0

/-- The PID of a call. -/
def PerfCall.pid? (call : PerfCall) : Option U32 :=
  some (pidOf call.task.pidTgid)

/-- The program as a counting handler. -/
def perfEvent : CountingHandler CounterMap PerfMaps U32 PerfCall PerfSample S32 10240 :=
  .sampling perfCounts perfEvents .initial rfl CounterMaps.apart PerfCall.pid? (fun _ => 0)
    PerfCall.reserved PerfCall.fill fun _ => 0

theorem perfEvent_handler : perfEvent.handler = msbPerfEvent := rfl

end MonsaEbpf.S2
