/-
Module: MonsaEbpf.S2.Kprobe
Layer: S2
Purpose: S2-advanced/examples/tracing/kprobe/example_kprobe.bpf.c. The handler counts an execve in
  `kprobe_counts` and then streams an event with the count. The two `bpf_printk` lines change no state and
  are left out.
Imports: MonsaEbpf.Bpf.Counting
Trusted boundary: human-reviewed translation
Main exports: KprobeEvent, KprobeCall, KprobeMaps, msbKprobeExecve, msbKprobeExecve_searches
-/
import MonsaEbpf.Bpf.Counting

namespace MonsaEbpf.S2

/-- `struct kprobe_event`. -/
structure KprobeEvent where
  timestampNs : U64
  pid : U32
  tid : U32
  ppid : U32
  uid : U32
  gid : U32
  cgroupId : U64
  comm : Comm
  arg0 : U64
  arg1 : U64
  arg2 : U64
  count : U64
  funcName : Vector U8 32
deriving Repr, DecidableEq

/-- What one invocation sees: its task, the clock, the registers, and the outcome of its reservation. -/
structure KprobeCall where
  task : Task
  ktimeGetNs : U64
  ptRegsParm1 : U64
  ptRegsParm2 : U64
  ptRegsParm3 : U64
  reserved : Option KprobeEvent

/-- The maps of the program. -/
structure KprobeMaps where
  kprobeCounts : CellMap U32 U64 10240
  kprobeEvents : List KprobeEvent

inductive KprobeMap where
  | kprobeCounts
deriving DecidableEq, Repr

def kprobeCounts : MapRef KprobeMap KprobeMaps U32 U64 10240 where
  name := .kprobeCounts
  get := KprobeMaps.kprobeCounts
  set := fun maps map => { maps with kprobeCounts := map }
  get_set := fun _ _ => rfl
  set_get := fun _ => rfl
  set_set := fun _ _ _ => rfl

def kprobeEvents : RingRef KprobeMaps KprobeEvent where
  get := KprobeMaps.kprobeEvents
  set := fun maps events => { maps with kprobeEvents := events }

/-- The string `"__x64_sys_execve"` with its terminating zero. -/
def execveName : List U8 :=
  [0x5f, 0x5f, 0x78, 0x36, 0x34, 0x5f, 0x73, 0x79, 0x73, 0x5f, 0x65, 0x78, 0x65, 0x63, 0x76, 0x65, 0]

/-- Reserve, fill and submit the event of one call; without ring space nothing is sent. -/
def kprobeEmit (call : KprobeCall) (newCount : U64) : StepProgram (BpfOp KprobeMap) KprobeMaps S32 := do
  let evt ← bpfRingbufReserve call.reserved
  match evt with
  | none => return 0
  | some evt => do
      bpfRingbufSubmit kprobeEvents
        { evt with
          timestampNs := call.ktimeGetNs
          pid := pidOf call.task.pidTgid
          tid := tidOf call.task.pidTgid
          ppid := 0
          uid := call.task.uid
          gid := call.task.gid
          cgroupId := call.task.cgroupId
          comm := call.task.comm
          arg0 := call.ptRegsParm1
          arg1 := call.ptRegsParm2
          arg2 := call.ptRegsParm3
          count := newCount
          funcName := memcpy evt.funcName execveName }
      return 0

/-- `msb_kprobe_execve`: the counter first, then the event. -/
def msbKprobeExecve (call : KprobeCall) : StepProgram (BpfOp KprobeMap) KprobeMaps S32 := do
  let newCount ← countEvent kprobeCounts (pidOf call.task.pidTgid)
  kprobeEmit call newCount

/-- No map holds a key yet and nothing was submitted. -/
def KprobeMaps.initial : KprobeMaps where
  kprobeCounts := .empty
  kprobeEvents := []

theorem kprobeEmit_settled (call : KprobeCall) (newCount : U64) (key : U32) :
    (kprobeCounts.counter key id).Settled (kprobeEmit call newCount) := by
  apply Settled.bind (settled_reserve _)
  intro evt
  cases evt with
  | none => exact settled_ret 0
  | some evt =>
      apply Settled.bind
      · exact settled_submit _ fun _ _ => rfl
      · exact fun _ => settled_ret 0

/-- An execve handler looks for the counter of its PID and counts itself once. -/
theorem msbKprobeExecve_searches (call : KprobeCall) :
    (kprobeCounts.counter (pidOf call.task.pidTgid) id).Searches false (msbKprobeExecve call) := by
  apply countEvent_searches (by decide)
  intro count
  exact kprobeEmit_settled call count _

end MonsaEbpf.S2
