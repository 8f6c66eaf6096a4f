/-
Module: MonsaEbpf.S2.ReportNumbers
Layer: S2
Purpose: The programs that report every event they count, on several CPUs at once: the tracing programs, the
  cgroup programs and the socket lookup of S2-advanced, and the kprobe program of S1-basic. Each reports the
  result of its own addition, so known keys are numbered on every schedule; the insertion of a key is not
  atomic with the lookup before it, and numbers repeat as soon as two invocations look first.
Imports: MonsaEbpf.Bpf.EmitTickets, MonsaEbpf.S2.EventCounts, MonsaEbpf.S2.SkLookup, MonsaEbpf.S1.Kprobe
Trusted boundary: none
Main exports: kprobeLocals, uprobeLocals, tpLocals, rawTpLocals, skLookupLocals, cgroupLocals, esecveLocals,
  reports_are_numbered
-/
import Mathlib.Data.Fin.VecNotation
import MonsaEbpf.Bpf.EmitTickets
import MonsaEbpf.S2.EventCounts
import MonsaEbpf.S2.SkLookup
import MonsaEbpf.S1.Kprobe

namespace MonsaEbpf.S2

/-! ### The handlers with their locals -/

/-- `msb_kprobe_execve` with its locals. -/
def kprobeLocals (pid : U32) (call : KprobeCall) :
    StepProgram (BpfOp KprobeMap) KprobeMaps (SampleLocals S32) :=
  countAndEmitLocals kprobeCounts kprobeEvents pid call.reserved call.fill 0

/-- `msb_uprobe_entry` with its locals. -/
def uprobeLocals (pid : U32) (call : UprobeCall) :
    StepProgram (BpfOp CounterMap) UprobeMaps (SampleLocals S32) :=
  countAndEmitLocals uprobeCounts uprobeEvents pid call.reserved call.fill 0

/-- `msb_tracepoint` with its locals. -/
def tpLocals (pid : U32) (call : TpCall) : StepProgram (BpfOp CounterMap) TpMaps (SampleLocals S32) :=
  countAndEmitLocals tpCounts tpEvents pid call.reserved call.fill 0

/-- `msb_raw_tracepoint` with its locals. -/
def rawTpLocals (pid : U32) (call : RawTpCall) :
    StepProgram (BpfOp CounterMap) RawTpMaps (SampleLocals S32) :=
  countAndEmitLocals rawTpCounts rawTpEvents pid call.reserved call.fill 0

/-- `msb_sk_lookup` with its locals. -/
def skLookupLocals (localIp4 : U32) (call : SkLookupCall) :
    StepProgram (BpfOp CounterMap) SkLookupMaps (SampleLocals S32) :=
  countAndEmitLocals skLookupCounts skLookupEvents localIp4 call.reserved call.fill SK_PASS

/-- `msb_esecve` with its locals. -/
def esecveLocals (pid : U32) (call : S1.ExecCall) :
    StepProgram (BpfOp CounterMap) S1.ExecMaps (SampleLocals S32) :=
  countAndEmitLocals S1.execCounts S1.execEvents pid call.reserved (fun newCount _ => call.evt newCount) 0

section Cgroup

variable {C E : Type} (reserved : C → Option E) (fill : C → U64 → E → E)

/-- A cgroup program with its locals. -/
def cgroupLocals (cgroupId : U64) (call : C) :
    StepProgram (BpfOp CounterMap) (CgroupMaps E) (SampleLocals S32) :=
  countAndEmitLocals CounterMaps.counters CounterMaps.ring cgroupId (reserved call) (fill call) 1

/-- The reports of a cgroup program, given by the cgroup of a call, its reservation and its record. -/
def CgroupNumbers (cgroupId : C → U64) (recordCount : E → U64) : Prop :=
  NumbersReports CounterMaps.counters CounterMaps.ring (fun call => some (cgroupId call))
    (cgroupCountAndEmit cgroupId reserved fill) (cgroupLocals reserved fill) reserved recordCount

variable {reserved fill}

theorem cgroupNumbers {cgroupId : C → U64} {recordCount : E → U64}
    (writes : ∀ call newCount memory, recordCount (fill call newCount memory) = newCount) :
    CgroupNumbers reserved fill cgroupId recordCount := by
  apply numbersReports_of_countAndEmit CounterMaps.apart writes
  intro key call counted
  obtain rfl := Option.some.inj counted
  rfl

end Cgroup

/-! ### The reports -/

theorem kprobe_shape (pid : U32) (call : KprobeCall) (counted : call.pid? = some pid) :
    msbKprobeExecve call = countAndEmit kprobeCounts kprobeEvents pid call.reserved call.fill 0 := by
  obtain rfl := Option.some.inj counted
  rw [← kprobe_handler]
  rfl

/-- **The numbers that concurrent invocations report.** In each of the programs, under a key with an entry the
invocations report the numbers that follow, one each, on every schedule. Under a key that gets its entry from
them they do so exactly if one of them takes the first two steps; under a key that the map refuses, all of
them obtain one, and every record they submit says so. -/
theorem reports_are_numbered :
    NumbersReports kprobeCounts kprobeEvents KprobeCall.pid? msbKprobeExecve kprobeLocals
      KprobeCall.reserved KprobeEvent.count ∧
    NumbersReports uprobeCounts uprobeEvents UprobeCall.pid? msbUprobeEntry uprobeLocals
      UprobeCall.reserved UprobeEvent.count ∧
    NumbersReports tpCounts tpEvents TpCall.pid? msbTracepoint tpLocals TpCall.reserved TpEvent.count ∧
    NumbersReports rawTpCounts rawTpEvents RawTpCall.pid? msbRawTracepoint rawTpLocals
      RawTpCall.reserved RawTpEvent.count ∧
    NumbersReports skLookupCounts skLookupEvents (fun call => some call.ctx.localIp4) msbSkLookup
      skLookupLocals SkLookupCall.reserved SkLookupEvent.count ∧
    NumbersReports S1.execCounts S1.execEvents (fun call => some call.pid) S1.msbEsecve esecveLocals
      S1.ExecCall.reserved S1.ExecEvent.count ∧
    CgroupNumbers CgroupDeviceCall.reserved CgroupDeviceCall.fill CgroupDeviceCall.cgroupId
      CgroupDeviceEvent.count ∧
    CgroupNumbers CgroupSockAddrCall.reserved CgroupSockAddrCall.fill CgroupSockAddrCall.cgroupId
      CgroupSockAddrEvent.count ∧
    CgroupNumbers CgroupSockCall.reserved CgroupSockCall.fill CgroupSockCall.cgroupId
      CgroupSockEvent.count ∧
    CgroupNumbers CgroupSockoptCall.reserved CgroupSockoptCall.fill CgroupSockoptCall.cgroupId
      CgroupSockoptEvent.count ∧
    CgroupNumbers CgroupSysctlCall.reserved CgroupSysctlCall.fill CgroupSysctlCall.cgroupId
      CgroupSysctlEvent.count ∧
    CgroupNumbers CgroupBpfCall.reserved CgroupBpfCall.fill CgroupBpfCall.cgroupId CgroupBpfEvent.count := by
  refine ⟨?kprobe, ?uprobe, ?tracepoint, ?rawTracepoint, ?skLookup, ?esecve,
    cgroupNumbers fun _ _ _ => rfl, cgroupNumbers fun _ _ _ => rfl, cgroupNumbers fun _ _ _ => rfl,
    cgroupNumbers fun _ _ _ => rfl, cgroupNumbers fun _ _ _ => rfl, cgroupNumbers fun _ _ _ => rfl⟩
  case kprobe => exact numbersReports_of_countAndEmit kprobe_apart (fun _ _ _ => rfl) kprobe_shape
  case uprobe =>
    apply numbersReports_of_countAndEmit CounterMaps.apart fun _ _ _ => rfl
    rintro pid call ⟨⟩
    rfl
  case tracepoint =>
    apply numbersReports_of_countAndEmit CounterMaps.apart fun _ _ _ => rfl
    rintro pid call ⟨⟩
    rfl
  case rawTracepoint =>
    apply numbersReports_of_countAndEmit CounterMaps.apart fun _ _ _ => rfl
    rintro pid call ⟨⟩
    rfl
  case skLookup =>
    apply numbersReports_of_countAndEmit CounterMaps.apart fun _ _ _ => rfl
    rintro localIp4 call ⟨⟩
    rfl
  case esecve =>
    apply numbersReports_of_countAndEmit CounterMaps.apart fun _ _ _ => rfl
    rintro pid call ⟨⟩
    exact S1.msbEsecve_eq call

/-! ### Two execs of one process -/

/-- An execve of the process 1, with ring space. -/
def execOf (_ : Fin 2) : S1.ExecCall where
  task := ⟨0x100000001, 0, 0, Vector.replicate 16 0⟩
  reserved := some ⟨0, Vector.replicate 16 0, 0⟩

/-- The first invocation looks and inserts before the second looks: they are numbered one and two. -/
theorem reports_are_numbered_in_turn :
    Numbered S1.execCounts S1.execEvents 1 0 (fun i => (execOf i).reserved.isSome) S1.ExecEvent.count
      .initial (Config.run ⟨.initial, fun i => esecveLocals 1 (execOf i)⟩ [0, 0, 1, 1, 1, 1, 0, 0]).shared
      (fun i => ((![⟨1, true, (0 : S32)⟩, ⟨2, true, 0⟩] : Fin 2 → SampleLocals S32) i).newCount) := by
  apply (reports_are_numbered.2.2.2.2.2.1.fresh 2 1 .initial execOf _ _ (by decide) (by decide) (by decide)
    (by decide) (by decide) _).mpr ⟨0, _, rfl⟩
  intro i
  match i with
  | 0 => rfl
  | 1 => rfl

/-- Both look first: both report one. -/
example :
    (Config.run ⟨.initial, fun i => esecveLocals 1 (execOf i)⟩ [0, 1, 0, 1, 0, 0, 1, 1]).shared.events.map
      S1.ExecEvent.count = [1, 1] := by
  decide

end MonsaEbpf.S2
