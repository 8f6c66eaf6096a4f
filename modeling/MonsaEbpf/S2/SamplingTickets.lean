/-
Module: MonsaEbpf.S2.SamplingTickets
Layer: S2
Purpose: The socket filter, the cgroup packet program and the perf program on several CPUs at once, all
  counting under one key that has an entry. They decide on the result of their own addition, so every
  multiple of a hundred is sampled once, whatever the interleaving.
Imports: MonsaEbpf.Bpf.SampleTickets, MonsaEbpf.S2.SocketFilter, MonsaEbpf.S2.CgroupSkb,
  MonsaEbpf.S2.PerfEvent
Trusted boundary: none
Main exports: SfCall, sfLocals, cgroupSkbLocals, perfLocals, sampling_handlers_draw_tickets
-/
import Mathlib.Data.Fin.VecNotation
import MonsaEbpf.Bpf.SampleTickets
import MonsaEbpf.S2.SocketFilter
import MonsaEbpf.S2.CgroupSkb
import MonsaEbpf.S2.PerfEvent

namespace MonsaEbpf.S2

/-! ### The socket filter -/

/-- One invocation of the socket filter, with the outcome of its reservation. -/
structure SfCall where
  skb : SkBuff
  ktimeGetNs : U64
  reserved : Option SocketFilterEvent

/-- What the parse of a frame finds, none when the filter returns early. -/
def sfTuple? (skb : SkBuff) : Option SfTuple :=
  match sfParse skb.bytes with
  | .error _ => none
  | .ok tuple => tuple

/-- The destination address under which a frame is counted. -/
def SfCall.daddr? (call : SfCall) : Option U32 :=
  (sfTuple? call.skb).map SfTuple.daddr

/-- The record of a frame that was counted. -/
def SfCall.fill (call : SfCall) (newCount : U64) (_ : SocketFilterEvent) : SocketFilterEvent :=
  sfRecord call.skb call.ktimeGetNs ((sfTuple? call.skb).getD ⟨0, 0, 0, 0, 0⟩) newCount

/-- The filter on a frame with a destination address, with its locals. -/
def sfLocals (daddr : U32) (call : SfCall) : SfProgram (SampleLocals (Wire.Access S32)) :=
  countAndSampleLocals sfCounts sfEvents daddr call.reserved call.fill (.ok 0)

theorem sfEvents_apart : sfEvents.Apart sfCounts where
  ring_get_set _ _ := rfl
  map_get_ring _ _ := rfl
  ring_get_map _ _ := rfl

/-- The filter is of the sampling shape. -/
theorem msbSocketFilter_eq (daddr : U32) (call : SfCall) (counted : call.daddr? = some daddr) :
    msbSocketFilter call.skb call.ktimeGetNs call.reserved =
      countAndSample sfCounts sfEvents daddr call.reserved call.fill (.ok 0) := by
  obtain ⟨tuple, found, rfl⟩ := Option.map_eq_some_iff.mp counted
  have parsed : sfParse call.skb.bytes = .ok (some tuple) := by
    rw [← found, sfTuple?, sfParse_eq]
  have filled : call.fill = fun newCount _ => sfRecord call.skb call.ktimeGetNs tuple newCount := by
    funext newCount memory
    rw [SfCall.fill, found, Option.getD_some]
  rw [msbSocketFilter, parsed, filled]
  change (filterTuple _ _ _ _ >>= _) = _
  rw [filterTuple, countAndSample, bind_assoc]
  congr
  funext newCount
  rw [emitSampled]
  split
  · rfl
  · rw [sfEmit, emitEvent, bind_assoc]
    congr
    funext evt
    cases evt <;> rfl

/-! ### The cgroup packet program and the perf program -/

/-- `msb_cgroup_skb` with its locals. -/
def cgroupSkbLocals (cgroupId : U64) (call : CgroupSkbCall) :
    CgroupSkbProgram (SampleLocals (Wire.Access S32)) :=
  countAndSampleLocals cgroupSkbCounts cgroupSkbEvents cgroupId call.reserved call.fill (.ok 1)

theorem msbCgroupSkb_eq (cgroupId : U64) (call : CgroupSkbCall)
    (counted : call.counted? = some cgroupId) :
    msbCgroupSkb call =
      countAndSample cgroupSkbCounts cgroupSkbEvents cgroupId call.reserved call.fill (.ok 1) := by
  rw [← cgroupSkb_handler, CountingHandler.handler_counted counted]
  rfl

/-- `msb_perf_event` with its locals. -/
def perfLocals (pid : U32) (call : PerfCall) :
    StepProgram (BpfOp CounterMap) PerfMaps (SampleLocals S32) :=
  countAndSampleLocals perfCounts perfEvents pid call.reserved call.fill 0

/-- **Ticketing and sampling**: in each of the programs, whatever the interleaving, the invocations under one
key obtain the next numbers, one each, and each multiple of a hundred among them is attempted once. -/
theorem sampling_handlers_draw_tickets :
    DrawsTickets sfCounts sfEvents SfCall.daddr?
      (fun call => msbSocketFilter call.skb call.ktimeGetNs call.reserved) sfLocals SfCall.reserved
      SocketFilterEvent.count ∧
    DrawsTickets cgroupSkbCounts cgroupSkbEvents CgroupSkbCall.counted? msbCgroupSkb cgroupSkbLocals
      CgroupSkbCall.reserved CgroupSkbEvent.count ∧
    DrawsTickets perfCounts perfEvents PerfCall.pid? msbPerfEvent perfLocals PerfCall.reserved
      PerfSample.count := by
  refine ⟨?_, ?_, ?_⟩
  · exact drawsTickets_of_countAndSample sfEvents_apart (fun _ _ _ => rfl) msbSocketFilter_eq
  · exact drawsTickets_of_countAndSample CounterMaps.apart (fun _ _ _ => rfl) msbCgroupSkb_eq
  · refine drawsTickets_of_countAndSample CounterMaps.apart (fun _ _ _ => rfl) ?_
    intro pid call counted
    obtain rfl := Option.some.inj counted
    rfl

/-- A sample of the process 1, with ring space. -/
def sampleOf (_ : Fin 2) : PerfCall where
  task := ⟨0x100000001, 0, 0, Vector.replicate 16 0⟩
  ktimeGetNs := 0
  smpProcessorId := 0
  samplePeriod := 0
  reserved := some ⟨0, 0, 0, 0, 0, Vector.replicate 16 0, 0⟩

/-- The process 1 was counted 98 times. -/
def countedBefore : PerfMaps where
  counts := CellMap.empty.insert 1 98
  events := []

/-- A frame of a UDP datagram from 10.0.0.1 to 10.0.0.2, or of a TCP segment between the same ports. -/
def framedQuery (protocol : U8) : List U8 :=
  List.replicate 12 0 ++
    [8, 0, 0x45, 0, 0, 40, 0, 0, 0, 0, 64, protocol, 0, 0, 10, 0, 0, 1, 10, 0, 0, 2, 0, 53, 0, 53] ++
    List.replicate 16 0

/-- A datagram with ring space and a segment without. -/
def frameOf : Fin 2 → SfCall
  | 0 => { skb := ⟨framedQuery 17, 54, 0⟩, ktimeGetNs := 0, reserved := some ⟨0, 0, 0, 0, 0, 0, 0, 0⟩ }
  | 1 => { skb := ⟨framedQuery 6, 54, 0⟩, ktimeGetNs := 0, reserved := none }

/-- The address 10.0.0.2, as the word of the packet, was counted 98 times. -/
def framesBefore : SfMaps where
  sfCounts := CellMap.empty.insert 0x0200000a 98
  sfEvents := []

/-- Two invocations, of which the one that looks later adds first: of the perf program, and of the socket
filter on two frames. -/
theorem sampling_handlers_draw_tickets_two :
    Ticketed perfCounts perfEvents 1 98 (fun i => (sampleOf i).reserved.isSome) PerfSample.count
        countedBefore
        (Config.run ⟨countedBefore, fun i => perfLocals 1 (sampleOf i)⟩ [0, 1, 1, 0, 0, 0]).shared
        ![⟨100, true, (0 : S32)⟩, ⟨99, false, 0⟩] ∧
      Ticketed sfCounts sfEvents 0x0200000a 98 (fun i => (frameOf i).reserved.isSome) SocketFilterEvent.count
        framesBefore
        (Config.run ⟨framesBefore, fun i => sfLocals 0x0200000a (frameOf i)⟩ [0, 1, 1, 0, 0, 0]).shared
        ![⟨100, true, (.ok 0 : Wire.Access S32)⟩, ⟨99, false, .ok 0⟩] := by
  constructor
  · refine sampling_handlers_draw_tickets.2.2.draws 2 1 98 countedBefore sampleOf _ _ (by decide)
      (by decide) (by decide) ?_
    intro i
    match i with
    | 0 => rfl
    | 1 => rfl
  · refine sampling_handlers_draw_tickets.1.draws 2 0x0200000a 98 framesBefore frameOf _ _ (by decide)
      (by decide) (by decide) ?_
    intro i
    match i with
    | 0 => rfl
    | 1 => rfl

end MonsaEbpf.S2
