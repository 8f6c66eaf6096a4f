/-
Module: MonsaEbpf.S2.TcAccounting
Layer: S2
Purpose: Whole runs of the traffic classifier, handlers run one after another from an empty flow table:
  what the table holds afterwards.
Imports: MonsaEbpf.S2.TcClassifier, MonsaEbpf.Lib.Runs
Trusted boundary: none
Main exports: TcMaps.run, flowsOf, lensOf, FlowStats.total, find?_run, keys_run, callFrom, tc_flow_accounting
-/
import MonsaEbpf.S2.TcClassifier
import MonsaEbpf.Lib.Runs

namespace MonsaEbpf.S2

open Ipv4Frame

/-- Handle the frames from left to right. -/
def TcMaps.run (calls : List TcCall) : TcMaps :=
  Runs.run TcMaps.step TcMaps.initial calls

/-- The flow keys of the accounted frames, in order. -/
def flowsOf (frames : List SkBuff) : List FlowKey :=
  frames.filterMap tcFlow?

/-- The lengths of the frames of one flow. -/
def lensOf (key : FlowKey) (frames : List SkBuff) : List U32 :=
  (frames.filter fun skb => tcFlow? skb = some key).map SkBuff.len

/-- The statistics of a flow with frames of the given lengths, modulo 2^64. -/
def FlowStats.total (lens : List U32) : FlowStats where
  packets := BitVec.ofNat 64 lens.length
  bytes := BitVec.ofNat 64 (lens.map BitVec.toNat).sum

/-! ### Exact totals -/

/-- The statistics after one more frame of a flow that may be new. -/
def FlowStats.record (stats : Option FlowStats) (len : U32) : FlowStats :=
  match stats with
  | none => .first len
  | some stats => stats.add len

/-- A flow without frames has no statistics. -/
def FlowStats.total? (lens : List U32) : Option FlowStats :=
  if lens = [] then none else some (.total lens)

theorem FlowStats.record_total? (lens : List U32) (len : U32) :
    FlowStats.record (FlowStats.total? lens) len = FlowStats.total (lens ++ [len]) := by
  have widened : len.setWidth 64 = BitVec.ofNat 64 len.toNat := by simp
  by_cases empty : lens = []
  · rw [empty, FlowStats.total?, if_pos rfl, FlowStats.record, FlowStats.first, FlowStats.total, widened]
    rfl
  · rw [FlowStats.total?, if_neg empty, FlowStats.record, FlowStats.total, FlowStats.add,
      FlowStats.total, widened, List.length_append, List.map_append, List.sum_append,
      BitVec.ofNat_add, BitVec.ofNat_add]
    simp

theorem FlowStats.foldl_record (lens : List U32) :
    lens.foldl (fun stats len => some (FlowStats.record stats len)) none = FlowStats.total? lens := by
  induction lens using List.reverseRecOn with
  | nil => rfl
  | append_singleton lens len ih =>
      rw [List.foldl_append, ih, List.foldl_cons, List.foldl_nil, FlowStats.record_total?,
        FlowStats.total?, if_neg (by simp)]

section Step

variable {maps : TcMaps} {call : TcCall} {key : FlowKey}

/-- With room, a frame changes the statistics of its own flow only. -/
theorem find?_step (accounted : tcFlow? call.skb = some key)
    (room : maps.tcFlowStats.HasRoom key) (other : FlowKey) :
    (maps.step call).tcFlowStats.find? other =
      if key = other then some (FlowStats.record (maps.tcFlowStats.find? other) call.skb.len)
      else maps.tcFlowStats.find? other := by
  cases found : maps.tcFlowStats.lookup key with
  | none =>
      rw [TcMaps.step_new accounted found]
      exact CellMap.find?_insert_next (FlowStats.record · call.skb.len) found room other
  | some stats =>
      rw [TcMaps.step_known accounted found]
      exact CellMap.find?_assign_next (FlowStats.record · call.skb.len) found other

end Step

/-- The flow and the length that a frame adds to the table. -/
def TcCall.entry? (call : TcCall) : Option (FlowKey × U32) :=
  (tcFlow? call.skb).map fun key => (key, call.skb.len)

theorem under_entries (key : FlowKey) (calls : List TcCall) :
    Runs.under key (calls.filterMap TcCall.entry?) = lensOf key (calls.map TcCall.skb) := by
  induction calls with
  | nil => rfl
  | cons call rest ih =>
      cases accounted : tcFlow? call.skb with
      | none => simpa [TcCall.entry?, accounted, lensOf, Runs.under] using ih
      | some flow =>
          by_cases same : flow = key
          · simpa [TcCall.entry?, accounted, lensOf, Runs.under, same] using ih
          · simpa [TcCall.entry?, accounted, lensOf, Runs.under, same] using ih

theorem mem_flowsOf {key : FlowKey} {frames : List SkBuff} :
    key ∈ flowsOf frames ↔ lensOf key frames ≠ [] := by
  simp [flowsOf, lensOf]

/-- With room, a frame adds its entry to the table. -/
theorem TcMaps.touches (maps : TcMaps) (call : TcCall)
    (room : ∀ key ∈ tcFlow? call.skb, maps.tcFlowStats.HasRoom key) :
    Runs.Touches TcMaps.step (fun maps => maps.tcFlowStats.find?) (fun _ call => call.entry?)
      FlowStats.record maps call := by
  intro key
  cases accounted : tcFlow? call.skb with
  | none => simp [TcCall.entry?, accounted, TcMaps.step_rejected accounted]
  | some flow =>
      simp only [TcCall.entry?, accounted]
      exact find?_step accounted (room flow accounted) key

/-- **The table after a run**: every flow holds the totals of its own frames. -/
theorem find?_run {calls : List TcCall}
    (fewFlows : (flowsOf (calls.map TcCall.skb)).toFinset.card ≤ 10240) (key : FlowKey) :
    (TcMaps.run calls).tcFlowStats.find? key =
      FlowStats.total? (lensOf key (calls.map TcCall.skb)) := by
  have keyed {call : TcCall} {entry : FlowKey × U32} (isEntry : call.entry? = some entry) :
      tcFlow? call.skb = some entry.1 := by
    obtain ⟨flow, accounted, rfl⟩ := Option.map_eq_some_iff.mp isEntry
    exact accounted
  rw [flowsOf, List.filterMap_map] at fewFlows
  have start : TcMaps.initial.tcFlowStats = .empty := rfl
  have room := CellMap.before_of_few_keys TcMaps.touches keyed start fewFlows
  have touches := room.imp TcMaps.touches
  have ran := Runs.find_run touches key
  rw [Runs.emitted_of_events, under_entries] at ran
  rw [TcMaps.run, ran]
  exact FlowStats.foldl_record _

theorem keys_run {calls : List TcCall}
    (fewFlows : (flowsOf (calls.map TcCall.skb)).toFinset.card ≤ 10240) :
    (TcMaps.run calls).tcFlowStats.keys = (flowsOf (calls.map TcCall.skb)).toFinset := by
  ext key
  rw [CellMap.mem_keys, find?_run fewFlows, List.mem_toFinset, mem_flowsOf, FlowStats.total?]
  split
  · rename_i empty
    simp [empty]
  · rename_i nonempty
    simp [nonempty]

/-- The totals do not depend on the order of the frames. -/
theorem total?_perm {frames others : List SkBuff} (perm : others.Perm frames) (key : FlowKey) :
    FlowStats.total? (lensOf key others) = FlowStats.total? (lensOf key frames) := by
  have lens : (lensOf key others).Perm (lensOf key frames) := (perm.filter _).map _
  have empties : lensOf key others = [] ↔ lensOf key frames = [] :=
    ⟨fun empty => (empty ▸ lens).nil_eq.symm, fun empty => (empty ▸ lens).eq_nil⟩
  have sums : ((lensOf key others).map BitVec.toNat).sum = ((lensOf key frames).map BitVec.toNat).sum :=
    (lens.map _).sum_eq
  simp only [FlowStats.total?, FlowStats.total, empties, lens.length_eq, sums]

/-- A UDP datagram from the given address. -/
def frameFrom (source : U32) : Built where
  macDestination := Vector.replicate 6 0
  macSource := Vector.replicate 6 0
  ip :=
    { ihl := 5, tos := 0, totalLength := 28, identification := 0, flags := 0, ttl := 64, checksum := 0
      source := source, destination := 0x0a000001, options := [], atLeastFive := by decide
      optionsFill := by decide }
  segment := .udp { source := 53, destination := 53, length := 8, checksum := 0 }
  payload := []

/-- Its flow. -/
def flowFrom (source : U32) : FlowKey where
  saddr := bswap32 source
  daddr := bswap32 0x0a000001
  sport := 53
  dport := 53
  protocol := IPPROTO_UDP

/-- Handling it with ring space. -/
def callFrom (source : U32) : TcCall where
  skb := { bytes := (frameFrom source).bytes, len := 42, mark := 0 }
  ktimeGetNs := 0
  reserved := some (tcRecord { bytes := [], len := 0, mark := 0 } 0 (flowFrom 0) 0)

theorem tcFlow?_callFrom (source : U32) : tcFlow? (callFrom source).skb = some (flowFrom source) := by
  rw [tcFlow?_eq]
  change tuple? FlowKey.mk (dissect (frameFrom source).bytes) = _
  rw [Built.dissect_bytes]
  rfl

theorem flowFrom_injective : Function.Injective flowFrom := by
  intro first second same
  have swapped : bswap32 first = bswap32 second := congrArg FlowKey.saddr same
  rw [← Wire.swap32_swap32 first, ← Wire.swap32_swap32 second]
  exact congrArg Wire.swap32 swapped

/-- A TCP segment from the given address, with the ports of the datagram. -/
def segmentFrom (source : U32) : Built where
  macDestination := (frameFrom source).macDestination
  macSource := (frameFrom source).macSource
  ip := (frameFrom source).ip
  segment := .tcp
    { source := 53, destination := 53, sequence := 1, acknowledgment := 0, dataOffset := 0x50, flags := 2
      window := 1024, checksum := 0, urgent := 0, options := [] }
  payload := []

/-- Its flow. -/
def tcpFlowFrom (source : U32) : FlowKey :=
  { flowFrom source with protocol := IPPROTO_TCP }

/-- Handling it with ring space. -/
def tcpCallFrom (source : U32) : TcCall :=
  { callFrom source with skb := { bytes := (segmentFrom source).bytes, len := 54, mark := 0 } }

theorem tcFlow?_tcpCallFrom (source : U32) :
    tcFlow? (tcpCallFrom source).skb = some (tcpFlowFrom source) := by
  rw [tcFlow?_eq]
  change tuple? FlowKey.mk (dissect (segmentFrom source).bytes) = _
  rw [Built.dissect_bytes]
  rfl

/-- **Flow accounting is exact and does not depend on the order of the frames.** The flow of a frame is read
off the dissection of its bytes. -/
theorem tc_flow_accounting (calls : List TcCall)
    (fewFlows : (flowsOf (calls.map TcCall.skb)).toFinset.card ≤ 10240) :
    (∀ skb, tcFlow? skb = tuple? FlowKey.mk (dissect skb.bytes)) ∧
      (TcMaps.run calls).tcFlowStats.keys = (flowsOf (calls.map TcCall.skb)).toFinset ∧
      (∀ key ∈ flowsOf (calls.map TcCall.skb), (TcMaps.run calls).tcFlowStats.find? key =
        some (FlowStats.total (lensOf key (calls.map TcCall.skb)))) ∧
      (∀ call, tcFlow? call.skb = none → ∀ maps : TcMaps, maps.step call = maps) ∧
      ∀ others : List TcCall, (others.map TcCall.skb).Perm (calls.map TcCall.skb) → ∀ key,
        (TcMaps.run others).tcFlowStats.find? key = (TcMaps.run calls).tcFlowStats.find? key := by
  refine ⟨tcFlow?_eq, keys_run fewFlows, ?_, ?_, ?_⟩
  · intro key member
    rw [find?_run fewFlows, FlowStats.total?, if_neg (mem_flowsOf.mp member)]
  · intro call rejected maps
    exact TcMaps.step_rejected rejected
  · intro others perm key
    have sameFlows : (flowsOf (others.map TcCall.skb)).toFinset =
        (flowsOf (calls.map TcCall.skb)).toFinset :=
      List.toFinset_eq_of_perm _ _ (perm.filterMap _)
    rw [find?_run fewFlows, find?_run (sameFlows ▸ fewFlows), total?_perm perm]

/-- Two datagrams and two segments, of two addresses. -/
def mixedCalls : List TcCall :=
  [callFrom 1, tcpCallFrom 1, callFrom 2, tcpCallFrom 1]

/-- TCP and UDP between the same ports are two flows. -/
theorem tc_flow_accounting_mixed :
    (TcMaps.run mixedCalls).tcFlowStats.keys = {flowFrom 1, tcpFlowFrom 1, flowFrom 2} ∧
      (TcMaps.run mixedCalls).tcFlowStats.find? (tcpFlowFrom 1) = some { packets := 2, bytes := 108 } ∧
      (TcMaps.run mixedCalls).tcFlowStats.find? (flowFrom 1) = some { packets := 1, bytes := 42 } := by
  have flows : flowsOf (mixedCalls.map TcCall.skb) =
      [flowFrom 1, tcpFlowFrom 1, flowFrom 2, tcpFlowFrom 1] := by
    simp [flowsOf, mixedCalls, tcFlow?_callFrom, tcFlow?_tcpCallFrom]
  have fewFlows : (flowsOf (mixedCalls.map TcCall.skb)).toFinset.card ≤ 10240 := by
    rw [flows]
    exact Nat.le_trans (List.toFinset_card_le _) (by decide)
  have accounting := tc_flow_accounting mixedCalls fewFlows
  rw [flows] at accounting
  obtain ⟨-, keys, totals, -⟩ := accounting
  have entries : mixedCalls.filterMap TcCall.entry? =
      [(flowFrom 1, 42), (tcpFlowFrom 1, 54), (flowFrom 2, 42), (tcpFlowFrom 1, 54)] := by
    simp only [mixedCalls, List.filterMap_cons, List.filterMap_nil, TcCall.entry?, tcFlow?_callFrom,
      tcFlow?_tcpCallFrom, Option.map_some]
    rfl
  have segments : lensOf (tcpFlowFrom 1) (mixedCalls.map TcCall.skb) = [54, 54] := by
    rw [← under_entries, entries]
    decide
  have datagrams : lensOf (flowFrom 1) (mixedCalls.map TcCall.skb) = [42] := by
    rw [← under_entries, entries]
    decide
  refine ⟨?_, ?_, ?_⟩
  · rw [keys]
    decide
  · rw [totals (tcpFlowFrom 1) (by simp), segments]
    rfl
  · rw [totals (flowFrom 1) (by simp), datagrams]
    rfl

end MonsaEbpf.S2
