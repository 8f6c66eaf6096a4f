/-
Module: MonsaEbpf.S2.TcClassifier
Layer: S2
Purpose: S2-advanced/examples/network/tc/example_tc_classifier.bpf.c. The classifier parses a frame into a
  flow key, counts the frame and its length in `tc_flow_stats` and samples a record. The `bpf_printk` line
  changes no state and is left out. `tcFlowKey_eq` states the key in terms of the dissection of the bytes;
  `TcMaps.step_rejected`, `step_new` and `step_known` state what one run of the handler alone does.
Imports: MonsaEbpf.Bpf.Counting, MonsaEbpf.Bpf.Packet
Trusted boundary: human-reviewed translation
Main exports: FlowKey, FlowStats, TcEvent, TcMaps, tcFlowKey, msbTcClassifier, tcFlowKey_eq,
  msbTcClassifier_searches, tcFlow?, TcCall, TcMaps.step, TcMaps.step_rejected, TcMaps.step_new, TcMaps.step_known
-/
import MonsaEbpf.Bpf.Counting
import MonsaEbpf.Bpf.Packet

namespace MonsaEbpf.S2

open Wire Ipv4Frame FirstTouch

/-- `struct tc_event`. -/
structure TcEvent where
  timestampNs : U64
  saddr : U32
  daddr : U32
  sport : U16
  dport : U16
  protocol : U8
  len : U32
  mark : U32
  count : U64
deriving Repr, DecidableEq

/-- `struct flow_key`; its padding is zeroed by `key = {0}`. -/
structure FlowKey where
  saddr : U32
  daddr : U32
  sport : U16
  dport : U16
  protocol : U8
deriving Repr, DecidableEq

/-- `struct flow_stats`. -/
structure FlowStats where
  packets : U64
  bytes : U64
deriving Repr, DecidableEq

instance : Inhabited FlowStats := ⟨⟨0, 0⟩⟩

namespace FlowStats

def packetsField : Field FlowStats U64 := ⟨packets, fun stats v => { stats with packets := v }⟩
def bytesField : Field FlowStats U64 := ⟨bytes, fun stats v => { stats with bytes := v }⟩

end FlowStats

/-- The maps of the program. -/
structure TcMaps where
  tcFlowStats : CellMap FlowKey FlowStats 10240
  tcEvents : List TcEvent

inductive TcMap where
  | tcFlowStats
deriving DecidableEq, Repr

def tcFlowStats : MapRef TcMap TcMaps FlowKey FlowStats 10240 where
  name := .tcFlowStats
  get := TcMaps.tcFlowStats
  set := fun maps map => { maps with tcFlowStats := map }
  get_set := fun _ _ => rfl
  set_get := fun _ => rfl
  set_set := fun _ _ _ => rfl

def tcEvents : RingRef TcMaps TcEvent where
  get := TcMaps.tcEvents
  set := fun maps events => { maps with tcEvents := events }

def TC_ACT_OK : S32 := 0

/-- The flow key of a frame, none when the classifier returns early. -/
def tcFlowKey (bytes : List U8) : Access (Option FlowKey) :=
  ipv4Tuple bytes FlowKey.mk

abbrev TcProgram := StepProgram (BpfOp TcMap) TcMaps

/-- Count the frame in its flow; the pointer is none for a flow that was not found. -/
def accountFlow (key : FlowKey) (len : U32) : TcProgram (Option Nat) := do
  let stats ← bpfMapLookupElem tcFlowStats key
  match stats with
  | none => do
      let _ ← bpfMapUpdateElem tcFlowStats key { packets := 1, bytes := len.setWidth 64 }
      return none
  | some stats => do
      let _ ← syncFetchAndAdd tcFlowStats stats FlowStats.packetsField 1
      let _ ← syncFetchAndAdd tcFlowStats stats FlowStats.bytesField (len.setWidth 64)
      return some stats

/-- The test of `if (stats && (stats->packets % 100) != 0)`. -/
def skipsSample (stats : Option Nat) : TcProgram Bool :=
  match stats with
  | none => return false
  | some stats => do
      let packets ← load tcFlowStats stats FlowStats.packets
      return packets % 100 ≠ 0

/-- `stats ? stats->packets : 1`. -/
def sampleCount (stats : Option Nat) : TcProgram U64 :=
  match stats with
  | none => return 1
  | some stats => load tcFlowStats stats FlowStats.packets

/-- The record of a frame; every field of the reserved memory is written. -/
def tcRecord (skb : SkBuff) (ktimeGetNs : U64) (key : FlowKey) (count : U64) : TcEvent where
  timestampNs := ktimeGetNs
  saddr := key.saddr
  daddr := key.daddr
  sport := key.sport
  dport := key.dport
  protocol := key.protocol
  len := skb.len
  mark := skb.mark
  count := count

/-- Reserve, fill and submit a record. -/
def emitSample (skb : SkBuff) (ktimeGetNs : U64) (reserved : Option TcEvent) (key : FlowKey)
    (stats : Option Nat) : TcProgram S32 := do
  let evt ← bpfRingbufReserve reserved
  match evt with
  | none => return TC_ACT_OK
  | some _ => do
      let count ← sampleCount stats
      bpfRingbufSubmit tcEvents (tcRecord skb ktimeGetNs key count)
      return TC_ACT_OK

/-- Sample 1/100 packets. -/
def sampleFlow (skb : SkBuff) (ktimeGetNs : U64) (reserved : Option TcEvent) (key : FlowKey)
    (stats : Option Nat) : TcProgram S32 := do
  let skips ← skipsSample stats
  if skips then return TC_ACT_OK
  else emitSample skb ktimeGetNs reserved key stats

/-- The classifier on a frame that has a flow key. -/
def classifyFlow (skb : SkBuff) (ktimeGetNs : U64) (reserved : Option TcEvent) (key : FlowKey) :
    TcProgram S32 := do
  let stats ← accountFlow key skb.len
  sampleFlow skb ktimeGetNs reserved key stats

/-- `msb_tc_classifier`; a read outside the frame would be a fault. -/
def msbTcClassifier (skb : SkBuff) (ktimeGetNs : U64) (reserved : Option TcEvent) :
    TcProgram (Access S32) :=
  match tcFlowKey skb.bytes with
  | .error fault => return .error fault
  | .ok none => return .ok TC_ACT_OK
  | .ok (some key) => do
      let verdict ← classifyFlow skb ktimeGetNs reserved key
      return .ok verdict

/-- No flow is known yet and nothing was submitted. -/
def TcMaps.initial : TcMaps where
  tcFlowStats := .empty
  tcEvents := []

/-- **The classifier's key is that of the dissection**, and no read is outside the bytes. -/
theorem tcFlowKey_eq (bytes : List U8) :
    tcFlowKey bytes = .ok (tuple? FlowKey.mk (dissect bytes)) :=
  ipv4Tuple_eq bytes FlowKey.mk

/-! ### Among other handlers -/

section Settled

variable {key : FlowKey}

theorem skipsSample_settled (stats : Option Nat) :
    (tcFlowStats.counter key FlowStats.packets).Settled (skipsSample stats) := by
  cases stats with
  | none => exact settled_ret false
  | some stats =>
      apply Settled.bind (settled_load _ _)
      exact fun packets => settled_ret _

theorem emitSample_settled (skb : SkBuff) (ktimeGetNs : U64) (reserved : Option TcEvent)
    (flow : FlowKey) (stats : Option Nat) :
    (tcFlowStats.counter key FlowStats.packets).Settled
      (emitSample skb ktimeGetNs reserved flow stats) := by
  have counts : (tcFlowStats.counter key FlowStats.packets).Settled (sampleCount stats) := by
    cases stats with
    | none => exact settled_ret 1
    | some stats => exact settled_load _ _
  apply Settled.bind (settled_reserve _)
  intro evt
  cases evt with
  | none => exact settled_ret TC_ACT_OK
  | some evt =>
      apply Settled.bind counts
      intro count
      apply Settled.bind
      · exact settled_submit _ fun _ _ => rfl
      · exact fun _ => settled_ret TC_ACT_OK

theorem sampleFlow_settled (skb : SkBuff) (ktimeGetNs : U64) (reserved : Option TcEvent)
    (flow : FlowKey) (stats : Option Nat) :
    (tcFlowStats.counter key FlowStats.packets).Settled
      (sampleFlow skb ktimeGetNs reserved flow stats) := by
  apply Settled.bind (skipsSample_settled stats)
  intro skips
  cases skips with
  | true => exact settled_ret TC_ACT_OK
  | false => exact emitSample_settled skb ktimeGetNs reserved flow stats

/-- On a frame with a flow key, the classifier looks for the statistics of the flow and counts the frame
once. -/
theorem msbTcClassifier_searches {skb : SkBuff} (ktimeGetNs : U64) (reserved : Option TcEvent)
    (accounted : tcFlowKey skb.bytes = .ok (some key)) :
    (tcFlowStats.counter key FlowStats.packets).Searches false
      (msbTcClassifier skb ktimeGetNs reserved) := by
  have sampling (stats : Option Nat) : (tcFlowStats.counter key FlowStats.packets).Settled
      (sampleFlow skb ktimeGetNs reserved key stats >>= fun verdict =>
        (StepProgram.ret (.ok verdict) : TcProgram (Access S32))) := by
    apply Settled.bind (sampleFlow_settled skb ktimeGetNs reserved key stats)
    exact fun verdict => settled_ret _
  rw [msbTcClassifier, accounted]
  simp only [classifyFlow, accountFlow, bind_assoc]
  apply searches_lookup
  · intro _
    simp only [bind_assoc]
    refine searches_insertOne (by decide) _ ?_ ?_
    · rfl
    · exact fun _ => sampling none
  · intro stats
    simp only [bind_assoc]
    apply adds_fetchAndAdd
    · intro value
      rfl
    · intro _
      apply Settled.bind
      · exact settled_fetchAndAdd _ _ _ fun _ _ => rfl
      · exact fun _ => sampling (some stats)

end Settled

/-! ### Run alone -/

/-- The statistics of a flow after its first frame. -/
def FlowStats.first (len : U32) : FlowStats where
  packets := 1
  bytes := len.setWidth 64

/-- The statistics of a flow after one more frame. -/
def FlowStats.add (stats : FlowStats) (len : U32) : FlowStats where
  packets := stats.packets + 1
  bytes := stats.bytes + len.setWidth 64

/-- The flow key of a frame; a frame without one is rejected. -/
def tcFlow? (skb : SkBuff) : Option FlowKey :=
  match tcFlowKey skb.bytes with
  | .error _ => none
  | .ok key => key

/-- One invocation of the classifier, with the outcome of its reservation. -/
structure TcCall where
  skb : SkBuff
  ktimeGetNs : U64
  reserved : Option TcEvent

/-- Run one handler alone. -/
def TcMaps.step (maps : TcMaps) (call : TcCall) : TcMaps :=
  ((msbTcClassifier call.skb call.ktimeGetNs call.reserved).exec maps).2

/-- The record an invocation submits when its reservation succeeds. -/
def TcCall.record (call : TcCall) (key : FlowKey) (count : U64) : List TcEvent :=
  (call.reserved.map fun _ => tcRecord call.skb call.ktimeGetNs key count).toList

section Alone

variable {maps : TcMaps} {call : TcCall} {key : FlowKey}

theorem tcFlow?_eq (skb : SkBuff) : tcFlow? skb = tuple? FlowKey.mk (dissect skb.bytes) := by
  rw [tcFlow?, tcFlowKey_eq]

theorem tcFlowKey_of_tcFlow? (skb : SkBuff) : tcFlowKey skb.bytes = .ok (tcFlow? skb) := by
  rw [tcFlow?_eq, tcFlowKey_eq]

/-- A rejected frame changes nothing. -/
theorem TcMaps.step_rejected (rejected : tcFlow? call.skb = none) : maps.step call = maps := by
  rw [TcMaps.step, msbTcClassifier, tcFlowKey_of_tcFlow?, rejected]
  rfl

theorem TcMaps.step_accounted (accounted : tcFlow? call.skb = some key) :
    maps.step call =
      ((classifyFlow call.skb call.ktimeGetNs call.reserved key).exec maps).2 := by
  rw [TcMaps.step, msbTcClassifier, tcFlowKey_of_tcFlow?, accounted]
  simp only [StepProgram.exec_bind]
  rfl

theorem exec_accountFlow_new (len : U32) (absent : maps.tcFlowStats.lookup key = none) :
    (accountFlow key len).exec maps =
      (none, { maps with tcFlowStats := maps.tcFlowStats.insert key (FlowStats.first len) }) := by
  rw [accountFlow, exec_lookup_bind S2.tcFlowStats absent]
  rfl

theorem exec_add_flow {stats : Nat} (allocated : stats < maps.tcFlowStats.cells.length)
    (value : FlowStats) (field : Field FlowStats U64) (amount : U64) :
    (syncFetchAndAdd tcFlowStats stats field amount).exec (tcFlowStats.holding maps stats value) =
      (field.get value,
        tcFlowStats.holding maps stats (field.set value (field.get value + amount))) :=
  exec_syncFetchAndAdd_holding allocated value field amount

theorem exec_load_flow {stats : Nat} (allocated : stats < maps.tcFlowStats.cells.length)
    (value : FlowStats) :
    (load tcFlowStats stats FlowStats.packets).exec (tcFlowStats.holding maps stats value) =
      (value.packets, tcFlowStats.holding maps stats value) :=
  exec_load_holding allocated value FlowStats.packets

theorem exec_accountFlow_known {stats : Nat} (len : U32)
    (found : maps.tcFlowStats.lookup key = some stats) :
    (accountFlow key len).exec maps =
      (some stats,
        tcFlowStats.holding maps stats ((maps.tcFlowStats.read stats).add len)) := by
  have allocated : stats < maps.tcFlowStats.cells.length := maps.tcFlowStats.live found
  have held : tcFlowStats.holding maps stats (maps.tcFlowStats.read stats) = maps :=
    holding_read allocated
  have added : StepProgram.exec (do
      let _ ← syncFetchAndAdd tcFlowStats stats FlowStats.packetsField 1
      let _ ← syncFetchAndAdd tcFlowStats stats FlowStats.bytesField (len.setWidth 64)
      return some stats) (tcFlowStats.holding maps stats (maps.tcFlowStats.read stats)) =
      (some stats,
        tcFlowStats.holding maps stats ((maps.tcFlowStats.read stats).add len)) := by
    simp only [StepProgram.exec_bind, exec_add_flow allocated]
    rfl
  rw [held] at added
  rw [accountFlow, exec_lookup_bind S2.tcFlowStats found]
  exact added

theorem exec_emitSample_known {stats : Nat} (allocated : stats < maps.tcFlowStats.cells.length)
    (value : FlowStats) (call : TcCall) (key : FlowKey) :
    (emitSample call.skb call.ktimeGetNs call.reserved key (some stats)).exec
        (tcFlowStats.holding maps stats value) =
      (TC_ACT_OK,
        { tcFlowStats := maps.tcFlowStats.assign stats value
          tcEvents := maps.tcEvents ++ call.record key value.packets }) := by
  rw [emitSample, StepProgram.exec_bind, exec_bpfRingbufReserve, TcCall.record]
  cases call.reserved with
  | none =>
      change (TC_ACT_OK, tcFlowStats.holding maps stats value) = _
      rw [Option.map_none, Option.toList_none, List.append_nil]
      rfl
  | some memory =>
      change StepProgram.exec (sampleCount (some stats) >>= _) _ = _
      rw [StepProgram.exec_bind, sampleCount, exec_load_flow allocated]
      rfl

/-- Sampling a flow whose statistics are `value`. -/
theorem exec_sampleFlow_known {stats : Nat} (allocated : stats < maps.tcFlowStats.cells.length)
    (value : FlowStats) (call : TcCall) (key : FlowKey) :
    ((sampleFlow call.skb call.ktimeGetNs call.reserved key (some stats)).exec
        (tcFlowStats.holding maps stats value)).2 =
      { tcFlowStats := maps.tcFlowStats.assign stats value
        tcEvents := maps.tcEvents ++
          if value.packets % 100 = 0 then call.record key value.packets else [] } := by
  rw [sampleFlow, skipsSample, StepProgram.exec_bind, StepProgram.exec_bind,
    exec_load_flow allocated]
  change Prod.snd (StepProgram.exec (if decide (value.packets % 100 ≠ 0) = true then _ else _)
    (tcFlowStats.holding maps stats value)) = _
  by_cases hundredth : value.packets % 100 = 0
  · have kept : ¬ decide (value.packets % 100 ≠ 0) = true := fun skips =>
      (of_decide_eq_true skips : value.packets % 100 ≠ 0) hundredth
    rw [if_neg kept, if_pos hundredth, exec_emitSample_known allocated]
  · rw [if_pos (decide_eq_true hundredth), if_neg hundredth, List.append_nil]
    rfl

/-- **The first frame of a flow**, and every frame of a flow that found no room: one is inserted when there
is room, and a record with count one is submitted. -/
theorem TcMaps.step_new (accounted : tcFlow? call.skb = some key)
    (absent : maps.tcFlowStats.lookup key = none) :
    maps.step call =
      { tcFlowStats := maps.tcFlowStats.insert key (FlowStats.first call.skb.len)
        tcEvents := maps.tcEvents ++ call.record key 1 } := by
  rw [TcMaps.step_accounted accounted, classifyFlow, StepProgram.exec_bind,
    exec_accountFlow_new _ absent, TcCall.record]
  cases call.reserved with
  | none => simp [sampleFlow, skipsSample, emitSample]
  | some memory => rfl

/-- **A further frame of a flow**: both counters grow, and a record is submitted when the number of packets
is a multiple of a hundred. -/
theorem TcMaps.step_known {stats : Nat} (accounted : tcFlow? call.skb = some key)
    (found : maps.tcFlowStats.lookup key = some stats) :
    maps.step call =
      { tcFlowStats := maps.tcFlowStats.assign stats
          ((maps.tcFlowStats.read stats).add call.skb.len)
        tcEvents := maps.tcEvents ++
          if ((maps.tcFlowStats.read stats).packets + 1) % 100 = 0 then
            call.record key ((maps.tcFlowStats.read stats).packets + 1)
          else [] } := by
  rw [TcMaps.step_accounted accounted, classifyFlow, StepProgram.exec_bind,
    exec_accountFlow_known _ found]
  exact exec_sampleFlow_known (maps.tcFlowStats.live found) _ call key

end Alone

end MonsaEbpf.S2
