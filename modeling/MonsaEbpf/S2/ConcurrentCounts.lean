/-
Module: MonsaEbpf.S2.ConcurrentCounts
Layer: S2
Purpose: The programs that count under keys, with any number of invocations under any keys at the same time:
  the counter maps of the tracing, cgroup and network programs, the flow table of the traffic classifier, the
  decisions of the security hook and the calls of the kretprobe program. Keys that have an entry lose
  nothing; keys that get theirs meanwhile can lose counts to an insertion that overwrites them, but hold no
  more than was counted under them.
Imports: MonsaEbpf.Bpf.ManyKeys, MonsaEbpf.S2.EventCounts, MonsaEbpf.S2.KretprobeExtremes,
  MonsaEbpf.S2.LsmFileOpen, MonsaEbpf.S2.SamplingTickets, MonsaEbpf.S2.SkLookup, MonsaEbpf.S2.TcAccounting,
  MonsaEbpf.S1.Kprobe, MonsaEbpf.S1.SkLookup, MonsaEbpf.S1.Uprobe
Trusted boundary: none
Main exports: concurrent_counts_are_exact
-/
import MonsaEbpf.Bpf.ManyKeys
import MonsaEbpf.S2.EventCounts
import MonsaEbpf.S2.KretprobeExtremes
import MonsaEbpf.S2.LsmFileOpen
import MonsaEbpf.S2.SamplingTickets
import MonsaEbpf.S2.SkLookup
import MonsaEbpf.S2.TcAccounting
import MonsaEbpf.S1.Kprobe
import MonsaEbpf.S1.SkLookup
import MonsaEbpf.S1.Uprobe

namespace MonsaEbpf.S2

/-! ### The traffic classifier -/

/-- One invocation of the classifier. -/
def TcCall.handle (call : TcCall) : TcProgram (Wire.Access S32) :=
  msbTcClassifier call.skb call.ktimeGetNs call.reserved

/-- The flow of a frame that is accounted. -/
def TcCall.flow? (call : TcCall) : Option FlowKey :=
  tcFlow? call.skb

section Tc

variable {field : FlowStats → U64} {key : FlowKey} {held : Option Nat}

theorem sampleFlow_idle (call : TcCall) (stats : Option Nat) :
    tcFlowStats.Idle field held (sampleFlow call.skb call.ktimeGetNs call.reserved key stats) := by
  have counts : tcFlowStats.Idle field held (sampleCount stats) := by
    cases stats with
    | none => exact .ret 1
    | some stats => exact idle_load _ _
  have skips : tcFlowStats.Idle field held (skipsSample stats) := by
    cases stats with
    | none => exact .ret false
    | some stats => exact StepProgram.AllSteps.bind (idle_load _ _) fun _ => .ret _
  apply StepProgram.AllSteps.bind skips
  intro skip
  cases skip with
  | true => exact .ret TC_ACT_OK
  | false =>
      apply StepProgram.AllSteps.bind (idle_single fun _ => rfl)
      intro evt
      cases evt with
      | none => exact .ret TC_ACT_OK
      | some evt =>
          apply StepProgram.AllSteps.bind counts
          intro count
          exact StepProgram.AllSteps.bind (idle_single fun _ => rfl) fun _ => .ret TC_ACT_OK

/-- The classifier on a frame of a flow, up to the accounting. -/
theorem classifier_counting {call : TcCall} {amount : Nat} (accounted : call.flow? = some key)
    (inserts : (field { packets := 1, bytes := call.skb.len.setWidth 64 }).toNat ≤ amount)
    (adds : ∀ stats (rest : StepProgram (BpfOp TcMap) TcMaps (Wire.Access S32)),
      tcFlowStats.Idle field (some stats) rest →
      Counting tcFlowStats field key (.found stats) amount (do
        let _ ← syncFetchAndAdd tcFlowStats stats FlowStats.packetsField 1
        let _ ← syncFetchAndAdd tcFlowStats stats FlowStats.bytesField (call.skb.len.setWidth 64)
        rest)) :
    Counting tcFlowStats field key .notYet amount call.handle := by
  have closing (held : Option Nat) (stats : Option Nat) : tcFlowStats.Idle field held
      (sampleFlow call.skb call.ktimeGetNs call.reserved key stats >>= fun verdict =>
        (StepProgram.ret (.ok verdict) : TcProgram (Wire.Access S32))) :=
    StepProgram.AllSteps.bind (sampleFlow_idle call stats) fun _ => .ret _
  have parsed : tcFlowKey call.skb.bytes = .ok (some key) := by
    rw [tcFlowKey_of_tcFlow?, ← accounted]
    rfl
  rw [TcCall.handle, msbTcClassifier, parsed]
  simp only [classifyFlow, accountFlow, bind_assoc]
  apply Counting.lookup
  · simp only [bind_assoc]
    exact Counting.insert inserts fun _ => Counting.of_idle (closing none none)
  · intro stats
    simp only [bind_assoc]
    exact adds stats _ (closing (some stats) (some stats))

theorem classifier_packets {call : TcCall} (accounted : call.flow? = some key) :
    Counting tcFlowStats FlowStats.packets key .notYet 1 call.handle := by
  apply classifier_counting accounted
  · exact Nat.le_refl 1
  · intro stats rest idle
    change Counting _ _ _ _ (1 + 0) _
    apply Counting.fetchAndAdd
    · intro old
      rfl
    · intro _
      apply Counting.of_idle
      exact StepProgram.AllSteps.bind (idle_fetchAndAdd (fun _ _ => rfl) _) fun _ => idle

theorem classifier_bytes {call : TcCall} (accounted : call.flow? = some key) :
    Counting tcFlowStats FlowStats.bytes key .notYet call.skb.len.toNat call.handle := by
  have widened : call.skb.len.setWidth 64 = BitVec.ofNat 64 call.skb.len.toNat := by simp
  apply classifier_counting accounted
  · change (call.skb.len.setWidth 64).toNat ≤ call.skb.len.toNat
    rw [widened, BitVec.toNat_ofNat]
    exact Nat.mod_le _ _
  · intro stats rest idle
    apply Counting.idle (idle_fetchAndAdd (fun _ _ => rfl) _)
    intro _
    change Counting _ _ _ _ (call.skb.len.toNat + 0) _
    apply Counting.fetchAndAdd
    · intro old
      rw [← widened]
      rfl
    · exact fun _ => Counting.of_idle idle

theorem classifier_rejects {call : TcCall} (rejected : call.flow? = none) :
    tcFlowStats.Idle field held call.handle := by
  have parsed : tcFlowKey call.skb.bytes = .ok none := by
    rw [tcFlowKey_of_tcFlow?, ← rejected]
    rfl
  rw [TcCall.handle, msbTcClassifier, parsed]
  exact .ret _

end Tc

/-! ### The security hook -/

/-- The process of an open that is counted. -/
def LsmCall.pid? (call : LsmCall) : Option U32 :=
  call.reserved.map fun _ => pidOf call.task.pidTgid

section Lsm

variable {field : LsmStats → U64} {key : U32} {held : Option Nat}

theorem fileOpen_rejects {call : LsmCall} (rejected : call.pid? = none) :
    lsmStatsMap.Idle field held (msbLsmFileOpen call) := by
  have unreserved : call.reserved = none := Option.map_eq_none_iff.mp rejected
  rw [msbLsmFileOpen, unreserved]
  exact ⟨Or.inl fun _ => rfl, fun _ => trivial⟩

/-- An open with ring space, up to the count of its decision. -/
theorem fileOpen_counting {call : LsmCall} {amount : Nat} (counted : call.pid? = some key)
    (inserts : (field LsmStats.first).toNat ≤ amount)
    (adds : ∀ stats (rest : U64 → LsmProgram S32),
      (∀ count, lsmStatsMap.Idle field (some stats) (rest count)) →
      Counting lsmStatsMap field key (.found stats) amount (do
        let _ ← syncFetchAndAdd lsmStatsMap stats LsmStats.allowField 1
        let count ← load lsmStatsMap stats LsmStats.allowCount
        rest count)) :
    Counting lsmStatsMap field key .notYet amount (msbLsmFileOpen call) := by
  obtain ⟨memory, reserved, rfl⟩ := Option.map_eq_some_iff.mp counted
  have submits (held : Option Nat) (count : U64) : lsmStatsMap.Idle field held (do
      bpfRingbufSubmit lsmEvents (lsmEvent call 0 count)
      return (0 : S32)) :=
    StepProgram.AllSteps.bind (idle_single fun _ => rfl) fun _ => .ret _
  rw [msbLsmFileOpen, reserved]
  apply Counting.beside fun _ => rfl
  intro _
  change Counting _ _ _ _ _ (lsmCount (pidOf call.task.pidTgid) 0 >>= fun count => do
    bpfRingbufSubmit lsmEvents (lsmEvent call 0 count)
    return 0)
  rw [lsmCount]
  simp only [bind_assoc]
  apply Counting.lookup
  · simp only [bind_assoc]
    exact Counting.insert inserts fun _ => Counting.of_idle (submits none 1)
  · intro stats
    simp only [countDecision, if_pos, bind_assoc]
    exact adds stats _ (submits (some stats))

theorem fileOpen_allows {call : LsmCall} (counted : call.pid? = some key) :
    Counting lsmStatsMap LsmStats.allowCount key .notYet 1 (msbLsmFileOpen call) := by
  apply fileOpen_counting counted
  · exact Nat.le_refl 1
  · intro stats rest idle
    change Counting _ _ _ _ (1 + 0) _
    apply Counting.fetchAndAdd
    · intro old
      rfl
    · intro _
      exact Counting.of_idle (StepProgram.AllSteps.bind (idle_load _ _) idle)

theorem fileOpen_denies {call : LsmCall} (counted : call.pid? = some key) :
    Counting lsmStatsMap LsmStats.denyCount key .notYet 0 (msbLsmFileOpen call) := by
  apply fileOpen_counting counted
  · exact Nat.le_refl 0
  · intro stats rest idle
    apply Counting.of_idle
    apply StepProgram.AllSteps.bind (idle_fetchAndAdd (fun _ _ => rfl) _)
    exact fun _ => StepProgram.AllSteps.bind (idle_load _ _) idle

end Lsm

/-! ### The kretprobe program -/

/-- One invocation of the exit handler, with the outcome of its reservation. -/
abbrev ExitInvocation := KretprobeCall × Option KretprobeEvent

def ExitInvocation.handle (exit : ExitInvocation) : KretprobeProgram S32 :=
  msbKretprobeOpenatExit exit.1 exit.2

/-- The process whose call returns. -/
def ExitInvocation.pid? (exit : ExitInvocation) : Option U32 :=
  some (pidOf exit.1.task.pidTgid)

section Kretprobe

variable {field : PidStats → U64} {key : U32} {held : Option Nat} {amount : Nat}

theorem exitLatency_idle (call : KretprobeCall) : pidStatistics.Idle field held (exitLatency call) :=
  exitLatency_allSteps (idle_single fun _ => rfl) (fun _ => idle_single fun _ => rfl)
    (idle_single fun _ => rfl)

theorem emitExit_idle (call : KretprobeCall) (reserved : Option KretprobeEvent) (isErr : U8) (latency : U64) :
    pidStatistics.Idle field held (emitExit call reserved isErr latency) :=
  emitExit_allSteps (idle_single fun _ => rfl) fun _ => idle_single fun _ => rfl

/-- A counter of the statistics that neither the latencies nor the return value are stored in. -/
structure IsCallCounter (field : PidStats → U64) : Prop where
  zero : field PidStats.zero = 0
  latency : PidStats.totalLatencyField.Ignored field
  min : PidStats.minLatencyField.Ignored field
  max : PidStats.maxLatencyField.Ignored field
  last : PidStats.lastRetvalField.Ignored field

/-- What follows the counters in an exit. -/
theorem exitTail_idle (counter : IsCallCounter field) {stats : Nat} {latency : U64} {retval : S64} {α : Type}
    {rest : KretprobeProgram α} (idle : pidStatistics.Idle field (some stats) rest) :
    pidStatistics.Idle field (some stats) (do
      accountLatency stats latency
      store pidStatistics stats PidStats.lastRetvalField retval
      rest) := by
  apply StepProgram.AllSteps.bind
  · exact accountLatency_allSteps (idle_fetchAndAdd counter.latency _)
      (fun _ => lowerMin_allSteps (fun _ => idle_load _ _) (idle_store counter.min _))
      (raiseMax_allSteps (fun _ => idle_load _ _) (idle_store counter.max _))
  · exact fun _ => StepProgram.AllSteps.bind (idle_store counter.last _) fun _ => idle

/-- An exit, up to its counters. -/
theorem exit_counting (counter : IsCallCounter field) {exit : ExitInvocation} (counted : exit.pid? = some key)
    (adds : ∀ stats (rest : KretprobeProgram S32), pidStatistics.Idle field (some stats) rest →
      Counting pidStatistics field key (.found stats) amount (do
        let _ ← syncFetchAndAdd pidStatistics stats PidStats.totalCallsField 1
        let _ ← accountOutcome stats (isErrorRetval exit.1.ptRegsRc)
        rest)) :
    Counting pidStatistics field key .notYet amount exit.handle := by
  obtain rfl := Option.some.inj counted
  have accounts (stats : Nat) (latency : U64) :
      Counting pidStatistics field (pidOf exit.1.task.pidTgid) (.found stats) amount (do
        accountExit stats (isErrorRetval exit.1.ptRegsRc) latency exit.1.ptRegsRc
        emitExit exit.1 exit.2 (isErrorRetval exit.1.ptRegsRc) latency) := by
    simp only [accountExit, bind_assoc]
    exact adds stats _ (exitTail_idle counter (emitExit_idle _ _ _ _))
  apply Counting.idle (exitLatency_idle exit.1)
  intro latency
  simp only [pidStats, bind_assoc]
  apply Counting.lookup
  · simp only [bind_assoc]
    rw [← Nat.zero_add amount]
    apply Counting.insert
    · rw [counter.zero]
      exact Nat.le_refl 0
    · intro _
      apply Counting.lookup
      · exact Counting.missed_of_idle (emitExit_idle _ _ _ _)
      · exact fun stats => accounts stats latency
  · exact fun stats => accounts stats latency

theorem exit_totalCalls {exit : ExitInvocation} (counted : exit.pid? = some key) :
    Counting pidStatistics PidStats.totalCalls key .notYet 1 exit.handle := by
  apply exit_counting ⟨rfl, fun _ _ => rfl, fun _ _ => rfl, fun _ _ => rfl, fun _ _ => rfl⟩ counted
  intro stats rest idle
  change Counting _ _ _ _ (1 + 0) _
  apply Counting.fetchAndAdd
  · intro old
    rfl
  · intro _
    apply Counting.of_idle
    exact StepProgram.AllSteps.bind (accountOutcome_allSteps (idle_fetchAndAdd (fun _ _ => rfl) _)
      (idle_fetchAndAdd (fun _ _ => rfl) _)) fun _ => idle

theorem exit_errorCalls {exit : ExitInvocation} (counted : exit.pid? = some key) :
    Counting pidStatistics PidStats.errorCalls key .notYet (errorOf exit.1) exit.handle := by
  apply exit_counting ⟨rfl, fun _ _ => rfl, fun _ _ => rfl, fun _ _ => rfl, fun _ _ => rfl⟩ counted
  intro stats rest idle
  apply Counting.idle (idle_fetchAndAdd (fun _ _ => rfl) _)
  intro _
  rw [accountOutcome, errorOf]
  split
  · change Counting _ _ _ _ (1 + 0) _
    apply Counting.fetchAndAdd
    · intro old
      rfl
    · exact fun _ => Counting.of_idle idle
  · exact Counting.of_idle (StepProgram.AllSteps.bind (idle_fetchAndAdd (fun _ _ => rfl) _) fun _ => idle)

theorem exit_successCalls {exit : ExitInvocation} (counted : exit.pid? = some key) :
    Counting pidStatistics PidStats.successCalls key .notYet (successOf exit.1) exit.handle := by
  apply exit_counting ⟨rfl, fun _ _ => rfl, fun _ _ => rfl, fun _ _ => rfl, fun _ _ => rfl⟩ counted
  intro stats rest idle
  apply Counting.idle (idle_fetchAndAdd (fun _ _ => rfl) _)
  intro _
  rw [accountOutcome, successOf]
  split
  · exact Counting.of_idle (StepProgram.AllSteps.bind (idle_fetchAndAdd (fun _ _ => rfl) _) fun _ => idle)
  · change Counting _ _ _ _ (1 + 0) _
    apply Counting.fetchAndAdd
    · intro old
      rfl
    · exact fun _ => Counting.of_idle idle

end Kretprobe

/-! ### The counter maps -/

theorem kprobe_countsManyKeys :
    CountsManyKeys kprobeCounts id KprobeCall.pid? (fun _ => 1) msbKprobeExecve := by
  rw [← kprobe_handler]
  exact kprobe.countsManyKeys fun _ _ _ => idle_emitEvent kprobe_apart.map_get_ring _ _ _

theorem cgroupSkb_countsManyKeys :
    CountsManyKeys cgroupSkbCounts id CgroupSkbCall.counted? (fun _ => 1) msbCgroupSkb := by
  rw [← cgroupSkb_handler]
  exact cgroupSkb.countsManyKeys fun _ _ _ => idle_emitSampled CounterMaps.apart.map_get_ring _ _ _ _

theorem socketFilter_countsManyKeys :
    CountsManyKeys sfCounts id SfCall.daddr? (fun _ => 1)
      fun call => msbSocketFilter call.skb call.ktimeGetNs call.reserved := by
  apply countsManyKeys_of_counting
  · intro call daddr counted
    rw [msbSocketFilter_eq daddr call counted]
    exact countEvent_counting fun _ _ => idle_emitSampled sfEvents_apart.map_get_ring _ _ _ _
  · intro call rejected
    have parsed : sfParse call.skb.bytes = .ok none := by
      rw [SfCall.daddr?, Option.map_eq_none_iff, sfTuple?, sfParse_eq] at rejected
      rw [sfParse_eq, ← rejected]
    rw [msbSocketFilter, parsed]
    exact .ret _

theorem esecve_countsManyKeys :
    CountsManyKeys S1.execCounts id (fun call => some (S1.ExecCall.pid call)) (fun _ => 1) S1.msbEsecve := by
  rw [← S1.esecve_handler]
  exact S1.esecve.countsManyKeys fun _ _ _ => idle_emitEvent CounterMaps.apart.map_get_ring _ _ _

/-- Counting without a report. -/
theorem uprobeTarget_counting (pidTgid : U64) :
    Counting S1.uprobeCount id (pidOf pidTgid) .notYet 1 (S1.msbUprobeTarget pidTgid) := by
  change Counting _ _ _ _ (1 + 0) _
  apply Counting.lookup
  · exact Counting.insert (Nat.le_refl 1) fun _ => Counting.ret _
  · intro cnt
    apply Counting.fetchAndAdd
    · intro old
      rfl
    · exact fun _ => Counting.ret _

theorem skLookupPort_counting (ctx : BpfSkLookup) :
    Counting S1.portCounts id ctx.remotePort .notYet 1 (S1.msbSkLookup ctx) := by
  change Counting _ _ _ _ (1 + 0) _
  apply Counting.lookup
  · exact Counting.insert (Nat.le_refl 1) fun _ => Counting.ret _
  · intro cnt
    apply Counting.fetchAndAdd
    · intro old
      rfl
    · exact fun _ => Counting.ret _

/-- **Concurrent counting.** In each of the programs, whatever the keys and the order of the steps: no key holds
more than was counted under it, and the keys that had an entry hold exactly that when all have returned. -/
theorem concurrent_counts_are_exact :
    CountsManyKeys kprobeCounts id KprobeCall.pid? (fun _ => 1) msbKprobeExecve ∧
    CountsManyKeys uprobeCounts id UprobeCall.pid? (fun _ => 1) msbUprobeEntry ∧
    CountsManyKeys tpCounts id TpCall.pid? (fun _ => 1) msbTracepoint ∧
    CountsManyKeys rawTpCounts id RawTpCall.pid? (fun _ => 1) msbRawTracepoint ∧
    CountsManyKeys perfCounts id PerfCall.pid? (fun _ => 1) msbPerfEvent ∧
    CountsManyKeys skLookupCounts id (fun call => some call.ctx.localIp4) (fun _ => 1) msbSkLookup ∧
    CountsManyKeys sfCounts id SfCall.daddr? (fun _ => 1)
      (fun call => msbSocketFilter call.skb call.ktimeGetNs call.reserved) ∧
    CountsManyKeys cgroupSkbCounts id CgroupSkbCall.counted? (fun _ => 1) msbCgroupSkb ∧
    CountsManyKeys cgroupDevice.counts id (fun call => some call.cgroupId) (fun _ => 1) msbCgroupDevice ∧
    CountsManyKeys cgroupSockAddr.counts id (fun call => some call.cgroupId) (fun _ => 1) msbCgroupSockAddr ∧
    CountsManyKeys cgroupSock.counts id (fun call => some call.cgroupId) (fun _ => 1) msbCgroupSock ∧
    CountsManyKeys cgroupSockopt.counts id (fun call => some call.cgroupId) (fun _ => 1) msbCgroupSockopt ∧
    CountsManyKeys cgroupSysctl.counts id (fun call => some call.cgroupId) (fun _ => 1) msbCgroupSysctl ∧
    CountsManyKeys cgroupBpf.counts id (fun call => some call.cgroupId) (fun _ => 1) msbCgroupBpf ∧
    CountsManyKeys S1.execCounts id (fun call => some (S1.ExecCall.pid call)) (fun _ => 1) S1.msbEsecve ∧
    CountsManyKeys S1.uprobeCount id (fun pidTgid => some (pidOf pidTgid)) (fun _ => 1) S1.msbUprobeTarget ∧
    CountsManyKeys S1.portCounts id (fun ctx => some ctx.remotePort) (fun _ => 1) S1.msbSkLookup ∧
    CountsManyKeys tcFlowStats FlowStats.packets TcCall.flow? (fun _ => 1) TcCall.handle ∧
    CountsManyKeys tcFlowStats FlowStats.bytes TcCall.flow? (fun call => call.skb.len.toNat) TcCall.handle ∧
    CountsManyKeys lsmStatsMap LsmStats.allowCount LsmCall.pid? (fun _ => 1) msbLsmFileOpen ∧
    CountsManyKeys lsmStatsMap LsmStats.denyCount LsmCall.pid? (fun _ => 0) msbLsmFileOpen ∧
    CountsManyKeys pidStatistics PidStats.totalCalls ExitInvocation.pid? (fun _ => 1) ExitInvocation.handle ∧
    CountsManyKeys pidStatistics PidStats.errorCalls ExitInvocation.pid? (fun exit => errorOf exit.1)
      ExitInvocation.handle ∧
    CountsManyKeys pidStatistics PidStats.successCalls ExitInvocation.pid? (fun exit => successOf exit.1)
      ExitInvocation.handle := by
  have always {C K : Type} {keyOf : C → K} {call : C} (rejected : some (keyOf call) = none) : False := by
    cases rejected
  have emits {K E : Type} [DecidableEq K] {maxEntries : Nat} {counted : Option Nat} {memory : Option E}
      {write : E → E} {verdict : S32} : MapRef.Idle CounterMaps.counters id counted
        (emitEvent (CounterMaps.ring : RingRef (CounterMaps K E maxEntries) E) memory write verdict) :=
    idle_emitEvent CounterMaps.apart.map_get_ring _ _ _
  refine ⟨kprobe_countsManyKeys, uprobe.countsManyKeys fun _ _ _ => emits,
    tracepoint.countsManyKeys fun _ _ _ => emits, rawTracepoint.countsManyKeys fun _ _ _ => emits, ?perf,
    skLookup.countsManyKeys fun _ _ _ => emits, socketFilter_countsManyKeys, cgroupSkb_countsManyKeys,
    cgroupDevice.countsManyKeys fun _ _ _ => emits, cgroupSockAddr.countsManyKeys fun _ _ _ => emits,
    cgroupSock.countsManyKeys fun _ _ _ => emits, cgroupSockopt.countsManyKeys fun _ _ _ => emits,
    cgroupSysctl.countsManyKeys fun _ _ _ => emits, cgroupBpf.countsManyKeys fun _ _ _ => emits,
    esecve_countsManyKeys, ?uprobe, ?skLookup, ?packets, ?bytes, ?allows, ?denies, ?total, ?errors, ?successes⟩
  case perf =>
    exact perfEvent.countsManyKeys fun _ _ _ => idle_emitSampled CounterMaps.apart.map_get_ring _ _ _ _
  case uprobe =>
    apply countsManyKeys_of_counting
    · rintro pidTgid _ ⟨⟩
      exact uprobeTarget_counting pidTgid
    · exact fun _ rejected => (always rejected).elim
  case skLookup =>
    apply countsManyKeys_of_counting
    · rintro ctx _ ⟨⟩
      exact skLookupPort_counting ctx
    · exact fun _ rejected => (always rejected).elim
  case packets => exact countsManyKeys_of_counting (fun _ _ => classifier_packets) fun _ => classifier_rejects
  case bytes => exact countsManyKeys_of_counting (fun _ _ => classifier_bytes) fun _ => classifier_rejects
  case allows => exact countsManyKeys_of_counting (fun _ _ => fileOpen_allows) fun _ => fileOpen_rejects
  case denies => exact countsManyKeys_of_counting (fun _ _ => fileOpen_denies) fun _ => fileOpen_rejects
  case total =>
    exact countsManyKeys_of_counting (fun _ _ => exit_totalCalls) fun _ rejected => (always rejected).elim
  case errors =>
    exact countsManyKeys_of_counting (fun _ _ => exit_errorCalls) fun _ rejected => (always rejected).elim
  case successes =>
    exact countsManyKeys_of_counting (fun _ _ => exit_successCalls) fun _ rejected => (always rejected).elim

/-- The process 1 has five calls, the process 2 none. One more call of the first is counted among two first
calls of the second, of which one is lost. -/
example :
    let start : S1.UprobeMaps := { uprobeCount := CellMap.empty.insert 1 5 }
    let calls : List U64 := [0x100000001, 0x200000001, 0x200000002]
    let later := (Config.run ⟨start, fun i : Fin 3 => S1.msbUprobeTarget calls[i]⟩ [1, 2, 0, 1, 0, 2]).shared
    S1.uprobeCount.storedCount 1 id later = 6 ∧ S1.uprobeCount.storedCount 2 id later = 1 := by
  decide

end MonsaEbpf.S2
