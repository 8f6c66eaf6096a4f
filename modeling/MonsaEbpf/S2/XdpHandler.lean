/-
Module: MonsaEbpf.S2.XdpHandler
Layer: S2
Purpose: The program of S2-advanced/examples/network/xdp/xdp_pass.bpf.c around its parser: per-CPU counters,
  packets per source address in an LRU map, and an event for the packets whose timestamp is a multiple of a
  hundred. The `bpf_printk` line changes no state and is left out.
Imports: MonsaEbpf.S2.XdpPass
Trusted boundary: human-reviewed translation
Main exports: XdpStats, XdpMaps, XdpCall, xdpPass, XdpCall.parsed, state_xdpPass, events_xdpPass
-/
import MonsaEbpf.S2.XdpPass

namespace MonsaEbpf.S2

open Wire

/-- `struct xdp_stats`. -/
structure XdpStats where
  packets : U64
  bytes : U64
  dropped : U64
  passed : U64
deriving Repr, DecidableEq

namespace XdpStats

def packetsField : Field XdpStats U64 := ⟨packets, fun stats v => { stats with packets := v }⟩
def bytesField : Field XdpStats U64 := ⟨bytes, fun stats v => { stats with bytes := v }⟩
def passedField : Field XdpStats U64 := ⟨passed, fun stats v => { stats with passed := v }⟩

end XdpStats

/-- The maps of the program; the statistics are those of each CPU at each index. -/
structure XdpMaps where
  xdpStatistics : Nat → Nat → XdpStats
  srcIpCounts : CellMap U32 U64 10000
  xdpEvents : List XdpEvent

inductive XdpMap where
  | xdpStatistics
  | srcIpCounts
deriving DecidableEq, Repr

def xdpStatistics : PerCpuRef XdpMap XdpMaps XdpStats 1 where
  name := .xdpStatistics
  get := XdpMaps.xdpStatistics
  set := fun maps stats => { maps with xdpStatistics := stats }

def srcIpCounts : MapRef XdpMap XdpMaps U32 U64 10000 where
  name := .srcIpCounts
  get := XdpMaps.srcIpCounts
  set := fun maps map => { maps with srcIpCounts := map }
  get_set := fun _ _ => rfl
  set_get := fun _ => rfl
  set_set := fun _ _ _ => rfl

def xdpEvents : RingRef XdpMaps XdpEvent where
  get := XdpMaps.xdpEvents
  set := fun maps events => { maps with xdpEvents := events }

/-- What one invocation sees: the packet and its context, the clock, the CPU, what the kernel does about
room in the LRU map, and the outcome of its reservation. -/
structure XdpCall where
  bytes : List U8
  ingressIfindex : U32
  rxQueueIndex : U32
  ktimeGetNs : U64
  cpu : Nat
  lru : LruOutcome U32
  reserved : Option XdpEvent

def XDP_PASS : S32 := 2

/-- `data_end - data` as 32 bits. -/
def XdpCall.pktLen (call : XdpCall) : U32 := BitVec.ofNat 32 call.bytes.length

abbrev XdpProgram := StepProgram (BpfOp XdpMap) XdpMaps

/-- Update the statistics of the CPU. -/
def updateXdpStats (cpu : Nat) (stats : Option Nat) (pktLen : U32) : XdpProgram Unit :=
  match stats with
  | none => return ()
  | some stats => do
      let _ ← perCpuFetchAndAdd xdpStatistics cpu stats XdpStats.packetsField 1
      let _ ← perCpuFetchAndAdd xdpStatistics cpu stats XdpStats.bytesField (pktLen.setWidth 64)
      let _ ← perCpuFetchAndAdd xdpStatistics cpu stats XdpStats.passedField 1
      return ()

/-- Count the packet under its source address, unless that is zero. -/
def trackSource (srcIp : U32) (lru : LruOutcome U32) : XdpProgram Unit :=
  if srcIp ≠ 0 then do
    let count ← bpfMapLookupElem srcIpCounts srcIp
    match count with
    | some count => do
        let _ ← syncFetchAndAdd srcIpCounts count .whole 1
        return ()
    | none => do
        let _ ← bpfLruUpdateElem srcIpCounts srcIp 1 lru
        return ()
  else return ()

/-- Sample 1/100 packets: copy the event into the ring buffer. -/
def sampleXdp (evt : XdpEvent) (reserved : Option XdpEvent) : XdpProgram Unit :=
  if evt.timestampNs % 100 = 0 then do
    let rbEvt ← bpfRingbufReserve reserved
    match rbEvt with
    | none => return ()
    | some _ => bpfRingbufSubmit xdpEvents evt
  else return ()

/-- The event that the program hands to the parser. -/
def XdpCall.started (call : XdpCall) : XdpEvent :=
  .started call.ktimeGetNs call.ingressIfindex call.rxQueueIndex call.pktLen (XDP_PASS.setWidth 8)

/-- `xdp_pass`; a read outside the packet would be a fault. -/
def xdpPass (call : XdpCall) : XdpProgram (Access S32) := do
  let stats ← bpfPerCpuLookup xdpStatistics 0
  updateXdpStats call.cpu stats call.pktLen
  match parsePacket call.bytes call.started with
  | .error fault => return .error fault
  | .ok (result, evt) =>
      if result = 0 then do
        trackSource evt.srcIp call.lru
        sampleXdp evt call.reserved
        return .ok XDP_PASS
      else return .ok XDP_PASS

/-! ### Run alone -/

/-- What the parser returns for a packet. -/
def XdpCall.parsed (call : XdpCall) : S32 × XdpEvent :=
  call.started.parsed (Ipv4Frame.dissect call.bytes)

/-- The event that an invocation submits: of a packet that parses, at a multiple of a hundred nanoseconds,
with ring space. -/
def XdpCall.sampled? (call : XdpCall) : Option XdpEvent :=
  if call.parsed.1 = 0 ∧ call.parsed.2.timestampNs % 100 = 0 then
    call.reserved.map fun _ => call.parsed.2
  else none

theorem events_updateXdpStats (cpu : Nat) (stats : Option Nat) (pktLen : U32) (maps : XdpMaps) :
    ((updateXdpStats cpu stats pktLen).exec maps).2.xdpEvents = maps.xdpEvents := by
  cases stats <;> rfl

/-- Tracking a source changes the table of sources at most. -/
theorem exec_trackSource (srcIp : U32) (lru : LruOutcome U32) (maps : XdpMaps) :
    ∃ table, ((trackSource srcIp lru).exec maps).2 = { maps with srcIpCounts := table } := by
  unfold trackSource
  split
  · cases looked : (srcIpCounts.get maps).lookup srcIp with
    | some count =>
        rw [exec_lookup_bind srcIpCounts looked]
        exact ⟨_, rfl⟩
    | none =>
        rw [exec_lookup_bind srcIpCounts looked, StepProgram.exec_bind]
        cases lru <;> exact ⟨_, rfl⟩
  · exact ⟨maps.srcIpCounts, rfl⟩

/-- Sampling changes the ring buffer at most. -/
theorem exec_sampleXdp (evt : XdpEvent) (reserved : Option XdpEvent) (maps : XdpMaps) :
    ((sampleXdp evt reserved).exec maps).2 =
      { maps with
        xdpEvents := maps.xdpEvents ++
          (if evt.timestampNs % 100 = 0 then reserved.map fun _ => evt else none).toList } := by
  have nothing : maps = { maps with xdpEvents := maps.xdpEvents ++ [] } := by rw [List.append_nil]
  unfold sampleXdp
  split
  · cases reserved with
    | none => exact nothing
    | some memory => rfl
  · exact nothing

theorem events_trackSource (srcIp : U32) (lru : LruOutcome U32) (maps : XdpMaps) :
    ((trackSource srcIp lru).exec maps).2.xdpEvents = maps.xdpEvents := by
  obtain ⟨table, tracked⟩ := exec_trackSource srcIp lru maps
  rw [tracked]

/-- The state in which the parser is called. -/
def XdpCall.accounted (call : XdpCall) (maps : XdpMaps) : XdpMaps :=
  ((updateXdpStats call.cpu (some 0) call.pktLen).exec maps).2

/-- An invocation as the sequence of its parts. -/
theorem state_xdpPass (call : XdpCall) (maps : XdpMaps) :
    ((xdpPass call).exec maps).2 =
      if call.parsed.1 = 0 then
        ((sampleXdp call.parsed.2 call.reserved).exec
          ((trackSource call.parsed.2.srcIp call.lru).exec (call.accounted maps)).2).2
      else call.accounted maps := by
  have parsed : parsePacket call.bytes call.started = .ok call.parsed := parsePacket_eq call.started
  rw [xdpPass, parsed]
  rw [StepProgram.exec_bind, StepProgram.exec_bind]
  by_cases zero : call.parsed.1 = 0
  · simp only [zero, if_true]
    rw [StepProgram.exec_bind, StepProgram.exec_bind]
    rfl
  · simp only [zero, if_false]
    rfl

/-- **What an invocation submits.** -/
theorem events_xdpPass (call : XdpCall) (maps : XdpMaps) :
    ((xdpPass call).exec maps).2.xdpEvents = maps.xdpEvents ++ call.sampled?.toList := by
  have counted : (call.accounted maps).xdpEvents = maps.xdpEvents :=
    events_updateXdpStats call.cpu (some 0) call.pktLen maps
  rw [state_xdpPass, XdpCall.sampled?, ← counted]
  by_cases zero : call.parsed.1 = 0
  · have tracked := events_trackSource call.parsed.2.srcIp call.lru (call.accounted maps)
    simp only [zero, true_and, if_true]
    rw [exec_sampleXdp, tracked]
  · simp only [zero, false_and, if_false]
    exact (List.append_nil _).symm

end MonsaEbpf.S2
