/-
Module: MonsaEbpf.S2.XdpCounters
Layer: S2
Purpose: The counters of S2-advanced/examples/network/xdp/xdp_pass.bpf.c over runs of frames on any CPUs. The
  statistics of the CPUs together count every frame. The packets of a source address are counted in an LRU
  map, which may refuse an address or drop others at every insertion; the counters there never exceed what
  was parsed, and are exact while the kernel takes every address in, for every address but zero.
Imports: MonsaEbpf.S2.XdpHandler, MonsaEbpf.Lib.LossyCounts, MonsaEbpf.Lib.Sharded,
  MonsaEbpf.Lib.BoundedCounts
Trusted boundary: none
Main exports: XdpMaps.initial, XdpMaps.run, XdpCall.tracked?, TakesIn, parsedFrom, ParsesIpv4, NothingLost,
  XdpCountersHold, xdp_counters_hold
-/
import Mathlib.Algebra.BigOperators.Ring.Finset
import MonsaEbpf.S2.XdpHandler
import MonsaEbpf.Lib.LossyCounts
import MonsaEbpf.Lib.Sharded
import MonsaEbpf.Lib.BoundedCounts

namespace MonsaEbpf.S2

open Ipv4Frame BoundedCounts

/-! ### What one invocation does to the counters -/

/-- The statistics after one more packet that was passed. -/
def XdpStats.counted (stats : XdpStats) (pktLen : U32) : XdpStats :=
  { stats with
    packets := stats.packets + 1
    bytes := stats.bytes + pktLen.setWidth 64
    passed := stats.passed + 1 }

/-- The maps after an addition to a field of the entry of a CPU. -/
def addToStats (cpu : Nat) (field : Field XdpStats U64) (amount : U64) (maps : XdpMaps) : XdpMaps :=
  ((perCpuFetchAndAdd xdpStatistics cpu 0 field amount).exec maps).2

theorem statistics_addToStats (cpu : Nat) (field : Field XdpStats U64) (amount : U64) (maps : XdpMaps)
    (other : Nat) :
    (addToStats cpu field amount maps).xdpStatistics other 0 =
      if other = cpu then
        field.set (maps.xdpStatistics other 0) (field.get (maps.xdpStatistics other 0) + amount)
      else maps.xdpStatistics other 0 := by
  by_cases here : other = cpu
  · subst here
    exact (if_pos ⟨rfl, rfl⟩).trans (if_pos rfl).symm
  · exact (if_neg fun both => here both.1).trans (if_neg here).symm

theorem accounted_eq (call : XdpCall) (maps : XdpMaps) :
    call.accounted maps =
      addToStats call.cpu XdpStats.passedField 1
        (addToStats call.cpu XdpStats.bytesField (call.pktLen.setWidth 64)
          (addToStats call.cpu XdpStats.packetsField 1 maps)) := rfl

/-- The accounting changes the entry of its CPU. -/
theorem statistics_accounted (call : XdpCall) (maps : XdpMaps) (cpu : Nat) :
    (call.accounted maps).xdpStatistics cpu 0 =
      if cpu = call.cpu then (maps.xdpStatistics cpu 0).counted call.pktLen
      else maps.xdpStatistics cpu 0 := by
  rw [accounted_eq]
  simp only [statistics_addToStats]
  split <;> rfl

theorem statistics_trackSource (srcIp : U32) (lru : LruOutcome U32) (maps : XdpMaps) :
    ((trackSource srcIp lru).exec maps).2.xdpStatistics = maps.xdpStatistics := by
  obtain ⟨table, tracked⟩ := exec_trackSource srcIp lru maps
  rw [tracked]

/-- An invocation changes the statistics of its CPU only, and in one way. -/
theorem statistics_xdpPass (call : XdpCall) (maps : XdpMaps) (cpu : Nat) :
    ((xdpPass call).exec maps).2.xdpStatistics cpu 0 =
      if cpu = call.cpu then (maps.xdpStatistics cpu 0).counted call.pktLen
      else maps.xdpStatistics cpu 0 := by
  rw [state_xdpPass]
  split
  · rw [exec_sampleXdp, statistics_trackSource]
    exact statistics_accounted call maps cpu
  · exact statistics_accounted call maps cpu

/-- The address under which an invocation counts: of a packet that parses, unless it is zero. -/
def XdpCall.tracked? (call : XdpCall) : Option U32 :=
  if call.parsed.1 = 0 ∧ call.parsed.2.srcIp ≠ 0 then some call.parsed.2.srcIp else none

/-- Dropping keys from a map. -/
theorem find?_foldl_erase {K V : Type} [DecidableEq K] {capacity : Nat} (keys : List K)
    (map : CellMap K V capacity) (other : K) :
    (keys.foldl CellMap.erase map).find? other = if other ∈ keys then none else map.find? other := by
  induction keys generalizing map with
  | nil => simp
  | cons key rest ih =>
      rw [List.foldl_cons, ih, CellMap.find?_erase]
      by_cases dropped : other ∈ rest
      · rw [if_pos dropped, if_pos (List.mem_cons_of_mem key dropped)]
      · rw [if_neg dropped]
        by_cases same : other = key
        · rw [if_pos same, if_pos (same ▸ List.mem_cons_self)]
        · rw [if_neg same, if_neg fun member => (List.mem_cons.mp member).elim same dropped]

/-- Dropping keys that are not stored. -/
theorem foldl_erase_of_unstored {K V : Type} [DecidableEq K] {capacity : Nat} {keys : List K}
    {map : CellMap K V capacity} (unstored : ∀ key ∈ keys, key ∉ map.keys) :
    keys.foldl CellMap.erase map = map := by
  induction keys with
  | nil => rfl
  | cons key rest ih =>
      have absent : map.lookup key = none := CellMap.lookup_eq_none.mpr (unstored key List.mem_cons_self)
      rw [List.foldl_cons, CellMap.erase_of_absent absent]
      exact ih fun other member => unstored other (List.mem_cons_of_mem key member)

/-- An insertion of one under an absent address, whatever the kernel does about room. -/
theorem tallies_bpfLruUpdateElem {maps : XdpMaps} {srcIp : U32} (absent : maps.srcIpCounts.find? srcIp = none)
    (lru : LruOutcome U32) :
    LossyCounts.Tallies maps.srcIpCounts.find?
      ((bpfLruUpdateElem srcIpCounts srcIp 1 lru).exec maps).2.srcIpCounts.find? srcIp := by
  cases lru with
  | failed => exact ⟨Or.inl absent, fun _ _ => Or.inr rfl⟩
  | evicted others =>
      change LossyCounts.Tallies _ (((others.filter (· ≠ srcIp)).foldl CellMap.erase maps.srcIpCounts).insert
        srcIp 1).find? srcIp
      have unlisted : srcIp ∉ others.filter (· ≠ srcIp) := by simp
      constructor
      · by_cases room : ((others.filter (· ≠ srcIp)).foldl CellMap.erase maps.srcIpCounts).HasRoom srcIp
        · rw [CellMap.find?_insert _ room, if_pos rfl, absent]
          exact Or.inr rfl
        · rw [CellMap.insert_full _ room, find?_foldl_erase, if_neg unlisted]
          exact Or.inl absent
      · intro other different
        rw [CellMap.find?_insert_ne _ different, find?_foldl_erase]
        split
        · exact Or.inl rfl
        · exact Or.inr rfl

/-- Tracking a source counts it, or loses counters. -/
theorem tallies_trackSource {srcIp : U32} (nonzero : srcIp ≠ 0) (lru : LruOutcome U32) (maps : XdpMaps) :
    LossyCounts.Tallies maps.srcIpCounts.find? ((trackSource srcIp lru).exec maps).2.srcIpCounts.find?
      srcIp := by
  rw [trackSource, if_pos nonzero]
  cases looked : (srcIpCounts.get maps).lookup srcIp with
  | some count =>
      rw [exec_lookup_bind srcIpCounts looked]
      have written (other : U32) := CellMap.find?_write looked (fun old : U64 => old + 1) other
      constructor
      · refine Or.inr ((written srcIp).trans ?_)
        change _ = some (LossyCounts.next ((srcIpCounts.get maps).find? srcIp))
        rw [if_pos rfl, CellMap.find?_of_lookup looked]
        rfl
      · intro other different
        exact Or.inr ((written other).trans (if_neg different))
  | none =>
      rw [exec_lookup_bind srcIpCounts looked, StepProgram.exec_bind]
      exact tallies_bpfLruUpdateElem (CellMap.find?_eq_none.mpr looked) lru

/-- The kernel takes a new address in and forgets no other: there is a free entry, it does not give up, and of
the keys it drops to make room none is stored. -/
def TakesIn (lru : LruOutcome U32) (stored : CellMap U32 U64 10000) (address : U32) : Prop :=
  stored.HasRoom address ∧
    ∃ others, lru = .evicted others ∧ ∀ other ∈ others, other ≠ address → other ∉ stored.keys

/-- Tracking a source loses nothing, unless the kernel has to make room and answers badly. -/
theorem keeps_trackSource {srcIp : U32} (nonzero : srcIp ≠ 0) (lru : LruOutcome U32) (maps : XdpMaps)
    (answer : srcIp ∉ maps.srcIpCounts.keys → TakesIn lru maps.srcIpCounts srcIp) :
    LossyCounts.Keeps maps.srcIpCounts.find? ((trackSource srcIp lru).exec maps).2.srcIpCounts.find?
      (some srcIp) := by
  rw [trackSource, if_pos nonzero]
  cases looked : (srcIpCounts.get maps).lookup srcIp with
  | some count =>
      rw [exec_lookup_bind srcIpCounts looked]
      apply LossyCounts.Keeps.of_stored
      intro other
      have written := CellMap.find?_write looked (fun old : U64 => old + 1) other
      rw [CellMap.find?_of_lookup looked] at written
      exact written
  | none =>
      obtain ⟨room, others, rfl, unstored⟩ := answer (CellMap.lookup_eq_none.mp looked)
      have same : (others.filter (· ≠ srcIp)).foldl CellMap.erase maps.srcIpCounts = maps.srcIpCounts := by
        apply foldl_erase_of_unstored
        intro other member
        obtain ⟨listed, different⟩ := List.mem_filter.mp member
        exact unstored other listed (of_decide_eq_true different)
      rw [exec_lookup_bind srcIpCounts looked, StepProgram.exec_bind]
      change LossyCounts.Keeps _ (((others.filter (· ≠ srcIp)).foldl CellMap.erase maps.srcIpCounts).insert
        srcIp 1).find? _
      rw [same]
      exact LossyCounts.Keeps.of_stored fun other => CellMap.find?_insert 1 room other

/-- An address of zero is not tracked. -/
theorem trackSource_zero (lru : LruOutcome U32) : trackSource 0 lru = (return ()) := rfl

/-! ### Runs -/

/-- Empty maps. -/
def XdpMaps.initial : XdpMaps where
  xdpStatistics := fun _ _ => ⟨0, 0, 0, 0⟩
  srcIpCounts := .empty
  xdpEvents := []

/-- Run one handler alone. -/
def XdpMaps.step (maps : XdpMaps) (call : XdpCall) : XdpMaps :=
  ((xdpPass call).exec maps).2

/-- The maps after frames that are handled one after another. -/
def XdpMaps.run (calls : List XdpCall) : XdpMaps :=
  Runs.run XdpMaps.step .initial calls

/-- **An invocation counts its address, or loses counters.** -/
theorem counting_step :
    LossyCounts.Counting XdpMaps.step (fun maps => maps.srcIpCounts.find?) XdpCall.tracked? := by
  intro maps call
  simp only [XdpMaps.step, state_xdpPass]
  rw [XdpCall.tracked?]
  by_cases zero : call.parsed.1 = 0
  · rw [if_pos zero, exec_sampleXdp]
    by_cases nonzero : call.parsed.2.srcIp ≠ 0
    · rw [if_pos ⟨zero, nonzero⟩]
      exact tallies_trackSource nonzero call.lru (call.accounted maps)
    · rw [if_neg fun both => nonzero both.2, not_not.mp nonzero, trackSource_zero]
      rfl
  · rw [if_neg zero, if_neg fun both => zero both.1]
    rfl

/-- An invocation keeps every counter when the kernel takes its address in, or need not. -/
theorem keeps_step {maps : XdpMaps} {call : XdpCall}
    (answer : ∀ address, call.tracked? = some address → address ∉ maps.srcIpCounts.keys →
      TakesIn call.lru maps.srcIpCounts address) :
    LossyCounts.Keeps maps.srcIpCounts.find? (maps.step call).srcIpCounts.find? call.tracked? := by
  cases tracks : call.tracked? with
  | none =>
      have counts := counting_step maps call
      simp only [tracks] at counts
      rw [counts]
      exact ⟨fun _ present => present, nofun⟩
  | some address =>
      have tracked := tracks
      rw [XdpCall.tracked?] at tracked
      split at tracked
      · rename_i both
        obtain rfl := Option.some.inj tracked
        rw [XdpMaps.step, state_xdpPass, if_pos both.1, exec_sampleXdp]
        exact keeps_trackSource both.2 call.lru (call.accounted maps) (answer _ tracks)
      · cases tracked

/-- A field of the statistics that grows by an amount for each frame is kept in shards. -/
theorem adds_step (field : XdpStats → U64) (amount : XdpCall → U64)
    (grows : ∀ stats (call : XdpCall), field (stats.counted call.pktLen) = field stats + amount call) :
    Sharded.Adds XdpMaps.step (fun maps cpu => field (maps.xdpStatistics cpu 0)) XdpCall.cpu amount := by
  intro maps call cpu
  simp only [XdpMaps.step, statistics_xdpPass]
  split
  · exact grows _ call
  · rfl

/-- The packets of a CPU are the frames it handled. -/
theorem packets_run {calls : List XdpCall} (few : calls.length < 2 ^ 64) (cpu : Nat) :
    ((XdpMaps.run calls).xdpStatistics cpu 0).packets.toNat = calls.countP fun call => cpu = call.cpu := by
  have shard := Sharded.shard_run (adds_step XdpStats.packets (fun _ => 1) fun _ _ => rfl) .initial calls cpu
  have count := Sharded.sum_indicator (M := U64) (fun call : XdpCall => decide (cpu = call.cpu)) calls
  simp only [decide_eq_true_eq] at count
  have bounded : (calls.countP fun call => cpu = call.cpu) < 2 ^ 64 := List.countP_le_length.trans_lt few
  rw [XdpMaps.run, shard, count]
  change (0 + ((calls.countP fun call => cpu = call.cpu : Nat) : U64)).toNat = _
  rw [zero_add, BitVec.natCast_eq_ofNat, BitVec.toNat_ofNat, Nat.mod_eq_of_lt bounded]

/-- No frame is dropped: the passed ones balance the packets. -/
theorem balanced_run (calls : List XdpCall) (cpu : Nat) :
    ((XdpMaps.run calls).xdpStatistics cpu 0).packets =
      ((XdpMaps.run calls).xdpStatistics cpu 0).passed + ((XdpMaps.run calls).xdpStatistics cpu 0).dropped := by
  apply Runs.run_invariant (I := fun maps : XdpMaps => (maps.xdpStatistics cpu 0).packets =
    (maps.xdpStatistics cpu 0).passed + (maps.xdpStatistics cpu 0).dropped)
  · intro maps call balanced
    rw [XdpMaps.step, statistics_xdpPass]
    split
    · simp only [XdpStats.counted, balanced]
      exact add_right_comm _ _ _
    · exact balanced
  · rfl

section Possible

variable {possibleCpus : Nat} {calls : List XdpCall} (possible : ∀ call ∈ calls, call.cpu < possibleCpus)

include possible

theorem sum_packets_run (few : calls.length < 2 ^ 64) :
    ∑ cpu ∈ Finset.range possibleCpus, ((XdpMaps.run calls).xdpStatistics cpu 0).packets.toNat =
      calls.length := by
  rw [Finset.sum_congr rfl fun cpu _ => packets_run few cpu]
  exact Sharded.sum_countP fun call member => Finset.mem_range.mpr (possible call member)

theorem sum_bytes_run (short : ∀ call ∈ calls, call.bytes.length < 2 ^ 32) :
    ∑ cpu ∈ Finset.range possibleCpus, ((XdpMaps.run calls).xdpStatistics cpu 0).bytes =
      ((calls.map fun call => call.bytes.length).sum : Nat) := by
  have sum := Sharded.sum_run
    (adds_step XdpStats.bytes (fun call => call.pktLen.setWidth 64) fun _ _ => rfl)
    (Finset.range possibleCpus) (fun call member => Finset.mem_range.mpr (possible call member)) .initial
  have lengths : calls.map (fun call => call.pktLen.setWidth 64) =
      calls.map fun call => (call.bytes.length : U64) := by
    refine List.map_congr_left fun call member => BitVec.eq_of_toNat_eq ?_
    have fits := short call member
    rw [XdpCall.pktLen, BitVec.toNat_setWidth, BitVec.toNat_ofNat, BitVec.natCast_eq_ofNat,
      BitVec.toNat_ofNat, Nat.mod_eq_of_lt fits]
  have none : ∑ cpu ∈ Finset.range possibleCpus, (XdpMaps.initial.xdpStatistics cpu 0).bytes = 0 :=
    Finset.sum_eq_zero fun _ _ => rfl
  rw [XdpMaps.run, sum, none, zero_add, lengths, Nat.cast_list_sum, List.map_map]
  rfl

end Possible

/-! ### Addresses -/

/-- The number of frames for which the parser returned zero with an address. -/
def parsedFrom (address : U32) (calls : List XdpCall) : Nat :=
  calls.countP fun call => call.parsed.1 = 0 ∧ call.parsed.2.srcIp = address

/-- The frame has an IPv4 header. -/
def ParsesIpv4 (bytes : List U8) : Prop :=
  ∃ transport, dissect bytes = .ofTransport (packetOf bytes) transport

/-- An invocation tracks the address that was parsed, unless it is zero. -/
theorem tracked?_eq_some_iff (call : XdpCall) (address : U32) :
    call.tracked? = some address ↔
      (call.parsed.1 = 0 ∧ call.parsed.2.srcIp = address) ∧ address ≠ 0 := by
  rw [XdpCall.tracked?]
  constructor
  · intro tracked
    split at tracked
    · rename_i both
      cases tracked
      exact ⟨⟨both.1, rfl⟩, both.2⟩
    · cases tracked
  · rintro ⟨⟨zero, rfl⟩, nonzero⟩
    exact if_pos ⟨zero, nonzero⟩

/-- A frame without an IPv4 header is not tracked: either the parser fails, or it leaves the address zero. -/
theorem tracked?_not_ipv4 {call : XdpCall} (other : ¬ ParsesIpv4 call.bytes) : call.tracked? = none := by
  rw [XdpCall.tracked?]
  refine if_neg ?_
  rintro ⟨zero, nonzero⟩
  by_cases short : call.bytes.length < ethernetSize
  · rw [XdpCall.parsed, dissect_noEthernet short] at zero
    exact absurd (show (-1 : S32) = 0 from zero) (by decide)
  · by_cases ipv4 : etherType call.bytes = etherTypeIpv4
    · by_cases header : call.bytes.length < ethernetSize + ipv4Size
      · rw [XdpCall.parsed, dissect_noIpv4 short ipv4 header] at zero
        exact absurd (show (-1 : S32) = 0 from zero) (by decide)
      · exact other ⟨_, dissect_ipv4 short ipv4 header⟩
    · rw [XdpCall.parsed, dissect_notIpv4 short ipv4] at nonzero
      exact nonzero rfl

/-- The events of an address are the frames parsed with it, unless it is zero. -/
theorem count_tracked (calls : List XdpCall) (address : U32) :
    (calls.filterMap XdpCall.tracked?).count address ≤ parsedFrom address calls := by
  rw [List.count_filterMap, parsedFrom]
  refine List.countP_mono_left fun call _ tracked => decide_eq_true ?_
  exact ((tracked?_eq_some_iff call address).mp (eq_of_beq tracked)).1

theorem count_tracked_of_ne {address : U32} (nonzero : address ≠ 0) (calls : List XdpCall) :
    (calls.filterMap XdpCall.tracked?).count address = parsedFrom address calls := by
  rw [List.count_filterMap, parsedFrom]
  refine List.countP_congr fun call _ => ?_
  rw [beq_iff_eq, decide_eq_true_iff, tracked?_eq_some_iff, and_iff_left nonzero]

/-! ### The counters -/

/-- No insertion of a run fails and none drops a stored address: whenever a frame brings an address that is not
in the map, the kernel takes it in. -/
def NothingLost (calls : List XdpCall) : Prop :=
  ∀ done call rest address, calls = done ++ call :: rest → call.tracked? = some address →
    address ∉ (XdpMaps.run done).srcIpCounts.keys → TakesIn call.lru (XdpMaps.run done).srcIpCounts address

/-- When the kernel answers so, no step loses a counter. -/
theorem NothingLost.keeps {calls : List XdpCall} (nothingLost : NothingLost calls) :
    LossyCounts.NothingLost XdpMaps.step (fun maps => maps.srcIpCounts.find?) XdpCall.tracked? .initial
      calls := by
  intro done call rest split
  rw [Runs.run_concat]
  exact keeps_step fun address => nothingLost done call rest address split

/-- With no more frames than entries the kernel only has to drop nothing. -/
theorem nothingLost_of_few {calls : List XdpCall} (few : calls.length ≤ 10000)
    (evictsNone : ∀ call ∈ calls, call.lru = .evicted []) : NothingLost calls := by
  rintro done call rest address rfl tracks absent
  refine ⟨Or.inr ?_, [], evictsNone call (by simp), nofun⟩
  have seen : (XdpMaps.run done).srcIpCounts.keys ⊆ (done.filterMap XdpCall.tracked?).toFinset := by
    intro other member
    obtain ⟨count, stored⟩ := CellMap.mem_keys.mp member
    exact List.mem_toFinset.mpr
      (LossyCounts.mem_of_stored counting_step (fun _ => rfl) (Option.isSome_of_eq_some stored))
  have card : (XdpMaps.run done).srcIpCounts.keys.card ≤ done.length :=
    (Finset.card_le_card seen).trans
      ((List.toFinset_card_le _).trans (List.length_filterMap_le _ _))
  rw [List.length_append, List.length_cons] at few
  omega

/-- What holds of the counters after a run on some of the possible CPUs. -/
structure XdpCountersHold (possibleCpus : Nat) (calls : List XdpCall) : Prop where
  balanced : ∀ cpu, ((XdpMaps.run calls).xdpStatistics cpu 0).packets =
    ((XdpMaps.run calls).xdpStatistics cpu 0).passed + ((XdpMaps.run calls).xdpStatistics cpu 0).dropped
  packets : ∑ cpu ∈ Finset.range possibleCpus, ((XdpMaps.run calls).xdpStatistics cpu 0).packets.toNat =
    calls.length
  bytes : ∑ cpu ∈ Finset.range possibleCpus, ((XdpMaps.run calls).xdpStatistics cpu 0).bytes =
    ((calls.map fun call => call.bytes.length).sum : Nat)
  atMost : ∀ address, shown (XdpMaps.run calls).srcIpCounts address ≤ parsedFrom address calls
  exactly : NothingLost calls → ∀ address ≠ 0,
    shown (XdpMaps.run calls).srcIpCounts address = parsedFrom address calls
  noZero : 0 ∉ (XdpMaps.run calls).srcIpCounts.keys
  onlyIpv4 : ∀ done call rest, calls = done ++ call :: rest → ¬ ParsesIpv4 call.bytes →
    (XdpMaps.run (done ++ [call])).srcIpCounts.keys ⊆ (XdpMaps.run done).srcIpCounts.keys
  together : ∑ address ∈ (XdpMaps.run calls).srcIpCounts.keys, shown (XdpMaps.run calls).srcIpCounts address ≤
    ∑ cpu ∈ Finset.range possibleCpus, ((XdpMaps.run calls).xdpStatistics cpu 0).packets.toNat

/-- A frame without an IPv4 header leaves the counters of the addresses as they are. -/
theorem sources_step_not_ipv4 {call : XdpCall} (other : ¬ ParsesIpv4 call.bytes) (maps : XdpMaps) :
    (maps.step call).srcIpCounts.find? = maps.srcIpCounts.find? := by
  have counts := counting_step maps call
  simpa only [tracked?_not_ipv4 other] using counts

/-- **The counters of `xdp_pass`** after any run, in which the LRU map may refuse and drop addresses. -/
theorem xdp_counters_hold {possibleCpus : Nat} {calls : List XdpCall} (few : calls.length < 2 ^ 64)
    (short : ∀ call ∈ calls, call.bytes.length < 2 ^ 32) (possible : ∀ call ∈ calls, call.cpu < possibleCpus) :
    XdpCountersHold possibleCpus calls where
  balanced := balanced_run calls
  packets := sum_packets_run possible few
  bytes := sum_bytes_run possible short
  atMost address := (LossyCounts.value_run_le counting_step (fun _ => rfl) calls address).trans
    (count_tracked calls address)
  exactly nothingLost address nonzero :=
    (LossyCounts.value_run_eq counting_step (fun _ => rfl) few nothingLost.keeps address).trans
      (count_tracked_of_ne nonzero calls)
  noZero member := by
    obtain ⟨count, stored⟩ := CellMap.mem_keys.mp member
    have seen : (0 : U32) ∈ calls.filterMap XdpCall.tracked? :=
      LossyCounts.mem_of_stored counting_step (fun _ => rfl) (Option.isSome_of_eq_some stored)
    obtain ⟨call, -, tracked⟩ := List.mem_filterMap.mp seen
    exact ((tracked?_eq_some_iff call 0).mp tracked).2 rfl
  onlyIpv4 done call rest _ other address member := by
    rw [XdpMaps.run, Runs.run_concat, ← XdpMaps.run, CellMap.mem_keys, sources_step_not_ipv4 other] at member
    exact CellMap.mem_keys.mpr member
  together := by
    rw [sum_packets_run possible few]
    exact LossyCounts.sum_value_le counting_step (fun _ => rfl) calls _

/-! ### Frames of two addresses -/

/-- A frame of an IPv4 packet from 10.0.0.`last` with ports 53, on a CPU. -/
def packetFrom (last : U8) (protocol : U8) (cpu : Nat) : XdpCall where
  bytes := List.replicate 12 0 ++
    [8, 0, 0x45, 0, 0, 40, 0, 0, 0, 0, 64, protocol, 0, 0, 10, 0, 0, last, 10, 0, 0, 9, 0, 53, 0, 53] ++
    List.replicate 16 0
  ingressIfindex := 1
  rxQueueIndex := 0
  ktimeGetNs := 1
  cpu := cpu
  lru := .evicted []
  reserved := none

/-- Three frames of the address 10.0.0.1 and one of 10.0.0.2, over TCP and UDP on two CPUs. -/
def fourFrames : List XdpCall :=
  [packetFrom 1 6 0, packetFrom 2 17 1, packetFrom 1 17 1, packetFrom 1 6 0]

/-- The kernel drops nothing, and the counters are the numbers of frames. -/
theorem xdp_counters_hold_four :
    XdpCountersHold 2 fourFrames ∧ NothingLost fourFrames ∧
      shown (XdpMaps.run fourFrames).srcIpCounts 0x0a000001 = 3 ∧
      shown (XdpMaps.run fourFrames).srcIpCounts 0x0a000002 = 1 := by
  have nothingLost : NothingLost fourFrames := nothingLost_of_few (by decide) (by decide)
  have hold : XdpCountersHold 2 fourFrames := xdp_counters_hold (by decide) (by decide) (by decide)
  refine ⟨hold, nothingLost, ?_, ?_⟩
  · exact (hold.exactly nothingLost _ (by decide)).trans (by decide)
  · exact (hold.exactly nothingLost _ (by decide)).trans (by decide)

/-! ### A frame of another protocol -/

/-- A frame of the address resolution protocol on CPU 0; its parse returns zero, with no address. -/
def arpCall : XdpCall where
  bytes := List.replicate 12 0 ++ [8, 6]
  ingressIfindex := 1
  rxQueueIndex := 0
  ktimeGetNs := 1
  cpu := 0
  lru := .evicted []
  reserved := none

/-- Nothing is lost with this frame, but it was parsed with address zero and is not counted there. -/
theorem arp_not_counted :
    ¬ (NothingLost [arpCall] →
      ∀ address, shown (XdpMaps.run [arpCall]).srcIpCounts address = parsedFrom address [arpCall]) := by
  intro counts
  have zero := counts (nothingLost_of_few (by decide) (by decide)) 0
  exact absurd zero (by decide)

end MonsaEbpf.S2
