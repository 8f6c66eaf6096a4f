/-
Module: MonsaEbpf.S2.TcSampling
Layer: S2
Purpose: How many records the traffic classifier submits over whole runs with ring space. While every
  frame finds its flow in the table or is the first of its flow, the records are one per flow and one per
  hundred frames of it; a flow that the full table refused is sampled with every frame.
Imports: MonsaEbpf.S2.TcAccounting, MonsaEbpf.Lib.Sampling
Trusted boundary: none
Main exports: FairlySampled, SampledState, tc_sampling_bounded, tc_sampling_unbounded
-/
import MonsaEbpf.S2.TcAccounting
import MonsaEbpf.Lib.Sampling

namespace MonsaEbpf.S2

open Sampling

/-- The frame's flow is in the table and its packet counter does not wrap, or the frame is the first of its
flow. Only a flow that found the table full is missing from it after its first frame. -/
def FairlySampled (done : List TcCall) (call : TcCall) : Prop :=
  ∀ key, tcFlow? call.skb = some key →
    match (TcMaps.run done).tcFlowStats.find? key with
    | some stats => stats.packets ≠ BitVec.allOnes 64
    | none => key ∉ flowsOf (done.map TcCall.skb)

/-- The records are the samples that the flows of the accounted frames deserve, and every flow in the table
has its own packets counted. -/
structure SampledState (maps : TcMaps) (flows : List FlowKey) : Prop where
  records : maps.tcEvents.length = samples 100 flows
  counts : ∀ {key stats}, maps.tcFlowStats.find? key = some stats →
    key ∈ flows ∧ stats.packets.toNat = flows.count key

theorem SampledState.initial : SampledState TcMaps.initial [] where
  records := rfl
  counts found := by cases found

section Step

variable {maps : TcMaps} {flows : List FlowKey} {call : TcCall} {key : FlowKey}

theorem length_record (reserves : call.reserved.isSome) (count : U64) :
    (call.record key count).length = 1 := by
  obtain ⟨memory, reserved⟩ := Option.isSome_iff_exists.mp reserves
  rw [TcCall.record, reserved]
  rfl

/-- Adding one does not wrap below the greatest count. -/
theorem toNat_add_one {packets : U64} (noWrap : packets ≠ BitVec.allOnes 64) :
    (packets + 1).toNat = packets.toNat + 1 := by
  have below : packets.toNat ≠ 2 ^ 64 - 1 := fun same =>
    noWrap (BitVec.eq_of_toNat_eq (same.trans (BitVec.toNat_allOnes).symm))
  have bounded := packets.isLt
  have sum : packets.toNat + 1 < 2 ^ 64 := by omega
  rw [BitVec.toNat_add]
  exact Nat.mod_eq_of_lt sum

/-- The counts of the other flows do not change. -/
theorem SampledState.counts_other (state : SampledState maps flows) {other : FlowKey}
    {stats : FlowStats} (different : other ≠ key)
    (found : maps.tcFlowStats.find? other = some stats) :
    other ∈ flows ++ [key] ∧ stats.packets.toNat = (flows ++ [key]).count other := by
  obtain ⟨member, count⟩ := state.counts found
  refine ⟨List.mem_append_left _ member, ?_⟩
  have absent : [key].count other = 0 := List.count_eq_zero_of_not_mem (by simpa using different)
  rw [count, List.count_append, absent, Nat.add_zero]

/-- A frame of a flow in the table. -/
theorem SampledState.step_known (state : SampledState maps flows)
    (accounted : tcFlow? call.skb = some key) (reserves : call.reserved.isSome) {cell : Nat}
    (found : maps.tcFlowStats.lookup key = some cell)
    (noWrap : (maps.tcFlowStats.read cell).packets ≠ BitVec.allOnes 64) :
    SampledState (maps.step call) (flows ++ [key]) := by
  obtain ⟨member, count⟩ := state.counts (CellMap.find?_of_lookup found)
  have next : ((maps.tcFlowStats.read cell).packets + 1).toNat = flows.count key + 1 := by
    rw [toNat_add_one noWrap, count]
  have hundredth : ((maps.tcFlowStats.read cell).packets + 1) % 100 = 0 ↔
      100 ∣ flows.count key + 1 := by
    rw [hundredth_iff, next]
  rw [TcMaps.step_known accounted found]
  constructor
  · rw [List.length_append, state.records, samples_concat_old member]
    simp only [hundredth]
    split
    · rw [length_record reserves]
    · rfl
  · intro other stats otherFound
    rw [CellMap.find?_assign found] at otherFound
    split at otherFound
    · rename_i same
      cases otherFound
      subst same
      refine ⟨List.mem_append_left _ member, ?_⟩
      rw [List.count_append, List.count_singleton_self]
      exact next
    · rename_i different
      exact state.counts_other different otherFound

/-- The first frame of a flow. -/
theorem SampledState.step_new (state : SampledState maps flows)
    (accounted : tcFlow? call.skb = some key) (reserves : call.reserved.isSome)
    (absent : maps.tcFlowStats.lookup key = none) (first : key ∉ flows) :
    SampledState (maps.step call) (flows ++ [key]) := by
  rw [TcMaps.step_new accounted absent]
  constructor
  · rw [List.length_append, state.records, samples_concat_new (by decide) first,
      length_record reserves]
  · intro other stats otherFound
    by_cases same : other = key
    · subst same
      by_cases room : maps.tcFlowStats.HasRoom other
      · rw [CellMap.find?_insert _ room, if_pos rfl] at otherFound
        cases otherFound
        refine ⟨by simp, ?_⟩
        rw [List.count_append, List.count_eq_zero_of_not_mem first, List.count_singleton_self]
        rfl
      · rw [CellMap.insert_full _ room, CellMap.find?_eq_none.mpr absent] at otherFound
        cases otherFound
    · rw [CellMap.find?_insert_ne _ same] at otherFound
      exact state.counts_other same otherFound

end Step

theorem flowsOf_concat (calls : List TcCall) (call : TcCall) :
    flowsOf ((calls ++ [call]).map TcCall.skb) =
      flowsOf (calls.map TcCall.skb) ++ (tcFlow? call.skb).toList := by
  rw [List.map_append, flowsOf, List.filterMap_append]
  cases accounted : tcFlow? call.skb <;> simp [flowsOf, accounted]

/-- A run whose frames are all sampled fairly submits the samples its flows deserve. -/
theorem sampledState_run {calls : List TcCall} (reserves : ∀ call ∈ calls, call.reserved.isSome)
    (fair : ∀ done call rest, calls = done ++ call :: rest → FairlySampled done call) :
    SampledState (TcMaps.run calls) (flowsOf (calls.map TcCall.skb)) := by
  induction calls using List.reverseRecOn with
  | nil => exact SampledState.initial
  | append_singleton calls call ih =>
      have state : SampledState (TcMaps.run calls) (flowsOf (calls.map TcCall.skb)) := by
        apply ih
        · exact fun other member => reserves other (List.mem_append_left _ member)
        · intro done other rest split
          exact fair done other (rest ++ [call]) (by rw [split]; simp)
      have fairLast := fair calls call [] rfl
      have reservesLast := reserves call (by simp)
      rw [TcMaps.run, Runs.run_concat, flowsOf_concat]
      change SampledState ((TcMaps.run calls).step call) _
      cases accounted : tcFlow? call.skb with
      | none =>
          rw [TcMaps.step_rejected accounted, Option.toList_none, List.append_nil]
          exact state
      | some key =>
          have fairKey := fairLast key accounted
          cases found : (TcMaps.run calls).tcFlowStats.lookup key with
          | none =>
              rw [CellMap.find?_eq_none.mpr found] at fairKey
              exact state.step_new accounted reservesLast found fairKey
          | some cell =>
              rw [CellMap.find?_of_lookup found] at fairKey
              exact state.step_known accounted reservesLast found fairKey

/-- **Sampling stays bounded** while every frame is sampled fairly: in every state reached, the records are
at most one for every hundred accounted frames and one for every flow. -/
theorem tc_sampling_bounded {calls : List TcCall}
    (reserves : ∀ call ∈ calls, call.reserved.isSome)
    (fair : ∀ done call rest, calls = done ++ call :: rest → FairlySampled done call)
    {reached rest : List TcCall} (split : calls = reached ++ rest) :
    (TcMaps.run reached).tcEvents.length ≤
      (flowsOf (reached.map TcCall.skb)).length / 100 +
        (flowsOf (reached.map TcCall.skb)).toFinset.card := by
  have state : SampledState (TcMaps.run reached) (flowsOf (reached.map TcCall.skb)) := by
    apply sampledState_run
    · exact fun call member => reserves call (split ▸ List.mem_append_left _ member)
    · intro done call later before
      exact fair done call (later ++ rest) (by rw [split, before]; simp)
  rw [state.records]
  exact samples_le 100 _

/-- Two frames of one flow: the first finds it absent and new, the second finds its statistics. -/
theorem tc_sampling_bounded_two_frames :
    (TcMaps.run [callFrom 1, callFrom 1]).tcEvents.length ≤ 1 := by
  have flows : flowsOf ([callFrom 1, callFrom 1].map TcCall.skb) = [flowFrom 1, flowFrom 1] := by
    simp [flowsOf, tcFlow?_callFrom]
  have first : FairlySampled [] (callFrom 1) := by
    intro key _
    exact List.not_mem_nil
  have second : FairlySampled [callFrom 1] (callFrom 1) := by
    intro key accounted
    rw [tcFlow?_callFrom] at accounted
    cases accounted
    have fewFlows : (flowsOf ([callFrom 1].map TcCall.skb)).toFinset.card ≤ 10240 := by
      simp [flowsOf, tcFlow?_callFrom]
    have lens : lensOf (flowFrom 1) ([callFrom 1].map TcCall.skb) = [42] := by
      have len (source : U32) : (callFrom source).skb.len = 42 := rfl
      simp [lensOf, tcFlow?_callFrom, len]
    rw [find?_run fewFlows, lens]
    change (FlowStats.total [42]).packets ≠ BitVec.allOnes 64
    decide
  have reserves : ∀ call ∈ [callFrom 1, callFrom 1], call.reserved.isSome := by
    intro call member
    simp only [List.mem_cons, List.not_mem_nil, or_false, or_self] at member
    rw [member]
    rfl
  have fair : ∀ done call rest, [callFrom 1, callFrom 1] = done ++ call :: rest →
      FairlySampled done call := by
    intro done call rest split
    rcases done with _ | ⟨_, _ | ⟨_, _ | _⟩⟩ <;> cases split
    · exact first
    · exact second
  have bounded := tc_sampling_bounded reserves fair (List.append_nil _).symm
  rw [flows] at bounded
  exact Nat.le_trans bounded (by simp)

/-! ### A full table -/

/-- Ring space and a flow of its own for each of the sources. -/
def callsFrom (sources : List Nat) : List TcCall :=
  sources.map fun source => callFrom (BitVec.ofNat 32 source)

theorem callsFrom_reserves (sources : List Nat) :
    ∀ call ∈ callsFrom sources, call.reserved.isSome := by
  intro call member
  obtain ⟨source, _, rfl⟩ := List.mem_map.mp member
  rfl

theorem flowsOf_callsFrom (sources : List Nat) :
    flowsOf ((callsFrom sources).map TcCall.skb) =
      sources.map fun source => flowFrom (BitVec.ofNat 32 source) := by
  simp [callsFrom, flowsOf, List.filterMap_map, Function.comp_def, tcFlow?_callFrom]

/-- The sources below the size of the table have different flows. -/
theorem flow_inj {first second : Nat} (firstSmall : first ≤ 10240) (secondSmall : second ≤ 10240)
    (same : flowFrom (BitVec.ofNat 32 first) = flowFrom (BitVec.ofNat 32 second)) :
    first = second := by
  have sources := congrArg BitVec.toNat (flowFrom_injective same)
  rw [BitVec.toNat_ofNat, BitVec.toNat_ofNat] at sources
  omega

/-- The flows of the first sources. -/
def flowsBelow (count : Nat) : Finset FlowKey :=
  (Finset.range count).image fun source => flowFrom (BitVec.ofNat 32 source)

theorem fresh_flow {count : Nat} (fits : count ≤ 10240) :
    flowFrom (BitVec.ofNat 32 count) ∉ flowsBelow count := by
  intro member
  obtain ⟨source, below, same⟩ := Finset.mem_image.mp member
  rw [Finset.mem_range] at below
  have equal := flow_inj (by omega) fits same
  omega

theorem card_flowsBelow {count : Nat} (fits : count ≤ 10240) : (flowsBelow count).card = count := by
  induction count with
  | zero => rfl
  | succ count ih =>
      have fresh := fresh_flow (Nat.le_of_succ_le fits)
      rw [flowsBelow, Finset.range_add_one, Finset.image_insert]
      change (insert _ (flowsBelow count)).card = _
      rw [Finset.card_insert_of_notMem fresh, ih (Nat.le_of_succ_le fits)]

/-- The first 10240 flows all find room, and their first frames are sampled. -/
theorem fill_table {count : Nat} (fits : count ≤ 10240) :
    (TcMaps.run (callsFrom (List.range count))).tcFlowStats.keys = flowsBelow count ∧
      (TcMaps.run (callsFrom (List.range count))).tcEvents.length = count := by
  induction count with
  | zero => exact ⟨rfl, rfl⟩
  | succ count ih =>
      obtain ⟨keys, records⟩ := ih (Nat.le_of_succ_le fits)
      have ran : TcMaps.run (callsFrom (List.range (count + 1))) =
          (TcMaps.run (callsFrom (List.range count))).step (callFrom (BitVec.ofNat 32 count)) := by
        rw [callsFrom, List.range_succ, List.map_append]
        exact Runs.run_concat _ _ _
      generalize TcMaps.run (callsFrom (List.range count)) = maps at ran keys records
      have fresh : flowFrom (BitVec.ofNat 32 count) ∉ maps.tcFlowStats.keys := by
        rw [keys]
        exact fresh_flow (Nat.le_of_succ_le fits)
      have room : maps.tcFlowStats.HasRoom (flowFrom (BitVec.ofNat 32 count)) := by
        apply Or.inr
        rw [keys, card_flowsBelow (Nat.le_of_succ_le fits)]
        exact fits
      rw [ran, TcMaps.step_new (tcFlow?_callFrom _) (CellMap.lookup_eq_none.mpr fresh)]
      constructor
      · simp only
        rw [CellMap.keys_insert _ room, keys, flowsBelow, flowsBelow, Finset.range_add_one,
          Finset.image_insert]
      · rw [List.length_append, records, length_record rfl]

/-- Every frame of a refused flow is sampled. -/
theorem refused_flow {maps : TcMaps} {source : U32} (absent : flowFrom source ∉ maps.tcFlowStats.keys)
    (full : maps.tcFlowStats.keys.card = 10240) (frames : Nat) :
    (Runs.run TcMaps.step maps (List.replicate frames (callFrom source))).tcEvents.length =
      maps.tcEvents.length + frames := by
  induction frames generalizing maps with
  | zero => rfl
  | succ frames ih =>
      have refuses : ¬ maps.tcFlowStats.HasRoom (flowFrom source) := by
        rintro (bound | free)
        · exact absent bound
        · omega
      have stepped := TcMaps.step_new (tcFlow?_callFrom source) (CellMap.lookup_eq_none.mpr absent)
      rw [CellMap.insert_full _ refuses] at stepped
      have later : (Runs.run TcMaps.step (maps.step (callFrom source))
          (List.replicate frames (callFrom source))).tcEvents.length =
          (maps.step (callFrom source)).tcEvents.length + frames := by
        apply ih
        · rw [stepped]
          exact absent
        · rw [stepped]
          exact full
      have grown : (maps.step (callFrom source)).tcEvents.length = maps.tcEvents.length + 1 := by
        rw [stepped, List.length_append, length_record rfl]
      rw [List.replicate_succ, Runs.run_cons, later, grown, Nat.add_assoc, Nat.add_comm 1]

/-- One frame of each of `flows` flows and `extra` frames of one more. -/
def floodSources (flows extra : Nat) : List Nat :=
  List.range flows ++ List.replicate extra flows

/-- When the table is full after the first frames, every frame is sampled. -/
theorem flood_records {flows : Nat} (full : flows = 10240) (extra : Nat) :
    (TcMaps.run (callsFrom (floodSources flows extra))).tcEvents.length = flows + extra := by
  have fits : flows ≤ 10240 := Nat.le_of_eq full
  obtain ⟨keys, filled⟩ := fill_table fits
  have calls : callsFrom (floodSources flows extra) =
      callsFrom (List.range flows) ++ List.replicate extra (callFrom (BitVec.ofNat 32 flows)) := by
    rw [callsFrom, floodSources, List.map_append, List.map_replicate, callsFrom]
  rw [TcMaps.run] at keys filled
  rw [calls, TcMaps.run, Runs.run_append, refused_flow _ _ extra, filled]
  · rw [keys]
    exact fresh_flow fits
  · rw [keys, card_flowsBelow fits, full]

theorem flood_frames (flows extra : Nat) :
    (flowsOf ((callsFrom (floodSources flows extra)).map TcCall.skb)).length = flows + extra := by
  rw [flowsOf_callsFrom, List.length_map, floodSources, List.length_append, List.length_range,
    List.length_replicate]

theorem flood_flows (flows extra : Nat) :
    (flowsOf ((callsFrom (floodSources flows extra)).map TcCall.skb)).toFinset.card ≤ flows + 1 := by
  have sources : (floodSources flows extra).toFinset ⊆ Finset.range (flows + 1) := by
    intro source member
    simp only [floodSources, List.toFinset_append, Finset.mem_union, List.mem_toFinset,
      List.mem_range, List.mem_replicate] at member
    rw [Finset.mem_range]
    omega
  have flowsEq : (flowsOf ((callsFrom (floodSources flows extra)).map TcCall.skb)).toFinset =
      (floodSources flows extra).toFinset.image fun source => flowFrom (BitVec.ofNat 32 source) := by
    rw [flowsOf_callsFrom]
    ext flow
    simp
  rw [flowsEq]
  apply Nat.le_trans Finset.card_image_le
  apply Nat.le_trans (Finset.card_le_card sources)
  exact Nat.le_of_eq (Finset.card_range _)

/-- The flow that the full table refused is sampled with each of its frames: 10345 accounted frames of
10241 flows are owed at most 103 + 10241 records, and 10345 are submitted. -/
theorem tc_sampling_unbounded :
    (∀ call ∈ callsFrom (floodSources 10240 105), call.reserved.isSome) ∧
      ¬ (TcMaps.run (callsFrom (floodSources 10240 105))).tcEvents.length ≤
        (flowsOf ((callsFrom (floodSources 10240 105)).map TcCall.skb)).length / 100 +
          (flowsOf ((callsFrom (floodSources 10240 105)).map TcCall.skb)).toFinset.card := by
  have records := flood_records rfl 105
  have frames := flood_frames 10240 105
  have flows := flood_flows 10240 105
  refine ⟨callsFrom_reserves _, ?_⟩
  rw [records, frames]
  omega

end MonsaEbpf.S2
