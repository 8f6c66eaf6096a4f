/-
Module: MonsaEbpf.S2.TcRereads
Layer: S2
Purpose: The TC classifier on several CPUs at once, on frames of a flow that is known. It adds its packet
  and then reads the shared counter again, once for the sampling test and once for the record, so what it
  samples depends on the additions that other CPUs make in between. The steps of an invocation are the
  lookup (number 0), the addition of the packet (1), the addition of the bytes (2), the read of the test
  (3), the reservation (4), the read of the count (5) and the submission (6).
Imports: MonsaEbpf.S2.FirstTouchCounts, MonsaEbpf.Bpf.SampleTickets
Trusted boundary: none
Main exports: tcStage, tcCallers, testedAfter, reportedAfter, due, SamplesHundredths, RereadsHundredths,
  OnePerHundredth, Undisturbed, tc_samples_hundredths
-/
import MonsaEbpf.S2.FirstTouchCounts
import MonsaEbpf.Bpf.SampleTickets

namespace MonsaEbpf.S2

open SharedCounter

/-! ### The rest of an invocation -/

section Stages

variable (key : FlowKey) (stats : Nat) (call : TcCall)

/-- The rest of an invocation that samples its packet, with an entry for each step since the test. -/
def tcReportStage : List U64 → TcProgram (Wire.Access S32)
  | [] => do
      let verdict ← emitSample call.skb call.ktimeGetNs call.reserved key (some stats)
      return .ok verdict
  | [_] => do
      let count ← load tcFlowStats stats FlowStats.packets
      bpfRingbufSubmit tcEvents (tcRecord call.skb call.ktimeGetNs key count)
      return .ok TC_ACT_OK
  | [_, reported] => do
      bpfRingbufSubmit tcEvents (tcRecord call.skb call.ktimeGetNs key reported)
      return .ok TC_ACT_OK
  | _ => return .ok TC_ACT_OK

/-- What such an invocation has submitted. -/
def tcReportSent : List U64 → List TcEvent
  | _ :: reported :: _ :: _ => [tcRecord call.skb call.ktimeGetNs key reported]
  | _ => []

/-- The rest of an invocation, given the packet counts before the steps it took. -/
def tcStage : List U64 → TcProgram (Wire.Access S32)
  | [] => msbTcClassifier call.skb call.ktimeGetNs call.reserved
  | [_] => do
      let _ ← syncFetchAndAdd tcFlowStats stats FlowStats.packetsField 1
      let _ ← syncFetchAndAdd tcFlowStats stats FlowStats.bytesField (call.skb.len.setWidth 64)
      let verdict ← sampleFlow call.skb call.ktimeGetNs call.reserved key (some stats)
      return .ok verdict
  | [_, _] => do
      let _ ← syncFetchAndAdd tcFlowStats stats FlowStats.bytesField (call.skb.len.setWidth 64)
      let verdict ← sampleFlow call.skb call.ktimeGetNs call.reserved key (some stats)
      return .ok verdict
  | [_, _, _] => do
      let verdict ← sampleFlow call.skb call.ktimeGetNs call.reserved key (some stats)
      return .ok verdict
  | _ :: _ :: _ :: tested :: later =>
      if tested % 100 ≠ 0 then return .ok TC_ACT_OK else tcReportStage key stats call later

/-- What an invocation has submitted. -/
def tcSent : List U64 → List TcEvent
  | _ :: _ :: _ :: tested :: later => if tested % 100 ≠ 0 then [] else tcReportSent key call later
  | _ => []

variable {key stats call}

variable (key stats) in
/-- A step of an invocation that samples leaves the statistics alone. -/
theorem tcReportStage_step (granted : call.reserved.isSome) (later : List U64) (maps : TcMaps) :
    ∃ next new, (tcReportStage key stats call later).step maps =
        (tcReportStage key stats call (later ++ [(maps.tcFlowStats.read stats).packets]), next) ∧
      next.tcFlowStats = maps.tcFlowStats ∧ next.tcEvents = maps.tcEvents ++ new ∧
      tcReportSent key call (later ++ [(maps.tcFlowStats.read stats).packets]) =
        tcReportSent key call later ++ new := by
  match later with
  | [] =>
      obtain ⟨memory, reserved⟩ := Option.isSome_iff_exists.mp granted
      refine ⟨maps, [], ?_, rfl, (List.append_nil _).symm, rfl⟩
      simp only [tcReportStage, emitSample, reserved]
      rfl
  | [_] => exact ⟨maps, [], rfl, rfl, (List.append_nil _).symm, rfl⟩
  | [_, reported] => exact ⟨_, [tcRecord call.skb call.ktimeGetNs key reported], rfl, rfl, rfl, rfl⟩
  | _ :: _ :: _ :: _ => exact ⟨maps, [], rfl, rfl, (List.append_nil _).symm, (List.append_nil _).symm⟩

variable (key stats call) in
/-- What follows the read of the test. -/
theorem tcStage_tested (tested : U64) :
    ((if decide (tested % 100 ≠ 0) = true then StepProgram.ret TC_ACT_OK
      else emitSample call.skb call.ktimeGetNs call.reserved key (some stats)) >>= fun verdict =>
        (StepProgram.ret (.ok verdict) : TcProgram (Wire.Access S32))) =
      if tested % 100 ≠ 0 then return .ok TC_ACT_OK else tcReportStage key stats call [] := by
  by_cases skips : tested % 100 ≠ 0
  · rw [if_pos (decide_eq_true skips), if_pos skips]
    rfl
  · rw [if_neg (by simpa using skips), if_neg skips]
    rfl

end Stages

/-- The invocations on frames of one flow as callers around its packet counter. -/
def tcCallers {n : Nat} (key : FlowKey) (stats : Nat) (calls : Fin n → TcCall)
    (sameFlow : ∀ i, tcFlow? (calls i).skb = some key) (granted : ∀ i, (calls i).reserved.isSome) :
    Callers (BpfOp TcMap) TcMaps TcEvent (Wire.Access S32) (Fin n) 64 where
  draw := 1
  Inv maps := maps.tcFlowStats.lookup key = some stats
  count maps := (maps.tcFlowStats.read stats).packets
  log := TcMaps.tcEvents
  stage i := tcStage key stats (calls i)
  sent i := tcSent key (calls i)
  sent_nil _ := rfl
  step i readings maps found := by
    have allocated : stats < maps.tcFlowStats.cells.length := maps.tcFlowStats.live found
    match readings with
    | [] =>
        refine ⟨maps, [], ?_, found, rfl, (List.append_nil _).symm, rfl⟩
        rw [tcStage, msbTcClassifier, tcFlowKey_of_tcFlow?, sameFlow]
        simp only [classifyFlow, accountFlow, bind_assoc]
        rw [step_lookup_bind tcFlowStats found]
        rfl
    | [_] =>
        refine ⟨_, [], rfl, ?_, ?_, (List.append_nil _).symm, rfl⟩
        · exact (CellMap.lookup_write _ _ _ _).trans found
        · exact congrArg FlowStats.packets (CellMap.read_write _ allocated)
    | [_, _] =>
        refine ⟨_, [], rfl, ?_, ?_, (List.append_nil _).symm, rfl⟩
        · exact (CellMap.lookup_write _ _ _ _).trans found
        · exact (congrArg FlowStats.packets (CellMap.read_write _ allocated)).trans rfl
    | [_, _, _] =>
        refine ⟨maps, [], ?_, found, rfl, (List.append_nil _).symm, ite_self _⟩
        exact congrArg (Prod.mk · maps) (tcStage_tested key stats (calls i) _)
    | _ :: _ :: _ :: tested :: later =>
        have other : ¬ (later.length + 4 = 1) := by omega
        by_cases skips : tested % 100 ≠ 0
        · refine ⟨maps, [], ?_, found, (if_neg other).symm, (List.append_nil _).symm, ?_⟩
          · simp only [tcStage, List.cons_append, if_pos skips]
            rfl
          · simp only [tcSent, List.cons_append, if_pos skips, List.append_nil]
        · obtain ⟨next, new, stepped, kept, logged, sent⟩ :=
            tcReportStage_step key stats (granted i) later maps
          refine ⟨next, new, ?_, ?_, ?_, logged, ?_⟩
          · simp only [tcStage, List.cons_append, if_neg skips]
            exact stepped
          · rw [kept]
            exact found
          · rw [kept]
            exact (if_neg other).symm
          · simp only [tcSent, List.cons_append, if_neg skips]
            exact sent

/-! ### What a schedule decides -/

section Schedule

variable {n : Nat} (c : U64) (schedule : List (Fin n))

/-- How many packets were added before an invocation reads the counter for its test. -/
def testedAfter (i : Fin n) : Nat := (seen 1 i schedule).getD 3 0

/-- How many packets were added before an invocation reads the counter for its record. -/
def reportedAfter (i : Fin n) : Nat := (seen 1 i schedule).getD 5 0

/-- The invocations that test while the counter stands at a multiple of a hundred. -/
def due : Finset (Fin n) :=
  Finset.univ.filter fun i => 100 ∣ (c + BitVec.ofNat 64 (testedAfter schedule i)).toNat

/-- The multiples of a hundred after `c`, up to `n` further. -/
def hundredths (c : U64) (n : Nat) : Finset Nat :=
  (Finset.Ioc c.toNat (c.toNat + n)).filter (100 ∣ ·)

/-- Every hundredth packet is sampled: as many records are added as there are multiples of a hundred, and
they carry different multiples of a hundred. -/
def SamplesHundredths (c : U64) (n : Nat) (before after : List TcEvent) : Prop :=
  ∃ records, after = before ++ records ∧ records.length = (hundredths c n).card ∧
    (records.map TcEvent.count).Nodup ∧ ∀ record ∈ records, 100 ∣ record.count.toNat

/-- The due invocations are as many as the multiples of a hundred, and they read the counter again at
different multiples of a hundred. -/
structure RereadsHundredths : Prop where
  asMany : (due c schedule).card = (hundredths c n).card
  distinct : Set.InjOn (fun i => c + BitVec.ofNat 64 (reportedAfter schedule i)) (due c schedule)
  hundredths : ∀ i ∈ due c schedule, 100 ∣ (c + BitVec.ofNat 64 (reportedAfter schedule i)).toNat

/-- For each multiple of a hundred, exactly one due invocation reads the counter again while it stands
there, and none reads it again while it stands elsewhere. -/
structure OnePerHundredth : Prop where
  one : ∀ multiple ∈ hundredths c n,
    ∃! i, i ∈ due c schedule ∧ c.toNat + reportedAfter schedule i = multiple
  only : ∀ i ∈ due c schedule, c.toNat + reportedAfter schedule i ∈ hundredths c n

/-- Nobody adds between an invocation's own addition and its test, nor, when it is due, before its record. -/
structure Undisturbed : Prop where
  test : ∀ i, testedAfter schedule i = rank 1 i schedule + 1
  report : ∀ i ∈ due c schedule, reportedAfter schedule i = rank 1 i schedule + 1

end Schedule

/-! ### Invocations that have returned -/

/-- An invocation that has returned tested a count, and read it again when it was a multiple of a hundred. -/
theorem tcStage_finished {key : FlowKey} {stats : Nat} {call : TcCall} {counts : List U64}
    (sameFlow : tcFlow? call.skb = some key) (finished : (tcStage key stats call counts).Finished) :
    ∃ tested, counts[3]? = some tested ∧
      ((¬ 100 ∣ tested.toNat ∧ tcSent key call counts = []) ∨
        (100 ∣ tested.toNat ∧ ∃ reported, counts[5]? = some reported ∧
          tcSent key call counts = [tcRecord call.skb call.ktimeGetNs key reported])) := by
  match counts with
  | [] =>
      rw [tcStage, msbTcClassifier, tcFlowKey_of_tcFlow?, sameFlow] at finished
      cases finished
  | [_] => cases finished
  | [_, _] => cases finished
  | [_, _, _] => cases finished
  | _ :: _ :: _ :: tested :: later =>
      refine ⟨tested, rfl, ?_⟩
      by_cases skips : tested % 100 ≠ 0
      · left
        refine ⟨fun hundredth => skips ((hundredth_iff tested).mpr hundredth), ?_⟩
        simp only [tcSent, if_pos skips]
      · right
        refine ⟨(hundredth_iff tested).mp (not_not.mp skips), ?_⟩
        simp only [tcStage, if_neg skips] at finished
        simp only [tcSent, if_neg skips]
        match later with
        | [] => cases finished
        | [_] => cases finished
        | [_, _] => cases finished
        | _ :: reported :: _ :: _ => exact ⟨reported, rfl, rfl⟩

section Returned

variable {n : Nat} {key : FlowKey} {stats : Nat} {c : U64} {calls : Fin n → TcCall}
  {schedule : List (Fin n)} {maps : TcMaps} {config : Config (BpfOp TcMap) TcMaps (Wire.Access S32) (Fin n)}
  {sameFlow : ∀ i, tcFlow? (calls i).skb = some key} {granted : ∀ i, (calls i).reserved.isSome}
  (after : (tcCallers key stats calls sameFlow granted).After maps schedule config)
  (begins : (maps.tcFlowStats.read stats).packets = c) (finished : config.Finished)

include after finished

theorem added_all (i : Fin n) : 1 < schedule.count i := by
  have last := finished i
  rw [after.threads] at last
  obtain ⟨tested, read, _⟩ := tcStage_finished (sameFlow i) last
  have inside := (List.getElem?_eq_some_iff.mp read).1
  rw [length_readings] at inside
  exact Nat.lt_of_le_of_lt (by decide) inside

include begins

theorem tcStage_last (i : Fin n) :
    (tcStage key stats (calls i) (readings 1 c i schedule)).Finished := by
  rw [← begins]
  have last := finished i
  rwa [after.threads] at last

/-- What an invocation has submitted, in terms of the schedule. -/
theorem tcSent_eq (i : Fin n) :
    tcSent key (calls i) (readings 1 c i schedule) =
      if i ∈ due c schedule then
        [tcRecord (calls i).skb (calls i).ktimeGetNs key (c + BitVec.ofNat 64 (reportedAfter schedule i))]
      else [] := by
  obtain ⟨tested, read, result⟩ :=
    tcStage_finished (sameFlow i) (tcStage_last after begins finished i)
  have member : i ∈ due c schedule ↔ 100 ∣ tested.toNat := by
    rw [due, Finset.mem_filter_univ, reading_eq read, testedAfter]
  rw [← member] at result
  rcases result with ⟨skipped, sent⟩ | ⟨sampled, reported, again, sent⟩
  · rw [if_neg skipped, sent]
  · rw [if_pos sampled, sent, reading_eq again, reportedAfter]

/-- The records that were added are those of the due invocations. -/
theorem records_of_due : ∃ records, config.shared.tcEvents = maps.tcEvents ++ records ∧
    (records : Multiset TcEvent) = (due c schedule).val.map fun i =>
      tcRecord (calls i).skb (calls i).ktimeGetNs key (c + BitVec.ofNat 64 (reportedAfter schedule i)) := by
  obtain ⟨records, submitted, sent⟩ := after.log
  refine ⟨records, submitted, ?_⟩
  rw [sent, ← sum_singletons, due, Finset.sum_filter]
  refine Finset.sum_congr rfl fun i _ => ?_
  change (tcSent key (calls i) (readings 1 (maps.tcFlowStats.read stats).packets i schedule) :
    Multiset TcEvent) = _
  rw [begins, tcSent_eq after begins finished, apply_ite (fun list : List TcEvent => (list : Multiset TcEvent))]
  simp only [due, Finset.mem_filter_univ]
  rfl

/-- **The records in terms of the schedule.** -/
theorem samplesHundredths_iff :
    SamplesHundredths c n maps.tcEvents config.shared.tcEvents ↔ RereadsHundredths c schedule := by
  obtain ⟨records, submitted, gathered⟩ := records_of_due after begins finished
  have length : records.length = (due c schedule).card := by
    rw [← Multiset.coe_card, gathered, Multiset.card_map]
    rfl
  have distinct : (records.map TcEvent.count).Nodup ↔
      Set.InjOn (fun i => c + BitVec.ofNat 64 (reportedAfter schedule i)) (due c schedule) := by
    rw [← Multiset.coe_nodup, ← Multiset.map_coe, gathered, Multiset.map_map,
      Multiset.nodup_map_iff_inj_on (due c schedule).nodup]
    exact ⟨fun injective i memberI j memberJ => injective i memberI j memberJ,
      fun injective i memberI j memberJ => injective memberI memberJ⟩
  have multiples : (∀ record ∈ records, 100 ∣ record.count.toNat) ↔
      ∀ i ∈ due c schedule, 100 ∣ (c + BitVec.ofNat 64 (reportedAfter schedule i)).toNat := by
    simp only [← Multiset.mem_coe, gathered, Multiset.mem_map, forall_exists_index, and_imp,
      forall_apply_eq_imp_iff₂]
    rfl
  constructor
  · rintro ⟨others, same, counted, nodup, all⟩
    obtain rfl := List.append_cancel_left (submitted.symm.trans same)
    exact ⟨length.symm.trans counted, distinct.mp nodup, multiples.mp all⟩
  · intro rereads
    exact ⟨records, submitted, length.trans rereads.asMany, distinct.mpr rereads.distinct,
      multiples.mpr rereads.hundredths⟩

/-- A due invocation reads the counter again after its own addition. -/
theorem reportedAfter_bounds {i : Fin n} (member : i ∈ due c schedule) :
    rank 1 i schedule < reportedAfter schedule i ∧ reportedAfter schedule i ≤ n := by
  obtain ⟨tested, read, result⟩ :=
    tcStage_finished (sameFlow i) (tcStage_last after begins finished i)
  rcases result with ⟨skipped, _⟩ | ⟨_, reported, again, _⟩
  · rw [due, Finset.mem_filter_univ, testedAfter, ← reading_eq read] at member
    exact absurd member skipped
  · rw [readings, List.getElem?_map] at again
    obtain ⟨adds, seenThere, _⟩ := Option.map_eq_some_iff.mp again
    have reads : reportedAfter schedule i = adds := by
      rw [reportedAfter, List.getD_eq_getElem?_getD, seenThere, Option.getD_some]
    rw [reads]
    exact ⟨rank_lt_seen (by decide) seenThere, Fintype.card_fin n ▸ seen_le seenThere⟩

variable (noWrap : c.toNat + n < 2 ^ 64)

include noWrap

theorem reported_toNat {i : Fin n} (member : i ∈ due c schedule) :
    (c + BitVec.ofNat 64 (reportedAfter schedule i)).toNat = c.toNat + reportedAfter schedule i := by
  obtain ⟨_, bounded⟩ := reportedAfter_bounds after begins finished member
  rw [BitVec.toNat_add, BitVec.toNat_ofNat]
  omega

/-- As long as the counter does not wrap, a due invocation reads it in the range of the packets. -/
theorem reported_mem_hundredths {i : Fin n} (member : i ∈ due c schedule) :
    c.toNat + reportedAfter schedule i ∈ hundredths c n ↔
      100 ∣ (c + BitVec.ofNat 64 (reportedAfter schedule i)).toNat := by
  obtain ⟨positive, bounded⟩ := reportedAfter_bounds after begins finished member
  rw [hundredths, Finset.mem_filter, Finset.mem_Ioc, reported_toNat after begins finished noWrap member]
  exact and_iff_right ⟨by omega, by omega⟩

/-- The reported words differ exactly where the numbers do. -/
theorem injOn_reported_iff :
    Set.InjOn (fun i => c + BitVec.ofNat 64 (reportedAfter schedule i)) (due c schedule) ↔
      Set.InjOn (fun i => c.toNat + reportedAfter schedule i) (due c schedule) := by
  constructor
  · intro injective i memberI j memberJ same
    apply injective memberI memberJ
    apply BitVec.eq_of_toNat_eq
    rw [reported_toNat after begins finished noWrap memberI,
      reported_toNat after begins finished noWrap memberJ]
    exact same
  · intro injective i memberI j memberJ same
    apply injective memberI memberJ
    have read := congrArg BitVec.toNat same
    rwa [reported_toNat after begins finished noWrap memberI,
      reported_toNat after begins finished noWrap memberJ] at read

/-- **One invocation for each hundredth packet.** -/
theorem rereadsHundredths_iff : RereadsHundredths c schedule ↔ OnePerHundredth c schedule := by
  have numbers := injOn_reported_iff after begins finished noWrap
  constructor
  · intro rereads
    have inside : ∀ i ∈ due c schedule, c.toNat + reportedAfter schedule i ∈ hundredths c n :=
      fun i member => (reported_mem_hundredths after begins finished noWrap member).mpr
        (rereads.hundredths i member)
    have injective := numbers.mp rereads.distinct
    refine ⟨fun multiple member => ?_, inside⟩
    obtain ⟨i, memberI, stands⟩ :=
      Finset.surj_on_of_inj_on_of_card_le (fun i _ => c.toNat + reportedAfter schedule i) inside
        (fun i j memberI memberJ same => injective memberI memberJ same) rereads.asMany.ge multiple member
    refine ⟨i, ⟨memberI, stands.symm⟩, ?_⟩
    rintro j ⟨memberJ, same⟩
    exact injective memberJ memberI (same.trans stands)
  · intro one
    have injective : Set.InjOn (fun i => c.toNat + reportedAfter schedule i) (due c schedule) := by
      intro i memberI j memberJ same
      exact (one.one _ (one.only i memberI)).unique ⟨memberI, rfl⟩ ⟨memberJ, same.symm⟩
    refine ⟨?_, numbers.mpr injective, fun i member =>
      (reported_mem_hundredths after begins finished noWrap member).mp (one.only i member)⟩
    apply Finset.card_nbij (fun i => c.toNat + reportedAfter schedule i) one.only injective
    intro multiple member
    obtain ⟨i, ⟨memberI, stands⟩, _⟩ := one.one multiple member
    exact ⟨i, memberI, stands⟩

omit begins in
/-- Without additions in between, an invocation decides on the number of its own packet. -/
theorem onePerHundredth_of_undisturbed (undisturbed : Undisturbed c schedule) :
    OnePerHundredth c schedule := by
  have added := added_all after finished
  have own (i : Fin n) : c.toNat + (rank 1 i schedule + 1) ∈ Finset.Ioc c.toNat (c.toNat + n) := by
    have below := rank_lt added i
    rw [Fintype.card_fin] at below
    rw [Finset.mem_Ioc]
    omega
  have isDue (i : Fin n) : i ∈ due c schedule ↔ c.toNat + (rank 1 i schedule + 1) ∈ hundredths c n := by
    obtain ⟨_, bounded⟩ := Finset.mem_Ioc.mp (own i)
    have number : (c + BitVec.ofNat 64 (rank 1 i schedule + 1)).toNat =
        c.toNat + (rank 1 i schedule + 1) := by
      rw [BitVec.toNat_add, BitVec.toNat_ofNat]
      omega
    rw [due, Finset.mem_filter_univ, undisturbed.test, number, hundredths, Finset.mem_filter]
    exact (and_iff_right (own i)).symm
  constructor
  · intro multiple member
    obtain ⟨above, below⟩ := Finset.mem_Ioc.mp (Finset.mem_filter.mp member).1
    have few : multiple - c.toNat - 1 < Fintype.card (Fin n) := by
      rw [Fintype.card_fin]
      omega
    obtain ⟨i, ranked⟩ := exists_rank added few
    have stands : c.toNat + (rank 1 i schedule + 1) = multiple := by
      rw [ranked]
      omega
    have memberI : i ∈ due c schedule := (isDue i).mpr (stands ▸ member)
    refine ⟨i, ⟨memberI, by rw [undisturbed.report i memberI, stands]⟩, ?_⟩
    rintro j ⟨memberJ, same⟩
    rw [undisturbed.report j memberJ, ← stands] at same
    exact rank_injective added (Nat.succ.inj (Nat.add_left_cancel same))
  · intro i member
    rw [undisturbed.report i member]
    exact (isDue i).mp member

end Returned

/-- **When TC samples every hundredth packet**, for any number of concurrent invocations on frames of a known
flow. -/
theorem tc_samples_hundredths (n : Nat) (key : FlowKey) (stats : FlowStats) (maps : TcMaps)
    (calls : Fin n → TcCall) (schedule : List (Fin n)) (known : maps.tcFlowStats.find? key = some stats)
    (sameFlow : ∀ i, tcFlow? (calls i).skb = some key) (granted : ∀ i, (calls i).reserved.isSome)
    (finished : ((tcConfig maps calls).run schedule).Finished) :
    (SamplesHundredths stats.packets n maps.tcEvents
        ((tcConfig maps calls).run schedule).shared.tcEvents ↔
      RereadsHundredths stats.packets schedule) ∧
    (stats.packets.toNat + n < 2 ^ 64 →
      (RereadsHundredths stats.packets schedule ↔ OnePerHundredth stats.packets schedule) ∧
      (Undisturbed stats.packets schedule → OnePerHundredth stats.packets schedule)) := by
  obtain ⟨cell, found, begins⟩ := CellMap.exists_lookup_of_find? known
  have after := (tcCallers key cell calls sameFlow granted).after_run (tcConfig maps calls)
    found (fun _ => rfl) schedule
  have start : (maps.tcFlowStats.read cell).packets = stats.packets := congrArg FlowStats.packets begins
  refine ⟨samplesHundredths_iff after start finished, fun noWrap => ⟨?_, ?_⟩⟩
  · exact rereadsHundredths_iff after start finished noWrap
  · exact onePerHundredth_of_undisturbed after finished noWrap

/-! ### Two invocations -/

/-- A flow with a packet count. -/
def flowCounted (packets : U64) : TcMaps where
  tcFlowStats := CellMap.empty.insert (flowFrom 1) ⟨packets, 0⟩
  tcEvents := []

/-- Frames of that flow on two CPUs, with ring space. -/
def framesOfFlow (_ : Fin 2) : TcCall := callFrom 1

/-- One after the other, the packets 99 and 100. -/
theorem tc_samples_hundredths_in_turn :
    SamplesHundredths 98 2 []
      ((tcConfig (flowCounted 98) framesOfFlow).run [0, 0, 0, 0, 1, 1, 1, 1, 1, 1, 1]).shared.tcEvents := by
  have exactly := tc_samples_hundredths 2 (flowFrom 1) ⟨98, 0⟩ (flowCounted 98) framesOfFlow
    [0, 0, 0, 0, 1, 1, 1, 1, 1, 1, 1] (by decide) (fun _ => tcFlow?_callFrom 1) (by decide) (by decide)
  have noWrap := exactly.2 (by decide)
  exact exactly.1.mpr (noWrap.1.mpr (noWrap.2 ⟨by decide, by decide⟩))

/-- **The hundredth packet is missed**: the packets 100 and 101 are both added before either invocation
tests, so both read 101. -/
theorem tc_misses_hundredth :
    (flowCounted 99).tcFlowStats.find? (flowFrom 1) = some ⟨99, 0⟩ ∧
      ((tcConfig (flowCounted 99) framesOfFlow).run [0, 0, 1, 1, 0, 0, 1, 1]).Finished ∧
      ¬ SamplesHundredths 99 2 []
        ((tcConfig (flowCounted 99) framesOfFlow).run [0, 0, 1, 1, 0, 0, 1, 1]).shared.tcEvents := by
  refine ⟨by decide, by decide, ?_⟩
  rintro ⟨records, added, counted, _⟩
  have none : ((tcConfig (flowCounted 99) framesOfFlow).run
    [0, 0, 1, 1, 0, 0, 1, 1]).shared.tcEvents = [] := by decide
  have one : (hundredths 99 2).card = 1 := by decide
  rw [none, List.nil_append] at added
  rw [← added, one] at counted
  cases counted

end MonsaEbpf.S2
