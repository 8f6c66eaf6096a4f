/-
Module: MonsaEbpf.S2.LatencyFolds
Layer: S2
Purpose: The latency statistics of the fentry/fexit and the uretprobe program after a run of handlers, one
  after another. The entry of a PID folds the latencies that its exits recorded: their number, their sum,
  the least and the greatest of them. The number is taken modulo 2^64, and as latencies may be zero a sum
  below 2^64 does not keep it from wrapping.
Imports: MonsaEbpf.S2.FexitNumbers, MonsaEbpf.S2.Uretprobe
Trusted boundary: none
Main exports: totalLatency, LatencyStats.Folds, LatencyStats.Bounded, recordedLatencies, SaysLatencies,
  TimedProgram.find?_run, latency_statistics_fold, latency_count_wraps
-/
import Mathlib.Algebra.Group.Action.Defs
import Mathlib.Algebra.Order.BigOperators.Group.List
import Mathlib.Algebra.Order.Ring.Nat
import MonsaEbpf.S2.FexitNumbers
import MonsaEbpf.S2.Uretprobe

namespace MonsaEbpf.S2

/-- The sum of latencies, as a number. -/
def totalLatency (latencies : List U64) : Nat :=
  (latencies.map BitVec.toNat).sum

namespace LatencyStats

/-- The statistics are the folds over a list of latencies, the count in the arithmetic of its field. -/
structure Folds (stats : LatencyStats) (latencies : List U64) : Prop where
  count : stats.count = BitVec.ofNat 64 latencies.length
  total : stats.totalNs = BitVec.ofNat 64 (totalLatency latencies)
  minMember : stats.minNs ∈ latencies
  minLeast : ∀ latency ∈ latencies, stats.minNs ≤ latency
  maxMember : stats.maxNs ∈ latencies
  maxGreatest : ∀ latency ∈ latencies, latency ≤ stats.maxNs

/-- The first latency. -/
theorem Folds.first (latency : U64) : (first latency).Folds [latency] where
  count := rfl
  total := by simp [totalLatency, LatencyStats.first]
  minMember := List.mem_singleton_self latency
  minLeast := by simp [LatencyStats.first]
  maxMember := List.mem_singleton_self latency
  maxGreatest := by simp [LatencyStats.first]

/-- The better of the best value so far and a new one is the best of both. -/
theorem best_concat (worse better : U64 → U64 → Prop) [DecidableRel better] {best : U64}
    {values : List U64} (new : U64) (refl : ∀ value, worse value value)
    (replaces : ∀ value, better new best → worse value best → worse value new)
    (stays : ¬ better new best → worse new best) (member : best ∈ values)
    (others : ∀ value ∈ values, worse value best) :
    (if better new best then new else best) ∈ values ++ [new] ∧
      ∀ value ∈ values ++ [new], worse value (if better new best then new else best) := by
  by_cases isBetter : better new best
  · rw [if_pos isBetter]
    refine ⟨List.mem_append_right _ (List.mem_singleton_self new), ?_⟩
    intro value known
    rw [List.mem_append, List.mem_singleton] at known
    rcases known with earlier | rfl
    · exact replaces value isBetter (others value earlier)
    · exact refl value
  · rw [if_neg isBetter]
    refine ⟨List.mem_append_left _ member, ?_⟩
    intro value known
    rw [List.mem_append, List.mem_singleton] at known
    rcases known with earlier | rfl
    · exact others value earlier
    · exact stays isBetter

/-- One more latency. -/
theorem Folds.add {stats : LatencyStats} {latencies : List U64} (folds : stats.Folds latencies)
    (latency : U64) : (stats.add latency).Folds (latencies ++ [latency]) := by
  have least := best_concat (· ≥ ·) (· < ·) latency BitVec.le_refl
    (fun _ lower above => BitVec.le_trans (BitVec.le_of_lt lower) above) BitVec.not_lt.mp
    folds.minMember folds.minLeast
  have greatest := best_concat (· ≤ ·) (· > ·) latency BitVec.le_refl
    (fun _ higher below => BitVec.le_trans below (BitVec.le_of_lt higher)) BitVec.not_lt.mp
    folds.maxMember folds.maxGreatest
  constructor
  · rw [List.length_append, BitVec.ofNat_add, ← folds.count]
    rfl
  · rw [totalLatency, List.map_append, List.sum_append, BitVec.ofNat_add]
    change stats.totalNs + latency = BitVec.ofNat 64 (totalLatency latencies) + _
    rw [← folds.total]
    simp
  · exact least.1
  · exact least.2
  · exact greatest.1
  · exact greatest.2

/-- Recorded one by one, latencies leave no statistics when there are none, and their folds otherwise. -/
theorem folds_foldl (latencies : List U64) :
    (latencies = [] ∧ latencies.foldl (fun stats latency => some (record stats latency)) none = none) ∨
      ∃ stats, latencies.foldl (fun stats latency => some (record stats latency)) none = some stats ∧
        stats.Folds latencies := by
  induction latencies using List.reverseRecOn with
  | nil => exact Or.inl ⟨rfl, rfl⟩
  | append_singleton latencies latency ih =>
      right
      rw [List.foldl_append, List.foldl_cons, List.foldl_nil]
      rcases ih with ⟨rfl, nothing⟩ | ⟨stats, folded, folds⟩
      · exact ⟨_, rfl, nothing ▸ Folds.first latency⟩
      · exact ⟨_, rfl, folded ▸ folds.add latency⟩

/-- What the folds of latencies are as numbers. -/
structure Bounded (stats : LatencyStats) (latencies : List U64) : Prop where
  total : stats.totalNs.toNat = totalLatency latencies
  ordered : stats.minNs ≤ stats.maxNs
  atLeast : stats.count.toNat * stats.minNs.toNat ≤ stats.totalNs.toNat
  counted : latencies.length < 2 ^ 64 → stats.count.toNat = latencies.length
  atMost : latencies.length < 2 ^ 64 → stats.totalNs.toNat ≤ stats.count.toNat * stats.maxNs.toNat

variable {stats : LatencyStats} {latencies : List U64}

theorem Folds.toNat_count (folds : stats.Folds latencies) :
    stats.count.toNat = latencies.length % 2 ^ 64 := by
  rw [folds.count, BitVec.toNat_ofNat]

/-- Every latency is at least the least one, so their sum is at least as many times that one. -/
theorem Folds.length_mul_min_le (folds : stats.Folds latencies) :
    latencies.length * stats.minNs.toNat ≤ totalLatency latencies := by
  have least : ∀ latency ∈ latencies.map BitVec.toNat, stats.minNs.toNat ≤ latency := by
    intro _ member
    obtain ⟨latency, recorded, rfl⟩ := List.mem_map.mp member
    exact folds.minLeast latency recorded
  have sum := List.card_nsmul_le_sum _ _ least
  rwa [List.length_map, smul_eq_mul] at sum

theorem Folds.le_length_mul_max (folds : stats.Folds latencies) :
    totalLatency latencies ≤ latencies.length * stats.maxNs.toNat := by
  have greatest : ∀ latency ∈ latencies.map BitVec.toNat, latency ≤ stats.maxNs.toNat := by
    intro _ member
    obtain ⟨latency, recorded, rfl⟩ := List.mem_map.mp member
    exact folds.maxGreatest latency recorded
  have sum := List.sum_le_card_nsmul _ _ greatest
  rwa [List.length_map, smul_eq_mul] at sum

/-- With a sum below 2^64 the statistics are numbers and lie between their bounds. -/
theorem Folds.bounded (folds : stats.Folds latencies) (small : totalLatency latencies < 2 ^ 64) :
    stats.Bounded latencies := by
  have total : stats.totalNs.toNat = totalLatency latencies := by
    rw [folds.total, BitVec.toNat_ofNat, Nat.mod_eq_of_lt small]
  have counted (few : latencies.length < 2 ^ 64) : stats.count.toNat = latencies.length := by
    rw [folds.toNat_count, Nat.mod_eq_of_lt few]
  constructor
  · exact total
  · exact folds.minLeast _ folds.maxMember
  · rw [total, folds.toNat_count]
    exact (Nat.mul_le_mul_right _ (Nat.mod_le _ _)).trans folds.length_mul_min_le
  · exact counted
  · intro few
    rw [total, counted few]
    exact folds.le_length_mul_max

end LatencyStats

/-! ### Runs -/

section Programs

variable {σ E : Type}

/-- The latencies that the exits of a PID recorded, in order: those of the exits that found the timestamp of
their thread and got ring space. -/
def recordedLatencies (pid : U32) (events : List (TimedInvocation E)) : List U64 :=
  Runs.under pid (Runs.emitted (fun times event => times.stamp event.callEvent) timedRecord? .empty events)

/-- What a PID should have in the statistics, given its latencies. -/
def SaysLatencies (found : Option LatencyStats) (latencies : List U64) : Prop :=
  (latencies = [] → found = none) ∧
    (latencies ≠ [] → ∃ stats, found = some stats ∧ stats.Folds latencies ∧ stats.Bounded latencies)

/-- The statistics of a PID are its latencies recorded one by one. -/
theorem TimedProgram.find?_run (program : TimedProgram σ E) {events : List (TimedInvocation E)}
    (fewPids : (timedExitPids events).toFinset.card ≤ 1024) (pid : U32) :
    (program.stats (program.run events)).find? pid =
      (recordedLatencies pid events).foldl
        (fun stats latency => some (LatencyStats.record stats latency)) none := by
  have touches := (program.room_run fewPids).imp fun maps event room => program.touches maps event room
  have folded := Runs.find_run touches pid
  have emitted := Runs.emitted_map program.times (fun times event => times.stamp event.callEvent)
    program.times_step timedRecord? program.initial events
  rw [emitted, program.initial_times, program.initial_stats] at folded
  exact folded

/-- **The statistics of a PID say what its latencies were**, when their sum stays below 2^64. -/
theorem TimedProgram.saysLatencies_run (program : TimedProgram σ E) {events : List (TimedInvocation E)}
    (fewPids : (timedExitPids events).toFinset.card ≤ 1024) {pid : U32}
    (small : totalLatency (recordedLatencies pid events) < 2 ^ 64) :
    SaysLatencies ((program.stats (program.run events)).find? pid) (recordedLatencies pid events) := by
  rw [program.find?_run fewPids]
  rcases LatencyStats.folds_foldl (recordedLatencies pid events) with
    ⟨none, nothing⟩ | ⟨stats, folded, folds⟩
  · exact ⟨fun _ => nothing, fun some => absurd none some⟩
  · refine ⟨fun none => ?_, fun _ => ⟨stats, folded, folds, folds.bounded small⟩⟩
    have member := folds.minMember
    rw [none] at member
    cases member

end Programs

/-- **Latency statistics are folds** in both programs. -/
theorem latency_statistics_fold (pid : U32) :
    (∀ fexits : List (TimedInvocation FentryFexitEvent),
      (timedExitPids fexits).toFinset.card ≤ 1024 →
      totalLatency (recordedLatencies pid fexits) < 2 ^ 64 →
      SaysLatencies ((fentryFexit.run fexits).fentryLatencyStats.find? pid)
        (recordedLatencies pid fexits)) ∧
    (∀ urets : List (TimedInvocation UretprobeEvent),
      (timedExitPids urets).toFinset.card ≤ 1024 →
      totalLatency (recordedLatencies pid urets) < 2 ^ 64 →
      SaysLatencies ((uretprobe.run urets).uretLatencyStats.find? pid)
        (recordedLatencies pid urets)) := by
  constructor
  · intro fexits fewPids small
    exact fentryFexit.saysLatencies_run fewPids small
  · intro urets fewPids small
    exact uretprobe.saysLatencies_run fewPids small

/-- Two calls of the fentry/fexit program and one of the uretprobe program. -/
theorem latency_statistics_fold_calls :
    SaysLatencies ((fentryFexit.run reportedTwice).fentryLatencyStats.find? 1)
        (recordedLatencies 1 reportedTwice) ∧
      SaysLatencies
        ((uretprobe.run [.entry (hookedAt 1), .exit (hookedAt 4) (some (uretEvent (hookedAt 0) 0 0))]
          ).uretLatencyStats.find? 1)
        (recordedLatencies 1
          [.entry (hookedAt 1), .exit (hookedAt 4) (some (uretEvent (hookedAt 0) 0 0))]) :=
  ⟨(latency_statistics_fold 1).1 reportedTwice (by decide) (by decide),
    (latency_statistics_fold 1).2 _ (by decide) (by decide)⟩

/-! ### Many calls that take no time -/

section Instant

variable {E : Type} (memory : E)

/-- Calls of the process 1 that return in the nanosecond of their entry. -/
def instantCalls : Nat → List (TimedInvocation E)
  | 0 => []
  | count + 1 => .entry (hookedAt 1) :: .exit (hookedAt 1) (some memory) :: instantCalls count

theorem exitPids_instantCalls (count : Nat) :
    (timedExitPids (instantCalls memory count)).toFinset ⊆ {1} := by
  induction count with
  | zero => exact Finset.empty_subset _
  | succ count ih =>
      change (1 :: timedExitPids (instantCalls memory count)).toFinset ⊆ {1}
      rw [List.toFinset_cons]
      exact Finset.insert_subset (Finset.mem_singleton_self 1) ih

/-- Each of them records a latency of zero, from any store of timestamps in which no thread is inside. -/
theorem emitted_instantCalls (count : Nat) {times : CellMap U64 U64 10240} (nobody : times.keys = ∅) :
    Runs.emitted (fun times event => times.stamp event.callEvent) timedRecord? times
      (instantCalls memory count) = List.replicate count (1, 0) := by
  induction count generalizing times with
  | zero => rfl
  | succ count ih =>
      let thread : U64 := (hookedAt 1).task.pidTgid
      have room : times.HasRoom thread := by
        right
        rw [nobody]
        exact Nat.succ_pos _
      have stamped : (times.insert thread 1).find? thread = some 1 := by
        rw [CellMap.find?_insert _ room, if_pos rfl]
      have left : ((times.insert thread 1).erase thread).keys = ∅ := by
        rw [CellMap.keys_erase, CellMap.keys_insert _ room, nobody]
        rfl
      have later := ih left
      have recorded : timedRecord? (times.insert thread 1) (.exit (hookedAt 1) (some memory)) =
          some (1, 0) := by
        simp only [timedRecord?]
        rw [stamped]
        rfl
      rw [instantCalls, Runs.emitted, Runs.emitted, List.replicate_succ]
      change [] ++ ((timedRecord? (times.insert thread 1) _).toList ++ Runs.emitted _ _ _ _) = _
      rw [recorded, List.nil_append]
      exact congrArg (List.cons _) later

theorem recordedLatencies_instantCalls (count : Nat) :
    recordedLatencies 1 (instantCalls memory count) = List.replicate count 0 := by
  rw [recordedLatencies, emitted_instantCalls memory count rfl, Runs.under, List.filterMap_replicate_of_some]
  rfl

theorem totalLatency_instantCalls (count : Nat) (pid : U32) :
    totalLatency (recordedLatencies pid (instantCalls memory count)) = 0 := by
  by_cases same : 1 = pid
  · rw [← same, recordedLatencies_instantCalls, totalLatency, List.map_replicate, List.sum_replicate,
      smul_eq_mul]
    exact Nat.mul_zero count
  · have others : (if (1 : U32) = pid then some (0 : U64) else none) = none := if_neg same
    rw [recordedLatencies, emitted_instantCalls memory count rfl, Runs.under, List.filterMap_replicate]
    simp only [others]
    rfl

theorem fewPids_instantCalls (count : Nat) :
    (timedExitPids (instantCalls memory count)).toFinset.card ≤ 1024 :=
  (Finset.card_le_card (exitPids_instantCalls memory count)).trans (by decide)

end Instant

/-- The program counts them in the arithmetic of its field. -/
theorem count_instantCalls (memory : FentryFexitEvent) (count : Nat) (called : count ≠ 0) :
    ∃ stats, (fentryFexit.run (instantCalls memory count)).fentryLatencyStats.find? 1 = some stats ∧
      stats.count.toNat = count % 2 ^ 64 := by
  have found : (fentryFexit.run (instantCalls memory count)).fentryLatencyStats.find? 1 = _ :=
    fentryFexit.find?_run (fewPids_instantCalls memory count) 1
  have length : (recordedLatencies 1 (instantCalls memory count)).length = count := by
    rw [recordedLatencies_instantCalls, List.length_replicate]
  rcases LatencyStats.folds_foldl (recordedLatencies 1 (instantCalls memory count)) with
    ⟨none, _⟩ | ⟨stats, folded, folds⟩
  · rw [none] at length
    exact absurd length.symm called
  · exact ⟨stats, found.trans folded, length ▸ folds.toNat_count⟩

/-- Calls that take no time, as many as wrap a 64-bit counter. -/
def wrappingCalls : List (TimedInvocation FentryFexitEvent) :=
  instantCalls (fexitEvent (hookedAt 0) 0 0 0) (2 ^ 64)

/-- No process spends any time in them, and the process 1 counts none of them. -/
theorem latency_count_wraps :
    (timedExitPids wrappingCalls).toFinset.card ≤ 1024 ∧
      (∀ pid, totalLatency (recordedLatencies pid wrappingCalls) = 0) ∧
      (recordedLatencies 1 wrappingCalls).length = 2 ^ 64 ∧
      ∃ stats, (fentryFexit.run wrappingCalls).fentryLatencyStats.find? 1 = some stats ∧
        stats.count.toNat = 0 := by
  refine ⟨fewPids_instantCalls _ _, totalLatency_instantCalls _ _, ?_, ?_⟩
  · rw [wrappingCalls, recordedLatencies_instantCalls, List.length_replicate]
  · obtain ⟨stats, found, counted⟩ :=
      count_instantCalls (fexitEvent (hookedAt 0) 0 0 0) (2 ^ 64) (Nat.two_pow_pos 64).ne'
    exact ⟨stats, found, counted.trans (Nat.mod_self _)⟩

end MonsaEbpf.S2
