/-
Module: MonsaEbpf.S2.LatencyStats
Layer: S2
Purpose: The `struct latency_stats` that the fentry/fexit and the uretprobe program both declare, and the
  update of it that both spell out: insert the first latency on a miss, add and adjust the extremes on a
  hit. `exec_accountLatencyStats` is its effect when it runs alone.
Imports: MonsaEbpf.Bpf.Counting
Trusted boundary: human-reviewed translation
Main exports: LatencyStats, accountLatencyStats, LatencyStats.record, LatencyStats.record_changes,
  exec_accountLatencyStats
-/
import MonsaEbpf.Bpf.Counting

namespace MonsaEbpf.S2

/-- `struct latency_stats`. -/
structure LatencyStats where
  count : U64
  totalNs : U64
  minNs : U64
  maxNs : U64
deriving Repr, DecidableEq

instance : Inhabited LatencyStats := ⟨⟨0, 0, 0, 0⟩⟩

namespace LatencyStats

def countField : Field LatencyStats U64 := ⟨count, fun stats v => { stats with count := v }⟩
def totalField : Field LatencyStats U64 := ⟨totalNs, fun stats v => { stats with totalNs := v }⟩
def minField : Field LatencyStats U64 := ⟨minNs, fun stats v => { stats with minNs := v }⟩
def maxField : Field LatencyStats U64 := ⟨maxNs, fun stats v => { stats with maxNs := v }⟩

/-- `new_stats` of the first latency. -/
def first (latency : U64) : LatencyStats where
  count := 1
  totalNs := latency
  minNs := latency
  maxNs := latency

/-- The statistics after one more latency. -/
def add (stats : LatencyStats) (latency : U64) : LatencyStats where
  count := stats.count + 1
  totalNs := stats.totalNs + latency
  minNs := if latency < stats.minNs then latency else stats.minNs
  maxNs := if latency > stats.maxNs then latency else stats.maxNs

/-- The statistics after one more latency of a PID that may be new. -/
def record (stats : Option LatencyStats) (latency : U64) : LatencyStats :=
  match stats with
  | none => first latency
  | some stats => stats.add latency

/-- A latency adds one to the count. -/
theorem count_record (stats : Option LatencyStats) (latency : U64) :
    (record stats latency).count = (stats.map count).getD 0 + 1 := by
  cases stats <;> rfl

theorem toNat_count_record (stats : Option LatencyStats) (latency : U64) :
    (record stats latency).count.toNat =
      ((stats.map fun stats => stats.count.toNat).getD 0 + 1) % 2 ^ 64 := by
  rw [count_record, BitVec.toNat_add]
  cases stats <;> rfl

/-- A latency always changes the statistics: it changes their count. -/
theorem record_changes (stats : Option LatencyStats) (latency : U64) :
    some (record stats latency) ≠ stats := by
  cases stats with
  | none => simp
  | some stats =>
      intro same
      have counts := congrArg LatencyStats.count (Option.some.inj same)
      rw [count_record] at counts
      change stats.count + 1 = stats.count at counts
      bv_omega

end LatencyStats

section Account

variable {μ σ : Type} (map : MapRef μ σ U32 LatencyStats 1024)

/-- `if (latency < min) min = latency`. -/
def lowerMinNs (stats : Nat) (latency : U64) : StepProgram (BpfOp μ) σ Unit := do
  let min ← load map stats LatencyStats.minNs
  if latency < min then store map stats LatencyStats.minField latency else return ()

/-- `if (latency > max) max = latency`. -/
def raiseMaxNs (stats : Nat) (latency : U64) : StepProgram (BpfOp μ) σ Unit := do
  let max ← load map stats LatencyStats.maxNs
  if latency > max then store map stats LatencyStats.maxField latency else return ()

/-- Update the statistics behind a pointer. -/
def addLatency (stats : Nat) (latency : U64) : StepProgram (BpfOp μ) σ Unit := do
  let _ ← syncFetchAndAdd map stats LatencyStats.countField 1
  let _ ← syncFetchAndAdd map stats LatencyStats.totalField latency
  lowerMinNs map stats latency
  raiseMaxNs map stats latency

/-- Account a latency of a PID; the pointer is none when the PID had no statistics. -/
def accountLatencyStats (pid : U32) (latency : U64) : StepProgram (BpfOp μ) σ (Option Nat) := do
  let stats ← bpfMapLookupElem map pid
  match stats with
  | none => do
      let _ ← bpfMapUpdateElem map pid (LatencyStats.first latency)
      return none
  | some stats => do
      addLatency map stats latency
      return some stats

variable {map} {shared : σ} {pid : U32}

theorem exec_accountLatencyStats_absent (latency : U64) (absent : (map.get shared).lookup pid = none) :
    (accountLatencyStats map pid latency).exec shared =
      (none, map.set shared ((map.get shared).insert pid (LatencyStats.first latency))) := by
  rw [accountLatencyStats, exec_lookup_bind map absent]
  rfl

section Found

variable {stats : Nat} (allocated : stats < (map.get shared).cells.length) (value : LatencyStats)

include allocated

theorem exec_lowerMinNs (latency : U64) :
    (lowerMinNs map stats latency).exec (map.holding shared stats value) =
      ((), map.holding shared stats
        { value with minNs := if latency < value.minNs then latency else value.minNs }) := by
  rw [lowerMinNs, StepProgram.exec_bind, exec_load_holding allocated]
  split
  · rw [exec_store_holding]
    rfl
  · rfl

theorem exec_raiseMaxNs (latency : U64) :
    (raiseMaxNs map stats latency).exec (map.holding shared stats value) =
      ((), map.holding shared stats
        { value with maxNs := if latency > value.maxNs then latency else value.maxNs }) := by
  rw [raiseMaxNs, StepProgram.exec_bind, exec_load_holding allocated]
  split
  · rw [exec_store_holding]
    rfl
  · rfl

theorem exec_addLatency (latency : U64) :
    (addLatency map stats latency).exec (map.holding shared stats value) =
      ((), map.holding shared stats (value.add latency)) := by
  rw [addLatency, StepProgram.exec_bind, exec_syncFetchAndAdd_holding allocated,
    StepProgram.exec_bind, exec_syncFetchAndAdd_holding allocated, StepProgram.exec_bind,
    exec_lowerMinNs allocated, exec_raiseMaxNs allocated]
  rfl

end Found

theorem exec_accountLatencyStats_found {stats : Nat} (latency : U64)
    (found : (map.get shared).lookup pid = some stats) :
    (accountLatencyStats map pid latency).exec shared =
      (some stats,
        map.holding shared stats (((map.get shared).read stats).add latency)) := by
  have allocated : stats < (map.get shared).cells.length := (map.get shared).live found
  have held : map.holding shared stats ((map.get shared).read stats) = shared := holding_read allocated
  have added := exec_addLatency allocated ((map.get shared).read stats) latency
  rw [held] at added
  rw [accountLatencyStats, exec_lookup_bind map found]
  change StepProgram.exec (addLatency map stats latency >>= _) shared = _
  rw [StepProgram.exec_bind, added]
  rfl

/-- **Accounting a latency** yields the pointer that the PID had before and, with room for the PID,
changes the statistics of that PID only. -/
theorem exec_accountLatencyStats (map : MapRef μ σ U32 LatencyStats 1024) (shared : σ) (pid : U32)
    (latency : U64) :
    ∃ after, (accountLatencyStats map pid latency).exec shared =
        ((map.get shared).lookup pid, map.set shared after) ∧
      (∀ stats, (map.get shared).lookup pid = some stats →
        after.read stats = ((map.get shared).read stats).add latency) ∧
      ((map.get shared).HasRoom pid → ∀ other, after.find? other =
        if pid = other then some (LatencyStats.record ((map.get shared).find? other) latency)
        else (map.get shared).find? other) := by
  cases found : (map.get shared).lookup pid with
  | none =>
      refine ⟨_, exec_accountLatencyStats_absent latency found, nofun, fun room other => ?_⟩
      exact CellMap.find?_insert_next (LatencyStats.record · latency) found room other
  | some stats =>
      have allocated : stats < (map.get shared).cells.length := (map.get shared).live found
      refine ⟨_, exec_accountLatencyStats_found latency found, ?_, fun _ other => ?_⟩
      · rintro _ ⟨⟩
        exact CellMap.read_assign _ allocated
      · exact CellMap.find?_assign_next (LatencyStats.record · latency) found other

end Account

end MonsaEbpf.S2
