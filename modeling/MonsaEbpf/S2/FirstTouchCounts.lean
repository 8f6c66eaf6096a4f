/-
Module: MonsaEbpf.S2.FirstTouchCounts
Layer: S2
Purpose: Handlers that count under one key on several CPUs at once, from a map without the key. A miss is
  followed by an insertion that overwrites what another miss has inserted since, so the stored count is the
  number of handlers exactly on the schedules that take every insertion first.
Imports: MonsaEbpf.S2.Kprobe, MonsaEbpf.S2.Kretprobe, MonsaEbpf.S2.TcAccounting
Trusted boundary: none
Main exports: first_touch_counts, first_touch_update_lost
-/
import MonsaEbpf.S2.Kprobe
import MonsaEbpf.S2.Kretprobe
import MonsaEbpf.S2.TcAccounting

namespace MonsaEbpf.S2

open FirstTouch

/-- The handlers of `msb_kprobe_execve` on `n` CPUs. -/
def kprobeConfig {n : Nat} (maps : KprobeMaps) (calls : Fin n → KprobeCall) :
    Config (BpfOp KprobeMap) KprobeMaps S32 (Fin n) where
  shared := maps
  threads i := msbKprobeExecve (calls i)

/-- The handlers of `msb_tc_classifier` on `n` CPUs. -/
def tcConfig {n : Nat} (maps : TcMaps) (calls : Fin n → TcCall) :
    Config (BpfOp TcMap) TcMaps (Wire.Access S32) (Fin n) where
  shared := maps
  threads i := msbTcClassifier (calls i).skb (calls i).ktimeGetNs (calls i).reserved

/-- The handlers of `msb_kretprobe_openat_exit` on `n` CPUs. -/
def kretprobeConfig {n : Nat} (maps : KretprobeMaps)
    (calls : Fin n → KretprobeCall × Option KretprobeEvent) :
    Config (BpfOp KretprobeMap) KretprobeMaps S32 (Fin n) where
  shared := maps
  threads i := msbKretprobeOpenatExit (calls i).1 (calls i).2

/-- **When first touches lose no update**: in each of the programs, the count stored under the key of all
invocations is their number exactly if the number fits the counter and every `bpf_map_update_elem` on the
map was executed while no invocation held the entry or had counted itself. -/
theorem first_touch_counts (n : Nat) :
    (∀ (key : U32) (maps : KprobeMaps) (calls : Fin n → KprobeCall) (schedule : List (Fin n)),
      maps.kprobeCounts = .empty → (∀ i, pidOf (calls i).task.pidTgid = key) →
      ((kprobeConfig maps calls).run schedule).Finished →
      (kprobeCounts.storedCount key id ((kprobeConfig maps calls).run schedule).shared = n ↔
        n < 2 ^ 64 ∧
          (kprobeCounts.counter key id).InsertsEarly (kprobeConfig maps calls) schedule)) ∧
    (∀ (key : FlowKey) (maps : TcMaps) (calls : Fin n → TcCall) (schedule : List (Fin n)),
      maps.tcFlowStats = .empty → (∀ i, tcFlow? (calls i).skb = some key) →
      ((tcConfig maps calls).run schedule).Finished →
      (tcFlowStats.storedCount key FlowStats.packets ((tcConfig maps calls).run schedule).shared = n ↔
        n < 2 ^ 64 ∧
          (tcFlowStats.counter key FlowStats.packets).InsertsEarly (tcConfig maps calls) schedule)) ∧
    (∀ (key : U32) (maps : KretprobeMaps) (calls : Fin n → KretprobeCall × Option KretprobeEvent)
        (schedule : List (Fin n)),
      maps.pidStatistics = .empty → (∀ i, pidOf (calls i).1.task.pidTgid = key) →
      ((kretprobeConfig maps calls).run schedule).Finished →
      (pidStatistics.storedCount key PidStats.totalCalls
          ((kretprobeConfig maps calls).run schedule).shared = n ↔
        n < 2 ^ 64 ∧ (pidStatistics.counter key PidStats.totalCalls).InsertsEarly
          (kretprobeConfig maps calls) schedule)) := by
  refine ⟨?_, ?_, ?_⟩
  · intro key maps calls schedule start sameKey finished
    apply MapRef.storedCount_eq_iff start _ finished
    intro i
    rw [← sameKey i]
    exact msbKprobeExecve_searches (calls i)
  · intro key maps calls schedule start sameKey finished
    apply MapRef.storedCount_eq_iff start _ finished
    intro i
    apply msbTcClassifier_searches
    rw [tcFlowKey_of_tcFlow?, sameKey i]
  · intro key maps calls schedule start sameKey finished
    apply MapRef.storedCount_eq_iff start _ finished
    intro i
    rw [← sameKey i]
    exact msbKretprobeOpenatExit_searches (calls i).1 (calls i).2

/-! ### Two handlers -/

/-- Two threads of the process 1. -/
def siblingTask (i : Fin 2) : Task where
  pidTgid := 0x100000001 + BitVec.ofNat 64 i
  uidGid := 0
  cgroupId := 0
  comm := Vector.replicate 16 0

def siblingExecve (i : Fin 2) : KprobeCall where
  task := siblingTask i
  ktimeGetNs := 0
  ptRegsParm1 := 0
  ptRegsParm2 := 0
  ptRegsParm3 := 0
  reserved := none

def siblingExit (i : Fin 2) : KretprobeCall × Option KretprobeEvent :=
  ({ task := siblingTask i, ktimeGetNs := 0, ptRegsRc := 0 }, none)

def siblingFrame (_ : Fin 2) : TcCall :=
  { callFrom 1 with reserved := none }

/-- One handler after the other counts both. -/
theorem first_touch_counts_in_turn :
    kprobeCounts.storedCount 1 id
      ((kprobeConfig .initial siblingExecve).run [0, 0, 0, 1, 1, 1]).shared = 2 := by
  have exact := (first_touch_counts 2).1 1 .initial siblingExecve [0, 0, 0, 1, 1, 1] rfl (by decide)
    (by decide)
  exact exact.mpr ⟨by decide, by decide⟩

/-- **A lost update at first touch**: both handlers miss, and the insertion of the second overwrites the
count of the first. -/
theorem first_touch_update_lost :
    (((kprobeConfig .initial siblingExecve).run [0, 1, 0, 1, 0, 1]).Finished ∧
      kprobeCounts.storedCount 1 id
        ((kprobeConfig .initial siblingExecve).run [0, 1, 0, 1, 0, 1]).shared = 1) ∧
    (((tcConfig .initial siblingFrame).run [0, 1, 0, 1, 0, 1]).Finished ∧
      tcFlowStats.storedCount (flowFrom 1) FlowStats.packets
        ((tcConfig .initial siblingFrame).run [0, 1, 0, 1, 0, 1]).shared = 1) ∧
    (((kretprobeConfig .initial siblingExit).run
        [0, 0, 1, 1, 0, 0, 0, 1, 1, 1, 1, 1, 1, 0, 0, 0]).Finished ∧
      pidStatistics.storedCount 1 PidStats.totalCalls
        ((kretprobeConfig .initial siblingExit).run
          [0, 0, 1, 1, 0, 0, 0, 1, 1, 1, 1, 1, 1, 0, 0, 0]).shared = 1) := by
  refine ⟨⟨by decide, by decide⟩, ⟨by decide, by decide⟩, ⟨by decide, by decide⟩⟩

end MonsaEbpf.S2
