/-
Module: MonsaEbpf.S2.EventCounts
Layer: S2
Purpose: What the counting programs keep in their counter maps and report in their events, for any sequence
  of calls that are handled one after another. A full map refuses new keys silently, and the handler goes
  on with the count of a first event.
Imports: MonsaEbpf.S2.Tracepoint, MonsaEbpf.S2.Uprobe, MonsaEbpf.S2.CgroupCounters, MonsaEbpf.S2.CgroupSkb
Trusted boundary: none
Main exports: counter_maps_tally_exactly, reports_carry_ordinals
-/
import MonsaEbpf.S2.Tracepoint
import MonsaEbpf.S2.Uprobe
import MonsaEbpf.S2.CgroupCounters
import MonsaEbpf.S2.CgroupSkb

namespace MonsaEbpf.S2

open CountingHandler

/-- **The contents of the counter maps**: whatever else a counting handler does, its map holds the first
distinct keys with the number of their occurrences, and no call alters the value of another key. -/
theorem counter_maps_tally_exactly :
    (∀ {μ σ K C E α : Type} [DecidableEq K] {maxEntries : Nat}
      (program : CountingHandler μ σ K C E α maxEntries) (calls : List C),
      TalliesExactly program.counts program.key? (runAlone program.handler program.initial) calls) ∧
    (∀ calls, TalliesExactly kprobeCounts KprobeCall.pid? (runAlone msbKprobeExecve .initial) calls) ∧
    (∀ calls, TalliesExactly uprobeCounts UprobeCall.pid? (runAlone msbUprobeEntry .initial) calls) ∧
    (∀ calls, TalliesExactly tpCounts TpCall.pid? (runAlone msbTracepoint .initial) calls) ∧
    (∀ calls, TalliesExactly rawTpCounts RawTpCall.pid? (runAlone msbRawTracepoint .initial) calls) ∧
    (∀ calls, TalliesExactly cgroupDevice.counts (fun call => some call.cgroupId)
      (runAlone msbCgroupDevice .initial) calls) ∧
    (∀ calls, TalliesExactly cgroupSockAddr.counts (fun call => some call.cgroupId)
      (runAlone msbCgroupSockAddr .initial) calls) ∧
    (∀ calls, TalliesExactly cgroupSock.counts (fun call => some call.cgroupId)
      (runAlone msbCgroupSock .initial) calls) ∧
    (∀ calls, TalliesExactly cgroupSockopt.counts (fun call => some call.cgroupId)
      (runAlone msbCgroupSockopt .initial) calls) ∧
    (∀ calls, TalliesExactly cgroupSysctl.counts (fun call => some call.cgroupId)
      (runAlone msbCgroupSysctl .initial) calls) ∧
    (∀ calls, TalliesExactly cgroupBpf.counts (fun call => some call.cgroupId)
      (runAlone msbCgroupBpf .initial) calls) ∧
    (∀ calls, TalliesExactly cgroupSkbCounts CgroupSkbCall.counted?
      (runAlone msbCgroupSkb .initial) calls) := by
  refine ⟨fun program => program.talliesExactly_run, ?kprobe, uprobe.talliesExactly_run,
    tracepoint.talliesExactly_run, rawTracepoint.talliesExactly_run, cgroupDevice.talliesExactly_run,
    cgroupSockAddr.talliesExactly_run, cgroupSock.talliesExactly_run, cgroupSockopt.talliesExactly_run,
    cgroupSysctl.talliesExactly_run, cgroupBpf.talliesExactly_run, ?skb⟩
  case kprobe =>
    rw [← kprobe_handler]
    exact kprobe.talliesExactly_run
  case skb =>
    rw [← cgroupSkb_handler]
    exact cgroupSkb.talliesExactly_run

/-! ### The counts in the events -/

theorem kprobe_numbers : kprobe.Numbers KprobeCall.reserved KprobeEvent.count :=
  emitting_numbers _ _ _ _ _ _ _ _ _ _ fun _ _ _ => rfl

theorem uprobe_numbers : uprobe.Numbers UprobeCall.reserved UprobeEvent.count :=
  emitting_numbers _ _ _ _ _ _ _ _ _ _ fun _ _ _ => rfl

theorem cgroupSockAddr_numbers :
    cgroupSockAddr.Numbers CgroupSockAddrCall.reserved CgroupSockAddrEvent.count :=
  emitting_numbers _ _ _ _ _ _ _ _ _ _ fun _ _ _ => rfl

/-- **The counts in the events**: they are ordinals exactly when no event that gets ring space repeats a key
that the full map refused. -/
theorem reports_carry_ordinals {μ σ K C E α : Type} [DecidableEq K] {maxEntries : Nat}
    (program : CountingHandler μ σ K C E α maxEntries) (reserved : C → Option E) (count : E → U64)
    (numbers : program.Numbers reserved count) (calls : List C) (few : calls.length < 2 ^ 64) :
    (CarriesOrdinals program.events count program.key? (runAlone program.handler program.initial) calls ↔
      SubmitsTracked maxEntries program.key? reserved calls) ∧
    (∀ calls : List KprobeCall, calls.length < 2 ^ 64 →
      (CarriesOrdinals kprobeEvents KprobeEvent.count KprobeCall.pid?
          (runAlone msbKprobeExecve .initial) calls ↔
        SubmitsTracked 10240 KprobeCall.pid? KprobeCall.reserved calls)) ∧
    (∀ calls : List UprobeCall, calls.length < 2 ^ 64 →
      (CarriesOrdinals uprobeEvents UprobeEvent.count UprobeCall.pid?
          (runAlone msbUprobeEntry .initial) calls ↔
        SubmitsTracked 10240 UprobeCall.pid? UprobeCall.reserved calls)) ∧
    (∀ calls : List CgroupSockAddrCall, calls.length < 2 ^ 64 →
      (CarriesOrdinals cgroupSockAddr.events CgroupSockAddrEvent.count (fun call => some call.cgroupId)
          (runAlone msbCgroupSockAddr .initial) calls ↔
        SubmitsTracked 1024 (fun call => some call.cgroupId) CgroupSockAddrCall.reserved calls)) := by
  refine ⟨carriesOrdinals_iff numbers few, ?kprobe,
    fun _ few => carriesOrdinals_iff uprobe_numbers few,
    fun _ few => carriesOrdinals_iff cgroupSockAddr_numbers few⟩
  case kprobe =>
    rw [← kprobe_handler]
    exact fun _ few => carriesOrdinals_iff kprobe_numbers few

/-- A connect of a process in a cgroup, with ring space for its event. -/
def connectIn (cgroupId : U64) : CgroupSockAddrCall where
  ctx := ⟨0x0100007f, 0x5000, 2⟩
  cgroupId := cgroupId
  ktimeGetNs := 0
  reserved := some ⟨0, 0, 0, 0, 0, 0, 0, 0⟩

/-- Two connects of one cgroup are numbered one and two. -/
theorem reports_carry_ordinals_twice :
    CarriesOrdinals cgroupSockAddr.events CgroupSockAddrEvent.count (fun call => some call.cgroupId)
      (runAlone msbCgroupSockAddr .initial) [connectIn 5, connectIn 5] := by
  apply (reports_carry_ordinals cgroupSockAddr _ _ cgroupSockAddr_numbers _ (by decide)).1.mpr
  apply submitsTracked_of_few_keys
  decide

/-- After connects from 1025 cgroups, the second connect of the last one is numbered one again. -/
theorem connect_after_full_map_renumbered :
    ((wordsBelow 64 1025).map connectIn ++ [connectIn 1024]).length < 2 ^ 64 ∧
      ¬ CarriesOrdinals cgroupSockAddr.events CgroupSockAddrEvent.count (fun call => some call.cgroupId)
        (runAlone msbCgroupSockAddr .initial) ((wordsBelow 64 1025).map connectIn ++ [connectIn 1024]) := by
  have length : ((wordsBelow 64 1025).map connectIn).length = 1025 := by
    rw [List.length_map, length_wordsBelow]
  have keys : cgroupSockAddr.keys ((wordsBelow 64 1025).map connectIn) =
      wordsBelow 64 1024 ++ [1024] := by
    rw [CountingHandler.keys, List.filterMap_map, wordsBelow_succ 64 1024]
    exact List.filterMap_some
  constructor
  · rw [List.length_append, length]
    decide
  · refine not_carriesOrdinals_of_refused cgroupSockAddr_numbers keys ?_ (length_wordsBelow 64 1024)
      rfl rfl ?_
    · exact (wordsBelow_succ 64 1024) ▸ nodup_wordsBelow (by decide)
    · rw [length]
      decide

end MonsaEbpf.S2
