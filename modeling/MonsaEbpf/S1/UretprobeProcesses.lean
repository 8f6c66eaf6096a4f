/-
Module: MonsaEbpf.S1.UretprobeProcesses
Layer: S1
Purpose: The S1 uretprobe program over calls of many threads. Its timestamps are keyed by PID, so it sees
  the calls of a process as those of one thread: it accounts every completed call exactly when never two
  threads of a process are inside the traced function.
Imports: MonsaEbpf.S1.Uretprobe
Trusted boundary: none
Main exports: traceOf, callsOf, UretprobeMaps.statOf, Accounted, statOf_run, uretprobe_accounts_processes
-/
import MonsaEbpf.S1.Uretprobe

namespace MonsaEbpf.S1

open CallStacks

/-- The calls of a run, thread by thread. -/
def traceOf (events : List UretprobeInvocation) : List (CallEvent U64 U64) :=
  events.map UretprobeInvocation.callEvent

/-- The processes of a trace. -/
def pidsOf (trace : List (CallEvent U64 U64)) : Finset U32 :=
  (trace.map fun event => pidOf event.thread).toFinset

/-- The completed calls of all threads of a process. -/
def callsOf (pid : U32) (trace : List (CallEvent U64 U64)) : List (Call U64 U64) :=
  (completedCalls trace).filter fun call => pidOf call.thread = pid

/-- The time a call took. -/
def elapsed {T : Type} (call : Call T U64) : U64 :=
  call.left - call.entered

/-- `uretprobe_stats[pid]`, all zero when there is no entry. -/
def UretprobeMaps.statOf (maps : UretprobeMaps) (pid : U32) : UretprobeStat :=
  (maps.uretprobeStats.find? pid).getD .zero

/-- The statistics of a process are those of the completed calls of its threads. -/
structure Accounted (events : List UretprobeInvocation) (pid : U32) : Prop where
  calls : ((UretprobeMaps.run events).statOf pid).calls.toNat = (callsOf pid (traceOf events)).length
  totalNs : ((UretprobeMaps.run events).statOf pid).totalNs =
    ((callsOf pid (traceOf events)).map elapsed).sum

/-- Every completed call of every process is accounted. -/
def AccountsEveryCall (events : List UretprobeInvocation) : Prop :=
  ∀ pid, Accounted events pid

/-! ### What the statistics hold -/

/-- The trace as the program sees it: one thread for each process. -/
def processTrace (events : List UretprobeInvocation) : List (CallEvent U32 U64) :=
  regroup pidOf (traceOf events)

/-- The calls of a process that its one timestamp completes. -/
def stampedOf (pid : U32) (trace : List (CallEvent U32 U64)) : List (Call U32 U64) :=
  (stampedCalls trace).filter fun call => call.thread = pid

variable {done events : List UretprobeInvocation} {event : UretprobeInvocation}

theorem run_concat : UretprobeMaps.run (done ++ [event]) = (UretprobeMaps.run done).step event :=
  Runs.run_concat _ _ _

theorem processTrace_concat :
    processTrace (done ++ [event]) = processTrace done ++ [event.callEvent.regroup pidOf] := by
  rw [processTrace, traceOf, List.map_append, List.map_singleton, regroup_concat]
  rfl

theorem pidsOf_concat :
    pidsOf (traceOf (done ++ [event])) = insert (pidOf event.callEvent.thread) (pidsOf (traceOf done)) := by
  ext pid
  simp [pidsOf, traceOf, eq_comm]

theorem threads_processTrace (events : List UretprobeInvocation) :
    ((processTrace events).map CallEvent.thread).toFinset = pidsOf (traceOf events) := by
  rw [processTrace, regroup, List.map_map, pidsOf]
  congr 2
  funext event
  cases event <;> rfl

/-- The timestamps of few processes are the stamps of their calls. -/
theorem find?_starts_run (fewPids : (pidsOf (traceOf events)).card ≤ 1024) (pid : U32) :
    (UretprobeMaps.run events).uretprobeStart.find? pid = stamps (processTrace events) pid := by
  have follows : (UretprobeMaps.run events).uretprobeStart = stampMap 1024 (processTrace events) := by
    rw [processTrace, traceOf, regroup, List.map_map]
    exact stampMap_run UretprobeMaps.starts_step rfl events
  rw [follows]
  apply find?_stampMap_of_few_threads
  rw [threads_processTrace]
  exact fewPids

/-- Only processes of the trace have statistics. -/
theorem keys_stats_run (events : List UretprobeInvocation) :
    (UretprobeMaps.run events).uretprobeStats.keys ⊆ pidsOf (traceOf events) := by
  induction events using List.reverseRecOn with
  | nil => exact Finset.empty_subset _
  | append_singleton done event ih =>
      rw [run_concat, pidsOf_concat]
      have grown := ih.trans (Finset.subset_insert (pidOf event.callEvent.thread) _)
      cases event with
      | entry call => exact grown
      | exit call =>
          cases found : (UretprobeMaps.run done).uretprobeStart.find? (pidOf call.pidTgid) with
          | none =>
              rw [UretprobeMaps.step_exit_lone call found]
              exact grown
          | some started =>
              rw [UretprobeMaps.step_exit_stamped call found]
              by_cases room : (UretprobeMaps.run done).uretprobeStats.HasRoom (pidOf call.pidTgid)
              · rw [CellMap.keys_insert _ room]
                exact Finset.insert_subset_insert _ ih
              · rw [CellMap.insert_full _ room]
                exact grown

/-- An exit that finds a timestamp records its call for its process, if there is room. -/
theorem statOf_exit_stamped {maps : UretprobeMaps} {call : UretprobeCall} {started : U64}
    (found : maps.uretprobeStart.find? (pidOf call.pidTgid) = some started)
    (room : maps.uretprobeStats.HasRoom (pidOf call.pidTgid)) (pid : U32) :
    (maps.step (.exit call)).statOf pid =
      if pid = pidOf call.pidTgid then
        (maps.statOf pid).record (call.ktimeGetNs - started) call.ptRegsRc
      else maps.statOf pid := by
  rw [UretprobeMaps.step_exit_stamped call found, UretprobeMaps.statOf, CellMap.find?_insert _ room]
  by_cases same : pid = pidOf call.pidTgid
  · rw [if_pos same, if_pos same, ← same]
    rfl
  · rw [if_neg same, if_neg same]
    rfl

/-- **The statistics of a process are those of the calls that its one timestamp completes**, in the
arithmetic of the fields. -/
theorem statOf_run (fewPids : (pidsOf (traceOf events)).card ≤ 1024) (pid : U32) :
    ((UretprobeMaps.run events).statOf pid).calls =
        BitVec.ofNat 64 (stampedOf pid (processTrace events)).length ∧
      ((UretprobeMaps.run events).statOf pid).totalNs =
        ((stampedOf pid (processTrace events)).map elapsed).sum := by
  induction events using List.reverseRecOn with
  | nil => exact ⟨rfl, rfl⟩
  | append_singleton done event ih =>
      rw [pidsOf_concat] at fewPids
      have fewDone := (Finset.card_le_card (Finset.subset_insert _ _)).trans fewPids
      obtain ⟨calls, total⟩ := ih fewDone
      rw [run_concat, processTrace_concat, stampedOf, stampedCalls_concat, List.filter_append]
      cases event with
      | entry call =>
          rw [UretprobeMaps.step_entry]
          simpa [UretprobeInvocation.callEvent, CallEvent.regroup, Stamps.completes] using ⟨calls, total⟩
      | exit call =>
          have stamped := find?_starts_run fewDone (pidOf call.pidTgid)
          rw [UretprobeInvocation.callEvent, CallEvent.regroup, Stamps.completes, ← stamped]
          cases found : (UretprobeMaps.run done).uretprobeStart.find? (pidOf call.pidTgid) with
          | none =>
              rw [UretprobeMaps.step_exit_lone call found]
              simpa using ⟨calls, total⟩
          | some started =>
              have room : (UretprobeMaps.run done).uretprobeStats.HasRoom (pidOf call.pidTgid) :=
                CellMap.hasRoom_of_keys_subset ((keys_stats_run done).trans (Finset.subset_insert _ _))
                  (Finset.mem_insert_self _ _) fewPids
              rw [statOf_exit_stamped found room]
              by_cases same : pid = pidOf call.pidTgid
              · rw [if_pos same, ← same, UretprobeStat.record]
                simp [stampedOf, elapsed, calls, total, BitVec.ofNat_add]
              · have other : pidOf call.pidTgid ≠ pid := Ne.symm same
                rw [if_neg same]
                simpa [other] using ⟨calls, total⟩

/-! ### When every call is accounted -/

/-- The calls of a process seen as those of one thread are as many as those of its threads. -/
theorem length_completed_processTrace (alternates : Alternates (traceOf events))
    (bracketed : WellBracketed (traceOf events)) (pid : U32) :
    ((completedCalls (processTrace events)).filter fun call => call.thread = pid).length =
      (callsOf pid (traceOf events)).length := by
  rw [callsOf, ← List.countP_eq_length_filter, ← List.countP_eq_length_filter]
  exact countP_completedCalls_regroup alternates bracketed pid

/-- While calls never overlap, the timestamps complete the calls of the threads. -/
theorem stampedOf_of_neverOverlap (alternates : Alternates (traceOf events))
    (bracketed : WellBracketed (traceOf events)) (apart : NeverOverlap pidOf (traceOf events)) (pid : U32) :
    stampedOf pid (processTrace events) = (callsOf pid (traceOf events)).map (Call.regroup pidOf) := by
  have groupsAlternate := (alternates_regroup_iff alternates bracketed).mpr apart
  have all := (stampedCalls_eq_iff (wellBracketed_regroup pidOf alternates bracketed)).mpr
    groupsAlternate.returnsApart
  rw [stampedOf, processTrace, all, completedCalls_regroup alternates bracketed apart, callsOf,
    List.filter_map]
  rfl

/-- **The S1 uretprobe program accounts every call exactly when never two threads of a process are inside
the function** and no process completes 2^64 calls. -/
theorem uretprobe_accounts_processes (events : List UretprobeInvocation)
    (alternates : Alternates (traceOf events)) (bracketed : WellBracketed (traceOf events))
    (returned : AllReturned (traceOf events)) (fewPids : (pidsOf (traceOf events)).card ≤ 1024) :
    AccountsEveryCall events ↔
      NeverOverlap pidOf (traceOf events) ∧ ∀ pid, (callsOf pid (traceOf events)).length < 2 ^ 64 := by
  have stored (pid : U32) := statOf_run fewPids pid
  constructor
  · intro accounted
    have counted (pid : U32) :
        (stampedOf pid (processTrace events)).length % 2 ^ 64 = (callsOf pid (traceOf events)).length := by
      rw [← (accounted pid).calls, (stored pid).1, BitVec.toNat_ofNat]
    have few (pid : U32) :
        (stampedOf pid (processTrace events)).length ≤ (callsOf pid (traceOf events)).length := by
      rw [← length_completed_processTrace alternates bracketed]
      exact ((stampedCalls_sublist (processTrace events)).filter _).length_le
    -- the stored count is at most the number of stamped calls, which is at most that of all calls
    have all : stampedCalls (processTrace events) = completedCalls (processTrace events) := by
      apply stampedCalls_eq_of_length
      intro pid
      rw [length_completed_processTrace alternates bracketed]
      exact Nat.le_antisymm (few pid) (counted pid ▸ Nat.mod_le _ _)
    have apart := (stampedCalls_eq_iff (wellBracketed_regroup pidOf alternates bracketed)).mp all
    refine ⟨(returnsApart_regroup_iff alternates bracketed returned).mp apart, fun pid => ?_⟩
    rw [← counted pid]
    exact Nat.mod_lt _ (by decide)
  · rintro ⟨apart, small⟩ pid
    obtain ⟨calls, total⟩ := stored pid
    rw [stampedOf_of_neverOverlap alternates bracketed apart] at calls total
    rw [List.length_map] at calls
    rw [List.map_map] at total
    refine ⟨?_, total⟩
    rw [calls, BitVec.toNat_ofNat, Nat.mod_eq_of_lt (small pid)]

/-! ### Two threads -/

/-- A call of a thread of PID 1. -/
def threadCall (tid ktimeGetNs : U64) : UretprobeCall where
  pidTgid := 0x100000000 + tid
  ktimeGetNs := ktimeGetNs
  ptRegsRc := 0

/-- Two threads of PID 1, one after the other. -/
def inTurn : List UretprobeInvocation :=
  [.entry (threadCall 1 1), .exit (threadCall 1 2), .entry (threadCall 2 5), .exit (threadCall 2 8)]

theorem uretprobe_accounts_processes_in_turn : AccountsEveryCall inTurn := by
  have alternates : Alternates (traceOf inTurn) := isChain_kinds_iff_mem.mpr (by decide)
  have bracketed : WellBracketed (traceOf inTurn) :=
    ⟨nofun, by decide, nofun, by decide, trivial⟩
  have exact := uretprobe_accounts_processes inTurn alternates bracketed
    (allReturned_iff_mem.mpr (by decide)) (by decide)
  refine exact.mpr ⟨?_, fun pid => ?_⟩
  · exact (alternates_regroup_iff alternates bracketed).mp (isChain_kinds_iff_mem.mpr (by decide))
  · exact Nat.lt_of_le_of_lt (List.length_filter_le _ _) (by decide)

/-- Two threads of PID 1 whose calls overlap. -/
def overlapping : List UretprobeInvocation :=
  [.entry (threadCall 1 1), .entry (threadCall 2 2), .exit (threadCall 1 10), .exit (threadCall 2 20)]

/-- The first exit uses and drops the timestamp of the second thread, whose own exit then does nothing. -/
theorem uretprobe_misses_overlapping_call :
    Alternates (traceOf overlapping) ∧ WellBracketed (traceOf overlapping) ∧
      AllReturned (traceOf overlapping) ∧ (pidsOf (traceOf overlapping)).card ≤ 1024 ∧
      (UretprobeMaps.run overlapping).statOf 1 = { calls := 1, totalNs := 8, lastRc := 0 } ∧
      (callsOf 1 (traceOf overlapping)).map elapsed = [9, 18] ∧ ¬ AccountsEveryCall overlapping := by
  have stored : (UretprobeMaps.run overlapping).statOf 1 =
      { calls := 1, totalNs := 8, lastRc := 0 } := by decide
  refine ⟨isChain_kinds_iff_mem.mpr (by decide), ⟨nofun, nofun, by decide, by decide, trivial⟩,
    allReturned_iff_mem.mpr (by decide), by decide, stored, by decide, ?_⟩
  intro accounted
  have calls := (accounted 1).calls
  rw [stored] at calls
  revert calls
  decide

end MonsaEbpf.S1
