/-
Module: MonsaEbpf.S1.FentryFexit
Layer: S1
Purpose: S1-basic/examples/tracing/fentry_fexit/fentry_exec_latency.bpf.c, and its run over the calls of many
  threads. The entry handler stamps the process; the exit handler reports the time since the stamp and
  drops it. The run reports exactly the calls that the one timestamp of a process completes, so it reports
  every call with its own latency when never two threads of a process are inside.
Imports: MonsaEbpf.S1.Kprobe, MonsaEbpf.S1.UretprobeProcesses
Trusted boundary: human-reviewed translation
Main exports: ExecLatencyEvent, FentryMaps, FentryCall, fentryExecve, fexitExecve, FentryMaps.run,
  events_run, ReportsEveryExec, exec_latencies_reported
-/
import MonsaEbpf.S1.Kprobe
import MonsaEbpf.S1.UretprobeProcesses

namespace MonsaEbpf.S1

open CallStacks

/-- `struct exec_latency_event`. -/
structure ExecLatencyEvent where
  pid : U32
  comm : Comm
  durationNs : U64
deriving Repr, DecidableEq

/-- The maps of the program. -/
structure FentryMaps where
  startNs : CellMap U32 U64 1024
  execLatencyEvents : List ExecLatencyEvent

inductive FentryMap where
  | startNs
deriving DecidableEq, Repr

def startNs : MapRef FentryMap FentryMaps U32 U64 1024 where
  name := .startNs
  get := FentryMaps.startNs
  set := fun maps map => { maps with startNs := map }
  get_set := fun _ _ => rfl
  set_get := fun _ => rfl
  set_set := fun _ _ _ => rfl

def execLatencyEvents : RingRef FentryMaps ExecLatencyEvent where
  get := FentryMaps.execLatencyEvents
  set := fun maps events => { maps with execLatencyEvents := events }

/-- What one invocation of either handler sees; the entry handler uses neither the name nor the ring. -/
structure FentryCall where
  pidTgid : U64
  ktimeGetNs : U64
  comm : Comm
  reserved : Option ExecLatencyEvent

abbrev FentryProgram := StepProgram (BpfOp FentryMap) FentryMaps

/-- `fentry_execve`. -/
def fentryExecve (call : FentryCall) : FentryProgram S32 := do
  let _ ← bpfMapUpdateElem startNs (pidOf call.pidTgid) call.ktimeGetNs
  return 0

/-- `evt` of the exit handler when it is copied out. -/
def FentryCall.evt (call : FentryCall) (started : U64) : ExecLatencyEvent where
  pid := pidOf call.pidTgid
  comm := call.comm
  durationNs := call.ktimeGetNs - started

/-- `fexit_execve`: the timestamp goes whether or not the record finds room. -/
def fexitExecve (call : FentryCall) : FentryProgram S32 := do
  let start ← bpfMapLookupElem startNs (pidOf call.pidTgid)
  match start with
  | none => return 0
  | some start => do
      let started ← load startNs start id
      let _ ← bpfRingbufOutput execLatencyEvents (call.evt started) call.reserved
      let _ ← bpfMapDeleteElem startNs (pidOf call.pidTgid)
      return 0

/-- Nothing stamped and nothing reported yet. -/
def FentryMaps.initial : FentryMaps where
  startNs := .empty
  execLatencyEvents := []

/-! ### Run alone -/

/-- One invocation of a handler. -/
inductive FentryInvocation where
  | entry (call : FentryCall)
  | exit (call : FentryCall)

/-- An invocation as an event of its thread, with all that it sees. -/
def FentryInvocation.callEvent : FentryInvocation → CallEvent U64 FentryCall
  | .entry call => .enter call.pidTgid call
  | .exit call => .leave call.pidTgid call

def FentryMaps.step (maps : FentryMaps) : FentryInvocation → FentryMaps
  | .entry call => ((fentryExecve call).exec maps).2
  | .exit call => ((fexitExecve call).exec maps).2

/-- Run the handlers from left to right. -/
def FentryMaps.run (events : List FentryInvocation) : FentryMaps :=
  Runs.run FentryMaps.step .initial events

section Alone

variable {maps : FentryMaps} (call : FentryCall)

theorem FentryMaps.step_entry :
    maps.step (.entry call) =
      { maps with startNs := maps.startNs.insert (pidOf call.pidTgid) call.ktimeGetNs } := rfl

/-- An exit without a timestamp of its process does nothing. -/
theorem FentryMaps.step_exit_lone (absent : maps.startNs.find? (pidOf call.pidTgid) = none) :
    maps.step (.exit call) = maps := by
  have unbound : (S1.startNs.get maps).lookup (pidOf call.pidTgid) = none :=
    CellMap.find?_eq_none.mp absent
  rw [FentryMaps.step, fexitExecve, exec_lookup_bind S1.startNs unbound]
  rfl

/-- What the exit handler copies out, when the ring buffer has room. -/
def FentryCall.submitted (call : FentryCall) (started : U64) : List ExecLatencyEvent :=
  if call.reserved.isSome then [call.evt started] else []

/-- **What an exit with a timestamp of its process does.** -/
theorem FentryMaps.step_exit_stamped {started : U64}
    (found : maps.startNs.find? (pidOf call.pidTgid) = some started) :
    maps.step (.exit call) =
      { startNs := maps.startNs.erase (pidOf call.pidTgid)
        execLatencyEvents := maps.execLatencyEvents ++ call.submitted started } := by
  obtain ⟨start, pointer, begins⟩ := CellMap.exists_lookup_of_find? found
  have bound : (S1.startNs.get maps).lookup (pidOf call.pidTgid) = some start := pointer
  rw [FentryMaps.step, fexitExecve, exec_lookup_bind S1.startNs bound, FentryCall.submitted]
  simp only [StepProgram.exec_bind, exec_load, bpfRingbufOutput, exec_bpfRingbufReserve, ← begins]
  cases call.reserved with
  | none =>
      rw [Option.isSome_none, if_neg Bool.false_ne_true, List.append_nil]
      rfl
  | some memory => rfl

end Alone

/-- The timestamps follow the calls of the processes. -/
theorem FentryMaps.startNs_step (maps : FentryMaps) (event : FentryInvocation) :
    (maps.step event).startNs =
      maps.startNs.stamp ((event.callEvent.regroup pidOf).mapTime FentryCall.ktimeGetNs) := by
  cases event with
  | entry call => rfl
  | exit call =>
      rw [FentryInvocation.callEvent, CallEvent.regroup, CallEvent.mapTime, CellMap.stamp]
      cases found : maps.startNs.find? (pidOf call.pidTgid) with
      | none =>
          rw [FentryMaps.step_exit_lone call found,
            CellMap.erase_of_absent (CellMap.find?_eq_none.mp found)]
      | some started => rw [FentryMaps.step_exit_stamped call found]

/-! ### Runs -/

/-- The calls of a run, thread by thread. -/
def execTrace (events : List FentryInvocation) : List (CallEvent U64 FentryCall) :=
  events.map FentryInvocation.callEvent

/-- The trace as the program sees it: one thread for each process. -/
def execProcesses (events : List FentryInvocation) : List (CallEvent U32 FentryCall) :=
  regroup pidOf (execTrace events)

/-- The reports of a completed call: one with its latency, if the exit found room. -/
def reportsOf {T : Type} (call : Call T FentryCall) : List ExecLatencyEvent :=
  call.left.submitted call.entered.ktimeGetNs

/-- Every completed call of every thread is reported with its own latency, in the order of the exits. -/
def ReportsEveryExec (events : List FentryInvocation) : Prop :=
  (FentryMaps.run events).execLatencyEvents = (completedCalls (execTrace events)).flatMap reportsOf

/-- Whether the ring buffer has room for the report of an invocation. -/
def FentryInvocation.HasSpace : FentryInvocation → Prop
  | .entry _ => True
  | .exit call => call.reserved.isSome

variable {done events : List FentryInvocation} {event : FentryInvocation}

theorem execProcesses_concat :
    execProcesses (done ++ [event]) = execProcesses done ++ [event.callEvent.regroup pidOf] := by
  rw [execProcesses, execTrace, List.map_append, List.map_singleton, regroup_concat]
  rfl

/-- The timestamps are the stamps of the processes, if never too many processes are inside. -/
theorem find?_startNs_run (few : FewInside 1024 (execProcesses events)) (pid : U32) :
    (FentryMaps.run events).startNs.find? pid =
      (stamps (execProcesses events) pid).map FentryCall.ktimeGetNs := by
  have stampedByPid : events.map (fun event =>
      (event.callEvent.regroup pidOf).mapTime FentryCall.ktimeGetNs) =
        (execProcesses events).map (CallEvent.mapTime FentryCall.ktimeGetNs) := by
    rw [execProcesses, regroup, execTrace, List.map_map, List.map_map]
    rfl
  have follows : (FentryMaps.run events).startNs = _ := stampMap_run FentryMaps.startNs_step rfl events
  rw [follows, stampedByPid, ← stamps_mapTime]
  exact find?_stampMap_of_few_inside (few.mapTime _) pid

/-- **The reports of a run are those of the calls that the timestamps complete.** -/
theorem events_run (few : FewInside 1024 (execProcesses events)) :
    (FentryMaps.run events).execLatencyEvents = (stampedCalls (execProcesses events)).flatMap reportsOf := by
  induction events using List.reverseRecOn with
  | nil => rfl
  | append_singleton done event ih =>
      rw [execProcesses_concat] at few ⊢
      have fewDone : FewInside 1024 (execProcesses done) := fun earlier rest split =>
        few earlier (rest ++ [event.callEvent.regroup pidOf]) (by rw [split, List.append_assoc])
      rw [FentryMaps.run, Runs.run_concat, stampedCalls_concat, List.flatMap_append, ← ih fewDone]
      change ((FentryMaps.run done).step event).execLatencyEvents = _
      cases event with
      | entry call => exact (List.append_nil _).symm
      | exit call =>
          have stamped := find?_startNs_run fewDone (pidOf call.pidTgid)
          rw [FentryInvocation.callEvent, CallEvent.regroup, Stamps.completes]
          cases found : stamps (execProcesses done) (pidOf call.pidTgid) with
          | none =>
              rw [found] at stamped
              rw [FentryMaps.step_exit_lone call stamped]
              exact (List.append_nil _).symm
          | some entered =>
              rw [found] at stamped
              rw [FentryMaps.step_exit_stamped call stamped]
              exact congrArg (_ ++ ·) (List.append_nil _).symm

/-- A call of a process is reported like that of its thread. -/
theorem flatMap_reportsOf_regroup (calls : List (Call U64 FentryCall)) :
    (calls.map (Call.regroup pidOf)).flatMap reportsOf = calls.flatMap reportsOf := by
  rw [List.flatMap_map]
  rfl

/-! ### Reports with space -/

section Space

variable (space : ∀ event ∈ events, event.HasSpace)

include space

/-- A call that completes has space for its report. -/
theorem reserved_of_completed {call : Call U64 FentryCall}
    (completed : call ∈ completedCalls (execTrace events)) : call.left.reserved.isSome := by
  obtain ⟨event, member, same⟩ := List.mem_map.mp (leave_mem_of_completed completed)
  cases event with
  | entry entering => cases same
  | exit leaving =>
      obtain ⟨_, rfl⟩ := CallEvent.leave.inj same
      exact space _ member

theorem reserved_of_stamped {call : Call U32 FentryCall}
    (stamped : call ∈ stampedCalls (execProcesses events)) : call.left.reserved.isSome := by
  have completed := (stampedCalls_sublist _).subset stamped
  obtain ⟨original, leaves, same⟩ := List.mem_map.mp (leave_mem_of_completed completed)
  obtain ⟨event, member, rfl⟩ := List.mem_map.mp leaves
  cases event with
  | entry entering => cases same
  | exit leaving =>
      obtain ⟨_, rfl⟩ := CallEvent.leave.inj same
      exact space _ member

end Space

/-- With space there is one report for each call. -/
theorem length_flatMap_reportsOf {T : Type} {calls : List (Call T FentryCall)}
    (space : ∀ call ∈ calls, call.left.reserved.isSome) : (calls.flatMap reportsOf).length = calls.length := by
  induction calls with
  | nil => rfl
  | cons call rest ih =>
      have one : (reportsOf call).length = 1 := congrArg List.length (if_pos (space call List.mem_cons_self))
      rw [List.flatMap_cons, List.length_append, one, List.length_cons, Nat.add_comm]
      exact congrArg (· + 1) (ih fun other later => space other (List.mem_cons_of_mem _ later))

/-- **When the latency of every execve is reported.** If never two threads of a process are inside, every
completed call is reported with its own latency, but for those whose report finds no room. If every report
finds room, this is the only case. Once all calls have returned, no timestamp is left, in either case. -/
theorem exec_latencies_reported (events : List FentryInvocation) (alternates : Alternates (execTrace events))
    (bracketed : WellBracketed (execTrace events)) (few : FewInside 1024 (execProcesses events)) :
    (NeverOverlap pidOf (execTrace events) → ReportsEveryExec events) ∧
    (AllReturned (execTrace events) →
      (FentryMaps.run events).startNs.keys = ∅ ∧
      ((∀ event ∈ events, event.HasSpace) →
        (ReportsEveryExec events ↔ NeverOverlap pidOf (execTrace events)))) := by
  have bracketedProcesses : WellBracketed (execProcesses events) :=
    wellBracketed_regroup pidOf alternates bracketed
  have reports (apart : NeverOverlap pidOf (execTrace events)) : ReportsEveryExec events := by
    have groupsAlternate := (alternates_regroup_iff alternates bracketed).mpr apart
    have all := (stampedCalls_eq_iff bracketedProcesses).mpr groupsAlternate.returnsApart
    rw [ReportsEveryExec, events_run few, all, execProcesses, completedCalls_regroup alternates bracketed apart,
      flatMap_reportsOf_regroup]
  refine ⟨reports, fun returned => ⟨?_, fun space => ⟨fun reported => ?_, reports⟩⟩⟩
  · apply Finset.eq_empty_of_forall_notMem
    intro pid member
    obtain ⟨stamp, found⟩ := CellMap.mem_keys.mp member
    have outside : openCalls (execProcesses events) pid = [] :=
      allReturned_regroup alternates bracketed returned pid
    rw [find?_startNs_run few, stamps_of_returned outside] at found
    cases found
  · have lengths := congrArg List.length reported
    rw [events_run few, length_flatMap_reportsOf fun _ => reserved_of_stamped space,
      length_flatMap_reportsOf fun _ => reserved_of_completed space,
      ← length_completedCalls_regroup pidOf alternates bracketed] at lengths
    -- the stamps complete as many calls as there are, so they complete all of them
    have all := (stampedCalls_sublist (execProcesses events)).eq_of_length lengths
    have apart := (stampedCalls_eq_iff bracketedProcesses).mp all
    exact (returnsApart_regroup_iff alternates bracketed returned).mp apart

/-! ### Two threads -/

/-- A call of a thread of PID 1, with space for a report. -/
def execCall (tid ktimeGetNs : U64) : FentryCall where
  pidTgid := 0x100000000 + tid
  ktimeGetNs := ktimeGetNs
  comm := Vector.replicate 16 0
  reserved := some ⟨0, Vector.replicate 16 0, 0⟩

/-- Two threads of PID 1, one after the other. -/
def execsInTurn : List FentryInvocation :=
  [.entry (execCall 1 1), .exit (execCall 1 2), .entry (execCall 2 5), .exit (execCall 2 8)]

theorem exec_latencies_reported_in_turn :
    (FentryMaps.run execsInTurn).startNs.keys = ∅ ∧ ReportsEveryExec execsInTurn := by
  have alternates : Alternates (execTrace execsInTurn) := isChain_kinds_iff_mem.mpr (by decide)
  have bracketed : WellBracketed (execTrace execsInTurn) := ⟨nofun, by decide, nofun, by decide, trivial⟩
  have both := exec_latencies_reported execsInTurn alternates bracketed (fewInside_of_length (by decide))
  have apart : NeverOverlap pidOf (execTrace execsInTurn) :=
    (alternates_regroup_iff alternates bracketed).mp (isChain_kinds_iff_mem.mpr (by decide))
  exact ⟨(both.2 (allReturned_iff_mem.mpr (by decide))).1, both.1 apart⟩

/-- Two threads of PID 1 that are inside at the same time: one report, of neither call. -/
example :
    (FentryMaps.run [.entry (execCall 1 1), .entry (execCall 2 4), .exit (execCall 1 10),
      .exit (execCall 2 20)]).execLatencyEvents.map ExecLatencyEvent.durationNs = [6] := by
  decide

end MonsaEbpf.S1
