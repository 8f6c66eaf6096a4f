/-
Module: MonsaEbpf.S2.UretprobeCalls
Layer: S2
Purpose: The uretprobe program over well-bracketed calls, recursion included, with ring space and room in
  its maps. It keeps one timestamp per thread, so it reports and counts the calls that the stamps complete:
  all of them exactly when no thread returns twice in a row.
Imports: MonsaEbpf.S2.Uretprobe
Trusted boundary: none
Main exports: CallReport, completedBy, MeasuresEveryCall, Unhindered, reports_run, storedCount_run,
  uretprobe_measures_every_call
-/
import MonsaEbpf.S2.Uretprobe

namespace MonsaEbpf.S2

open CallStacks

/-- What an event says about the call it reports. -/
structure CallReport where
  pid : U32
  tid : U32
  entryTs : U64
  exitTs : U64
  latencyNs : U64
deriving Repr, DecidableEq

def UretprobeEvent.report (event : UretprobeEvent) : CallReport where
  pid := event.pid
  tid := event.tid
  entryTs := event.entryTs
  exitTs := event.exitTs
  latencyNs := event.latencyNs

/-- What the event of a completed call has to say: its exit time minus the time of its own entry. -/
def callReport (call : Call U64 U64) : CallReport where
  pid := pidOf call.thread
  tid := tidOf call.thread
  entryTs := call.entered
  exitTs := call.left
  latencyNs := call.left - call.entered

/-- The number of completed calls of a process. -/
def completedBy (pid : U32) (trace : List (CallEvent U64 U64)) : Nat :=
  (completedCalls trace).countP fun call => pidOf call.thread = pid

/-- Every exit is reported with the latency of its own call, and every call is counted. -/
def MeasuresEveryCall (events : List (TimedInvocation UretprobeEvent)) : Prop :=
  (uretprobe.run events).uretprobeEvents.map UretprobeEvent.report =
      (completedCalls (events.map TimedInvocation.callEvent)).map callReport ∧
    ∀ pid, uretLatencyStats.storedCount pid LatencyStats.count (uretprobe.run events) =
      completedBy pid (events.map TimedInvocation.callEvent)

/-- An entry finds room for its thread and an exit for its PID. -/
def UretprobeMaps.HasRoom (maps : UretprobeMaps) : TimedInvocation UretprobeEvent → Prop
  | .entry call => maps.uretEntryTimes.HasRoom call.task.pidTgid
  | .exit call _ => maps.uretLatencyStats.HasRoom (pidOf call.task.pidTgid)

/-- The reservation of an exit succeeds. -/
def TimedInvocation.Granted {E : Type} : TimedInvocation E → Prop
  | .entry _ => True
  | .exit _ reserved => reserved.isSome

/-- Reservations succeed and the maps stay below their capacity. -/
structure Unhindered (events : List (TimedInvocation UretprobeEvent)) : Prop where
  granted : ∀ event ∈ events, event.Granted
  room : ∀ done event rest, events = done ++ event :: rest → (uretprobe.run done).HasRoom event

variable {done : List (TimedInvocation UretprobeEvent)} {event : TimedInvocation UretprobeEvent}

theorem Unhindered.concat (unhindered : Unhindered (done ++ [event])) :
    Unhindered done ∧ event.Granted ∧ (uretprobe.run done).HasRoom event := by
  refine ⟨⟨?_, ?_⟩, ?_, ?_⟩
  · intro earlier member
    exact unhindered.granted earlier (List.mem_append_left _ member)
  · rintro before earlier rest rfl
    exact unhindered.room before earlier (rest ++ [event]) (by simp)
  · exact unhindered.granted event (by simp)
  · exact unhindered.room done event [] rfl

theorem run_concat : uretprobe.run (done ++ [event]) = (uretprobe.run done).step event :=
  Runs.run_concat _ _ _

/-- The timestamps are the stamps of the trace. -/
theorem find?_times_run (unhindered : Unhindered done) (thread : U64) :
    (uretprobe.run done).uretEntryTimes.find? thread =
      stamps (done.map TimedInvocation.callEvent) thread := by
  have follows (events : List (TimedInvocation UretprobeEvent)) :
      (uretprobe.run events).uretEntryTimes = stampMap 10240 (events.map TimedInvocation.callEvent) :=
    uretprobe.times_run events
  rw [follows]
  induction done using List.reverseRecOn generalizing thread with
  | nil => rfl
  | append_singleton done event ih =>
      obtain ⟨before, _, room⟩ := unhindered.concat
      rw [List.map_append, List.map_singleton]
      apply find?_stampMap_concat (ih before)
      intro enters
      cases event with
      | entry call =>
          rw [← follows]
          exact room
      | exit call reserved => cases enters

/-- An exit with ring space records the call that the stamps complete. -/
theorem timedRecord?_run (unhindered : Unhindered done) (granted : event.Granted) :
    timedRecord? (uretprobe.run done).uretEntryTimes event =
      ((stamps (done.map TimedInvocation.callEvent)).completes event.callEvent).map fun call =>
        (pidOf call.thread, call.left - call.entered) := by
  cases event with
  | entry call => rfl
  | exit call reserved =>
      obtain ⟨memory, rfl⟩ := Option.isSome_iff_exists.mp granted
      rw [timedRecord?, find?_times_run unhindered, TimedInvocation.callEvent, Stamps.completes]
      cases stamps (done.map TimedInvocation.callEvent) call.task.pidTgid <;> rfl

/-- **The submitted events report the calls that the stamps complete.** -/
theorem reports_run (unhindered : Unhindered done) :
    (uretprobe.run done).uretprobeEvents.map UretprobeEvent.report =
      (stampedCalls (done.map TimedInvocation.callEvent)).map callReport := by
  induction done using List.reverseRecOn with
  | nil => rfl
  | append_singleton done event ih =>
      obtain ⟨before, granted, _⟩ := unhindered.concat
      rw [run_concat, List.map_append, List.map_singleton, stampedCalls_concat, List.map_append,
        ← ih before]
      cases event with
      | entry call => exact (List.append_nil _).symm
      | exit call reserved =>
          have stamped := find?_times_run before call.task.pidTgid
          rw [TimedInvocation.callEvent, Stamps.completes, ← stamped]
          cases found : (uretprobe.run done).uretEntryTimes.find? call.task.pidTgid with
          | none =>
              rw [UretprobeMaps.step_exit_lone call reserved found]
              exact (List.append_nil _).symm
          | some entered =>
              obtain ⟨memory, rfl⟩ := Option.isSome_iff_exists.mp granted
              obtain ⟨after, step, _⟩ := UretprobeMaps.step_exit_reserved call found memory
              rw [step, List.map_append]
              rfl

/-- One more event adds one to the stored count of the PID whose call it completes. -/
theorem storedCount_concat (unhindered : Unhindered (done ++ [event])) (pid : U32) :
    uretLatencyStats.storedCount pid LatencyStats.count (uretprobe.run (done ++ [event])) =
      match (stamps (done.map TimedInvocation.callEvent)).completes event.callEvent with
      | none => uretLatencyStats.storedCount pid LatencyStats.count (uretprobe.run done)
      | some call =>
          if pidOf call.thread = pid then
            (uretLatencyStats.storedCount pid LatencyStats.count (uretprobe.run done) + 1) % 2 ^ 64
          else uretLatencyStats.storedCount pid LatencyStats.count (uretprobe.run done) := by
  obtain ⟨before, granted, room⟩ := unhindered.concat
  have statsRoom : ∀ touched ∈ event.exitPid?, (uretprobe.run done).uretLatencyStats.HasRoom touched := by
    intro touched isPid
    cases event with
    | entry call => cases isPid
    | exit call reserved =>
        cases isPid
        exact room
  have touches := UretprobeMaps.touches (uretprobe.run done) event statsRoom pid
  simp only [timedRecord?_run before granted] at touches
  rw [run_concat]
  change ((((uretprobe.run done).step event).uretLatencyStats.find? pid).map _).getD 0 = _
  rw [touches]
  cases completed : (stamps (done.map TimedInvocation.callEvent)).completes event.callEvent with
  | none => rfl
  | some call =>
      simp only [Option.map_some]
      split
      · exact LatencyStats.toNat_count_record _ _
      · rfl

/-- **The stored count is the number of calls that the stamps complete**, in the arithmetic of the field. -/
theorem storedCount_run (unhindered : Unhindered done) (pid : U32) :
    uretLatencyStats.storedCount pid LatencyStats.count (uretprobe.run done) =
      (stampedCalls (done.map TimedInvocation.callEvent)).countP
        (fun call => pidOf call.thread = pid) % 2 ^ 64 := by
  induction done using List.reverseRecOn with
  | nil => rfl
  | append_singleton done event ih =>
      rw [storedCount_concat unhindered, ih unhindered.concat.1, List.map_append, List.map_singleton,
        stampedCalls_concat, List.countP_append]
      cases (stamps (done.map TimedInvocation.callEvent)).completes event.callEvent with
      | none => rfl
      | some call =>
          rw [Option.toList_some, List.countP_singleton]
          by_cases same : pidOf call.thread = pid
          · simp [same]
          · simp [same]

/-- **The uretprobe program measures every call exactly when no thread returns twice in a row** and no
process completes 2^64 calls. -/
theorem uretprobe_measures_every_call (events : List (TimedInvocation UretprobeEvent))
    (bracketed : WellBracketed (events.map TimedInvocation.callEvent)) (unhindered : Unhindered events) :
    MeasuresEveryCall events ↔
      ReturnsApart (events.map TimedInvocation.callEvent) ∧
        ∀ pid, completedBy pid (events.map TimedInvocation.callEvent) < 2 ^ 64 := by
  rw [MeasuresEveryCall, reports_run unhindered, ← stampedCalls_eq_iff bracketed]
  simp only [storedCount_run unhindered, completedBy]
  constructor
  · rintro ⟨reports, counts⟩
    have lengths := congrArg List.length reports
    rw [List.length_map, List.length_map] at lengths
    have all := (stampedCalls_sublist _).eq_of_length lengths
    refine ⟨all, fun pid => ?_⟩
    rw [← counts pid]
    exact Nat.mod_lt _ (by decide)
  · rintro ⟨all, small⟩
    refine ⟨by rw [all], fun pid => ?_⟩
    rw [all]
    exact Nat.mod_eq_of_lt (small pid)

/-- The first thread of PID 1 at a time. -/
def firstThread (ktimeGetNs : U64) : TimedCall where
  task := { pidTgid := 0x100000001, uidGid := 0, cgroupId := 0, comm := Vector.replicate 16 0 }
  ktimeGetNs := ktimeGetNs
  ret := 0

/-- Its entry. -/
def enters (ktimeGetNs : U64) : TimedInvocation UretprobeEvent :=
  .entry (firstThread ktimeGetNs)

/-- Its exit, with ring space. -/
def leaves (ktimeGetNs : U64) : TimedInvocation UretprobeEvent :=
  .exit (firstThread ktimeGetNs) (some (uretEvent (firstThread 0) 0 0))

theorem unhindered_of_before {events : List (TimedInvocation UretprobeEvent)}
    (granted : ∀ event ∈ events, event.Granted)
    (room : Runs.Before UretprobeMaps.step UretprobeMaps.HasRoom UretprobeMaps.initial events) :
    Unhindered events :=
  ⟨granted, Runs.before_iff_forall_split.mp room⟩

/-- A call, and then a recursive call that is still running after its inner call has returned. -/
def innerReturned : List (TimedInvocation UretprobeEvent) :=
  [enters 1, leaves 2, enters 3, enters 4, leaves 5]

theorem uretprobe_measures_every_call_inner_returned : MeasuresEveryCall innerReturned := by
  refine (uretprobe_measures_every_call innerReturned ?_ ?_).mpr ⟨?_, ?_⟩
  · exact ⟨nofun, by decide, nofun, nofun, by decide, trivial⟩
  · apply unhindered_of_before
    · simp [innerReturned, enters, leaves, TimedInvocation.Granted]
    · exact ⟨Or.inr (by decide), Or.inr (by decide), Or.inr (by decide), Or.inr (by decide),
        Or.inr (by decide), trivial⟩
  · exact isChain_kinds_iff_mem.mpr (by decide)
  · exact fun pid => Nat.lt_of_le_of_lt List.countP_le_length (by decide)

/-- A recursive call whose outer call returns as well. -/
def outerReturned : List (TimedInvocation UretprobeEvent) :=
  [enters 1, enters 2, leaves 3, leaves 9]

/-- The outer call completes, and the program neither reports nor counts it. -/
theorem uretprobe_misses_outer_call :
    WellBracketed (outerReturned.map TimedInvocation.callEvent) ∧ Unhindered outerReturned ∧
      (uretprobe.run outerReturned).uretprobeEvents.map UretprobeEvent.report =
        [{ pid := 1, tid := 1, entryTs := 2, exitTs := 3, latencyNs := 1 }] ∧
      (completedCalls (outerReturned.map TimedInvocation.callEvent)).map callReport =
        [{ pid := 1, tid := 1, entryTs := 2, exitTs := 3, latencyNs := 1 },
          { pid := 1, tid := 1, entryTs := 1, exitTs := 9, latencyNs := 8 }] ∧
      uretLatencyStats.storedCount 1 LatencyStats.count (uretprobe.run outerReturned) = 1 ∧
      completedBy 1 (outerReturned.map TimedInvocation.callEvent) = 2 ∧
      ¬ MeasuresEveryCall outerReturned := by
  have counted : uretLatencyStats.storedCount 1 LatencyStats.count (uretprobe.run outerReturned) = 1 := by
    decide
  have completed : completedBy 1 (outerReturned.map TimedInvocation.callEvent) = 2 := by
    decide
  refine ⟨?_, ?_, by decide, by decide, counted, completed, ?_⟩
  · exact ⟨nofun, nofun, by decide, by decide, trivial⟩
  · apply unhindered_of_before
    · simp [outerReturned, enters, leaves, TimedInvocation.Granted]
    · exact ⟨Or.inr (by decide), Or.inr (by decide), Or.inr (by decide), Or.inr (by decide), trivial⟩
  · rintro ⟨_, counts⟩
    have wrong := counts 1
    rw [counted, completed] at wrong
    cases wrong

end MonsaEbpf.S2
