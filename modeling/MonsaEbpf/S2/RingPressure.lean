/-
Module: MonsaEbpf.S2.RingPressure
Layer: S2
Purpose: The statistics of the fentry/fexit, the uretprobe and the LSM program under ring-buffer pressure:
  two runs over the same invocations that differ in the outcomes of their reservations. The kprobe and the
  kretprobe program update their statistics before they reserve; these three skip the update when the
  reservation fails.
Imports: MonsaEbpf.S2.FentryFexit, MonsaEbpf.S2.Uretprobe, MonsaEbpf.S2.LsmFileOpen,
  MonsaEbpf.Lib.TwoRuns
Trusted boundary: none
Main exports: TimedProgram.reporter, lsmReporter, statistics_independent_iff
-/
import MonsaEbpf.S2.FentryFexit
import MonsaEbpf.S2.Uretprobe
import MonsaEbpf.S2.LsmFileOpen
import MonsaEbpf.Lib.TwoRuns

namespace MonsaEbpf.S2

open Runs (Twice Reporter)

variable {σ E : Type}

/-- The invocation with another outcome of its reservation. -/
def TimedInvocation.reserving : TimedInvocation E → Option E → TimedInvocation E
  | .entry call, _ => .entry call
  | .exit call _, reserved => .exit call reserved

/-- Only an exit of a thread with a timestamp gets as far as its reservation. -/
def TimedInvocation.Reserves (times : CellMap U64 U64 10240) : TimedInvocation E → Prop
  | .entry _ => False
  | .exit call _ => call.task.pidTgid ∈ times.keys

/-- A latency program with its statistics, asking for ring space. -/
def TimedProgram.reporter (program : TimedProgram σ E) :
    Reporter σ (TimedInvocation E) E U32 LatencyStats where
  initial := program.initial
  step := program.step
  find := fun maps => (program.stats maps).find?
  requesting := TimedInvocation.reserving
  requests := fun maps event => event.Reserves (program.times maps)
  HasRoom := fun maps event => ∀ pid ∈ event.exitPid?, (program.stats maps).HasRoom pid

/-- The LSM program with `lsm_stats_map`, asking for ring space at every file open. -/
def lsmReporter : Reporter LsmMaps LsmCall LsmEvent U32 LsmStats where
  initial := LsmMaps.initial
  step := LsmMaps.step
  find := fun maps => maps.lsmStatsMap.find?
  requesting := fun call reserved => { call with reserved := reserved }
  requests := fun _ _ => True
  HasRoom := fun maps call => maps.lsmStatsMap.HasRoom (pidOf call.task.pidTgid)

/-- An invocation records exactly when its reservation is reached and succeeds. -/
theorem isSome_timedRecord? (times : CellMap U64 U64 10240) (event : TimedInvocation E)
    (outcome : Option E) :
    (timedRecord? times (event.reserving outcome)).isSome ↔ event.Reserves times ∧ outcome.isSome := by
  cases event with
  | entry call => simp [TimedInvocation.reserving, TimedInvocation.Reserves, timedRecord?]
  | exit call reserved =>
      rw [TimedInvocation.reserving, TimedInvocation.Reserves, CellMap.mem_keys, timedRecord?]
      cases times.find? call.task.pidTgid <;> cases outcome <;> simp

/-- What is recorded does not depend on the memory that was reserved. -/
theorem timedRecord?_eq {times : CellMap U64 U64 10240} {event : TimedInvocation E}
    {first second : Option E} {record other : U32 × U64}
    (one : record ∈ timedRecord? times (event.reserving first))
    (two : other ∈ timedRecord? times (event.reserving second)) : record = other := by
  cases event with
  | entry call => cases one
  | exit call reserved =>
      rw [TimedInvocation.reserving, timedRecord?] at one two
      cases found : times.find? call.task.pidTgid with
      | none =>
          rw [found] at one
          cases one
      | some entered =>
          rw [found, Option.bind_some, Option.mem_def, Option.map_eq_some_iff] at one two
          obtain ⟨_, _, rfl⟩ := one
          obtain ⟨_, _, rfl⟩ := two
          rfl

/-- The outcome of a reservation does not show in the trace of calls. -/
theorem callEvent_reserving (event : TimedInvocation E) (outcome : Option E) :
    (event.reserving outcome).callEvent = event.callEvent := by
  cases event <;> rfl

/-- The timestamps do not depend on the reservations. -/
theorem TimedProgram.times_stepBoth (program : TimedProgram σ E) {states : σ × σ}
    (item : Twice (TimedInvocation E) E)
    (same : program.times states.1 = program.times states.2) :
    program.times (program.reporter.stepBoth states item).1 =
      program.times (program.reporter.stepBoth states item).2 :=
  calc program.times (program.step states.1 (item.event.reserving item.first))
    _ = (program.times states.1).stamp item.event.callEvent := by
      rw [program.times_step, callEvent_reserving]
    _ = (program.times states.2).stamp item.event.callEvent := by rw [same]
    _ = program.times (program.step states.2 (item.event.reserving item.second)) := by
      rw [program.times_step, callEvent_reserving]

/-- The statistics of a latency program are independent of the ring exactly when the outcomes agree at the
exits of threads with a timestamp. -/
theorem TimedProgram.independent_iff (program : TimedProgram σ E)
    {items : List (Twice (TimedInvocation E) E)} (room : program.reporter.RoomInBoth items) :
    program.reporter.Independent items ↔ program.reporter.SameOutcomes items := by
  refine Reporter.independent_iff (fun maps => timedRecord? (program.times maps))
    (fun maps => program.times maps.1 = program.times maps.2) LatencyStats.record_changes ?touches ?emits
    rfl ?keeps ?sameRequests ?sameRecord room
  case touches =>
    intro maps event outcome hasRoom
    apply program.touches
    intro pid isPid
    cases event with
    | entry call => cases isPid
    | exit call reserved => exact hasRoom pid isPid
  case emits =>
    intro maps event outcome
    exact isSome_timedRecord? _ _ _
  case keeps =>
    intro maps item same
    exact program.times_stepBoth item same
  case sameRequests =>
    intro maps same event
    change event.Reserves (program.times maps.1) ↔ event.Reserves (program.times maps.2)
    rw [same]
  case sameRecord =>
    intro maps item same record one other two
    rw [← same] at two
    exact timedRecord?_eq one two

/-- The statistics of the LSM program are independent of the ring exactly when all outcomes agree. -/
theorem lsm_independent_iff {items : List (Twice LsmCall LsmEvent)}
    (room : lsmReporter.RoomInBoth items) :
    lsmReporter.Independent items ↔ lsmReporter.SameOutcomes items := by
  refine Reporter.independent_iff (fun _ => LsmCall.record?) (fun _ => True) LsmStats.record_changes
    ?touches ?emits trivial
    (fun _ _ _ => trivial) (fun _ _ _ => Iff.rfl) ?sameRecord room
  case touches =>
    intro maps call outcome hasRoom
    exact LsmMaps.touches hasRoom
  case emits =>
    intro maps call outcome
    cases outcome <;> simp [lsmReporter, LsmCall.record?]
  case sameRecord =>
    intro maps item _ record one other two
    obtain ⟨_, _, rfl⟩ := Option.map_eq_some_iff.mp one
    obtain ⟨_, _, rfl⟩ := Option.map_eq_some_iff.mp two
    rfl

/-- **The statistics are independent of ring-buffer pressure exactly when, at every invocation that gets as
far as its reservation, both runs have ring space or neither has.** -/
theorem statistics_independent_iff
    (exits : List (Twice (TimedInvocation FentryFexitEvent) FentryFexitEvent))
    (returns : List (Twice (TimedInvocation UretprobeEvent) UretprobeEvent))
    (opens : List (Twice LsmCall LsmEvent))
    (exitRoom : fentryFexit.reporter.RoomInBoth exits)
    (returnRoom : uretprobe.reporter.RoomInBoth returns)
    (openRoom : lsmReporter.RoomInBoth opens) :
    (fentryFexit.reporter.Independent exits ↔ fentryFexit.reporter.SameOutcomes exits) ∧
      (uretprobe.reporter.Independent returns ↔ uretprobe.reporter.SameOutcomes returns) ∧
      (lsmReporter.Independent opens ↔ lsmReporter.SameOutcomes opens) :=
  ⟨fentryFexit.independent_iff exitRoom, uretprobe.independent_iff returnRoom,
    lsm_independent_iff openRoom⟩

/-- The first thread of PID 1. -/
def firstTask : Task where
  pidTgid := 0x100000001
  uidGid := 0
  cgroupId := 0
  comm := Vector.replicate 16 0

/-- A call of it that takes no time. -/
def instantCall : TimedCall where
  task := firstTask
  ktimeGetNs := 7
  ret := 3

/-- A file open of it. -/
def firstOpen : LsmCall where
  task := firstTask
  ktimeGetNs := 7
  reserved := none

/-- An entry and an exit, the exit with the given outcomes of its reservation. -/
def oneCall (first second : Option E) : List (Twice (TimedInvocation E) E) :=
  [{ event := .entry instantCall, first := none, second := none },
    { event := .exit instantCall none, first := first, second := second }]

/-- One file open with the given outcomes of its reservation. -/
def oneOpen (first second : Option LsmEvent) : List (Twice LsmCall LsmEvent) :=
  [{ event := firstOpen, first := first, second := second }]

/-- An empty statistics map has room for the exit. -/
theorem roomInBoth_oneCall {program : TimedProgram σ E} (first second : Option E)
    (empty : ∀ call, program.stats (program.step program.initial (.entry call)) = .empty) :
    program.reporter.RoomInBoth (oneCall first second) := by
  have room (call : TimedCall) (pid : U32) :
      (program.stats (program.step program.initial (.entry call))).HasRoom pid := by
    rw [empty]
    exact Or.inr (by decide)
  refine ⟨⟨nofun, nofun⟩, ⟨?_, ?_⟩, trivial⟩
  · exact fun pid _ => room instantCall pid
  · exact fun pid _ => room instantCall pid

theorem roomInBoth_oneOpen (first second : Option LsmEvent) :
    lsmReporter.RoomInBoth (oneOpen first second) :=
  ⟨⟨Or.inr (by decide), Or.inr (by decide)⟩, trivial⟩

theorem statistics_independent_iff_one_call :
    fentryFexit.reporter.Independent
        (oneCall (some (fexitEvent instantCall 0 0 0)) (some (fexitEvent instantCall 1 1 1))) ∧
      uretprobe.reporter.Independent
        (oneCall (some (uretEvent instantCall 0 0)) (some (uretEvent instantCall 1 1))) ∧
      lsmReporter.Independent
        (oneOpen (some (lsmEvent firstOpen 0 0)) (some (lsmEvent firstOpen 1 1))) := by
  obtain ⟨exits, returns, opens⟩ := statistics_independent_iff
    (oneCall (some (fexitEvent instantCall 0 0 0)) (some (fexitEvent instantCall 1 1 1)))
    (oneCall (some (uretEvent instantCall 0 0)) (some (uretEvent instantCall 1 1)))
    (oneOpen (some (lsmEvent firstOpen 0 0)) (some (lsmEvent firstOpen 1 1)))
    (roomInBoth_oneCall _ _ fun _ => rfl) (roomInBoth_oneCall _ _ fun _ => rfl)
    (roomInBoth_oneOpen _ _)
  exact ⟨exits.mpr ⟨nofun, fun _ => Iff.rfl, trivial⟩, returns.mpr ⟨nofun, fun _ => Iff.rfl, trivial⟩,
    opens.mpr ⟨fun _ => Iff.rfl, trivial⟩⟩

/-- With ring space the one call or open is counted; without, the same program has no statistics of it. -/
theorem statistics_depend_on_ring :
    (fentryFexit.reporter.RoomInBoth (oneCall (some (fexitEvent instantCall 0 0 0)) none) ∧
        (fentryFexit.reporter.firstRun
          (oneCall (some (fexitEvent instantCall 0 0 0)) none)).fentryLatencyStats.find? 1 =
            some { count := 1, totalNs := 0, minNs := 0, maxNs := 0 } ∧
        (fentryFexit.reporter.secondRun
          (oneCall (some (fexitEvent instantCall 0 0 0)) none)).fentryLatencyStats.find? 1 = none) ∧
      (uretprobe.reporter.RoomInBoth (oneCall (some (uretEvent instantCall 0 0)) none) ∧
        (uretprobe.reporter.firstRun
          (oneCall (some (uretEvent instantCall 0 0)) none)).uretLatencyStats.find? 1 =
            some { count := 1, totalNs := 0, minNs := 0, maxNs := 0 } ∧
        (uretprobe.reporter.secondRun
          (oneCall (some (uretEvent instantCall 0 0)) none)).uretLatencyStats.find? 1 = none) ∧
      (lsmReporter.RoomInBoth (oneOpen (some (lsmEvent firstOpen 0 0)) none) ∧
        (lsmReporter.firstRun
          (oneOpen (some (lsmEvent firstOpen 0 0)) none)).lsmStatsMap.find? 1 =
            some { allowCount := 1, denyCount := 0 } ∧
        (lsmReporter.secondRun
          (oneOpen (some (lsmEvent firstOpen 0 0)) none)).lsmStatsMap.find? 1 = none) := by
  refine ⟨⟨roomInBoth_oneCall _ _ fun _ => rfl, ?_, ?_⟩, ⟨roomInBoth_oneCall _ _ fun _ => rfl, ?_, ?_⟩,
    ⟨roomInBoth_oneOpen _ _, ?_, ?_⟩⟩
  all_goals decide

end MonsaEbpf.S2
