/-
Module: MonsaEbpf.S2.FentryFexit
Layer: S2
Purpose: S2-advanced/examples/tracing/fentry_fexit/example_fentry_fexit.bpf.c. The entry handler stamps
  the thread in `fentry_times`; the exit handler reserves its event, updates `fentry_latency_stats`,
  submits the event and drops the timestamp. Without ring space it only drops the timestamp. The
  `bpf_printk` lines change no state and are left out.
Imports: MonsaEbpf.S2.TimedExit
Trusted boundary: human-reviewed translation
Main exports: FentryFexitEvent, FentryFexitMaps, msbFentry, msbFexit,
  FentryFexitMaps.step, FentryFexitMaps.step_exit_lone, FentryFexitMaps.step_exit_unreserved,
  FentryFexitMaps.step_exit_reserved, fentryFexit
-/
import MonsaEbpf.S2.TimedExit

namespace MonsaEbpf.S2

/-- `struct fentry_fexit_event`. -/
structure FentryFexitEvent where
  timestampNs : U64
  pid : U32
  tid : U32
  uid : U32
  gid : U32
  cgroupId : U64
  comm : Comm
  entryTs : U64
  exitTs : U64
  latencyNs : U64
  retval : U64
  count : U64
deriving Repr, DecidableEq

/-- The maps of the program. -/
structure FentryFexitMaps where
  fentryTimes : CellMap U64 U64 10240
  fentryLatencyStats : CellMap U32 LatencyStats 1024
  fentryFexitEvents : List FentryFexitEvent

inductive FentryFexitMap where
  | fentryTimes
  | fentryLatencyStats
deriving DecidableEq, Repr

def fentryTimes : MapRef FentryFexitMap FentryFexitMaps U64 U64 10240 where
  name := .fentryTimes
  get := FentryFexitMaps.fentryTimes
  set := fun maps map => { maps with fentryTimes := map }
  get_set := fun _ _ => rfl
  set_get := fun _ => rfl
  set_set := fun _ _ _ => rfl

def fentryLatencyStats : MapRef FentryFexitMap FentryFexitMaps U32 LatencyStats 1024 where
  name := .fentryLatencyStats
  get := FentryFexitMaps.fentryLatencyStats
  set := fun maps map => { maps with fentryLatencyStats := map }
  get_set := fun _ _ => rfl
  set_get := fun _ => rfl
  set_set := fun _ _ _ => rfl

def fentryFexitEvents : RingRef FentryFexitMaps FentryFexitEvent where
  get := FentryFexitMaps.fentryFexitEvents
  set := fun maps events => { maps with fentryFexitEvents := events }

abbrev FentryFexitProgram := StepProgram (BpfOp FentryFexitMap) FentryFexitMaps

/-- `msb_fentry`: record the entry timestamp. -/
def msbFentry (call : TimedCall) : FentryFexitProgram S32 :=
  stampEntry fentryTimes call.task.pidTgid call.ktimeGetNs

/-- The count in the event: one for new statistics, else one more than the updated count. -/
def fexitCount (stats : Option Nat) : FentryFexitProgram U64 :=
  match stats with
  | none => return 1
  | some stats => do
      let count ← load fentryLatencyStats stats LatencyStats.count
      return count + 1

/-- The event of an exit; every field of the reserved memory is written. -/
def fexitEvent (call : TimedCall) (entered latency count : U64) : FentryFexitEvent where
  timestampNs := call.ktimeGetNs
  pid := pidOf call.task.pidTgid
  tid := tidOf call.task.pidTgid
  uid := call.task.uid
  gid := call.task.gid
  cgroupId := call.task.cgroupId
  comm := call.task.comm
  entryTs := entered
  exitTs := call.ktimeGetNs
  latencyNs := latency
  retval := call.ret
  count := count

/-- What follows a successful reservation, up to the cleanup: statistics, then the event. -/
def fexitReport (call : TimedCall) (entryTs : Nat) (latency : U64) : FentryFexitProgram Unit := do
  let entered ← load fentryTimes entryTs id
  let stats ← accountLatencyStats fentryLatencyStats (pidOf call.task.pidTgid) latency
  let count ← fexitCount stats
  bpfRingbufSubmit fentryFexitEvents (fexitEvent call entered latency count)

/-- `msb_fexit`. -/
def msbFexit (call : TimedCall) (reserved : Option FentryFexitEvent) : FentryFexitProgram S32 :=
  timedExit fentryTimes call.task.pidTgid call.ktimeGetNs reserved (fexitReport call)

/-- No map holds a key yet and nothing was submitted. -/
def FentryFexitMaps.initial : FentryFexitMaps where
  fentryTimes := .empty
  fentryLatencyStats := .empty
  fentryFexitEvents := []

/-! ### Run alone -/

/-- Run one handler alone. -/
def FentryFexitMaps.step (maps : FentryFexitMaps) : TimedInvocation FentryFexitEvent → FentryFexitMaps
  | .entry call => ((msbFentry call).exec maps).2
  | .exit call reserved => ((msbFexit call reserved).exec maps).2

/-- The count that the event of an exit carries, from the statistics before it. -/
def fexitCountFrom (stats : Option LatencyStats) : U64 :=
  match stats with
  | none => 1
  | some stats => stats.count + 1 + 1

section Alone

variable {maps : FentryFexitMaps} (call : TimedCall)

/-- An entry stamps its thread, when there is room for it, and changes nothing else. -/
theorem FentryFexitMaps.step_entry :
    maps.step (.entry call) =
      { maps with fentryTimes := maps.fentryTimes.insert call.task.pidTgid call.ktimeGetNs } := rfl

/-- After accounting, the count read back is the one just stored. -/
theorem exec_fexitCount {after : CellMap U32 LatencyStats 1024} {pid : U32} {latency : U64}
    (read : ∀ stats, maps.fentryLatencyStats.lookup pid = some stats →
      after.read stats = (maps.fentryLatencyStats.read stats).add latency) :
    (fexitCount (maps.fentryLatencyStats.lookup pid)).exec (fentryLatencyStats.set maps after) =
      (fexitCountFrom (maps.fentryLatencyStats.find? pid), fentryLatencyStats.set maps after) := by
  cases found : maps.fentryLatencyStats.lookup pid with
  | none =>
      rw [CellMap.find?_eq_none.mpr found]
      rfl
  | some stats =>
      rw [CellMap.find?_of_lookup found]
      exact congrArg (fun value => (LatencyStats.count value + 1, fentryLatencyStats.set maps after))
        (read stats found)

theorem exec_fexitReport (entryTs : Nat) (latency : U64) :
    ∃ after, ((fexitReport call entryTs latency).exec maps).2 =
        { maps with
          fentryLatencyStats := after
          fentryFexitEvents := maps.fentryFexitEvents ++
            [fexitEvent call (maps.fentryTimes.read entryTs) latency
              (fexitCountFrom (maps.fentryLatencyStats.find? (pidOf call.task.pidTgid)))] } ∧
      (maps.fentryLatencyStats.HasRoom (pidOf call.task.pidTgid) → ∀ other, after.find? other =
        if pidOf call.task.pidTgid = other then
          some (LatencyStats.record (maps.fentryLatencyStats.find? other) latency)
        else maps.fentryLatencyStats.find? other) := by
  obtain ⟨after, accounted, read, find⟩ :=
    exec_accountLatencyStats fentryLatencyStats maps (pidOf call.task.pidTgid) latency
  refine ⟨after, ?_, find⟩
  rw [fexitReport, StepProgram.exec_bind, exec_load, StepProgram.exec_bind, accounted]
  change ((fexitCount (maps.fentryLatencyStats.lookup (pidOf call.task.pidTgid)) >>= _).exec
    (fentryLatencyStats.set maps after)).2 = _
  rw [StepProgram.exec_bind, exec_fexitCount read]
  rfl

variable (reserved : Option FentryFexitEvent)

/-- An exit without a timestamp does nothing. -/
theorem FentryFexitMaps.step_exit_lone (absent : maps.fentryTimes.find? call.task.pidTgid = none) :
    maps.step (.exit call reserved) = maps :=
  congrArg Prod.snd (exec_timedExit_lone absent)

/-- An exit without ring space drops its timestamp and records nothing. -/
theorem FentryFexitMaps.step_exit_unreserved :
    maps.step (.exit call none) =
      { maps with fentryTimes := maps.fentryTimes.erase call.task.pidTgid } :=
  congrArg Prod.snd exec_timedExit_unreserved

/-- **What an exit with a timestamp and ring space does.** -/
theorem FentryFexitMaps.step_exit_reserved {entered : U64}
    (found : maps.fentryTimes.find? call.task.pidTgid = some entered) (memory : FentryFexitEvent) :
    ∃ after, maps.step (.exit call (some memory)) =
        { fentryTimes := maps.fentryTimes.erase call.task.pidTgid
          fentryLatencyStats := after
          fentryFexitEvents := maps.fentryFexitEvents ++
            [fexitEvent call entered (call.ktimeGetNs - entered)
              (fexitCountFrom (maps.fentryLatencyStats.find? (pidOf call.task.pidTgid)))] } ∧
      (maps.fentryLatencyStats.HasRoom (pidOf call.task.pidTgid) → ∀ other, after.find? other =
        if pidOf call.task.pidTgid = other then
          some (LatencyStats.record (maps.fentryLatencyStats.find? other) (call.ktimeGetNs - entered))
        else maps.fentryLatencyStats.find? other) := by
  obtain ⟨entryTs, stamp, exited⟩ := exec_timedExit_reserved S2.fentryTimes call.ktimeGetNs
    (fexitReport call) found memory
  obtain ⟨after, reported, find⟩ :=
    exec_fexitReport call entryTs (call.ktimeGetNs - entered)
  refine ⟨after, ?_, find⟩
  rw [FentryFexitMaps.step, msbFexit, exited, reported, ← stamp]
  rfl

end Alone

/-- The timestamps follow the calls, whether reservations succeed or not. -/
theorem FentryFexitMaps.times_step (maps : FentryFexitMaps) (event : TimedInvocation FentryFexitEvent) :
    (maps.step event).fentryTimes = maps.fentryTimes.stamp event.callEvent := by
  cases event with
  | entry call => rfl
  | exit call reserved =>
      rw [TimedInvocation.callEvent, CellMap.stamp]
      cases found : maps.fentryTimes.find? call.task.pidTgid with
      | none =>
          rw [FentryFexitMaps.step_exit_lone call reserved found,
            CellMap.erase_of_absent (CellMap.find?_eq_none.mp found)]
      | some entered =>
          cases reserved with
          | none => rw [FentryFexitMaps.step_exit_unreserved]
          | some memory =>
              obtain ⟨after, step, _⟩ := FentryFexitMaps.step_exit_reserved call found memory
              rw [step]

/-- An invocation changes the statistics by what it records. -/
theorem FentryFexitMaps.touches (maps : FentryFexitMaps) (event : TimedInvocation FentryFexitEvent)
    (room : ∀ pid ∈ event.exitPid?, maps.fentryLatencyStats.HasRoom pid) :
    Runs.Touches FentryFexitMaps.step (fun maps => maps.fentryLatencyStats.find?)
      (fun maps => timedRecord? maps.fentryTimes) LatencyStats.record maps event := by
  intro pid
  cases event with
  | entry call => rfl
  | exit call reserved =>
      simp only [timedRecord?]
      cases found : maps.fentryTimes.find? call.task.pidTgid with
      | none =>
          rw [FentryFexitMaps.step_exit_lone call reserved found]
          rfl
      | some entered =>
          cases reserved with
          | none =>
              rw [FentryFexitMaps.step_exit_unreserved call]
              rfl
          | some memory =>
              obtain ⟨after, step, find⟩ := FentryFexitMaps.step_exit_reserved call found memory
              rw [step]
              exact find (room _ rfl) pid

/-- The program one handler at a time. -/
def fentryFexit : TimedProgram FentryFexitMaps FentryFexitEvent where
  initial := FentryFexitMaps.initial
  step := FentryFexitMaps.step
  times := FentryFexitMaps.fentryTimes
  stats := FentryFexitMaps.fentryLatencyStats
  initial_times := rfl
  initial_stats := rfl
  times_step := FentryFexitMaps.times_step
  touches := FentryFexitMaps.touches

end MonsaEbpf.S2
