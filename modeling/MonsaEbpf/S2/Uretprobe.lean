/-
Module: MonsaEbpf.S2.Uretprobe
Layer: S2
Purpose: S2-advanced/examples/userspace/uretprobe/example_uretprobe.bpf.c. The entry handler stamps the
  thread in `uret_entry_times`; the exit handler reserves and submits its event, updates
  `uret_latency_stats` and drops the timestamp. Without ring space it only drops the timestamp. The
  `bpf_printk` line changes no state and is left out.
Imports: MonsaEbpf.S2.TimedExit
Trusted boundary: human-reviewed translation
Main exports: UretprobeEvent, UretprobeMaps, msbUretprobeEntry, msbUretprobeExit,
  UretprobeMaps.step, UretprobeMaps.step_exit_lone, UretprobeMaps.step_exit_unreserved,
  UretprobeMaps.step_exit_reserved, uretprobe
-/
import MonsaEbpf.S2.TimedExit

namespace MonsaEbpf.S2

/-- `struct uretprobe_event`. -/
structure UretprobeEvent where
  timestampNs : U64
  pid : U32
  tid : U32
  uid : U32
  gid : U32
  entryTs : U64
  exitTs : U64
  latencyNs : U64
  retval : S64
  comm : Comm
deriving Repr, DecidableEq

/-- The maps of the program. -/
structure UretprobeMaps where
  uretEntryTimes : CellMap U64 U64 10240
  uretLatencyStats : CellMap U32 LatencyStats 1024
  uretprobeEvents : List UretprobeEvent

inductive UretprobeMap where
  | uretEntryTimes
  | uretLatencyStats
deriving DecidableEq, Repr

def uretEntryTimes : MapRef UretprobeMap UretprobeMaps U64 U64 10240 where
  name := .uretEntryTimes
  get := UretprobeMaps.uretEntryTimes
  set := fun maps map => { maps with uretEntryTimes := map }
  get_set := fun _ _ => rfl
  set_get := fun _ => rfl
  set_set := fun _ _ _ => rfl

def uretLatencyStats : MapRef UretprobeMap UretprobeMaps U32 LatencyStats 1024 where
  name := .uretLatencyStats
  get := UretprobeMaps.uretLatencyStats
  set := fun maps map => { maps with uretLatencyStats := map }
  get_set := fun _ _ => rfl
  set_get := fun _ => rfl
  set_set := fun _ _ _ => rfl

def uretprobeEvents : RingRef UretprobeMaps UretprobeEvent where
  get := UretprobeMaps.uretprobeEvents
  set := fun maps events => { maps with uretprobeEvents := events }

abbrev UretprobeProgram := StepProgram (BpfOp UretprobeMap) UretprobeMaps

/-- `msb_uretprobe_entry`: record the entry timestamp. -/
def msbUretprobeEntry (call : TimedCall) : UretprobeProgram S32 :=
  stampEntry uretEntryTimes call.task.pidTgid call.ktimeGetNs

/-- The event of an exit; every field of the reserved memory is written. -/
def uretEvent (call : TimedCall) (entered latency : U64) : UretprobeEvent where
  timestampNs := call.ktimeGetNs
  pid := pidOf call.task.pidTgid
  tid := tidOf call.task.pidTgid
  uid := call.task.uid
  gid := call.task.gid
  entryTs := entered
  exitTs := call.ktimeGetNs
  latencyNs := latency
  retval := call.ret
  comm := call.task.comm

/-- What follows a successful reservation, up to the cleanup: the event, then statistics. -/
def uretReport (call : TimedCall) (entryTs : Nat) (latency : U64) : UretprobeProgram Unit := do
  let entered ← load uretEntryTimes entryTs id
  bpfRingbufSubmit uretprobeEvents (uretEvent call entered latency)
  let _ ← accountLatencyStats uretLatencyStats (pidOf call.task.pidTgid) latency

/-- `msb_uretprobe_exit`. -/
def msbUretprobeExit (call : TimedCall) (reserved : Option UretprobeEvent) :
    UretprobeProgram S32 :=
  timedExit uretEntryTimes call.task.pidTgid call.ktimeGetNs reserved (uretReport call)

/-- No map holds a key yet and nothing was submitted. -/
def UretprobeMaps.initial : UretprobeMaps where
  uretEntryTimes := .empty
  uretLatencyStats := .empty
  uretprobeEvents := []

/-! ### Run alone -/

/-- Run one handler alone. -/
def UretprobeMaps.step (maps : UretprobeMaps) : TimedInvocation UretprobeEvent → UretprobeMaps
  | .entry call => ((msbUretprobeEntry call).exec maps).2
  | .exit call reserved => ((msbUretprobeExit call reserved).exec maps).2

section Alone

variable {maps : UretprobeMaps} (call : TimedCall)

/-- An entry stamps its thread, when there is room for it, and changes nothing else. -/
theorem UretprobeMaps.step_entry :
    maps.step (.entry call) =
      { maps with uretEntryTimes := maps.uretEntryTimes.insert call.task.pidTgid call.ktimeGetNs } := rfl

theorem exec_uretReport (entryTs : Nat) (latency : U64) :
    ∃ after, ((uretReport call entryTs latency).exec maps).2 =
        { maps with
          uretLatencyStats := after
          uretprobeEvents := maps.uretprobeEvents ++
            [uretEvent call (maps.uretEntryTimes.read entryTs) latency] } ∧
      (maps.uretLatencyStats.HasRoom (pidOf call.task.pidTgid) → ∀ other, after.find? other =
        if pidOf call.task.pidTgid = other then
          some (LatencyStats.record (maps.uretLatencyStats.find? other) latency)
        else maps.uretLatencyStats.find? other) := by
  let submitted : UretprobeMaps := { maps with
    uretprobeEvents := maps.uretprobeEvents ++
      [uretEvent call (maps.uretEntryTimes.read entryTs) latency] }
  obtain ⟨after, accounted, _, find⟩ :=
    exec_accountLatencyStats uretLatencyStats submitted (pidOf call.task.pidTgid) latency
  refine ⟨after, ?_, find⟩
  rw [uretReport, StepProgram.exec_bind, exec_load, StepProgram.exec_bind, exec_bpfRingbufSubmit,
    StepProgram.exec_bind]
  change ((accountLatencyStats uretLatencyStats (pidOf call.task.pidTgid) latency).exec submitted).2 = _
  rw [accounted]
  rfl

variable (reserved : Option UretprobeEvent)

/-- An exit without a timestamp does nothing. -/
theorem UretprobeMaps.step_exit_lone (absent : maps.uretEntryTimes.find? call.task.pidTgid = none) :
    maps.step (.exit call reserved) = maps :=
  congrArg Prod.snd (exec_timedExit_lone absent)

/-- An exit without ring space drops its timestamp and records nothing. -/
theorem UretprobeMaps.step_exit_unreserved :
    maps.step (.exit call none) =
      { maps with uretEntryTimes := maps.uretEntryTimes.erase call.task.pidTgid } :=
  congrArg Prod.snd exec_timedExit_unreserved

/-- **What an exit with a timestamp and ring space does.** -/
theorem UretprobeMaps.step_exit_reserved {entered : U64}
    (found : maps.uretEntryTimes.find? call.task.pidTgid = some entered) (memory : UretprobeEvent) :
    ∃ after, maps.step (.exit call (some memory)) =
        { uretEntryTimes := maps.uretEntryTimes.erase call.task.pidTgid
          uretLatencyStats := after
          uretprobeEvents := maps.uretprobeEvents ++
            [uretEvent call entered (call.ktimeGetNs - entered)] } ∧
      (maps.uretLatencyStats.HasRoom (pidOf call.task.pidTgid) → ∀ other, after.find? other =
        if pidOf call.task.pidTgid = other then
          some (LatencyStats.record (maps.uretLatencyStats.find? other) (call.ktimeGetNs - entered))
        else maps.uretLatencyStats.find? other) := by
  obtain ⟨entryTs, stamp, exited⟩ := exec_timedExit_reserved S2.uretEntryTimes call.ktimeGetNs
    (uretReport call) found memory
  obtain ⟨after, reported, find⟩ :=
    exec_uretReport call entryTs (call.ktimeGetNs - entered)
  refine ⟨after, ?_, find⟩
  rw [UretprobeMaps.step, msbUretprobeExit, exited, reported, ← stamp]
  rfl

end Alone

/-- The timestamps follow the calls, whether reservations succeed or not. -/
theorem UretprobeMaps.times_step (maps : UretprobeMaps) (event : TimedInvocation UretprobeEvent) :
    (maps.step event).uretEntryTimes = maps.uretEntryTimes.stamp event.callEvent := by
  cases event with
  | entry call => rfl
  | exit call reserved =>
      rw [TimedInvocation.callEvent, CellMap.stamp]
      cases found : maps.uretEntryTimes.find? call.task.pidTgid with
      | none =>
          rw [UretprobeMaps.step_exit_lone call reserved found,
            CellMap.erase_of_absent (CellMap.find?_eq_none.mp found)]
      | some entered =>
          cases reserved with
          | none => rw [UretprobeMaps.step_exit_unreserved]
          | some memory =>
              obtain ⟨after, step, _⟩ := UretprobeMaps.step_exit_reserved call found memory
              rw [step]

/-- An invocation changes the statistics by what it records. -/
theorem UretprobeMaps.touches (maps : UretprobeMaps) (event : TimedInvocation UretprobeEvent)
    (room : ∀ pid ∈ event.exitPid?, maps.uretLatencyStats.HasRoom pid) :
    Runs.Touches UretprobeMaps.step (fun maps => maps.uretLatencyStats.find?)
      (fun maps => timedRecord? maps.uretEntryTimes) LatencyStats.record maps event := by
  intro pid
  cases event with
  | entry call => rfl
  | exit call reserved =>
      simp only [timedRecord?]
      cases found : maps.uretEntryTimes.find? call.task.pidTgid with
      | none =>
          rw [UretprobeMaps.step_exit_lone call reserved found]
          rfl
      | some entered =>
          cases reserved with
          | none =>
              rw [UretprobeMaps.step_exit_unreserved call]
              rfl
          | some memory =>
              obtain ⟨after, step, find⟩ := UretprobeMaps.step_exit_reserved call found memory
              rw [step]
              exact find (room _ rfl) pid

/-- The program one handler at a time. -/
def uretprobe : TimedProgram UretprobeMaps UretprobeEvent where
  initial := UretprobeMaps.initial
  step := UretprobeMaps.step
  times := UretprobeMaps.uretEntryTimes
  stats := UretprobeMaps.uretLatencyStats
  initial_times := rfl
  initial_stats := rfl
  times_step := UretprobeMaps.times_step
  touches := UretprobeMaps.touches

end MonsaEbpf.S2
