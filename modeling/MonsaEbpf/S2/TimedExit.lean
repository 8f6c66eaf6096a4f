/-
Module: MonsaEbpf.S2.TimedExit
Layer: S2
Purpose: The handlers of a latency program around its report. The entry handler stamps the thread in a map
  of timestamps; the exit handler looks the timestamp up, reserves its event, reports, and drops the
  timestamp on every path that found one. The fentry/fexit and the uretprobe program spell this out alike;
  a `TimedProgram` is such a program run one handler at a time, with what its steps do to both maps.
Imports: MonsaEbpf.S2.LatencyStats, MonsaEbpf.Lib.StampMap
Trusted boundary: human-reviewed translation
Main exports: TimedCall, TimedInvocation, stampEntry, entryLatency, timedExit, exec_timedExit_lone,
  exec_timedExit_unreserved, exec_timedExit_reserved, timedRecord?, TimedProgram,
  TimedProgram.times_run
-/
import MonsaEbpf.S2.LatencyStats
import MonsaEbpf.Lib.StampMap

namespace MonsaEbpf.S2

/-- What one invocation of either handler sees; the entry handler reads no return value. -/
structure TimedCall where
  task : Task
  ktimeGetNs : U64
  ret : S64

/-- One invocation of a handler, with the outcome of the reservation of an exit. -/
inductive TimedInvocation (E : Type) where
  | entry (call : TimedCall)
  | exit (call : TimedCall) (reserved : Option E)

/-- The PID of an exit. -/
def TimedInvocation.exitPid? {E : Type} : TimedInvocation E → Option U32
  | .entry _ => none
  | .exit call _ => some (pidOf call.task.pidTgid)

section Timed

variable {μ σ E : Type} (times : MapRef μ σ U64 U64 10240)

/-- The entry handlers: record the entry timestamp. -/
def stampEntry (pidTgid ktimeGetNs : U64) : StepProgram (BpfOp μ) σ S32 := do
  let _ ← bpfMapUpdateElem times pidTgid ktimeGetNs
  return 0

/-- The pointer to the entry timestamp and the latency since then; none without a timestamp. -/
def entryLatency (pidTgid ktimeGetNs : U64) : StepProgram (BpfOp μ) σ (Option (Nat × U64)) := do
  let entryTs ← bpfMapLookupElem times pidTgid
  match entryTs with
  | none => return none
  | some entryTs => do
      let entered ← load times entryTs id
      return some (entryTs, ktimeGetNs - entered)

/-- The `cleanup` label. -/
def exitCleanup (pidTgid : U64) : StepProgram (BpfOp μ) σ S32 := do
  let _ ← bpfMapDeleteElem times pidTgid
  return 0

/-- An exit handler around `report`, which gets the pointer to the entry timestamp and the latency. -/
def timedExit (pidTgid ktimeGetNs : U64) (reserved : Option E)
    (report : Nat → U64 → StepProgram (BpfOp μ) σ Unit) : StepProgram (BpfOp μ) σ S32 := do
  let found ← entryLatency times pidTgid ktimeGetNs
  match found with
  | none => return 0
  | some (entryTs, latency) => do
      let evt ← bpfRingbufReserve reserved
      match evt with
      | none => exitCleanup times pidTgid
      | some _ => do
          report entryTs latency
          exitCleanup times pidTgid

variable {times} {shared : σ} {pidTgid ktimeGetNs : U64} {reserved : Option E}
  {report : Nat → U64 → StepProgram (BpfOp μ) σ Unit}

theorem exec_entryLatency :
    (entryLatency times pidTgid ktimeGetNs).exec shared =
      (((times.get shared).lookup pidTgid).map fun entryTs =>
        (entryTs, ktimeGetNs - (times.get shared).read entryTs), shared) := by
  rw [entryLatency, exec_lookup_bind times rfl]
  cases (times.get shared).lookup pidTgid <;> rfl

/-- With a timestamp the latency is the time since then. -/
theorem latency_of_find? {entered : U64} (found : (times.get shared).find? pidTgid = some entered) :
    ((entryLatency times pidTgid ktimeGetNs).exec shared).1.map Prod.snd =
      some (ktimeGetNs - entered) := by
  obtain ⟨entryTs, pointer, stamped⟩ := CellMap.exists_lookup_of_find? found
  rw [exec_entryLatency, pointer, ← stamped]
  rfl

/-- Without a timestamp nothing happens. -/
theorem exec_timedExit_lone (absent : (times.get shared).find? pidTgid = none) :
    (timedExit times pidTgid ktimeGetNs reserved report).exec shared = (0, shared) := by
  rw [timedExit, StepProgram.exec_bind, exec_entryLatency, CellMap.find?_eq_none.mp absent]
  rfl

/-- Without ring space the timestamp is dropped, if there is one, and nothing else happens. -/
theorem exec_timedExit_unreserved :
    (timedExit times pidTgid ktimeGetNs (none : Option E) report).exec shared =
      (0, times.set shared ((times.get shared).erase pidTgid)) := by
  rw [timedExit, StepProgram.exec_bind, exec_entryLatency]
  cases found : (times.get shared).lookup pidTgid with
  | none =>
      rw [CellMap.erase_of_absent found, times.set_get]
      rfl
  | some entryTs => rfl

/-- With a timestamp and ring space the report is made, and then the timestamp is dropped. -/
theorem exec_timedExit_reserved (times : MapRef μ σ U64 U64 10240) (ktimeGetNs : U64)
    (report : Nat → U64 → StepProgram (BpfOp μ) σ Unit) {entered : U64}
    (found : (times.get shared).find? pidTgid = some entered) (memory : E) :
    ∃ entryTs, (times.get shared).read entryTs = entered ∧
      (timedExit times pidTgid ktimeGetNs (some memory) report).exec shared =
        (exitCleanup times pidTgid).exec ((report entryTs (ktimeGetNs - entered)).exec shared).2 := by
  obtain ⟨entryTs, pointer, stamped⟩ := CellMap.exists_lookup_of_find? found
  refine ⟨entryTs, stamped, ?_⟩
  rw [timedExit, StepProgram.exec_bind, exec_entryLatency, pointer, ← stamped]
  change (report entryTs _ >>= fun _ => exitCleanup times pidTgid).exec shared = _
  rw [StepProgram.exec_bind]

end Timed

/-! ### One handler at a time -/

section Programs

variable {σ E : Type}

/-- An invocation as an event of its thread. -/
def TimedInvocation.callEvent : TimedInvocation E → CallEvent U64 U64
  | .entry call => .enter call.task.pidTgid call.ktimeGetNs
  | .exit call _ => .leave call.task.pidTgid call.ktimeGetNs

/-- The latency that an invocation records and its PID: an exit with a timestamp and ring space does. -/
def timedRecord? (times : CellMap U64 U64 10240) : TimedInvocation E → Option (U32 × U64)
  | .entry _ => none
  | .exit call reserved =>
      (times.find? call.task.pidTgid).bind fun entered =>
        reserved.map fun _ => (pidOf call.task.pidTgid, call.ktimeGetNs - entered)

/-- Only an exit records, under its PID. -/
theorem exitPid?_of_timedRecord? {times : CellMap U64 U64 10240} {event : TimedInvocation E}
    {record : U32 × U64} (recorded : timedRecord? times event = some record) :
    event.exitPid? = some record.1 := by
  cases event with
  | entry call => cases recorded
  | exit call reserved =>
      obtain ⟨entered, _, granted⟩ := Option.bind_eq_some_iff.mp recorded
      obtain ⟨memory, _, rfl⟩ := Option.map_eq_some_iff.mp granted
      rfl

/-- A latency program as a step function on its maps. Its timestamps follow the entries and the exits
whatever becomes of the reservations, and its statistics change by what an exit records. -/
structure TimedProgram (σ E : Type) where
  initial : σ
  step : σ → TimedInvocation E → σ
  times : σ → CellMap U64 U64 10240
  stats : σ → CellMap U32 LatencyStats 1024
  initial_times : times initial = .empty
  initial_stats : stats initial = .empty
  times_step : ∀ maps event, times (step maps event) = (times maps).stamp event.callEvent
  touches : ∀ maps event, (∀ pid ∈ event.exitPid?, (stats maps).HasRoom pid) →
    Runs.Touches step (fun maps => (stats maps).find?) (fun maps => timedRecord? (times maps))
      LatencyStats.record maps event

namespace TimedProgram

variable (program : TimedProgram σ E)

/-- Run the handlers from left to right. -/
def run (events : List (TimedInvocation E)) : σ :=
  Runs.run program.step program.initial events

/-- The timestamps of a run are those of its calls. -/
theorem times_run (events : List (TimedInvocation E)) :
    program.times (program.run events) =
      CallStacks.stampMap 10240 (events.map TimedInvocation.callEvent) :=
  CallStacks.stampMap_run program.times_step program.initial_times events

end TimedProgram

end Programs

end MonsaEbpf.S2
