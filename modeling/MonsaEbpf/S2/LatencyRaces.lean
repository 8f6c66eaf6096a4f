/-
Module: MonsaEbpf.S2.LatencyRaces
Layer: S2
Purpose: Invocations of the fentry/fexit program, or of the uretprobe program, by many threads of any processes
  at the same time. For every process that has an entry, the count and the total gain exactly what its exits
  record, in whatever order the steps are taken. The extremes are a check and a plain store, and they hold
  all recorded latencies exactly when no store of a worse latency stands between the two for the best one; so
  they do when no two exits stand between check and store at the same moment.
Imports: MonsaEbpf.S2.LatencyHandlers
Trusted boundary: none
Main exports: latencyUnder, LatencyHandlers.maxStore, LatencyHandlers.minStore, LatencyHandlers.offersAt,
  LatencyHandlers.Remembered, LatencyHandlers.remembered, LatencyHandlers.apart_of_inTurn,
  concurrent_latencies_remembered
-/
import MonsaEbpf.S2.LatencyHandlers

namespace MonsaEbpf.S2

open SharedView CheckedStore

/-- The latency that a record tells of a process. -/
def latencyUnder (pid : U32) (record : Option (U32 × U64)) : Option U64 :=
  record.bind fun recorded => if recorded.1 = pid then some recorded.2 else none

theorem latencyUnder_self (pid : U32) (latency : U64) : latencyUnder pid (some (pid, latency)) = some latency :=
  if_pos rfl

theorem latencyUnder_other {pid other : U32} (different : other ≠ pid) (latency : U64) :
    latencyUnder pid (some (other, latency)) = none :=
  if_neg different

namespace LatencyHandlers

variable {μ σ E : Type} {handlers : LatencyHandlers μ σ} {pid : U32} {pointer : Nat}

variable (handlers) in
/-- `read` of the statistics of `pid` behind a pointer. -/
def statsView {W : Type} (pid : U32) (pointer : Nat) (read : LatencyStats → W) : SharedView σ W :=
  handlers.stats.pointed pid pointer (fun _ => True) read

/-! ### What leaves the statistics alone -/

section Rules

variable {W : Type} {read : LatencyStats → W}

theorem stats_quiet_of_aside {α : Type} {program : StepProgram (BpfOp μ) σ α}
    (aside : program.AllSteps (Aside handlers.times handlers.stats)) :
    (handlers.statsView pid pointer read).Quiet program :=
  aside.imp fun _ _ keeps => kept_of_get fun shared => (keeps shared).2

theorem exitCleanup_quiet (thread : U64) :
    (handlers.statsView pid pointer read).Quiet (exitCleanup handlers.times thread) := by
  apply StepProgram.AllSteps.bind
  · exact quiet_single fun shared => handlers.stats_set shared _
  · exact fun _ => .ret 0

theorem entryLatency_quiet (thread time : U64) :
    (handlers.statsView pid pointer read).Quiet (entryLatency handlers.times thread time) := by
  apply StepProgram.AllSteps.bind (quiet_single fun _ => rfl)
  intro found
  cases found with
  | none => exact .ret none
  | some entryTs =>
      apply StepProgram.AllSteps.bind (quiet_single fun _ => rfl)
      exact fun entered => .ret (some (entryTs, time - entered))

/-- Accounting a latency behind another pointer. -/
theorem addLatency_quiet_other {elsewhere : Nat} (apart : elsewhere ≠ pointer) (latency : U64) :
    (handlers.statsView pid pointer read).Quiet (addLatency handlers.stats elsewhere latency) := by
  apply StepProgram.AllSteps.bind (quiet_fetchAndAdd_other apart _ _)
  intro _
  apply StepProgram.AllSteps.bind (quiet_fetchAndAdd_other apart _ _)
  intro _
  apply StepProgram.AllSteps.bind
  · apply StepProgram.AllSteps.bind (quiet_load _ _)
    intro _
    split
    · exact quiet_store_other apart _ _
    · exact .ret ()
  · intro _
    apply StepProgram.AllSteps.bind (quiet_load _ _)
    intro _
    split
    · exact quiet_store_other apart _ _
    · exact .ret ()

theorem lowerMinNs_quiet (latency : U64) (same : LatencyStats.minField.Ignored read) :
    (handlers.statsView pid pointer read).Quiet (lowerMinNs handlers.stats pointer latency) := by
  apply StepProgram.AllSteps.bind (quiet_load _ _)
  intro _
  split
  · exact quiet_store same fun _ old => old
  · exact .ret ()

theorem raiseMaxNs_quiet (latency : U64) (same : LatencyStats.maxField.Ignored read) :
    (handlers.statsView pid pointer read).Quiet (raiseMaxNs handlers.stats pointer latency) := by
  apply StepProgram.AllSteps.bind (quiet_load _ _)
  intro _
  split
  · exact quiet_store same fun _ old => old
  · exact .ret ()

/-! ### What an invocation does to the statistics -/

/-- What follows the accounting of a latency. -/
def closing (handlers : LatencyHandlers μ σ) (call : TimedCall) (entered latency : U64)
    (found : Option Nat) : StepProgram (BpfOp μ) σ (Option (U32 × U64) × S32) := do
  handlers.after call entered latency found
  let ret ← exitCleanup handlers.times call.task.pidTgid
  return (some (pidOf call.task.pidTgid, latency), ret)

variable {Q : StepProgram (BpfOp μ) σ (Option (U32 × U64) × S32) → Prop}
  (absorbs : (handlers.statsView pid pointer read).Absorbs Q)

include absorbs

theorem closing_of_ret (call : TimedCall) (entered latency : U64) (found : Option Nat)
    (returns : ∀ ret, Q (.ret (some (pidOf call.task.pidTgid, latency), ret))) :
    Q (handlers.closing call entered latency found) := by
  apply absorbs.quiet (stats_quiet_of_aside (handlers.after_aside call entered latency found))
  intro _
  exact absorbs.quiet (exitCleanup_quiet _) returns

/-- An entry leaves the statistics alone. -/
theorem entry_of_ret (call : TimedCall) (returns : ∀ ret, Q (.ret (none, ret))) :
    Q (handlers.recording (.entry call : TimedInvocation E)) := by
  apply absorbs.quiet
  · apply StepProgram.AllSteps.bind
    · exact quiet_single fun shared => handlers.stats_set shared _
    · exact fun _ => .ret 0
  · exact returns

/-- Up to the accounting an exit changes no statistics. -/
theorem exit_of_account (call : TimedCall) (reserved : Option E) (returns : ∀ ret, Q (.ret (none, ret)))
    (account : ∀ entered latency,
      Q (accountLatencyStats handlers.stats (pidOf call.task.pidTgid) latency >>= fun found =>
        handlers.closing call entered latency found)) :
    Q (handlers.recording (.exit call reserved)) := by
  apply absorbs.quiet (entryLatency_quiet _ _)
  intro found
  cases found with
  | none => exact returns 0
  | some found =>
      apply absorbs.quiet (quiet_single fun _ => rfl)
      intro evt
      cases evt with
      | none => exact absorbs.quiet (exitCleanup_quiet _) returns
      | some memory =>
          simp only [report, bind_assoc]
          apply absorbs.quiet (stats_quiet_of_aside (handlers.before_aside call found.1 found.2))
          exact fun entered => account entered found.2

/-- An exit of the process finds its statistics. -/
theorem exit_of_addLatency (call : TimedCall) (reserved : Option E) (samePid : pidOf call.task.pidTgid = pid)
    (returns : ∀ ret, Q (.ret (none, ret)))
    (account : ∀ entered latency, Q (addLatency handlers.stats pointer latency >>= fun _ =>
      handlers.closing call entered latency (some pointer))) :
    Q (handlers.recording (.exit call reserved)) := by
  apply exit_of_account absorbs call reserved returns
  intro entered latency
  rw [samePid, accountLatencyStats]
  simp only [bind_assoc]
  apply absorbs_lookup absorbs
  simpa only [bind_assoc, pure_bind] using account entered latency

/-- An exit of another process leaves the statistics alone. -/
theorem exit_of_other (call : TimedCall) (reserved : Option E) (otherPid : pidOf call.task.pidTgid ≠ pid)
    (returns : ∀ record ret, latencyUnder pid record = none → Q (.ret (record, ret))) :
    Q (handlers.recording (.exit call reserved)) := by
  apply exit_of_account absorbs call reserved fun ret => returns none ret rfl
  intro entered latency
  have closes (found : Option Nat) : Q (handlers.closing call entered latency found) := by
    apply closing_of_ret absorbs
    exact fun ret => returns _ ret (latencyUnder_other otherPid latency)
  rw [accountLatencyStats]
  simp only [bind_assoc]
  apply absorbs_lookup_other absorbs otherPid
  intro found apart
  cases found with
  | none =>
      simp only [bind_assoc, pure_bind]
      exact absorbs.quiet (quiet_update_other otherPid _) fun _ => closes none
  | some elsewhere =>
      have different : elsewhere ≠ pointer := fun same => apart (congrArg some same)
      simp only [bind_assoc, pure_bind]
      exact absorbs.quiet (addLatency_quiet_other different latency) fun _ => closes (some elsewhere)

/-- An invocation has a property if it holds of results that tell nothing of the process, and of an exit of the
process from its accounting on. -/
theorem recording_of_addLatency (event : TimedInvocation E)
    (returns : ∀ record ret, latencyUnder pid record = none → Q (.ret (record, ret)))
    (account : ∀ call entered latency, pidOf call.task.pidTgid = pid →
      Q (addLatency handlers.stats pointer latency >>= fun _ =>
        handlers.closing call entered latency (some pointer))) :
    Q (handlers.recording event) := by
  cases event with
  | entry call => exact entry_of_ret absorbs call fun ret => returns none ret rfl
  | exit call reserved =>
      by_cases samePid : pidOf call.task.pidTgid = pid
      · exact exit_of_addLatency absorbs call reserved samePid (fun ret => returns none ret rfl)
          fun entered latency => account call entered latency samePid
      · exact exit_of_other absorbs call reserved samePid returns

end Rules

/-! ### Counts and totals -/

/-- What a record adds to the count and to the total of a process. -/
def amountUnder (pid : U32) (record : Option (U32 × U64)) : U64 × U64 :=
  (latencyUnder pid record).elim 0 fun latency => (1, latency)

/-- The count and the total. -/
def countAndTotal (stats : LatencyStats) : U64 × U64 :=
  (stats.count, stats.totalNs)

/-- An invocation adds what it records. -/
theorem recording_adds (event : TimedInvocation E) :
    (handlers.statsView pid pointer countAndTotal).Adds (fun result => amountUnder pid result.1) 0
      (handlers.recording event) := by
  apply recording_of_addLatency Adds.absorbs event
  · intro record ret nothing
    rw [Adds, amountUnder, nothing]
    rfl
  · intro call entered latency samePid
    simp only [addLatency, bind_assoc]
    apply sums_fetchAndAdd (1, 0) fun _ _ old => old
    · exact fun old => Prod.ext rfl (add_zero _).symm
    intro _
    apply sums_fetchAndAdd (0, latency) fun _ _ old => old
    · exact fun old => Prod.ext (add_zero _).symm rfl
    intro _
    apply Adds.absorbs.quiet (lowerMinNs_quiet latency fun _ _ => rfl)
    intro _
    apply Adds.absorbs.quiet (raiseMaxNs_quiet latency fun _ _ => rfl)
    intro _
    apply closing_of_ret Adds.absorbs
    intro ret
    rw [Adds, amountUnder, samePid, latencyUnder_self]
    exact Prod.ext (by simp) (by simp)

/-! ### Extremes -/

variable (handlers) in
/-- The maximum of a process, as `raiseMaxNs` raises it. -/
def maxStore (pid : U32) (pointer : Nat) : CheckedStore (BpfOp μ) σ Nat U64 :=
  handlers.stats.checkedField pid pointer (fun _ => True) LatencyStats.maxField BitVec.toNat (· > ·) id
    (fun _ _ => rfl) gt_iff_toNat (fun _ _ old => old) ⟨1, 2, by decide⟩

variable (handlers) in
/-- The minimum of a process, as `lowerMinNs` lowers it; lower is higher here. -/
def minStore (pid : U32) (pointer : Nat) : CheckedStore (BpfOp μ) σ Natᵒᵈ U64 :=
  handlers.stats.checkedField pid pointer (fun _ => True) LatencyStats.minField
    (fun latency => OrderDual.toDual latency.toNat) (· < ·) id (fun _ _ => rfl) lt_iff_toDual
    (fun _ _ old => old) ⟨1, 2, by decide⟩

theorem maxStore_view : (handlers.maxStore pid pointer).view =
    handlers.statsView pid pointer fun stats => stats.maxNs.toNat := rfl

theorem minStore_view : (handlers.minStore pid pointer).view =
    handlers.statsView pid pointer fun stats => OrderDual.toDual stats.minNs.toNat := rfl

theorem maxStore_check (latency : U64) :
    (handlers.maxStore pid pointer).check latency = raiseMaxNs handlers.stats pointer latency := rfl

theorem minStore_check (latency : U64) :
    (handlers.minStore pid pointer).check latency = lowerMinNs handlers.stats pointer latency := rfl

/-- The latency that an invocation offers to the extremes of a process, by the record beside its result. -/
def offerUnder (pid : U32) (result : Option (U32 × U64) × S32) : Option U64 :=
  latencyUnder pid result.1

theorem offerUnder_self {own : U32} (same : own = pid) (latency : U64) (ret : S32) :
    offerUnder pid (some (own, latency), ret) = some latency := by
  rw [offerUnder, same, latencyUnder_self]

/-- An invocation raises the maximum to what it records. -/
theorem recording_raises (event : TimedInvocation E) :
    (handlers.maxStore pid pointer).Raises (offerUnder pid) .before (handlers.recording event) := by
  have absorbs : (handlers.maxStore pid pointer).view.Absorbs ((handlers.maxStore pid pointer).Raises
      (offerUnder pid) .before : StepProgram (BpfOp μ) σ (Option (U32 × U64) × S32) → Prop) :=
    Raises.absorbs_before
  rw [maxStore_view] at absorbs
  apply recording_of_addLatency absorbs event
  · exact fun record ret nothing => .unoffered nothing
  · intro call entered latency samePid
    simp only [addLatency, bind_assoc]
    apply absorbs.quiet (quiet_fetchAndAdd (fun _ _ => rfl) fun _ _ old => old)
    intro _
    apply absorbs.quiet (quiet_fetchAndAdd (fun _ _ => rfl) fun _ _ old => old)
    intro _
    apply absorbs.quiet (lowerMinNs_quiet latency fun _ _ => rfl)
    intro _
    apply Raises.check (congrArg (· >>= _) (maxStore_check latency).symm)
    have absorbsAfter : (handlers.maxStore pid pointer).view.Absorbs ((handlers.maxStore pid pointer).Raises
        (offerUnder pid) (.after latency) : StepProgram (BpfOp μ) σ (Option (U32 × U64) × S32) → Prop) :=
      Raises.absorbs_after latency
    rw [maxStore_view] at absorbsAfter
    exact closing_of_ret absorbsAfter call entered latency _ fun ret =>
      .offered (offerUnder_self samePid latency ret)

/-- An invocation lowers the minimum to what it records. -/
theorem recording_lowers (event : TimedInvocation E) :
    (handlers.minStore pid pointer).Raises (offerUnder pid) .before (handlers.recording event) := by
  have absorbs : (handlers.minStore pid pointer).view.Absorbs ((handlers.minStore pid pointer).Raises
      (offerUnder pid) .before : StepProgram (BpfOp μ) σ (Option (U32 × U64) × S32) → Prop) :=
    Raises.absorbs_before
  rw [minStore_view] at absorbs
  apply recording_of_addLatency absorbs event
  · exact fun record ret nothing => .unoffered nothing
  · intro call entered latency samePid
    simp only [addLatency, bind_assoc]
    apply absorbs.quiet (quiet_fetchAndAdd (fun _ _ => rfl) fun _ _ old => old)
    intro _
    apply absorbs.quiet (quiet_fetchAndAdd (fun _ _ => rfl) fun _ _ old => old)
    intro _
    apply Raises.check (congrArg (· >>= _) (minStore_check latency).symm)
    have absorbsAfter : (handlers.minStore pid pointer).view.Absorbs ((handlers.minStore pid pointer).Raises
        (offerUnder pid) (.after latency) : StepProgram (BpfOp μ) σ (Option (U32 × U64) × S32) → Prop) :=
      Raises.absorbs_after latency
    rw [minStore_view] at absorbsAfter
    apply absorbsAfter.quiet (raiseMaxNs_quiet latency fun _ _ => rfl)
    intro _
    exact closing_of_ret absorbsAfter call entered latency _ fun ret =>
      .offered (offerUnder_self samePid latency ret)

/-! ### Invocations together -/

section Statement

variable {n : Nat} (handlers : LatencyHandlers μ σ) (config : Config (BpfOp μ) σ S32 (Fin n))
  (events : Fin n → TimedInvocation E) (schedule : List (Fin n)) (pid : U32) (pointer : Nat)

/-- What an invocation records by the timestamps of the start. -/
def recordAt (i : Fin n) : Option (U32 × U64) :=
  timedRecord? (handlers.times.get config.shared) (events i)

/-- What an invocation offers to the extremes of a process. -/
def offersAt (i : Fin n) : Option U64 :=
  latencyUnder pid (handlers.recordAt config events i)

/-- The statistics of a process at the end, against those at the start: the process keeps its entry, the count
and the total gain what its exits record, and each extreme holds all of that exactly when the best of it is
kept; it does when no two exits stand between the check and the store of the extreme at the same moment. -/
structure Remembered : Prop where
  bound : (handlers.stats.get (config.run schedule).shared).lookup pid = some pointer
  addsUp : countAndTotal ((handlers.stats.get (config.run schedule).shared).read pointer) =
    countAndTotal ((handlers.stats.get config.shared).read pointer) +
      ∑ i, amountUnder pid (handlers.recordAt config events i)
  maxStart : ((handlers.stats.get config.shared).read pointer).maxNs ≤
    ((handlers.stats.get (config.run schedule).shared).read pointer).maxNs
  max : (∀ i latency, handlers.offersAt config events pid i = some latency →
      latency ≤ ((handlers.stats.get (config.run schedule).shared).read pointer).maxNs) ↔
    (handlers.maxStore pid pointer).HighestKept config (handlers.offersAt config events pid) schedule
  maxApart : (handlers.maxStore pid pointer).Apart config (handlers.offersAt config events pid) schedule →
    ∀ i latency, handlers.offersAt config events pid i = some latency →
      latency ≤ ((handlers.stats.get (config.run schedule).shared).read pointer).maxNs
  minStart : ((handlers.stats.get (config.run schedule).shared).read pointer).minNs ≤
    ((handlers.stats.get config.shared).read pointer).minNs
  min : (∀ i latency, handlers.offersAt config events pid i = some latency →
      ((handlers.stats.get (config.run schedule).shared).read pointer).minNs ≤ latency) ↔
    (handlers.minStore pid pointer).HighestKept config (handlers.offersAt config events pid) schedule
  minApart : (handlers.minStore pid pointer).Apart config (handlers.offersAt config events pid) schedule →
    ∀ i latency, handlers.offersAt config events pid i = some latency →
      ((handlers.stats.get (config.run schedule).shared).read pointer).minNs ≤ latency

end Statement

section Runs

variable {n : Nat} {start : σ} {events : Fin n → TimedInvocation E} {schedule : List (Fin n)}

/-- The records of the invocations, as their results tell them. -/
theorem exists_results (different : Function.Injective fun i => (events i).thread)
    (finished : ((handlers.recordingConfig start events).run schedule).Finished) :
    ∃ ret : Fin n → S32, ∀ i, ((handlers.recordingConfig start events).run schedule).threads i =
      .ret (handlers.recordAt (handlers.concurrent start events) events i, ret i) :=
  Classical.axiomOfChoice (recorded_of_returned different finished)

section Extremes

variable (different : Function.Injective fun i => (events i).thread)
  (finished : ((handlers.recordingConfig start events).run schedule).Finished)

include different finished

/-- Invocations that have returned tell what they offer. -/
theorem ends_of_finished : Ends ((handlers.recordingConfig start events).run schedule)
    (handlers.offersAt (handlers.concurrent start events) events pid) (offerUnder pid) := by
  intro i
  obtain ⟨ret, returned⟩ := recorded_of_returned different finished i
  exact ⟨_, returned, rfl⟩

variable (found : (handlers.stats.get start).lookup pid = some pointer)

include found

/-- The invocations raise the maximum to what they record. -/
theorem maxStore_run : (handlers.maxStore pid pointer).Run (offerUnder pid)
    (handlers.recordingConfig start events)
    (handlers.offersAt (handlers.concurrent start events) events pid) schedule where
  inv := ⟨found, trivial⟩
  raises i := recording_raises (events i)
  ends := ends_of_finished different finished

/-- The invocations lower the minimum to what they record. -/
theorem minStore_run : (handlers.minStore pid pointer).Run (offerUnder pid)
    (handlers.recordingConfig start events)
    (handlers.offersAt (handlers.concurrent start events) events pid) schedule where
  inv := ⟨found, trivial⟩
  raises i := recording_lowers (events i)
  ends := ends_of_finished different finished

/-- Invocations that take turns stay apart. -/
theorem apart_of_inTurn (inTurn : InTurn schedule) :
    (handlers.maxStore pid pointer).Apart (handlers.concurrent start events)
        (handlers.offersAt (handlers.concurrent start events) events pid) schedule ∧
      (handlers.minStore pid pointer).Apart (handlers.concurrent start events)
        (handlers.offersAt (handlers.concurrent start events) events pid) schedule := by
  have apartMax := (maxStore_run different finished found).apart_of_inTurn Prod.snd inTurn
  have apartMin := (minStore_run different finished found).apart_of_inTurn Prod.snd inTurn
  rw [← concurrent_eq] at apartMax apartMin
  exact ⟨apartMax, apartMin⟩

end Extremes

theorem recorded_of_finished (finished : ((handlers.concurrent start events).run schedule).Finished) :
    ((handlers.recordingConfig start events).run schedule).Finished := by
  rw [concurrent_eq, Config.run_mapResult] at finished
  exact Config.finished_mapResult.mp finished

/-- **The statistics of every process that has an entry**, after invocations of different threads. -/
theorem remembered (different : Function.Injective fun i => (events i).thread)
    (finished : ((handlers.concurrent start events).run schedule).Finished)
    (found : (handlers.stats.get start).lookup pid = some pointer) :
    handlers.Remembered (handlers.concurrent start events) events schedule pid pointer := by
  have recorded := recorded_of_finished finished
  have shared : ((handlers.concurrent start events).run schedule).shared =
      ((handlers.recordingConfig start events).run schedule).shared := by
    rw [concurrent_eq, Config.run_mapResult]
    rfl
  have inv : (handlers.statsView pid pointer countAndTotal).Inv
      (handlers.recordingConfig start events).shared := ⟨found, trivial⟩
  obtain ⟨ret, returned⟩ := exists_results different recorded
  obtain ⟨kept, sum⟩ := Adds.get_run inv (fun i => recording_adds (events i)) returned
  have maxRun := maxStore_run different recorded found
  have minRun := minStore_run different recorded found
  have maxKept := maxRun.highest_kept_iff Prod.snd
  have minKept := minRun.highest_kept_iff Prod.snd
  have maxApart := maxRun.highest_of_apart Prod.snd
  have minApart := minRun.highest_of_apart Prod.snd
  rw [← concurrent_eq] at maxKept minKept maxApart minApart
  constructor
  case bound =>
    rw [shared]
    exact kept.1
  case addsUp =>
    rw [shared]
    exact sum
  case maxStart =>
    rw [shared]
    exact maxRun.start_le
  case max => exact maxKept
  case maxApart => exact maxApart
  case minStart =>
    rw [shared]
    exact minRun.start_le
  case min => exact minKept
  case minApart => exact minApart

end Runs

end LatencyHandlers

/-- **What concurrent invocations leave in the statistics**, in either program: for every process with an
entry, counts and totals are exact on every schedule, and each extreme is right exactly when it is kept. -/
theorem concurrent_latencies_remembered :
    (∀ (n : Nat) (start : FentryFexitMaps) (events : Fin n → TimedInvocation FentryFexitEvent)
      (schedule : List (Fin n)), Function.Injective (fun i => (events i).thread) →
      (Config.run ⟨start, fun i => fentryFexitHandler (events i)⟩ schedule).Finished →
      ∀ pid pointer, start.fentryLatencyStats.lookup pid = some pointer →
        fexitHandlers.Remembered ⟨start, fun i => fentryFexitHandler (events i)⟩ events schedule pid
          pointer) ∧
    (∀ (n : Nat) (start : UretprobeMaps) (events : Fin n → TimedInvocation UretprobeEvent)
      (schedule : List (Fin n)), Function.Injective (fun i => (events i).thread) →
      (Config.run ⟨start, fun i => uretprobeHandler (events i)⟩ schedule).Finished →
      ∀ pid pointer, start.uretLatencyStats.lookup pid = some pointer →
        uretHandlers.Remembered ⟨start, fun i => uretprobeHandler (events i)⟩ events schedule pid
          pointer) := by
  constructor
  · intro n start events schedule different finished pid pointer found
    rw [← fexitHandlers_handler] at finished ⊢
    exact LatencyHandlers.remembered different finished found
  · intro n start events schedule different finished pid pointer found
    rw [← uretHandlers_handler] at finished ⊢
    exact LatencyHandlers.remembered different finished found

/-! ### Two exits and an entry -/

/-- An invocation of a thread with memory for its record, if it is an exit. -/
def timedCallOf (pid tid ktimeGetNs : U64) : TimedCall where
  task := ⟨pid <<< 32 ||| tid, 0, 0, Vector.replicate 16 0⟩
  ktimeGetNs := ktimeGetNs
  ret := 0

def uretMemory : UretprobeEvent :=
  ⟨0, 0, 0, 0, 0, 0, 0, 0, 0, Vector.replicate 16 0⟩

/-- The threads 1 and 2 of the process 1 have entered at time zero, and the process has an entry. -/
def threadsInside : UretprobeMaps where
  uretEntryTimes := (CellMap.empty.insert 0x100000001 0).insert 0x100000002 0
  uretLatencyStats := CellMap.empty.insert 1 (.first 4)
  uretprobeEvents := []

/-- The two threads leave after seven and nine nanoseconds, while a thread of the process 2 enters. -/
def leavingAndEntering : Fin 3 → TimedInvocation UretprobeEvent
  | 0 => .exit (timedCallOf 1 1 7) (some uretMemory)
  | 1 => .exit (timedCallOf 1 2 9) (some uretMemory)
  | 2 => .entry (timedCallOf 2 1 8)

/-- One invocation after the other, with more steps than it takes. -/
def inOrder : List (Fin 3) :=
  (List.finRange 3).flatMap (List.replicate 12)

/-- The statistics of the process in the end. -/
def leftInOrder : LatencyStats :=
  (Config.run ⟨threadsInside, fun i => uretprobeHandler (leavingAndEntering i)⟩
    inOrder).shared.uretLatencyStats.read 0

/-- The two exits are counted, and both extremes hold their latencies. -/
theorem concurrent_latencies_remembered_in_order :
    uretHandlers.Remembered ⟨threadsInside, fun i => uretprobeHandler (leavingAndEntering i)⟩
        leavingAndEntering inOrder 1 0 ∧
      LatencyHandlers.countAndTotal leftInOrder = (3, 20) ∧ 7 ≤ leftInOrder.maxNs ∧ 9 ≤ leftInOrder.maxNs ∧
        leftInOrder.minNs ≤ 7 ∧ leftInOrder.minNs ≤ 9 := by
  have different : Function.Injective fun i => (leavingAndEntering i).thread := by decide
  have finished : (Config.run ⟨threadsInside, fun i => uretprobeHandler (leavingAndEntering i)⟩
      inOrder).Finished := by decide
  have remembered := concurrent_latencies_remembered.2 3 threadsInside leavingAndEntering inOrder different
    finished 1 0 (by decide)
  have inTurn : InTurn inOrder := ⟨Fin.val, Fin.val_injective, by decide⟩
  have found : (uretHandlers.stats.get threadsInside).lookup 1 = some 0 := by decide
  have concurrently : ((uretHandlers.concurrent threadsInside leavingAndEntering).run inOrder).Finished := by
    simp only [LatencyHandlers.concurrent, uretHandlers_handler]
    exact finished
  obtain ⟨apartMax, apartMin⟩ := LatencyHandlers.apart_of_inTurn different
    (LatencyHandlers.recorded_of_finished concurrently) found inTurn
  simp only [LatencyHandlers.concurrent, uretHandlers_handler] at apartMax apartMin
  refine ⟨remembered, ?_, ?_, ?_, ?_, ?_⟩
  · exact remembered.addsUp.trans (by decide)
  · exact remembered.maxApart apartMax 0 7 (by decide)
  · exact remembered.maxApart apartMax 1 9 (by decide)
  · exact remembered.minApart apartMin 0 7 (by decide)
  · exact remembered.minApart apartMin 1 9 (by decide)

/-- The first thread is interrupted between its check of the maximum and its store: seven stays. -/
example :
    (Config.run ⟨threadsInside, fun i => uretprobeHandler (leavingAndEntering i)⟩
      (List.replicate 10 0 ++ List.replicate 12 1 ++ List.replicate 2 0)).shared.uretLatencyStats.find? 1 =
        some ⟨3, 20, 4, 7⟩ := by
  decide

end MonsaEbpf.S2
