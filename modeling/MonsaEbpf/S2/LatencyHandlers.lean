/-
Module: MonsaEbpf.S2.LatencyHandlers
Layer: S2
Purpose: The fentry/fexit and the uretprobe program as handlers that run concurrently. Both account a latency
  between steps that touch neither map; a `LatencyHandlers` is such a program with the latency that an
  invocation records beside its result. What an invocation records is settled by the timestamp that its own
  thread has, as long as no other invocation is of the same thread.
Imports: MonsaEbpf.S2.FentryFexit, MonsaEbpf.S2.Uretprobe, MonsaEbpf.Bpf.OtherKeys
Trusted boundary: none
Main exports: LatencyHandlers, LatencyHandlers.handler, fexitHandlers, uretHandlers,
  LatencyHandlers.recording, LatencyHandlers.recorded_of_returned
-/
import MonsaEbpf.S2.FentryFexit
import MonsaEbpf.S2.Uretprobe
import MonsaEbpf.Bpf.OtherKeys

namespace MonsaEbpf.S2

open SharedView

/-- The update leaves both maps of a latency program alone. -/
def Aside {μ σ : Type} (times : MapRef μ σ U64 U64 10240) (stats : MapRef μ σ U32 LatencyStats 1024)
    (_ : BpfOp μ) (update : σ → σ) : Prop :=
  ∀ shared, times.get (update shared) = times.get shared ∧ stats.get (update shared) = stats.get shared

/-- A latency program: an exit that is reported accounts its latency between two parts that leave the maps
alone, the first of which returns the time of the entry. -/
structure LatencyHandlers (μ σ : Type) where
  times : MapRef μ σ U64 U64 10240
  stats : MapRef μ σ U32 LatencyStats 1024
  before : TimedCall → Nat → U64 → StepProgram (BpfOp μ) σ U64
  after : TimedCall → U64 → U64 → Option Nat → StepProgram (BpfOp μ) σ Unit
  times_set : ∀ shared map, times.get (stats.set shared map) = times.get shared
  stats_set : ∀ shared map, stats.get (times.set shared map) = stats.get shared
  before_aside : ∀ call entryTs latency, (before call entryTs latency).AllSteps (Aside times stats)
  after_aside : ∀ call entered latency pointer,
    (after call entered latency pointer).AllSteps (Aside times stats)

namespace LatencyHandlers

variable {μ σ E : Type} (handlers : LatencyHandlers μ σ)

/-- What follows a successful reservation, up to the cleanup. -/
def report (call : TimedCall) (entryTs : Nat) (latency : U64) : StepProgram (BpfOp μ) σ Unit := do
  let entered ← handlers.before call entryTs latency
  let pointer ← accountLatencyStats handlers.stats (pidOf call.task.pidTgid) latency
  handlers.after call entered latency pointer

/-- The handler of an invocation. -/
def handler : TimedInvocation E → StepProgram (BpfOp μ) σ S32
  | .entry call => stampEntry handlers.times call.task.pidTgid call.ktimeGetNs
  | .exit call reserved =>
      timedExit handlers.times call.task.pidTgid call.ktimeGetNs reserved (handlers.report call)

/-- What follows the latency in an exit, with the PID and the latency that it records. -/
def recordingReport (call : TimedCall) (reserved : Option E) (entryTs : Nat) (latency : U64) :
    StepProgram (BpfOp μ) σ (Option (U32 × U64) × S32) := do
  let evt ← bpfRingbufReserve reserved
  match evt with
  | none => do
      let ret ← exitCleanup handlers.times call.task.pidTgid
      return (none, ret)
  | some _ => do
      handlers.report call entryTs latency
      let ret ← exitCleanup handlers.times call.task.pidTgid
      return (some (pidOf call.task.pidTgid, latency), ret)

/-- The handler with what it records beside its result. -/
def recording : TimedInvocation E → StepProgram (BpfOp μ) σ (Option (U32 × U64) × S32)
  | .entry call => do
      let ret ← stampEntry handlers.times call.task.pidTgid call.ktimeGetNs
      return (none, ret)
  | .exit call reserved => do
      let found ← entryLatency handlers.times call.task.pidTgid call.ktimeGetNs
      match found with
      | none => return (none, 0)
      | some (entryTs, latency) => handlers.recordingReport call reserved entryTs latency

/-- Without the record it is the handler. -/
theorem mapResult_recording (event : TimedInvocation E) :
    (handlers.recording event).mapResult Prod.snd = handlers.handler event := by
  cases event with
  | entry call => rfl
  | exit call reserved =>
      rw [StepProgram.mapResult, recording, handler, timedExit, bind_assoc]
      congr
      funext found
      cases found with
      | none => rfl
      | some found =>
          simp only [recordingReport, bind_assoc]
          congr
          funext evt
          cases evt with
          | none => rfl
          | some memory =>
              simp only [bind_assoc]
              rfl

end LatencyHandlers

/-! ### The two programs -/

/-- The fentry/fexit program. -/
def fexitHandlers : LatencyHandlers FentryFexitMap FentryFexitMaps where
  times := fentryTimes
  stats := fentryLatencyStats
  before _ entryTs _ := load fentryTimes entryTs id
  after call entered latency stats := do
    let count ← fexitCount stats
    bpfRingbufSubmit fentryFexitEvents (fexitEvent call entered latency count)
  times_set _ _ := rfl
  stats_set _ _ := rfl
  before_aside _ _ _ := .single _ fun _ => ⟨rfl, rfl⟩
  after_aside call entered latency stats := by
    have submits (count : U64) : (bpfRingbufSubmit fentryFexitEvents
        (fexitEvent call entered latency count) : FentryFexitProgram Unit).AllSteps
          (Aside fentryTimes fentryLatencyStats) :=
      .single _ fun _ => ⟨rfl, rfl⟩
    apply StepProgram.AllSteps.bind _ submits
    cases stats with
    | none => exact .ret 1
    | some stats =>
        apply StepProgram.AllSteps.bind
        · exact .single _ fun _ => ⟨rfl, rfl⟩
        · exact fun count => .ret (count + 1)

/-- The uretprobe program. -/
def uretHandlers : LatencyHandlers UretprobeMap UretprobeMaps where
  times := uretEntryTimes
  stats := uretLatencyStats
  before call entryTs latency := do
    let entered ← load uretEntryTimes entryTs id
    bpfRingbufSubmit uretprobeEvents (uretEvent call entered latency)
    return entered
  after _ _ _ _ := return ()
  times_set _ _ := rfl
  stats_set _ _ := rfl
  before_aside call _ latency := by
    apply StepProgram.AllSteps.bind
    · exact .single _ fun _ => ⟨rfl, rfl⟩
    · intro entered
      apply StepProgram.AllSteps.bind
      · exact .single _ fun _ => ⟨rfl, rfl⟩
      · exact fun _ => .ret entered
  after_aside _ _ _ _ := .ret ()

/-- The handlers of the fentry/fexit program. -/
def fentryFexitHandler : TimedInvocation FentryFexitEvent → FentryFexitProgram S32
  | .entry call => msbFentry call
  | .exit call reserved => msbFexit call reserved

/-- The handlers of the uretprobe program. -/
def uretprobeHandler : TimedInvocation UretprobeEvent → UretprobeProgram S32
  | .entry call => msbUretprobeEntry call
  | .exit call reserved => msbUretprobeExit call reserved

theorem fexitHandlers_handler : fexitHandlers.handler = fentryFexitHandler := by
  funext event
  cases event <;> rfl

theorem uretHandlers_handler : uretHandlers.handler = uretprobeHandler := by
  funext event
  cases event <;> rfl

/-! ### The timestamp of a thread -/

/-- The thread of an invocation. -/
def TimedInvocation.thread {E : Type} : TimedInvocation E → U64
  | .entry call => call.task.pidTgid
  | .exit call _ => call.task.pidTgid

namespace LatencyHandlers

variable {μ σ E : Type} (handlers : LatencyHandlers μ σ)

/-- The timestamp of a thread with the pointer to it. -/
def stampView (thread : U64) : SharedView σ (Option (Nat × U64)) where
  Inv := fun _ => True
  get shared := ((handlers.times.get shared).lookup thread).map fun entryTs =>
    (entryTs, (handlers.times.get shared).read entryTs)

/-- What an invocation records, from the timestamp of its thread. -/
def recordFrom (stamp : Option (Nat × U64)) : TimedInvocation E → Option (U32 × U64)
  | .entry _ => none
  | .exit call reserved =>
      stamp.bind fun entered => reserved.map fun _ => (pidOf call.task.pidTgid, call.ktimeGetNs - entered.2)

theorem recordFrom_stampView (shared : σ) (event : TimedInvocation E) :
    recordFrom ((handlers.stampView event.thread).get shared) event =
      timedRecord? (handlers.times.get shared) event := by
  cases event with
  | entry call => rfl
  | exit call reserved =>
      simp only [recordFrom, timedRecord?, stampView, TimedInvocation.thread]
      cases found : (handlers.times.get shared).lookup call.task.pidTgid with
      | none =>
          rw [CellMap.find?_eq_none.mpr found]
          rfl
      | some entryTs =>
          rw [CellMap.find?_of_lookup found]
          rfl

variable {handlers} {thread : U64}

theorem stamp_kept_of_get {update : σ → σ}
    (same : ∀ shared, handlers.times.get (update shared) = handlers.times.get shared) :
    (handlers.stampView thread).Kept update := by
  intro shared _
  refine ⟨trivial, ?_⟩
  simp only [stampView, same]

theorem stamp_quiet_of_aside {α : Type} {program : StepProgram (BpfOp μ) σ α}
    (aside : program.AllSteps (Aside handlers.times handlers.stats)) :
    (handlers.stampView thread).Quiet program :=
  aside.imp fun _ _ keeps => stamp_kept_of_get fun shared => (keeps shared).1

/-- Stamping another thread. -/
theorem stamp_kept_insert {other : U64} (apart : thread ≠ other) (time : U64) :
    (handlers.stampView thread).Kept fun shared =>
      handlers.times.set shared ((handlers.times.get shared).insert other time) := by
  intro shared _
  refine ⟨trivial, ?_⟩
  simp only [stampView, MapRef.get_set, CellMap.lookup_insert_ne time apart]
  cases found : (handlers.times.get shared).lookup thread with
  | none => rfl
  | some entryTs =>
      rw [Option.map_some, Option.map_some,
        CellMap.read_insert other time ((handlers.times.get shared).live found)]

/-- Dropping the timestamp of another thread. -/
theorem stamp_kept_drop {other : U64} (apart : thread ≠ other) :
    (handlers.stampView thread).Kept fun shared =>
      handlers.times.set shared ((handlers.times.get shared).erase other) := by
  intro shared _
  refine ⟨trivial, ?_⟩
  simp only [stampView, MapRef.get_set, CellMap.lookup_erase, if_neg apart]
  rfl

/-- Accounting a latency touches no timestamp. -/
theorem stamp_quiet_account (pid : U32) (latency : U64) :
    (handlers.stampView thread).Quiet (accountLatencyStats handlers.stats pid latency) := by
  have single {α : Type} {label : BpfOp μ} {value : σ → α} {update : σ → σ}
      (same : ∀ shared, handlers.times.get (update shared) = handlers.times.get shared) :
      (handlers.stampView thread).Quiet (StepProgram.single label value update) :=
    .single _ (stamp_kept_of_get same)
  have writes {α : Type} {label : BpfOp μ} {value : σ → α} (write : σ → CellMap U32 LatencyStats 1024) :
      (handlers.stampView thread).Quiet
        (StepProgram.single label value fun shared => handlers.stats.set shared (write shared)) :=
    single fun shared => handlers.times_set shared (write shared)
  have reads {α : Type} {label : BpfOp μ} {value : σ → α} :
      (handlers.stampView thread).Quiet (StepProgram.single label value id) :=
    single fun _ => rfl
  apply StepProgram.AllSteps.bind reads
  intro found
  cases found with
  | none =>
      apply StepProgram.AllSteps.bind (writes _)
      exact fun _ => .ret none
  | some pointer =>
      apply StepProgram.AllSteps.bind
      · apply StepProgram.AllSteps.bind (writes _)
        intro _
        apply StepProgram.AllSteps.bind (writes _)
        intro _
        apply StepProgram.AllSteps.bind
        · apply StepProgram.AllSteps.bind reads
          intro _
          split
          · exact writes _
          · exact .ret ()
        · intro _
          apply StepProgram.AllSteps.bind reads
          intro _
          split
          · exact writes _
          · exact .ret ()
      · exact fun _ => .ret (some pointer)

/-- The invocation of another thread leaves the timestamp alone. -/
theorem recording_stamp_quiet (event : TimedInvocation E) (apart : thread ≠ event.thread) :
    (handlers.stampView thread).Quiet (handlers.recording event) := by
  have reads {α : Type} {label : BpfOp μ} {value : σ → α} :
      (handlers.stampView thread).Quiet (StepProgram.single label value id) :=
    .single _ (stamp_kept_of_get fun _ => rfl)
  cases event with
  | entry call =>
      apply StepProgram.AllSteps.bind
      · apply StepProgram.AllSteps.bind
        · exact .single _ (stamp_kept_insert apart _)
        · exact fun _ => .ret 0
      · exact fun ret => .ret (none, ret)
  | exit call reserved =>
      have drops : (handlers.stampView thread).Quiet (exitCleanup handlers.times call.task.pidTgid) := by
        apply StepProgram.AllSteps.bind
        · exact .single _ (stamp_kept_drop apart)
        · exact fun _ => .ret 0
      apply StepProgram.AllSteps.bind
      · apply StepProgram.AllSteps.bind reads
        intro found
        cases found with
        | none => exact .ret none
        | some entryTs =>
            apply StepProgram.AllSteps.bind reads
            exact fun entered => .ret (some (entryTs, call.ktimeGetNs - entered))
      · intro found
        cases found with
        | none => exact .ret (none, 0)
        | some found =>
            apply StepProgram.AllSteps.bind reads
            intro evt
            cases evt with
            | none => exact drops.bind fun ret => .ret (none, ret)
            | some memory =>
                apply StepProgram.AllSteps.bind
                · apply StepProgram.AllSteps.bind (stamp_quiet_of_aside (handlers.before_aside _ _ _))
                  intro entered
                  apply StepProgram.AllSteps.bind (stamp_quiet_account _ _)
                  exact fun pointer => stamp_quiet_of_aside (handlers.after_aside _ _ _ _)
                · exact fun _ => drops.bind fun ret => .ret (some (pidOf call.task.pidTgid, found.2), ret)

/-- What the report of a latency returns is settled before it begins. -/
theorem recordingReport_allResults (call : TimedCall) (reserved : Option E) (entryTs : Nat) (latency : U64) :
    (handlers.recordingReport call reserved entryTs latency).AllResults fun result =>
      result.1 = reserved.map fun _ => (pidOf call.task.pidTgid, latency) := by
  have drops (record : Option (U32 × U64)) : (exitCleanup handlers.times call.task.pidTgid >>= fun ret =>
      (return (record, ret) : StepProgram (BpfOp μ) σ (Option (U32 × U64) × S32))).AllResults
        fun result => result.1 = record :=
    StepProgram.AllResults.bind _ fun ret => rfl
  intro shared
  cases reserved with
  | none => exact drops none
  | some memory => exact StepProgram.AllResults.bind (handlers.report call entryTs latency) fun _ => drops _

/-- A reader that begins with a lookup of a timestamp. -/
theorem yields_lookup {α : Type} {thread other : U64} {stamp : Option (Nat × U64)} {P : α → Prop}
    {rest : Option Nat → StepProgram (BpfOp μ) σ α}
    (holds : ∀ before, (handlers.stampView thread).get before = stamp →
      (handlers.stampView thread).Yields stamp P (rest ((handlers.times.get before).lookup other))) :
    (handlers.stampView thread).Yields stamp P (bpfMapLookupElem handlers.times other >>= rest) :=
  ⟨Or.inl (stamp_kept_of_get fun _ => rfl), holds⟩

/-- An invocation records by the timestamp of its thread. -/
theorem recording_yields (event : TimedInvocation E) (stamp : Option (Nat × U64)) :
    (handlers.stampView event.thread).Yields stamp (fun result => result.1 = recordFrom stamp event)
      (handlers.recording event) := by
  cases event with
  | entry call =>
      apply Yields.of_allResults
      exact StepProgram.AllResults.bind _ fun ret => rfl
  | exit call reserved =>
      rw [recording, entryLatency, bind_assoc]
      apply yields_lookup
      intro before isStamp
      cases found : (handlers.times.get before).lookup call.task.pidTgid with
      | none =>
          have none : stamp = none := by
            rw [← isStamp]
            simp only [stampView, TimedInvocation.thread, found, Option.map_none]
          rw [none]
          exact Yields.of_allResults rfl
      | some entryTs =>
          refine ⟨Or.inl (stamp_kept_of_get fun _ => rfl), fun shared stillStamp => ?_⟩
          -- the timestamp that is loaded is the one that was found
          have entered : stamp = some (entryTs, (handlers.times.get shared).read entryTs) := by
            have pointer : stamp.map Prod.fst = some entryTs := by
              rw [← isStamp]
              simp only [stampView, TimedInvocation.thread, found, Option.map_some]
            obtain ⟨stamped, rfl, same⟩ := Option.map_eq_some_iff.mp pointer
            obtain ⟨_, _, rfl⟩ := Option.map_eq_some_iff.mp stillStamp
            obtain rfl := same
            rfl
          rw [entered]
          exact Yields.of_allResults (recordingReport_allResults call reserved entryTs _)

/-! ### What is recorded -/

section Concurrent

variable {n : Nat} {start : σ} {events : Fin n → TimedInvocation E} {schedule : List (Fin n)}

variable (handlers start events) in
/-- Invocations before their first steps. -/
def concurrent : Config (BpfOp μ) σ S32 (Fin n) where
  shared := start
  threads := fun i => handlers.handler (events i)

variable (handlers start events) in
/-- The same invocations with what they record. -/
def recordingConfig : Config (BpfOp μ) σ (Option (U32 × U64) × S32) (Fin n) where
  shared := start
  threads := fun i => handlers.recording (events i)

theorem concurrent_eq :
    handlers.concurrent start events = (handlers.recordingConfig start events).mapResult Prod.snd := by
  simp only [concurrent, Config.mapResult, recordingConfig, mapResult_recording]

/-- **Invocations of different threads record by the timestamps that the threads have at the start**,
whatever the order of their steps. -/
theorem recorded_of_returned (different : Function.Injective fun i => (events i).thread)
    (finished : ((handlers.recordingConfig start events).run schedule).Finished) (i : Fin n) :
    ∃ ret, ((handlers.recordingConfig start events).run schedule).threads i =
      .ret (timedRecord? (handlers.times.get start) (events i), ret) := by
  have reading : (handlers.stampView (events i).thread).Reading
      (fun result => result.1 = recordFrom ((handlers.stampView (events i).thread).get start) (events i))
      (handlers.recordingConfig start events) i := by
    refine ⟨trivial, fun j other => ?_, recording_yields _ _⟩
    exact recording_stamp_quiet _ fun same => other (different same.symm)
  have returned := finished i
  cases program : ((handlers.recordingConfig start events).run schedule).threads i with
  | atom label next update =>
      rw [program] at returned
      cases returned
  | ret result =>
      have told := reading.result program
      rw [recordFrom_stampView] at told
      exact ⟨result.2, by rw [← told]⟩

end Concurrent

end LatencyHandlers

end MonsaEbpf.S2
