/-
Module: MonsaEbpf.S2.EntryExitPairing
Layer: S2
Purpose: Entries and exits of the two kernel-function latency programs, kretprobe with `entry_times` and
  fentry/fexit with `fentry_times`, by any threads that strictly alternate. In every reachable state the
  timestamps are those of the threads inside the function, an exit of a thread inside computes the time
  since its own entry, and a lone exit leaves the timestamps alone, whatever becomes of the reservations.
Imports: MonsaEbpf.S2.KretprobeRuns, MonsaEbpf.S2.FentryFexit
Trusted boundary: none
Main exports: Traced, StampsInside, Elapsed, KretprobeExitPaired, FexitPaired, entry_exit_pairing
-/
import MonsaEbpf.S2.KretprobeRuns
import MonsaEbpf.S2.FentryFexit

namespace MonsaEbpf.S2

open CallStacks

/-- The events of the threads: alternating, few inside at once, on a clock that never goes back. -/
structure Traced (trace : List (CallEvent U64 U64)) : Prop where
  alternates : Alternates trace
  fewInside : FewInside 10240 trace
  clock : (trace.map CallEvent.time).Pairwise (· ≤ ·)

/-- The keys are exactly the threads inside, each with its own latest entry time. -/
structure StampsInside (times : CellMap U64 U64 10240) (trace : List (CallEvent U64 U64)) : Prop where
  keys : times.keys = inside trace
  latest : ∀ thread, times.find? thread = (openCalls trace thread).head?

/-- `latency` is the time from `entered` to `left`, without an underflow. -/
structure Elapsed (entered left latency : U64) : Prop where
  ordered : entered.toNat ≤ left.toNat
  latency : latency.toNat = left.toNat - entered.toNat

theorem Traced.of_append {done rest : List (CallEvent U64 U64)} (traced : Traced (done ++ rest)) :
    Traced done where
  alternates := traced.alternates.of_append
  fewInside := fun earlier later split =>
    traced.fewInside earlier (later ++ rest) (by rw [split, List.append_assoc])
  clock := by
    have clock := traced.clock
    rw [List.map_append, List.pairwise_append] at clock
    exact clock.1

/-- The store of a trace holds the stamps of the threads inside. -/
theorem Traced.stampsInside {trace : List (CallEvent U64 U64)} (traced : Traced trace) :
    StampsInside (stampMap 10240 trace) trace where
  keys := keys_stampMap_of_alternates traced.alternates traced.fewInside
  latest := by
    intro thread
    rw [find?_stampMap_of_alternates traced.alternates traced.fewInside,
      stamps_of_alternates traced.alternates]

/-- An exit comes no earlier than the entry of its call, so the subtraction does not wrap. -/
theorem Traced.elapsed {done rest : List (CallEvent U64 U64)} {thread entered left : U64}
    (traced : Traced (done ++ .leave thread left :: rest))
    (isOpen : (openCalls done thread).head? = some entered) : Elapsed entered left (left - entered) := by
  have clock := traced.clock
  rw [List.map_append, List.pairwise_append] at clock
  have ordered : entered ≤ left :=
    clock.2.2 entered (mem_time_of_open (List.mem_of_head? isOpen)) left (by simp [CallEvent.time])
  exact ⟨ordered, BitVec.toNat_sub_of_le ordered⟩

/-! ### kretprobe -/

/-- An invocation as an event of its thread. -/
def KretprobeInvocation.callEvent : KretprobeInvocation → CallEvent U64 U64
  | .entry call => .enter call.task.pidTgid call.ktimeGetNs
  | .exit call _ => .leave call.task.pidTgid call.ktimeGetNs

/-- What an exit does with the timestamps after `done`, and the latency it computes and sends. -/
structure KretprobeExitPaired (done : List KretprobeInvocation) (call : KretprobeCall)
    (reserved : Option KretprobeEvent) (latency : U64) : Prop where
  computes : ((exitLatency call).exec (KretprobeMaps.run done)).1 = latency
  sends : (KretprobeMaps.run (done ++ [.exit call reserved])).kretprobeEvents =
    (KretprobeMaps.run done).kretprobeEvents ++
      (reserved.map (exitEvent call (isErrorRetval call.ptRegsRc) latency)).toList
  matched : ∀ entered,
    (openCalls (done.map KretprobeInvocation.callEvent) call.task.pidTgid).head? = some entered →
      Elapsed entered call.ktimeGetNs latency
  lone : openCalls (done.map KretprobeInvocation.callEvent) call.task.pidTgid = [] →
    latency = 0 ∧ (KretprobeMaps.run (done ++ [.exit call reserved])).entryTimes =
      (KretprobeMaps.run done).entryTimes

theorem KretprobeMaps.times_step (maps : KretprobeMaps) (event : KretprobeInvocation) :
    (maps.step event).entryTimes = maps.entryTimes.stamp event.callEvent := by
  cases event with
  | entry call => rfl
  | exit call reserved => exact (maps.exit_times_events call reserved).1

theorem KretprobeMaps.times_run (events : List KretprobeInvocation) :
    (KretprobeMaps.run events).entryTimes =
      stampMap 10240 (events.map KretprobeInvocation.callEvent) :=
  stampMap_run KretprobeMaps.times_step rfl events

theorem kretprobeExitPaired {done rest : List KretprobeInvocation} {call : KretprobeCall}
    {reserved : Option KretprobeEvent}
    (traced : Traced ((done ++ .exit call reserved :: rest).map KretprobeInvocation.callEvent)) :
    KretprobeExitPaired done call reserved
      (latencyFrom (KretprobeMaps.run done).entryTimes call) := by
  rw [List.map_append, List.map_cons] at traced
  have latest := traced.of_append.stampsInside.latest call.task.pidTgid
  obtain ⟨times, events⟩ := (KretprobeMaps.run done).exit_times_events call reserved
  have after : KretprobeMaps.run (done ++ [.exit call reserved]) =
      (KretprobeMaps.run done).step (.exit call reserved) := Runs.run_concat _ _ _
  rw [← KretprobeMaps.times_run] at latest
  constructor
  case computes => rw [exec_exitLatency]
  case sends => rw [after, events]
  case matched =>
    intro entered isOpen
    rw [latencyFrom, latest, isOpen]
    exact traced.elapsed isOpen
  case lone =>
    intro outside
    rw [outside] at latest
    rw [latencyFrom, latest, after, times]
    exact ⟨rfl, CellMap.erase_of_absent (CellMap.find?_eq_none.mp latest)⟩

/-! ### fentry/fexit -/

/-- What an exit does with the maps after `done`, and the latency it computes and sends. -/
structure FexitPaired (done : List (TimedInvocation FentryFexitEvent)) (call : TimedCall)
    (reserved : Option FentryFexitEvent) : Prop where
  matched : ∀ entered,
    (openCalls (done.map TimedInvocation.callEvent) call.task.pidTgid).head? = some entered →
      ∃ latency, Elapsed entered call.ktimeGetNs latency ∧
        ((entryLatency fentryTimes call.task.pidTgid call.ktimeGetNs).exec
          (fentryFexit.run done)).1.map Prod.snd = some latency ∧
        ∃ count, (fentryFexit.run (done ++ [.exit call reserved])).fentryFexitEvents =
          (fentryFexit.run done).fentryFexitEvents ++
            (reserved.map fun _ => fexitEvent call entered latency count).toList
  lone : openCalls (done.map TimedInvocation.callEvent) call.task.pidTgid = [] →
    fentryFexit.run (done ++ [.exit call reserved]) = fentryFexit.run done

theorem fexitPaired {done rest : List (TimedInvocation FentryFexitEvent)} {call : TimedCall}
    {reserved : Option FentryFexitEvent}
    (traced : Traced ((done ++ .exit call reserved :: rest).map TimedInvocation.callEvent)) :
    FexitPaired done call reserved := by
  rw [List.map_append, List.map_cons] at traced
  have latest : (fentryFexit.run done).fentryTimes.find? call.task.pidTgid =
      (openCalls (done.map TimedInvocation.callEvent) call.task.pidTgid).head? := by
    rw [← traced.of_append.stampsInside.latest]
    exact congrArg (CellMap.find? · call.task.pidTgid) (fentryFexit.times_run done)
  have after : fentryFexit.run (done ++ [.exit call reserved]) =
      (fentryFexit.run done).step (.exit call reserved) := Runs.run_concat _ _ _
  constructor
  case matched =>
    intro entered isOpen
    rw [isOpen] at latest
    refine ⟨call.ktimeGetNs - entered, traced.elapsed isOpen, latency_of_find? latest, ?_⟩
    rw [after]
    cases reserved with
    | none =>
        refine ⟨0, ?_⟩
        rw [FentryFexitMaps.step_exit_unreserved]
        exact (List.append_nil _).symm
    | some memory =>
        obtain ⟨stats, step, _⟩ := FentryFexitMaps.step_exit_reserved call latest memory
        refine ⟨fexitCountFrom ((fentryFexit.run done).fentryLatencyStats.find?
          (pidOf call.task.pidTgid)), ?_⟩
        rw [step]
        rfl
  case lone =>
    intro outside
    rw [outside] at latest
    rw [after]
    exact FentryFexitMaps.step_exit_lone call reserved latest

/-- **Entries and exits are paired.** -/
theorem entry_exit_pairing (probed : List KretprobeInvocation)
    (hooked : List (TimedInvocation FentryFexitEvent))
    (probedTrace : Traced (probed.map KretprobeInvocation.callEvent))
    (hookedTrace : Traced (hooked.map TimedInvocation.callEvent)) :
    ((∀ done rest, probed = done ++ rest →
        StampsInside (KretprobeMaps.run done).entryTimes (done.map KretprobeInvocation.callEvent)) ∧
      ∀ done call reserved rest, probed = done ++ .exit call reserved :: rest →
        ∃ latency, KretprobeExitPaired done call reserved latency) ∧
    ((∀ done rest, hooked = done ++ rest →
        StampsInside (fentryFexit.run done).fentryTimes (done.map TimedInvocation.callEvent)) ∧
      ∀ done call reserved rest, hooked = done ++ .exit call reserved :: rest →
        FexitPaired done call reserved) := by
  refine ⟨⟨?_, ?_⟩, ?_, ?_⟩
  · rintro done rest rfl
    rw [List.map_append] at probedTrace
    rw [KretprobeMaps.times_run]
    exact probedTrace.of_append.stampsInside
  · rintro done call reserved rest rfl
    exact ⟨_, kretprobeExitPaired probedTrace⟩
  · rintro done rest rfl
    rw [List.map_append] at hookedTrace
    have stamps := hookedTrace.of_append.stampsInside
    rw [← fentryFexit.times_run] at stamps
    exact stamps
  · rintro done call reserved rest rfl
    exact fexitPaired hookedTrace

/-- A thread at a time. -/
def threadAt (pidTgid ktimeGetNs : U64) : TimedCall where
  task := { pidTgid := pidTgid, uidGid := 0, cgroupId := 0, comm := Vector.replicate 16 0 }
  ktimeGetNs := ktimeGetNs
  ret := 0

/-- The same call as the kretprobe program sees it. -/
def TimedCall.probed (call : TimedCall) : KretprobeCall where
  task := call.task
  ktimeGetNs := call.ktimeGetNs
  ptRegsRc := call.ret

/-- A lone exit of thread 1, then one call of each of two threads that overlap. -/
def overlapping : List (CallEvent U64 U64) :=
  [.leave 1 3, .enter 1 5, .enter 2 6, .leave 1 9, .leave 2 9]

theorem traced_overlapping : Traced overlapping where
  alternates := isChain_kinds_iff_mem.mpr (by decide)
  fewInside := fewInside_of_length (by decide)
  clock := by decide

theorem entry_exit_pairing_overlapping :
    (∃ latency, KretprobeExitPaired
        [.exit (threadAt 1 3).probed none, .entry (threadAt 1 5).probed, .entry (threadAt 2 6).probed]
        (threadAt 1 9).probed none latency) ∧
      FexitPaired [.exit (threadAt 1 3) none, .entry (threadAt 1 5), .entry (threadAt 2 6)]
        (threadAt 1 9) none := by
  have paired := entry_exit_pairing
    [.exit (threadAt 1 3).probed none, .entry (threadAt 1 5).probed, .entry (threadAt 2 6).probed,
      .exit (threadAt 1 9).probed none, .exit (threadAt 2 9).probed none]
    [.exit (threadAt 1 3) none, .entry (threadAt 1 5), .entry (threadAt 2 6),
      .exit (threadAt 1 9) none, .exit (threadAt 2 9) none]
    traced_overlapping traced_overlapping
  exact ⟨paired.1.2 _ _ _ _ rfl, paired.2.2 _ _ _ _ rfl⟩

end MonsaEbpf.S2
