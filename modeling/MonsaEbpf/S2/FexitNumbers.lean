/-
Module: MonsaEbpf.S2.FexitNumbers
Layer: S2
Purpose: The numbers in the events of the fentry/fexit program. A new PID is numbered one; for a known PID
  the handler reads the count it has just raised and adds one more, so its second event carries three.
Imports: MonsaEbpf.S2.FentryFexit
Trusted boundary: none
Main exports: timedExitPids, reportingPids, TimedProgram.room_run, NumbersRecords,
  fexit_numbers_records
-/
import MonsaEbpf.S2.FentryFexit

namespace MonsaEbpf.S2

open CallStacks

section Programs

variable {σ E : Type}

/-- The PIDs of the exits, in order. -/
def timedExitPids (events : List (TimedInvocation E)) : List U32 :=
  events.filterMap TimedInvocation.exitPid?

/-- The PIDs of the exits that find the timestamp of their thread and get ring space, in order. -/
def reportingPids (events : List (TimedInvocation E)) : List U32 :=
  (Runs.emitted (fun times event => times.stamp event.callEvent) timedRecord? .empty events).map Prod.fst

variable {program : TimedProgram σ E} {done events : List (TimedInvocation E)} {event : TimedInvocation E}

namespace TimedProgram

theorem run_concat : program.run (done ++ [event]) = program.step (program.run done) event :=
  Runs.run_concat _ _ _

variable (program) in
theorem reportingPids_concat :
    reportingPids (done ++ [event]) = reportingPids done ++
      ((timedRecord? (program.times (program.run done)) event).map Prod.fst).toList := by
  have times : Runs.run (fun times event => times.stamp event.callEvent) .empty done =
      program.times (program.run done) := by
    rw [program.times_run]
    exact (List.foldl_map ..).symm
  rw [reportingPids, Runs.emitted_concat, times, List.map_append]
  cases timedRecord? (program.times (program.run done)) event <;> rfl

/-- With few PIDs every exit finds room for its statistics. -/
theorem room_run (fewPids : (timedExitPids events).toFinset.card ≤ 1024) :
    Runs.Before program.step (fun maps event => ∀ pid ∈ event.exitPid?, (program.stats maps).HasRoom pid)
      program.initial events :=
  CellMap.before_of_few_keys program.touches exitPid?_of_timedRecord? program.initial_stats fewPids

theorem fewPids_of_concat (fewPids : (timedExitPids (done ++ [event])).toFinset.card ≤ 1024) :
    (timedExitPids done).toFinset.card ≤ 1024 := by
  refine (Finset.card_le_card ?_).trans fewPids
  intro pid member
  rw [timedExitPids, List.filterMap_append, List.toFinset_append]
  exact Finset.mem_union_left _ member

variable (program) in
/-- A PID has statistics once an exit of it was reported. -/
theorem find?_eq_none_iff (fewPids : (timedExitPids events).toFinset.card ≤ 1024) (pid : U32) :
    (program.stats (program.run events)).find? pid = none ↔ pid ∉ reportingPids events := by
  induction events using List.reverseRecOn with
  | nil =>
      refine iff_of_true ?_ List.not_mem_nil
      change (program.stats program.initial).find? pid = none
      rw [program.initial_stats]
      rfl
  | append_singleton done event ih =>
      have room := Runs.before_iff_forall_split.mp (program.room_run fewPids) done event [] rfl
      have touches := program.touches (program.run done) event room pid
      have before := ih (fewPids_of_concat fewPids)
      rw [run_concat, reportingPids_concat program, List.mem_append, not_or, ← before]
      simp only at touches
      rw [touches]
      cases timedRecord? (program.times (program.run done)) event with
      | none => simp
      | some record =>
          by_cases same : record.1 = pid
          · simp [same]
          · simp [same, Ne.symm same]

end TimedProgram

end Programs

/-! ### The events of the fentry/fexit program -/

/-- If the handler of `event` sends an event after `done`, it carries the number of events sent for its PID
up to and including it, and the count that the statistics of the PID have after the handler. -/
def NumbersRecord (done : List (TimedInvocation FentryFexitEvent))
    (event : TimedInvocation FentryFexitEvent) : Prop :=
  ∀ record, (fentryFexit.run (done ++ [event])).fentryFexitEvents =
      (fentryFexit.run done).fentryFexitEvents ++ [record] →
    record.count.toNat =
        (fentryFexit.run (done ++ [event])).fentryFexitEvents.countP (fun sent => sent.pid = record.pid) ∧
      ((fentryFexit.run (done ++ [event])).fentryLatencyStats.find? record.pid).map LatencyStats.count =
        some record.count

/-- Every event of a run is numbered so. -/
def NumbersRecords (events : List (TimedInvocation FentryFexitEvent)) : Prop :=
  ∀ done event rest, events = done ++ event :: rest → NumbersRecord done event

section Events

variable {done events : List (TimedInvocation FentryFexitEvent)}
  {event : TimedInvocation FentryFexitEvent}

/-- What one more handler sends: nothing, or the event of an exit that records its latency. -/
theorem sent_concat (room : ∀ pid ∈ event.exitPid?,
      (fentryFexit.run done).fentryLatencyStats.HasRoom pid) :
    (timedRecord? (fentryFexit.run done).fentryTimes event = none ∧
      (fentryFexit.run (done ++ [event])).fentryFexitEvents = (fentryFexit.run done).fentryFexitEvents) ∨
    ∃ record : FentryFexitEvent, ∃ latency,
      timedRecord? (fentryFexit.run done).fentryTimes event = some (record.pid, latency) ∧
      (fentryFexit.run (done ++ [event])).fentryFexitEvents =
        (fentryFexit.run done).fentryFexitEvents ++ [record] ∧
      record.count = fexitCountFrom ((fentryFexit.run done).fentryLatencyStats.find? record.pid) ∧
      (fentryFexit.run (done ++ [event])).fentryLatencyStats.find? record.pid =
        some (LatencyStats.record ((fentryFexit.run done).fentryLatencyStats.find? record.pid) latency) := by
  have after : fentryFexit.run (done ++ [event]) = (fentryFexit.run done).step event :=
    fentryFexit.run_concat
  rw [after]
  cases event with
  | entry call => exact Or.inl ⟨rfl, rfl⟩
  | exit call reserved =>
      cases found : (fentryFexit.run done).fentryTimes.find? call.task.pidTgid with
      | none =>
          rw [FentryFexitMaps.step_exit_lone call reserved found, timedRecord?, found]
          exact Or.inl ⟨rfl, rfl⟩
      | some entered =>
          cases reserved with
          | none =>
              rw [FentryFexitMaps.step_exit_unreserved, timedRecord?, found]
              exact Or.inl ⟨rfl, rfl⟩
          | some memory =>
              obtain ⟨stats, step, find⟩ := FentryFexitMaps.step_exit_reserved call found memory
              rw [step, timedRecord?, found]
              right
              refine ⟨_, call.ktimeGetNs - entered, rfl, rfl, rfl, ?_⟩
              exact (find (room _ rfl) _).trans (if_pos rfl)

/-- The events are those of the exits that report. -/
theorem pids_sent (fewPids : (timedExitPids events).toFinset.card ≤ 1024) :
    (fentryFexit.run events).fentryFexitEvents.map FentryFexitEvent.pid = reportingPids events := by
  induction events using List.reverseRecOn with
  | nil => rfl
  | append_singleton done event ih =>
      have room := Runs.before_iff_forall_split.mp (fentryFexit.room_run fewPids) done event [] rfl
      rw [TimedProgram.reportingPids_concat fentryFexit,
        ← ih (TimedProgram.fewPids_of_concat fewPids)]
      change _ = _ ++ ((timedRecord? (fentryFexit.run done).fentryTimes event).map Prod.fst).toList
      rcases sent_concat room with ⟨nothing, same⟩ | ⟨record, latency, recorded, sent, _⟩
      · rw [nothing, same]
        exact (List.append_nil _).symm
      · rw [recorded, sent, List.map_append]
        rfl

/-- No event was sent for a PID that has not reported. -/
theorem countP_sent_of_new (fewPids : (timedExitPids events).toFinset.card ≤ 1024) {pid : U32}
    (newPid : pid ∉ reportingPids events) :
    (fentryFexit.run events).fentryFexitEvents.countP (fun sent => sent.pid = pid) = 0 := by
  rw [List.countP_eq_zero]
  intro sent member same
  rw [← pids_sent fewPids] at newPid
  exact newPid (List.mem_map.mpr ⟨sent, member, of_decide_eq_true same⟩)

/-- **When one event is numbered**: a PID that has not reported before is numbered one, as its statistics
are; for a PID that has, the event says one more than the statistics. -/
theorem numbersRecord_iff (fewPids : (timedExitPids (done ++ [event])).toFinset.card ≤ 1024) :
    NumbersRecord done event ↔
      ∀ pid ∈ (timedRecord? (fentryFexit.run done).fentryTimes event).map Prod.fst,
        pid ∉ reportingPids done := by
  have few := TimedProgram.fewPids_of_concat fewPids
  have room := Runs.before_iff_forall_split.mp (fentryFexit.room_run fewPids) done event [] rfl
  have unknown_iff (pid : U32) : (fentryFexit.run done).fentryLatencyStats.find? pid = none ↔
      pid ∉ reportingPids done := TimedProgram.find?_eq_none_iff fentryFexit few pid
  rcases sent_concat room with ⟨nothing, same⟩ | ⟨record, latency, recorded, sent, count, stored⟩
  · rw [nothing]
    refine iff_of_true (fun record sent => ?_) nofun
    rw [same] at sent
    simp at sent
  · rw [recorded]
    constructor
    · rintro numbered _ ⟨⟩
      rw [← unknown_iff]
      have counted := (numbered record sent).2
      rw [stored, count] at counted
      cases known : (fentryFexit.run done).fentryLatencyStats.find? record.pid with
      | none => rfl
      | some stats =>
          rw [known, Option.map_some, Option.some.injEq] at counted
          change stats.count + 1 = stats.count + 1 + 1 at counted
          bv_omega
    · intro first other reported
      have newPid := first record.pid rfl
      rw [sent, List.append_cancel_left_eq, List.singleton_inj] at reported
      subst reported
      rw [sent, List.countP_append, countP_sent_of_new few newPid, stored, count,
        (unknown_iff _).mpr newPid]
      refine ⟨?_, rfl⟩
      rw [List.countP_singleton, if_pos (decide_eq_true rfl)]
      rfl

/-- **When the events are numbered**: exactly when no PID reports twice. -/
theorem fexit_numbers_records (events : List (TimedInvocation FentryFexitEvent))
    (fewPids : (timedExitPids events).toFinset.card ≤ 1024) :
    NumbersRecords events ↔ (reportingPids events).Nodup := by
  induction events using List.reverseRecOn with
  | nil =>
      refine iff_of_true ?_ List.nodup_nil
      intro done event rest split
      cases done <;> cases split
  | append_singleton done event ih =>
      have step : NumbersRecords (done ++ [event]) ↔ NumbersRecords done ∧ NumbersRecord done event :=
        Runs.forall_split_concat
      rw [step, ih (TimedProgram.fewPids_of_concat fewPids), numbersRecord_iff fewPids,
        TimedProgram.reportingPids_concat fentryFexit]
      change _ ↔ (_ ++ ((timedRecord? (fentryFexit.run done).fentryTimes event).map Prod.fst).toList).Nodup
      cases (timedRecord? (fentryFexit.run done).fentryTimes event).map Prod.fst with
      | none => simp
      | some pid =>
          rw [Option.toList_some, List.nodup_append_comm, List.singleton_append, List.nodup_cons, and_comm]
          simp

end Events

/-! ### Two calls of one process -/

/-- A thread of the process 1 at a time. -/
def hookedAt (ktimeGetNs : U64) : TimedCall where
  task := { pidTgid := 0x100000001, uidGid := 0, cgroupId := 0, comm := Vector.replicate 16 0 }
  ktimeGetNs := ktimeGetNs
  ret := 0

/-- Its exit, with ring space. -/
def reportedExit (ktimeGetNs : U64) : TimedInvocation FentryFexitEvent :=
  .exit (hookedAt ktimeGetNs) (some (fexitEvent (hookedAt 0) 0 0 0))

/-- A call that is reported, and one that is not. -/
def reportedOnce : List (TimedInvocation FentryFexitEvent) :=
  [.entry (hookedAt 1), reportedExit 2, .entry (hookedAt 3), .exit (hookedAt 4) none]

/-- Two calls that are reported. -/
def reportedTwice : List (TimedInvocation FentryFexitEvent) :=
  [.entry (hookedAt 1), reportedExit 2, .entry (hookedAt 3), reportedExit 4]

theorem fexit_numbers_records_once : NumbersRecords reportedOnce :=
  (fexit_numbers_records reportedOnce (by decide)).mpr (by decide)

/-- The second event of the process carries three; its statistics count two. -/
theorem fexit_numbers_second_three :
    ((fentryFexit.run reportedTwice).fentryFexitEvents.map FentryFexitEvent.count = [1, 3]) ∧
      (fentryFexit.run reportedTwice).fentryLatencyStats.find? 1 = some ⟨2, 2, 1, 1⟩ ∧
      ¬ NumbersRecords reportedTwice := by
  refine ⟨by decide, by decide, ?_⟩
  intro numbers
  have second := numbers [.entry (hookedAt 1), reportedExit 2, .entry (hookedAt 3)] (reportedExit 4) [] rfl
    (fexitEvent (hookedAt 4) 3 1 3) (by decide)
  exact absurd second.2 (by decide)

end MonsaEbpf.S2
