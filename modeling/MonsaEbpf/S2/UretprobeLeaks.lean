/-
Module: MonsaEbpf.S2.UretprobeLeaks
Layer: S2
Purpose: The uretprobe program over threads that are created and terminate, possibly inside the traced
  function. Nobody drops the timestamp of a thread that never returns, so such threads fill
  `uret_entry_times`. A further call is measured exactly when its entry finds room there.
Imports: MonsaEbpf.S2.Uretprobe, MonsaEbpf.Lib.ThreadLives
Trusted boundary: none
Main exports: History, mapsAfter, NextCall, Measures, measures_iff_hasRoom, uretprobe_measures_next_call
-/
import MonsaEbpf.S2.Uretprobe
import MonsaEbpf.Lib.ThreadLives

namespace MonsaEbpf.S2

open CallStacks ThreadLives

/-- Threads are created, run handlers, and terminate. -/
abbrev History := List (LifeEvent U64 (TimedInvocation UretprobeEvent))

/-- A history of handlers as one of calls. -/
def lives (history : History) : List (LifeEvent U64 (CallEvent U64 U64)) :=
  history.map (LifeEvent.map TimedInvocation.callEvent)

/-- The maps after a history; only handlers change them. -/
def mapsAfter (history : History) : UretprobeMaps :=
  uretprobe.run (calls history)

/-- A call that a thread makes next, with ring space for its event. -/
structure NextCall where
  entered : TimedCall
  left : TimedCall
  memory : UretprobeEvent
  sameThread : left.task.pidTgid = entered.task.pidTgid

def NextCall.thread (call : NextCall) : U64 :=
  call.entered.task.pidTgid

/-- Running its two handlers submits the event of the call, with the time between them. -/
def Measures (maps : UretprobeMaps) (call : NextCall) : Prop :=
  ((maps.step (.entry call.entered)).step (.exit call.left (some call.memory))).uretprobeEvents =
    maps.uretprobeEvents ++
      [uretEvent call.left call.entered.ktimeGetNs (call.left.ktimeGetNs - call.entered.ktimeGetNs)]

/-- **A call is measured exactly when its entry finds room.** -/
theorem measures_iff_hasRoom (maps : UretprobeMaps) (call : NextCall) :
    Measures maps call ↔ maps.uretEntryTimes.HasRoom call.thread := by
  constructor
  · intro measured
    by_contra refused
    have full : ¬ maps.uretEntryTimes.HasRoom call.entered.task.pidTgid := refused
    have absent : maps.uretEntryTimes.find? call.left.task.pidTgid = none := by
      rw [call.sameThread, CellMap.find?_eq_none, CellMap.lookup_eq_none]
      exact fun bound => full (Or.inl bound)
    have unchanged : maps.step (.entry call.entered) = maps := by
      rw [UretprobeMaps.step_entry, CellMap.insert_full _ full]
    rw [Measures, unchanged, UretprobeMaps.step_exit_lone call.left _ absent] at measured
    simp at measured
  · intro granted
    have room : maps.uretEntryTimes.HasRoom call.entered.task.pidTgid := granted
    have found : (maps.step (.entry call.entered)).uretEntryTimes.find? call.left.task.pidTgid =
        some call.entered.ktimeGetNs := by
      rw [UretprobeMaps.step_entry, call.sameThread, CellMap.find?_insert _ room]
      exact if_pos rfl
    obtain ⟨after, step, _⟩ := UretprobeMaps.step_exit_reserved call.left found call.memory
    rw [Measures, step]
    rfl

theorem times_mapsAfter (history : History) :
    (mapsAfter history).uretEntryTimes = stampMap 10240 (calls (lives history)) := by
  rw [lives, calls_map]
  exact uretprobe.times_run (calls history)

/-- **When the next call is measured**: exactly when `uret_entry_times` holds the key of the thread or has a
free entry. A live thread that is outside the function finds one as long as the live threads and the
threads that terminated inside it are together at most 10240. -/
theorem uretprobe_measures_next_call (history : History) (call : NextCall) :
    (Measures (mapsAfter history) call ↔ (mapsAfter history).uretEntryTimes.HasRoom call.thread) ∧
      (Lawful (lives history) → call.thread ∈ alive (lives history) →
        inProgress (lives history) call.thread = [] →
        (alive (lives history)).card + (lost (lives history)).length ≤ 10240 →
        Measures (mapsAfter history) call) := by
  refine ⟨measures_iff_hasRoom _ call, fun lawful living idle few => ?_⟩
  rw [measures_iff_hasRoom, times_mapsAfter]
  exact hasRoom_of_few_lost lawful living idle few

/-! ### Leaking until the map is full -/

/-- A thread at a time. -/
def callAt (thread ktimeGetNs : U64) : TimedCall where
  task := { pidTgid := thread, uidGid := 0, cgroupId := 0, comm := Vector.replicate 16 0 }
  ktimeGetNs := ktimeGetNs
  ret := 0

/-- A call of a thread, entered at 7 and left at 9. -/
def callOf (thread : U64) : NextCall where
  entered := callAt thread 7
  left := callAt thread 9
  memory := uretEvent (callAt 0 0) 0 0
  sameThread := rfl

/-- Threads that are created, enter at 1 and terminate inside, one after the other. -/
def losing (threads : List U64) : History :=
  threads.flatMap fun thread => [.created thread, .ran (.entry (callAt thread 1)), .terminated thread]

theorem lives_losing_append (threads : List U64) (rest : History) :
    lives (losing threads ++ rest) = lostCalls 1 threads ++ lives rest := by
  rw [lives, List.map_append, losing, List.map_flatMap, lostCalls, lives]
  rfl

/-- One thread was lost and its id is used again: the new call overwrites the old timestamp. -/
theorem uretprobe_measures_next_call_reused :
    Measures (mapsAfter (losing [5] ++ [.created 5])) (callOf 5) := by
  apply (uretprobe_measures_next_call _ _).2
  · rw [lives_losing_append]
    exact lawful_lostCalls_append _ _ ⟨Finset.notMem_empty _, trivial⟩
  · decide
  · decide
  · decide

/-- What a history with lost calls does to the call of a live thread outside the function, although never too
many threads are alive. -/
structure StopsMeasuring (history : History) (call : NextCall) : Prop where
  lawful : Lawful (lives history)
  fewAlive : FewAlive 10240 (lives history)
  living : call.thread ∈ alive (lives history)
  idle : inProgress (lives history) call.thread = []
  unmeasured : ¬ Measures (mapsAfter history) call

/-- **Lost calls stop all measuring**: never more than one thread is alive, and the next thread is outside the
function, but its call finds no entry. -/
theorem losing_stops_measuring {threads : List U64} (call : NextCall) (distinct : threads.Nodup)
    (full : threads.length = 10240) (other : call.thread ∉ threads) :
    StopsMeasuring (losing threads ++ [.created call.thread]) call := by
  have past : lives (losing threads ++ [.created call.thread]) =
      lostCalls 1 threads ++ [.created call.thread] := lives_losing_append _ _
  have born : Lawful [(.created call.thread : LifeEvent U64 (CallEvent U64 U64))] :=
    ⟨Finset.notMem_empty _, trivial⟩
  have single : FewAlive 10240 [(.created call.thread : LifeEvent U64 (CallEvent U64 U64))] :=
    fewAlive_iff_always.mpr ⟨Nat.zero_le _, (Finset.card_singleton _).le.trans (by decide)⟩
  constructor
  · rw [past]
    exact lawful_lostCalls_append 1 threads born
  · rw [past]
    exact fewAlive_lostCalls_append 1 threads (by decide) single
  · rw [past, alive_lostCalls_append]
    exact Finset.mem_insert_self _ _
  · rw [past, inProgress_lostCalls_append]
    change Function.update (fun _ => []) call.thread [] call.thread = []
    rw [Function.update_self]
  · rw [measures_iff_hasRoom, times_mapsAfter, past, calls_concat, LifeEvent.ran?, Option.toList_none,
      List.append_nil]
    exact not_hasRoom_of_lost 1 distinct full other

/-- After 10240 threads were lost, the next call of a new thread is not measured. -/
theorem uretprobe_leaks_exhaust_times :
    StopsMeasuring (losing (wordsBelow 64 10240) ++ [.created 10240]) (callOf 10240) := by
  apply losing_stops_measuring (callOf 10240)
  · exact nodup_wordsBelow (by decide)
  · exact length_wordsBelow 64 10240
  · exact notMem_wordsBelow (by decide)

end MonsaEbpf.S2
