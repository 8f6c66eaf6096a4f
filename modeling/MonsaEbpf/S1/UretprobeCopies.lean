/-
Module: MonsaEbpf.S1.UretprobeCopies
Layer: S1
Purpose: The handlers of the S1 uretprobe program as the threads of one process run them at the same time.
  An exit that finds a timestamp copies the statistics of the process, records its call in the copy and
  replaces the statistics by it. So `calls` counts the exits exactly when no exit looks the statistics up
  between the lookup and the update of another one; otherwise an update is lost for good.
Imports: MonsaEbpf.S1.UretprobeProcesses, MonsaEbpf.Lib.CopiedCounts
Trusted boundary: none
Main exports: UretprobeInvocation.program, callsCounter, msbUretprobeExit_counts,
  uretprobe_counts_exits_iff
-/
import MonsaEbpf.Lib.CopiedCounts
import MonsaEbpf.S1.UretprobeProcesses

namespace MonsaEbpf.S1

open CopyCounter

/-- What the handler of an invocation sees. -/
def UretprobeInvocation.call : UretprobeInvocation → UretprobeCall
  | .entry call | .exit call => call

/-- The handler that an invocation runs. -/
def UretprobeInvocation.program : UretprobeInvocation → UretprobeProgram S32
  | .entry call => msbUretprobeEntry call
  | .exit call => msbUretprobeExit call

/-- What the steps of the handlers are for: an exit looks its timestamp up, looks the statistics up, and
holds what it found there until it has replaced them. -/
def copyStep : BpfOp UretprobeMap → CopyStep
  | .mapLookup .uretprobeStart => .search
  | .mapLookup .uretprobeStats => .take
  | .load .uretprobeStats | .mapUpdate .uretprobeStats => .hold
  | _ => .plain

/-- `uretprobe_stats[pid].calls`, counted by the exits that find a timestamp of `pid`. Values that were
looked up stay where they are when the entry is replaced. -/
def callsCounter (pid : U32) : CopyCounter (BpfOp UretprobeMap) UretprobeMaps 64 where
  Inv maps := maps.uretprobeStats.HasRoom pid
  get maps := (maps.statOf pid).calls
  kind := copyStep
  found maps := decide (pid ∈ maps.uretprobeStart.keys)
  Grows maps later := maps.uretprobeStats.cells <+: later.uretprobeStats.cells
  grows_refl _ := List.prefix_refl _
  grows_trans := List.IsPrefix.trans

section Handlers

variable {pid : U32} {seen maps : UretprobeMaps} {delta : U64} {rc : S64}

theorem found_iff : (callsCounter pid).found maps = true ↔ pid ∈ maps.uretprobeStart.keys :=
  decide_eq_true_iff

/-- What was read through a pointer is read again later. -/
theorem read_of_grows {cur : Nat} (bound : maps.uretprobeStats.lookup pid = some cur)
    {later : UretprobeMaps} (grows : (callsCounter pid).Grows maps later) :
    later.uretprobeStats.read cur = maps.uretprobeStats.read cur := by
  obtain ⟨more, isMore⟩ := grows
  rw [CellMap.read, ← isMore, List.getElem?_append_left (maps.uretprobeStats.live bound)]
  rfl

/-- A step on other maps keeps the statistics. -/
theorem stats_kept {update : UretprobeMaps → UretprobeMaps}
    (same : ∀ maps, (update maps).uretprobeStats = maps.uretprobeStats) (maps : UretprobeMaps)
    (room : (callsCounter pid).Inv maps) :
    (callsCounter pid).Inv (update maps) ∧ (callsCounter pid).Grows maps (update maps) := by
  refine ⟨?_, ?_⟩
  · change (update maps).uretprobeStats.HasRoom pid
    rw [same]
    exact room
  · change _ <+: (update maps).uretprobeStats.cells
    rw [same]

/-- Replacing the statistics: the entry counts what the copy counts, the cells grow by one. -/
theorem stats_replaced (stat : UretprobeStat) (room : maps.uretprobeStats.HasRoom pid) :
    (callsCounter pid).Inv { maps with uretprobeStats := maps.uretprobeStats.insert pid stat } ∧
      (callsCounter pid).Grows maps
        { maps with uretprobeStats := maps.uretprobeStats.insert pid stat } ∧
      (callsCounter pid).get { maps with uretprobeStats := maps.uretprobeStats.insert pid stat } =
        stat.calls := by
  refine ⟨Or.inl ?_, ?_, ?_⟩
  · change pid ∈ (maps.uretprobeStats.insert pid stat).keys
    rw [CellMap.keys_insert stat room]
    exact Finset.mem_insert_self _ _
  · change _ <+: (maps.uretprobeStats.insert pid stat).cells
    rw [CellMap.cells_insert stat room]
    exact List.prefix_append _ _
  · change (((maps.uretprobeStats.insert pid stat).find? pid).getD .zero).calls = _
    rw [CellMap.find?_insert stat room, if_pos rfl]
    rfl

/-- An exit that holds its copy stores it with one more call. -/
theorem storeStat_counts (stat : UretprobeStat) :
    (callsCounter pid).Counts seen (.holding stat.calls)
      (bpfMapUpdateElem uretprobeStats pid (stat.record delta rc) >>= fun _ =>
        (return 0 : UretprobeProgram S32)) := by
  refine .step (fun _ => .settled) (fun maps room => ?_) (fun maps room _ => ?_) fun _ _ _ => .ret _
  · obtain ⟨room', grows, _⟩ := stats_replaced (stat.record delta rc) room
    exact ⟨room', grows⟩
  · obtain ⟨_, _, stored⟩ := stats_replaced (stat.record delta rc) room
    exact stored ▸ .store stat.calls

/-- The accounting of an exit takes a copy of the statistics and stores it with one more call. -/
theorem accountCall_counts : (callsCounter pid).Counts seen .owing (accountCall pid delta rc) := by
  refine .step (fun maps => .holding (maps.statOf pid).calls) (stats_kept fun _ => rfl)
    (fun _ _ _ => .take) fun maps _ _ => ?_
  change Counts _ maps _ (currentStat (maps.uretprobeStats.lookup pid) >>= _)
  cases bound : maps.uretprobeStats.lookup pid with
  | none =>
      rw [UretprobeMaps.statOf, CellMap.find?_eq_none.mpr bound]
      exact storeStat_counts .zero
  | some cur =>
      rw [UretprobeMaps.statOf, CellMap.find?_of_lookup bound]
      refine .step (fun _ => .holding (maps.uretprobeStats.read cur).calls) (stats_kept fun _ => rfl)
        (fun _ _ _ => .hold _) fun later _ grows => ?_
      rw [← read_of_grows bound grows]
      exact storeStat_counts (later.uretprobeStats.read cur)

/-- An entry counts nothing. -/
theorem msbUretprobeEntry_counts (call : UretprobeCall) :
    (callsCounter pid).Counts seen .settled (msbUretprobeEntry call) :=
  .step (fun _ => .settled) (stats_kept fun _ => rfl) (fun _ _ _ => .plain) fun _ _ _ => .ret _

/-- **An exit counts by copying**, if it finds a timestamp of its process. -/
theorem msbUretprobeExit_counts (call : UretprobeCall) :
    (callsCounter (pidOf call.pidTgid)).Counts seen .idle (msbUretprobeExit call) := by
  refine .step
    (fun maps => if (callsCounter (pidOf call.pidTgid)).found maps then .owing else .settled)
    (stats_kept fun _ => rfl) (fun _ _ _ => .search) fun maps _ _ => ?_
  change Counts _ maps _ (StepProgram.bind (.ret (maps.uretprobeStart.lookup (pidOf call.pidTgid))) _)
  cases bound : maps.uretprobeStart.lookup (pidOf call.pidTgid) with
  | none =>
      have absent : pidOf call.pidTgid ∉ maps.uretprobeStart.keys := CellMap.lookup_eq_none.mp bound
      rw [if_neg (mt found_iff.mp absent)]
      exact .ret _
  | some start =>
      have present : pidOf call.pidTgid ∈ maps.uretprobeStart.keys := by
        by_contra absent
        rw [CellMap.lookup_eq_none.mpr absent] at bound
        cases bound
      rw [if_pos (found_iff.mpr present)]
      refine .step (fun _ => .owing) (stats_kept fun _ => rfl) (fun _ _ _ => .wait) fun _ _ _ => ?_
      refine .step (fun _ => .owing) (stats_kept fun _ => rfl) (fun _ _ _ => .wait) fun _ _ _ => ?_
      exact accountCall_counts

/-- Every handler counts from before its search on. -/
theorem program_counts (invocation : UretprobeInvocation) :
    ∃ stage : Stage 64, stage.pending = 0 ∧
      (callsCounter (pidOf invocation.call.pidTgid)).Counts seen stage invocation.program := by
  cases invocation with
  | entry call => exact ⟨.settled, rfl, msbUretprobeEntry_counts call⟩
  | exit call => exact ⟨.idle, rfl, msbUretprobeExit_counts call⟩

end Handlers

/-! ### The threads of a process -/

/-- The invocations before their first step. -/
def handlersAt {n : Nat} (maps : UretprobeMaps) (invocations : Fin n → UretprobeInvocation) :
    Config (BpfOp UretprobeMap) UretprobeMaps S32 (Fin n) where
  shared := maps
  threads := fun i => (invocations i).program

/-- The exits that found a timestamp of `pid` along a schedule. -/
def completedExits {n : Nat} (pid : U32) (maps : UretprobeMaps) (invocations : Fin n → UretprobeInvocation)
    (schedule : List (Fin n)) : Finset (Fin n) :=
  (callsCounter pid).finders (handlersAt maps invocations) schedule

/-- Along the schedule no exit looks the statistics of `pid` up while another one has looked them up and
not replaced them yet. -/
def CopiesApart {n : Nat} (pid : U32) (maps : UretprobeMaps) (invocations : Fin n → UretprobeInvocation)
    (schedule : List (Fin n)) : Prop :=
  (handlersAt maps invocations).Along (callsCounter pid).Alone schedule

instance {n : Nat} (pid : U32) (maps : UretprobeMaps) (invocations : Fin n → UretprobeInvocation)
    (schedule : List (Fin n)) : Decidable (CopiesApart pid maps invocations schedule) :=
  inferInstanceAs (Decidable (Config.Along _ _ _))

/-- **The S1 uretprobe program counts every exit that found a timestamp exactly when no two exits hold a
copy of the statistics at a time** and the count fits. -/
theorem uretprobe_counts_exits_iff {n : Nat} (pid : U32) (maps : UretprobeMaps)
    (invocations : Fin n → UretprobeInvocation) (schedule : List (Fin n))
    (process : ∀ i, pidOf (invocations i).call.pidTgid = pid) (room : maps.uretprobeStats.HasRoom pid)
    (finished : ((handlersAt maps invocations).run schedule).Finished) :
    (((handlersAt maps invocations).run schedule).shared.statOf pid).calls.toNat =
        (maps.statOf pid).calls.toNat + (completedExits pid maps invocations schedule).card ↔
      (maps.statOf pid).calls.toNat + (completedExits pid maps invocations schedule).card < 2 ^ 64 ∧
        CopiesApart pid maps invocations schedule := by
  have counts (i : Fin n) : ∃ stage : Stage 64, stage.pending = 0 ∧
      (callsCounter pid).Counts maps stage (invocations i).program := by
    rw [← process i]
    exact program_counts (invocations i)
  choose stages unstarted counts using counts
  have counting : (callsCounter pid).Counting (handlersAt maps invocations) stages := ⟨room, counts⟩
  exact get_run_iff counting unstarted finished

/-- An entry of PID 1 at time 1 and two exits. -/
def entryAndTwoExits : Fin 3 → UretprobeInvocation
  | 0 => .entry (threadCall 1 1)
  | 1 => .exit (threadCall 1 5)
  | 2 => .exit (threadCall 2 7)

/-- An entry and an exit that is over before the other exit starts. -/
theorem uretprobe_counts_exits_iff_in_turn :
    (((handlersAt .initial entryAndTwoExits).run [0, 1, 1, 1, 1, 1, 2]).shared.statOf 1).calls.toNat =
      0 + (completedExits 1 .initial entryAndTwoExits [0, 1, 1, 1, 1, 1, 2]).card :=
  (uretprobe_counts_exits_iff 1 .initial entryAndTwoExits [0, 1, 1, 1, 1, 1, 2] (by decide) (by decide)
    (by decide)).mpr ⟨by decide, by decide⟩

/-- Two exits that take their steps in turns: both find the timestamp before either has dropped it, and
both store the first call. -/
def exitsInStep : List (Fin 3) :=
  [0, 1, 2, 1, 2, 1, 2, 1, 2, 1, 2]

theorem uretprobe_loses_exit :
    (∀ i, pidOf (entryAndTwoExits i).call.pidTgid = 1) ∧
      UretprobeMaps.initial.uretprobeStats.HasRoom 1 ∧
      ((handlersAt .initial entryAndTwoExits).run exitsInStep).Finished ∧
      completedExits 1 .initial entryAndTwoExits exitsInStep = {1, 2} ∧
      (((handlersAt .initial entryAndTwoExits).run exitsInStep).shared.statOf 1).calls = 1 ∧
      ¬ (((handlersAt .initial entryAndTwoExits).run exitsInStep).shared.statOf 1).calls.toNat =
        (UretprobeMaps.initial.statOf 1).calls.toNat +
          (completedExits 1 .initial entryAndTwoExits exitsInStep).card := by
  decide

end MonsaEbpf.S1
