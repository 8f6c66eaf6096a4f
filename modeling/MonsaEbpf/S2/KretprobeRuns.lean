/-
Module: MonsaEbpf.S2.KretprobeRuns
Layer: S2
Purpose: Whole runs of the kretprobe program, handlers run one after another: the statistics of every PID
  are exact folds over the exits of its threads, and every submitted event classifies its return value.
Imports: MonsaEbpf.S2.Kretprobe, MonsaEbpf.Lib.Runs
Trusted boundary: none
Main exports: KretprobeMaps.run, exitPids, exitsOf, PidStats.Tallies, ErrorReported,
  kretprobe_statistics_exact
-/
import MonsaEbpf.S2.Kretprobe
import MonsaEbpf.Lib.Runs

namespace MonsaEbpf.S2

/-- Run the handlers from left to right. -/
def KretprobeMaps.run (events : List KretprobeInvocation) : KretprobeMaps :=
  Runs.run KretprobeMaps.step KretprobeMaps.initial events

/-- The PID of an exit. -/
def KretprobeInvocation.exitPid? : KretprobeInvocation → Option U32
  | .entry _ => none
  | .exit call _ => some (pidOf call.task.pidTgid)

/-- The PIDs of the exits, in order. -/
def exitPids (events : List KretprobeInvocation) : List U32 :=
  events.filterMap KretprobeInvocation.exitPid?

/-- What an exit adds to the statistics: the latency it computed and its return value. -/
structure ExitRecord where
  latency : U64
  retval : S64

/-- The record of an exit and the PID it belongs to. -/
def exitRecord? (maps : KretprobeMaps) : KretprobeInvocation → Option (U32 × ExitRecord)
  | .entry _ => none
  | .exit call _ =>
      some (pidOf call.task.pidTgid, { latency := ((exitLatency call).exec maps).1, retval := call.ptRegsRc })

/-- The exits of the threads of one PID along a run. -/
def exitsOf (pid : U32) (events : List KretprobeInvocation) : List ExitRecord :=
  Runs.under pid (Runs.emitted KretprobeMaps.step exitRecord? KretprobeMaps.initial events)

/-! ### One PID -/

/-- The return value lies in `[-4095, -1]`. -/
def ExitRecord.IsError (record : ExitRecord) : Prop :=
  -4095 ≤ record.retval.toInt ∧ record.retval.toInt ≤ -1

instance (record : ExitRecord) : Decidable record.IsError :=
  inferInstanceAs (Decidable (_ ∧ _))

/-- The least positive latency, zero if there is none. -/
def LeastPositive (least : U64) (latencies : List U64) : Prop :=
  (∀ latency ∈ latencies, 0 < latency → 0 < least ∧ least ≤ latency) ∧
    (0 < least → least ∈ latencies)

/-- The greatest latency, zero if there are none. -/
def Greatest (greatest : U64) (latencies : List U64) : Prop :=
  (∀ latency ∈ latencies, latency ≤ greatest) ∧ (0 < greatest → greatest ∈ latencies)

/-- The statistics are the folds over a list of exits, in the arithmetic of their 64-bit fields. -/
structure PidStats.Tallies (stats : PidStats) (exits : List ExitRecord) : Prop where
  total : stats.totalCalls = BitVec.ofNat 64 exits.length
  split : stats.totalCalls = stats.successCalls + stats.errorCalls
  errors : stats.errorCalls = BitVec.ofNat 64 (exits.countP fun record => record.IsError)
  latency : stats.totalLatencyNs =
    BitVec.ofNat 64 (exits.map fun record => record.latency.toNat).sum
  least : LeastPositive stats.minLatencyNs (exits.map ExitRecord.latency)
  greatest : Greatest stats.maxLatencyNs (exits.map ExitRecord.latency)
  last : ∀ record ∈ exits.getLast?, stats.lastRetval = record.retval

/-- The statistics after one more exit of a PID that may be new. -/
def PidStats.record (stats : Option PidStats) (record : ExitRecord) : PidStats :=
  (stats.getD .zero).recordExit (isErrorRetval record.retval) record.latency record.retval

theorem isErrorRetval_eq (record : ExitRecord) :
    isErrorRetval record.retval = if record.IsError then 1 else 0 := by
  have same : (record.retval.toInt < 0 ∧ -4095 ≤ record.retval.toInt) ↔ record.IsError := by
    rw [ExitRecord.IsError]
    omega
  simp only [isErrorRetval, same]

/-- A positive latency becomes the least one when there was none or when it is smaller. -/
theorem LeastPositive.concat_pos {least latency : U64} {latencies : List U64}
    (holds : LeastPositive least latencies) (positive : 0 < latency) :
    LeastPositive (if least = 0 ∨ latency < least then latency else least)
      (latencies ++ [latency]) := by
  constructor
  · intro other member otherPositive
    rw [List.mem_append, List.mem_singleton] at member
    rcases member with earlier | rfl
    · obtain ⟨leastPositive, below⟩ := holds.1 other earlier otherPositive
      split
      · rename_i smaller
        refine ⟨positive, ?_⟩
        bv_omega
      · exact ⟨leastPositive, below⟩
    · split
      · exact ⟨positive, BitVec.le_refl _⟩
      · rename_i kept
        constructor <;> bv_omega
  · intro leastPositive
    split
    · exact List.mem_append_right _ (List.mem_singleton_self _)
    · rename_i kept
      apply List.mem_append_left
      apply holds.2
      bv_omega

/-- A zero latency is not counted. -/
theorem LeastPositive.concat_zero {least : U64} {latencies : List U64}
    (holds : LeastPositive least latencies) : LeastPositive least (latencies ++ [0]) := by
  constructor
  · intro other member positive
    rw [List.mem_append, List.mem_singleton] at member
    rcases member with earlier | rfl
    · exact holds.1 other earlier positive
    · exact absurd positive (by decide)
  · exact fun positive => List.mem_append_left _ (holds.2 positive)

theorem LeastPositive.concat {least latency : U64} {latencies : List U64}
    (holds : LeastPositive least latencies) :
    LeastPositive (if latency > 0 then if least = 0 ∨ latency < least then latency else least else least)
      (latencies ++ [latency]) := by
  by_cases positive : latency > 0
  · rw [if_pos positive]
    exact holds.concat_pos positive
  · have isZero : latency = 0 := by bv_omega
    rw [if_neg positive, isZero]
    exact holds.concat_zero

theorem Greatest.concat {greatest latency : U64} {latencies : List U64}
    (holds : Greatest greatest latencies) :
    Greatest (if latency > greatest then latency else greatest) (latencies ++ [latency]) := by
  constructor
  · intro other member
    rw [List.mem_append, List.mem_singleton] at member
    rcases member with earlier | rfl
    · have below := holds.1 other earlier
      split
      · bv_omega
      · exact below
    · split
      · exact BitVec.le_refl _
      · bv_omega
  · intro positive
    split
    · exact List.mem_append_right _ (List.mem_singleton_self _)
    · rename_i kept
      apply List.mem_append_left
      apply holds.2
      rw [if_neg kept] at positive
      exact positive

theorem PidStats.Tallies.zero : PidStats.zero.Tallies [] where
  total := rfl
  split := rfl
  errors := rfl
  latency := rfl
  least := by simp [LeastPositive, PidStats.zero]
  greatest := by simp [Greatest, PidStats.zero]
  last := by simp

section RecordExit

variable (stats : PidStats) (isErr : U8) (latency : U64) (retval : S64)

theorem countOutcome_calls :
    (stats.countOutcome isErr).totalCalls = stats.totalCalls ∧
      (stats.countOutcome isErr).errorCalls = stats.errorCalls + (if isErr ≠ 0 then 1 else 0) ∧
      (stats.countOutcome isErr).successCalls = stats.successCalls + (if isErr ≠ 0 then 0 else 1) := by
  rw [PidStats.countOutcome]
  by_cases error : isErr ≠ 0
  · simp only [if_pos error, true_and]
    exact (BitVec.add_zero _).symm
  · simp only [if_neg error, true_and, and_true]
    exact (BitVec.add_zero _).symm

theorem countOutcome_latencies :
    (stats.countOutcome isErr).totalLatencyNs = stats.totalLatencyNs ∧
      (stats.countOutcome isErr).minLatencyNs = stats.minLatencyNs ∧
      (stats.countOutcome isErr).maxLatencyNs = stats.maxLatencyNs := by
  rw [PidStats.countOutcome]
  split <;> exact ⟨rfl, rfl, rfl⟩

theorem recordLatency_calls :
    (stats.recordLatency latency).totalCalls = stats.totalCalls ∧
      (stats.recordLatency latency).errorCalls = stats.errorCalls ∧
      (stats.recordLatency latency).successCalls = stats.successCalls := by
  rw [PidStats.recordLatency]
  split <;> exact ⟨rfl, rfl, rfl⟩

/-- Recording a zero latency adds nothing, so the sum and the maximum need no case for it. -/
theorem recordLatency_latencies :
    (stats.recordLatency latency).totalLatencyNs = stats.totalLatencyNs + latency ∧
      (stats.recordLatency latency).minLatencyNs =
        (if latency > 0 then
          if stats.minLatencyNs = 0 ∨ latency < stats.minLatencyNs then latency
          else stats.minLatencyNs
        else stats.minLatencyNs) ∧
      (stats.recordLatency latency).maxLatencyNs =
        (if latency > stats.maxLatencyNs then latency else stats.maxLatencyNs) := by
  rw [PidStats.recordLatency]
  by_cases positive : latency > 0
  · simp only [if_pos positive, and_self]
  · have zero : latency = 0 := by bv_omega
    subst zero
    have notAbove : ¬ (0 : U64) > stats.maxLatencyNs := by bv_omega
    simp only [if_neg positive, if_neg notAbove, and_true]
    exact (BitVec.add_zero _).symm

/-- What an exit adds to the numbers of calls. -/
theorem recordExit_calls :
    (stats.recordExit isErr latency retval).totalCalls = stats.totalCalls + 1 ∧
      (stats.recordExit isErr latency retval).errorCalls =
        stats.errorCalls + (if isErr ≠ 0 then 1 else 0) ∧
      (stats.recordExit isErr latency retval).successCalls =
        stats.successCalls + (if isErr ≠ 0 then 0 else 1) := by
  let entered : PidStats := { stats with totalCalls := stats.totalCalls + 1 }
  obtain ⟨total, errors, successes⟩ := countOutcome_calls entered isErr
  obtain ⟨totalKept, errorsKept, successesKept⟩ :=
    recordLatency_calls (entered.countOutcome isErr) latency
  exact ⟨totalKept.trans total, errorsKept.trans errors, successesKept.trans successes⟩

/-- What an exit makes of the latencies. -/
theorem recordExit_latencies :
    (stats.recordExit isErr latency retval).totalLatencyNs = stats.totalLatencyNs + latency ∧
      (stats.recordExit isErr latency retval).minLatencyNs =
        (if latency > 0 then
          if stats.minLatencyNs = 0 ∨ latency < stats.minLatencyNs then latency
          else stats.minLatencyNs
        else stats.minLatencyNs) ∧
      (stats.recordExit isErr latency retval).maxLatencyNs =
        (if latency > stats.maxLatencyNs then latency else stats.maxLatencyNs) := by
  let entered : PidStats := { stats with totalCalls := stats.totalCalls + 1 }
  have recorded := recordLatency_latencies (entered.countOutcome isErr) latency
  obtain ⟨sumKept, leastKept, greatestKept⟩ := countOutcome_latencies entered isErr
  rw [sumKept, leastKept, greatestKept] at recorded
  exact recorded

end RecordExit

/-- One more exit. -/
theorem PidStats.Tallies.recordExit {stats : PidStats} {exits : List ExitRecord}
    (tallies : stats.Tallies exits) (record : ExitRecord) :
    (stats.recordExit (isErrorRetval record.retval) record.latency record.retval).Tallies
      (exits ++ [record]) := by
  obtain ⟨total, errors, successes⟩ :=
    recordExit_calls stats (isErrorRetval record.retval) record.latency record.retval
  obtain ⟨latency, least, greatest⟩ :=
    recordExit_latencies stats (isErrorRetval record.retval) record.latency record.retval
  have classified : isErrorRetval record.retval ≠ 0 ↔ record.IsError := by
    rw [isErrorRetval_eq]
    by_cases error : record.IsError <;> simp [error]
  simp only [classified] at errors successes
  constructor
  · rw [total, tallies.total, List.length_append, BitVec.ofNat_add]
    rfl
  · rw [total, errors, successes, tallies.split]
    split <;> bv_omega
  · rw [errors, tallies.errors, List.countP_append, BitVec.ofNat_add]
    by_cases error : record.IsError <;> simp [error]
  · rw [latency, tallies.latency, List.map_append, List.sum_append, BitVec.ofNat_add]
    simp
  · rw [least, List.map_append]
    exact tallies.least.concat
  · rw [greatest, List.map_append]
    exact tallies.greatest.concat
  · intro last member
    rw [List.getLast?_concat, Option.mem_some] at member
    subst member
    rfl

/-- The statistics folded over the exits of a PID tally them. -/
theorem tallies_foldl {exits : List ExitRecord} (some_exit : exits ≠ []) :
    ∃ stats, exits.foldl (fun stats exit => some (PidStats.record stats exit)) none = some stats ∧
      stats.Tallies exits := by
  induction exits using List.reverseRecOn with
  | nil => exact absurd rfl some_exit
  | append_singleton exits exit ih =>
      rw [List.foldl_append, List.foldl_cons, List.foldl_nil]
      refine ⟨_, rfl, ?_⟩
      cases exits with
      | nil => exact PidStats.Tallies.zero.recordExit exit
      | cons first rest =>
          obtain ⟨stats, folded, tallies⟩ := ih (List.cons_ne_nil first rest)
          rw [folded]
          exact tallies.recordExit exit

/-! ### One event -/

/-- The event says error exactly for a return value `-code` with `1 ≤ code ≤ 4095`, and carries that code or
zero. -/
structure ErrorReported (event : KretprobeEvent) : Prop where
  isError : event.isError = 1 ↔ 1 ≤ event.errorCode.toInt ∧ event.errorCode.toInt ≤ 4095 ∧
    event.retval.toInt = -event.errorCode.toInt
  success : event.isError ≠ 1 → event.errorCode = 0

/-- The low 32 bits of the negated return value are the error code. -/
theorem toInt_errCode {retval : S64} (low : -4095 ≤ retval.toInt) (high : retval.toInt ≤ -1) :
    ((-retval).setWidth 32).toInt = -retval.toInt := by
  have bounded := retval.isLt
  have value : retval.toInt = (retval.toNat : Int) - 2 ^ 64 := by
    rw [BitVec.toInt_eq_toNat_cond] at high ⊢
    split
    · rename_i positive
      rw [if_pos positive] at high
      omega
    · rfl
  have negated : ((-retval).setWidth 32).toNat = 2 ^ 64 - retval.toNat := by
    rw [BitVec.toNat_setWidth, BitVec.toNat_neg]
    omega
  rw [BitVec.toInt_eq_toNat_cond, negated, if_pos (by omega), value]
  omega

theorem exitEvent_reported (call : KretprobeCall) (latency : U64) (memory : KretprobeEvent) :
    ErrorReported (exitEvent call (isErrorRetval call.ptRegsRc) latency memory) := by
  have classified := isErrorRetval_eq { latency := latency, retval := call.ptRegsRc }
  by_cases error : ExitRecord.IsError { latency := latency, retval := call.ptRegsRc }
  · rw [if_pos error] at classified
    have code : (errCode 1 call.ptRegsRc).toInt = -call.ptRegsRc.toInt :=
      toInt_errCode error.1 error.2
    have bounds : -4095 ≤ call.ptRegsRc.toInt ∧ call.ptRegsRc.toInt ≤ -1 := error
    constructor
    · simp only [exitEvent, classified, code]
      apply iff_of_true trivial
      omega
    · exact fun notError => absurd classified notError
  · rw [if_neg error] at classified
    have code : errCode 0 call.ptRegsRc = 0 := rfl
    constructor
    · simp only [exitEvent, classified, code]
      apply iff_of_false
      · decide
      · exact fun reported => absurd reported.1 (by decide)
    · intro _
      simp only [exitEvent, classified, code]

/-! ### Runs -/

/-- An exit finds statistics of its PID or room for them. -/
def ExitRoom (maps : KretprobeMaps) (event : KretprobeInvocation) : Prop :=
  ∀ pid ∈ event.exitPid?, maps.pidStatistics.HasRoom pid

theorem touches_step {maps : KretprobeMaps} {event : KretprobeInvocation}
    (room : ExitRoom maps event) :
    Runs.Touches KretprobeMaps.step (fun maps => maps.pidStatistics.find?) exitRecord?
      PidStats.record maps event := by
  intro pid
  cases event with
  | entry call => rfl
  | exit call reserved =>
      obtain ⟨map, step, find⟩ := KretprobeMaps.step_exit call reserved (room _ rfl)
      rw [step]
      simp only [exitRecord?, exec_exitLatency]
      rw [find pid]
      by_cases same : pid = pidOf call.task.pidTgid
      · rw [if_pos same, if_pos same.symm]
        rfl
      · rw [if_neg same, if_neg (Ne.symm same)]

/-- An exit records under its PID. -/
theorem exitPid?_of_exitRecord? {maps : KretprobeMaps} {event : KretprobeInvocation}
    {record : U32 × ExitRecord} (recorded : exitRecord? maps event = some record) :
    event.exitPid? = some record.1 := by
  cases event with
  | entry call => cases recorded
  | exit call reserved =>
      cases recorded
      rfl

/-- With few PIDs every exit of a run has room. -/
theorem exitRoom_run {events : List KretprobeInvocation}
    (fewPids : (exitPids events).toFinset.card ≤ 10240) :
    Runs.Before KretprobeMaps.step ExitRoom KretprobeMaps.initial events :=
  CellMap.before_of_few_keys (fun _ _ => touches_step) exitPid?_of_exitRecord? rfl fewPids

/-- An exit drops its timestamp and sends the latency that the timestamp gives, with or without room for
statistics of its PID. -/
theorem KretprobeMaps.exit_times_events (maps : KretprobeMaps) (call : KretprobeCall)
    (reserved : Option KretprobeEvent) :
    (maps.step (.exit call reserved)).entryTimes = maps.entryTimes.erase call.task.pidTgid ∧
      (maps.step (.exit call reserved)).kretprobeEvents = maps.kretprobeEvents ++
        (reserved.map (exitEvent call (isErrorRetval call.ptRegsRc)
          (latencyFrom maps.entryTimes call))).toList := by
  by_cases room : maps.pidStatistics.HasRoom (pidOf call.task.pidTgid)
  · obtain ⟨map, step, _⟩ := KretprobeMaps.step_exit call reserved room
    rw [step]
    exact ⟨rfl, rfl⟩
  · rw [KretprobeMaps.step_exit_full call reserved room]
    exact ⟨rfl, rfl⟩

/-- What an invocation submits: the event of an exit that gets ring space. -/
def sentEvent? (maps : KretprobeMaps) : KretprobeInvocation → Option KretprobeEvent
  | .entry _ => none
  | .exit call reserved =>
      reserved.map (exitEvent call (isErrorRetval call.ptRegsRc) (latencyFrom maps.entryTimes call))

/-- The events of the exits that get ring space along a run, in order. -/
def sentEvents (events : List KretprobeInvocation) : List KretprobeEvent :=
  Runs.emitted KretprobeMaps.step sentEvent? KretprobeMaps.initial events

theorem events_step (maps : KretprobeMaps) (event : KretprobeInvocation) :
    (maps.step event).kretprobeEvents = maps.kretprobeEvents ++ (sentEvent? maps event).toList := by
  cases event with
  | entry call => exact (List.append_nil _).symm
  | exit call reserved => exact (maps.exit_times_events call reserved).2

/-- The events of a run are those of its exits. -/
theorem events_run (events : List KretprobeInvocation) :
    (KretprobeMaps.run events).kretprobeEvents = sentEvents events := by
  induction events using List.reverseRecOn with
  | nil => rfl
  | append_singleton done event ih =>
      rw [KretprobeMaps.run, Runs.run_concat, events_step, ← KretprobeMaps.run, ih, sentEvents, sentEvents,
        Runs.emitted_concat]
      rfl

theorem reported_sentEvents (events : List KretprobeInvocation) :
    ∀ sent ∈ sentEvents events, ErrorReported sent := by
  induction events using List.reverseRecOn with
  | nil => exact fun _ => nofun
  | append_singleton done event ih =>
      intro sent member
      rw [sentEvents, Runs.emitted_concat, List.mem_append, Option.mem_toList] at member
      rcases member with earlier | now
      · exact ih sent earlier
      · cases event with
        | entry call => cases now
        | exit call reserved =>
            obtain ⟨memory, _, rfl⟩ := Option.map_eq_some_iff.mp now
            exact exitEvent_reported call _ memory

/-- Every exit has its record. -/
theorem map_fst_emitted (maps : KretprobeMaps) (events : List KretprobeInvocation) :
    (Runs.emitted KretprobeMaps.step exitRecord? maps events).map Prod.fst = exitPids events := by
  induction events generalizing maps with
  | nil => rfl
  | cons event rest ih =>
      rw [Runs.emitted, List.map_append, ih]
      cases event <;> rfl

theorem mem_exitPids {pid : U32} {events : List KretprobeInvocation} :
    pid ∈ exitPids events ↔ exitsOf pid events ≠ [] := by
  rw [exitsOf, Runs.under_ne_nil, map_fst_emitted]

/-- The records of a PID are as many as its exits. -/
theorem length_exitsOf (pid : U32) (events : List KretprobeInvocation) :
    (exitsOf pid events).length = (exitPids events).count pid := by
  rw [exitsOf, Runs.length_under, map_fst_emitted]

/-- Below 2^64 exits the counts are the numbers themselves. -/
theorem PidStats.Tallies.toNat {stats : PidStats} {exits : List ExitRecord}
    (tallies : stats.Tallies exits) (small : exits.length < 2 ^ 64) :
    stats.totalCalls.toNat = exits.length ∧
      stats.successCalls.toNat + stats.errorCalls.toNat = exits.length ∧
      stats.errorCalls.toNat = exits.countP fun record => record.IsError := by
  have total : stats.totalCalls.toNat = exits.length := by
    rw [tallies.total, BitVec.toNat_ofNat, Nat.mod_eq_of_lt small]
  have errorsLe : exits.countP (fun record => record.IsError) ≤ exits.length := List.countP_le_length
  have errors : stats.errorCalls.toNat = exits.countP fun record => record.IsError := by
    rw [tallies.errors, BitVec.toNat_ofNat, Nat.mod_eq_of_lt (Nat.lt_of_le_of_lt errorsLe small)]
  have sum : stats.totalCalls.toNat =
      (stats.successCalls.toNat + stats.errorCalls.toNat) % 2 ^ 64 := by
    rw [tallies.split, BitVec.toNat_add]
  have bounded := stats.successCalls.isLt
  refine ⟨total, ?_, errors⟩
  omega

/-- **The statistics of every PID are exact**; the submitted events are those of the exits that got ring space, and
every one classifies its return value. -/
theorem kretprobe_statistics_exact (events : List KretprobeInvocation)
    (fewPids : (exitPids events).toFinset.card ≤ 10240) :
    (∀ pid ∈ exitPids events, ∃ stats,
      (KretprobeMaps.run events).pidStatistics.find? pid = some stats ∧
        stats.Tallies (exitsOf pid events) ∧
        (exitsOf pid events).length = (exitPids events).count pid ∧
        ((exitPids events).count pid < 2 ^ 64 →
          stats.totalCalls.toNat = (exitPids events).count pid ∧
          stats.successCalls.toNat + stats.errorCalls.toNat = (exitPids events).count pid ∧
          stats.errorCalls.toNat = (exitsOf pid events).countP fun record => record.IsError)) ∧
      (KretprobeMaps.run events).kretprobeEvents = sentEvents events ∧
      ∀ sent ∈ (KretprobeMaps.run events).kretprobeEvents, ErrorReported sent := by
  have room := exitRoom_run fewPids
  refine ⟨?_, events_run events, ?_⟩
  · intro pid member
    obtain ⟨stats, folded, tallies⟩ := tallies_foldl (mem_exitPids.mp member)
    have touches := room.imp fun _ _ room => touches_step room
    refine ⟨stats, (Runs.find_run touches pid).trans folded, tallies, length_exitsOf pid events, ?_⟩
    intro small
    rw [← length_exitsOf] at small ⊢
    exact tallies.toNat small
  · rw [events_run]
    exact reported_sentEvents events

/-- A call of a thread of the process 1. -/
def openatOf (tid ktimeGetNs : U64) (ptRegsRc : S64) : KretprobeCall where
  task := { pidTgid := 0x100000000 + tid, uidGid := 0, cgroupId := 0, comm := Vector.replicate 16 0 }
  ktimeGetNs := ktimeGetNs
  ptRegsRc := ptRegsRc

/-- Memory for an event. -/
def openatMemory : KretprobeEvent :=
  ⟨0, 0, 0, 0, 0, 0, 0, Vector.replicate 16 0, 0, 0, 0, Vector.replicate 32 0⟩

/-- Two threads enter at the times five and six; the second one fails at eight, the first one succeeds at nine. -/
def twoOpens : List KretprobeInvocation :=
  [.entry (openatOf 1 5 0), .entry (openatOf 2 6 0), .exit (openatOf 2 8 (-2)) (some openatMemory),
    .exit (openatOf 1 9 3) (some openatMemory)]

/-- A failure and a success with their latencies, and both events. -/
theorem kretprobe_statistics_exact_two_opens :
    (∃ stats, (KretprobeMaps.run twoOpens).pidStatistics.find? 1 = some stats ∧
      stats.Tallies (exitsOf 1 twoOpens) ∧ (exitsOf 1 twoOpens).map ExitRecord.latency = [2, 4] ∧
      stats.totalCalls.toNat = 2 ∧ stats.errorCalls.toNat = 1) ∧
      (KretprobeMaps.run twoOpens).kretprobeEvents = sentEvents twoOpens ∧
      ((sentEvents twoOpens).map fun sent => (sent.latencyNs, sent.isError, sent.errorCode)) =
        [(2, 1, 2), (4, 0, 0)] ∧
      ∀ sent ∈ (KretprobeMaps.run twoOpens).kretprobeEvents, ErrorReported sent := by
  obtain ⟨statistics, sends, reports⟩ := kretprobe_statistics_exact twoOpens (by decide)
  refine ⟨?_, sends, by decide, reports⟩
  obtain ⟨stats, found, tallies, _, numbers⟩ := statistics 1 (by decide)
  obtain ⟨total, _, errors⟩ := numbers (by decide)
  refine ⟨stats, found, tallies, by decide, total.trans (by decide), errors.trans (by decide)⟩

end MonsaEbpf.S2
