/-
Module: MonsaEbpf.S2.Kretprobe
Layer: S2
Purpose: S2-advanced/examples/tracing/kretprobe/example_kretprobe.bpf.c. The entry handler stamps the
  thread in `entry_times`; the exit handler computes the latency, classifies the return value, accounts the
  call in `pid_statistics` and streams an event. The `bpf_printk` lines change no state and are left out.
  `KretprobeMaps.step` runs one handler alone; its effect on every map is stated below without pointers.
Imports: MonsaEbpf.Bpf.Counting
Trusted boundary: human-reviewed translation
Main exports: PidStats, KretprobeEvent, KretprobeCall, KretprobeMaps, isErrorRetval,
  msbKprobeOpenatEntry, msbKretprobeOpenatExit, msbKretprobeOpenatExit_searches,
  PidStats.recordExit, KretprobeMaps.step, KretprobeMaps.step_entry, KretprobeMaps.step_exit,
  KretprobeMaps.step_exit_full
-/
import MonsaEbpf.Bpf.Counting

namespace MonsaEbpf.S2

open FirstTouch

/-- `struct pid_stats`. -/
structure PidStats where
  totalCalls : U64
  successCalls : U64
  errorCalls : U64
  totalLatencyNs : U64
  minLatencyNs : U64
  maxLatencyNs : U64
  lastRetval : S64
deriving Repr, DecidableEq

/-- `struct pid_stats zero_stats = {}`. -/
def PidStats.zero : PidStats where
  totalCalls := 0
  successCalls := 0
  errorCalls := 0
  totalLatencyNs := 0
  minLatencyNs := 0
  maxLatencyNs := 0
  lastRetval := 0

instance : Inhabited PidStats := ⟨PidStats.zero⟩

namespace PidStats

def totalCallsField : Field PidStats U64 := ⟨totalCalls, fun stats v => { stats with totalCalls := v }⟩
def successCallsField : Field PidStats U64 := ⟨successCalls, fun stats v => { stats with successCalls := v }⟩
def errorCallsField : Field PidStats U64 := ⟨errorCalls, fun stats v => { stats with errorCalls := v }⟩
def totalLatencyField : Field PidStats U64 :=
  ⟨totalLatencyNs, fun stats v => { stats with totalLatencyNs := v }⟩
def minLatencyField : Field PidStats U64 := ⟨minLatencyNs, fun stats v => { stats with minLatencyNs := v }⟩
def maxLatencyField : Field PidStats U64 := ⟨maxLatencyNs, fun stats v => { stats with maxLatencyNs := v }⟩
def lastRetvalField : Field PidStats S64 := ⟨lastRetval, fun stats v => { stats with lastRetval := v }⟩

end PidStats

/-- `struct kretprobe_event`. -/
structure KretprobeEvent where
  timestampNs : U64
  latencyNs : U64
  pid : U32
  tid : U32
  uid : U32
  gid : U32
  cgroupId : U64
  comm : Comm
  retval : S64
  isError : U8
  errorCode : S32
  funcName : Vector U8 32
deriving Repr, DecidableEq

/-- What one invocation of either handler sees; the entry handler reads no return value. -/
structure KretprobeCall where
  task : Task
  ktimeGetNs : U64
  ptRegsRc : S64

/-- The maps of the program. -/
structure KretprobeMaps where
  entryTimes : CellMap U64 U64 10240
  pidStatistics : CellMap U32 PidStats 10240
  kretprobeEvents : List KretprobeEvent

inductive KretprobeMap where
  | entryTimes
  | pidStatistics
deriving DecidableEq, Repr

def entryTimes : MapRef KretprobeMap KretprobeMaps U64 U64 10240 where
  name := .entryTimes
  get := KretprobeMaps.entryTimes
  set := fun maps map => { maps with entryTimes := map }
  get_set := fun _ _ => rfl
  set_get := fun _ => rfl
  set_set := fun _ _ _ => rfl

def pidStatistics : MapRef KretprobeMap KretprobeMaps U32 PidStats 10240 where
  name := .pidStatistics
  get := KretprobeMaps.pidStatistics
  set := fun maps map => { maps with pidStatistics := map }
  get_set := fun _ _ => rfl
  set_get := fun _ => rfl
  set_set := fun _ _ _ => rfl

def kretprobeEvents : RingRef KretprobeMaps KretprobeEvent where
  get := KretprobeMaps.kretprobeEvents
  set := fun maps events => { maps with kretprobeEvents := events }

/-- The string `"__x64_sys_openat"` with its terminating zero. -/
def openatName : List U8 :=
  [0x5f, 0x5f, 0x78, 0x36, 0x34, 0x5f, 0x73, 0x79, 0x73, 0x5f, 0x6f, 0x70, 0x65, 0x6e, 0x61, 0x74, 0]

/-- `is_error_retval`: the return value lies in `[-MAX_ERRNO, -1]`. -/
def isErrorRetval (ret : S64) : U8 :=
  if ret.toInt < 0 ∧ -4095 ≤ ret.toInt then 1 else 0

/-- The error code: `(__s32)(-retval)` for an error, zero otherwise. -/
def errCode (isErr : U8) (retval : S64) : S32 :=
  if isErr ≠ 0 then (-retval).setWidth 32 else 0

abbrev KretprobeProgram := StepProgram (BpfOp KretprobeMap) KretprobeMaps

/-- `msb_kprobe_openat_entry`: record the entry timestamp. -/
def msbKprobeOpenatEntry (call : KretprobeCall) : KretprobeProgram S32 := do
  let _ ← bpfMapUpdateElem entryTimes call.task.pidTgid call.ktimeGetNs
  return 0

/-- Calculate the latency and drop the entry timestamp; zero without a timestamp. -/
def exitLatency (call : KretprobeCall) : KretprobeProgram U64 := do
  let entryTs ← bpfMapLookupElem entryTimes call.task.pidTgid
  match entryTs with
  | none => return 0
  | some entryTs => do
      let entered ← load entryTimes entryTs id
      let _ ← bpfMapDeleteElem entryTimes call.task.pidTgid
      return call.ktimeGetNs - entered

/-- The statistics of a PID: look them up, insert zeroed ones when they are missing, look again. -/
def pidStats (pid : U32) : KretprobeProgram (Option Nat) := do
  let stats ← bpfMapLookupElem pidStatistics pid
  match stats with
  | none => do
      let _ ← bpfMapUpdateElem pidStatistics pid PidStats.zero
      bpfMapLookupElem pidStatistics pid
  | some stats => return some stats

/-- `if (min == 0 || latency < min) min = latency`, where each test reads the field. -/
def lowerMin (stats : Nat) (latency : U64) : KretprobeProgram Unit := do
  let unset ← load pidStatistics stats PidStats.minLatencyNs
  if unset = 0 then
    store pidStatistics stats PidStats.minLatencyField latency
  else do
    let min ← load pidStatistics stats PidStats.minLatencyNs
    if latency < min then store pidStatistics stats PidStats.minLatencyField latency
    else return ()

/-- `if (latency > max) max = latency`. -/
def raiseMax (stats : Nat) (latency : U64) : KretprobeProgram Unit := do
  let max ← load pidStatistics stats PidStats.maxLatencyNs
  if latency > max then store pidStatistics stats PidStats.maxLatencyField latency
  else return ()

/-- The latency part of the statistics; a zero latency is not recorded. -/
def accountLatency (stats : Nat) (latency : U64) : KretprobeProgram Unit := do
  if latency > 0 then do
    let _ ← syncFetchAndAdd pidStatistics stats PidStats.totalLatencyField latency
    lowerMin stats latency
    raiseMax stats latency
  else return ()

/-- Count the call as an error or as a success. -/
def accountOutcome (stats : Nat) (isErr : U8) : KretprobeProgram U64 :=
  if isErr ≠ 0 then syncFetchAndAdd pidStatistics stats PidStats.errorCallsField 1
  else syncFetchAndAdd pidStatistics stats PidStats.successCallsField 1

/-- Update the statistics behind the pointer. -/
def accountExit (stats : Nat) (isErr : U8) (latency : U64) (retval : S64) : KretprobeProgram Unit := do
  let _ ← syncFetchAndAdd pidStatistics stats PidStats.totalCallsField 1
  let _ ← accountOutcome stats isErr
  accountLatency stats latency
  store pidStatistics stats PidStats.lastRetvalField retval

/-- The event of an exit, written over the reserved memory. -/
def exitEvent (call : KretprobeCall) (isErr : U8) (latency : U64) (memory : KretprobeEvent) :
    KretprobeEvent :=
  { memory with
    timestampNs := call.ktimeGetNs
    latencyNs := latency
    pid := pidOf call.task.pidTgid
    tid := tidOf call.task.pidTgid
    uid := call.task.uid
    gid := call.task.gid
    cgroupId := call.task.cgroupId
    comm := call.task.comm
    retval := call.ptRegsRc
    isError := isErr
    errorCode := errCode isErr call.ptRegsRc
    funcName := memcpy memory.funcName openatName }

/-- Emit the ring buffer event; without ring space nothing is sent. -/
def emitExit (call : KretprobeCall) (reserved : Option KretprobeEvent) (isErr : U8) (latency : U64) :
    KretprobeProgram S32 := do
  let evt ← bpfRingbufReserve reserved
  match evt with
  | none => return 0
  | some evt => do
      bpfRingbufSubmit kretprobeEvents (exitEvent call isErr latency evt)
      return 0

/-- `msb_kretprobe_openat_exit`: latency, classification, statistics, event. -/
def msbKretprobeOpenatExit (call : KretprobeCall) (reserved : Option KretprobeEvent) :
    KretprobeProgram S32 := do
  let latency ← exitLatency call
  let isErr := isErrorRetval call.ptRegsRc
  let stats ← pidStats (pidOf call.task.pidTgid)
  match stats with
  | none => emitExit call reserved isErr latency
  | some stats => do
      accountExit stats isErr latency call.ptRegsRc
      emitExit call reserved isErr latency

/-- No map holds a key yet and nothing was submitted. -/
def KretprobeMaps.initial : KretprobeMaps where
  entryTimes := .empty
  pidStatistics := .empty
  kretprobeEvents := []

/-! ### The steps of the parts -/

section Steps

variable {P : BpfOp KretprobeMap → (KretprobeMaps → KretprobeMaps) → Prop} {stats : Nat} {isErr : U8}
  {latency : U64}

theorem exitLatency_allSteps {call : KretprobeCall}
    (lookups : (bpfMapLookupElem entryTimes call.task.pidTgid).AllSteps P)
    (loads : ∀ entryTs, (load entryTimes entryTs (id : U64 → U64)).AllSteps P)
    (deletes : (bpfMapDeleteElem entryTimes call.task.pidTgid).AllSteps P) :
    (exitLatency call).AllSteps P := by
  apply StepProgram.AllSteps.bind lookups
  intro entryTs
  cases entryTs with
  | none => exact .ret 0
  | some entryTs =>
      apply StepProgram.AllSteps.bind (loads entryTs)
      intro entered
      exact StepProgram.AllSteps.bind deletes fun _ => .ret _

theorem pidStats_allSteps {pid : U32} (lookups : (bpfMapLookupElem pidStatistics pid).AllSteps P)
    (inserts : (bpfMapUpdateElem pidStatistics pid PidStats.zero).AllSteps P) :
    (pidStats pid).AllSteps P := by
  apply StepProgram.AllSteps.bind lookups
  intro stats
  cases stats with
  | none => exact StepProgram.AllSteps.bind inserts fun _ => lookups
  | some stats => exact .ret _

theorem emitExit_allSteps {call : KretprobeCall} {reserved : Option KretprobeEvent}
    (reserves : (bpfRingbufReserve reserved : KretprobeProgram (Option KretprobeEvent)).AllSteps P)
    (submits : ∀ event, (bpfRingbufSubmit kretprobeEvents event : KretprobeProgram Unit).AllSteps P) :
    (emitExit call reserved isErr latency).AllSteps P := by
  apply StepProgram.AllSteps.bind reserves
  intro evt
  cases evt with
  | none => exact .ret 0
  | some evt => exact StepProgram.AllSteps.bind (submits _) fun _ => .ret 0

theorem lowerMin_allSteps
    (loads : ∀ read : PidStats → U64, (load pidStatistics stats read).AllSteps P)
    (stores : (store pidStatistics stats PidStats.minLatencyField latency).AllSteps P) :
    (lowerMin stats latency).AllSteps P := by
  apply StepProgram.AllSteps.bind (loads _)
  intro unset
  split
  · exact stores
  · apply StepProgram.AllSteps.bind (loads _)
    intro min
    split
    · exact stores
    · exact .ret ()

theorem raiseMax_allSteps
    (loads : ∀ read : PidStats → U64, (load pidStatistics stats read).AllSteps P)
    (stores : (store pidStatistics stats PidStats.maxLatencyField latency).AllSteps P) :
    (raiseMax stats latency).AllSteps P := by
  apply StepProgram.AllSteps.bind (loads _)
  intro max
  split
  · exact stores
  · exact .ret ()

theorem accountLatency_allSteps
    (adds : (syncFetchAndAdd pidStatistics stats PidStats.totalLatencyField latency).AllSteps P)
    (lowers : 0 < latency → (lowerMin stats latency).AllSteps P)
    (raises : (raiseMax stats latency).AllSteps P) : (accountLatency stats latency).AllSteps P := by
  rw [accountLatency]
  split
  · rename_i positive
    apply StepProgram.AllSteps.bind adds
    intro _
    exact StepProgram.AllSteps.bind (lowers positive) fun _ => raises
  · exact .ret ()

theorem accountOutcome_allSteps
    (errors : (syncFetchAndAdd pidStatistics stats PidStats.errorCallsField 1).AllSteps P)
    (successes : (syncFetchAndAdd pidStatistics stats PidStats.successCallsField 1).AllSteps P) :
    (accountOutcome stats isErr).AllSteps P := by
  rw [accountOutcome]
  split
  · exact errors
  · exact successes

theorem accountExit_allSteps {retval : S64}
    (loads : ∀ read : PidStats → U64, (load pidStatistics stats read).AllSteps P)
    (adds : ∀ field amount, (syncFetchAndAdd pidStatistics stats field amount).AllSteps P)
    (stores : ∀ (field : Field PidStats U64) value, (store pidStatistics stats field value).AllSteps P)
    (last : (store pidStatistics stats PidStats.lastRetvalField retval).AllSteps P) :
    (accountExit stats isErr latency retval).AllSteps P := by
  apply StepProgram.AllSteps.bind (adds _ _)
  intro _
  apply StepProgram.AllSteps.bind (accountOutcome_allSteps (adds _ _) (adds _ _))
  intro _
  apply StepProgram.AllSteps.bind
  · exact accountLatency_allSteps (adds _ _) (fun _ => lowerMin_allSteps loads (stores _ _))
      (raiseMax_allSteps loads (stores _ _))
  · exact fun _ => last

end Steps

/-! ### Among other handlers -/

section Settled

variable {key : U32}

theorem emitExit_settled (call : KretprobeCall) (reserved : Option KretprobeEvent) (isErr : U8)
    (latency : U64) :
    (pidStatistics.counter key PidStats.totalCalls).Settled (emitExit call reserved isErr latency) :=
  emitExit_allSteps (settled_reserve _) fun event => settled_submit event fun _ _ => rfl

theorem accountLatency_settled (stats : Nat) (latency : U64) :
    (pidStatistics.counter key PidStats.totalCalls).Settled (accountLatency stats latency) :=
  accountLatency_allSteps (settled_fetchAndAdd _ _ _ fun _ _ => rfl)
    (fun _ => lowerMin_allSteps (settled_load _) (settled_store _ _ _ fun _ => rfl))
    (raiseMax_allSteps (settled_load _) (settled_store _ _ _ fun _ => rfl))

theorem accountOutcome_settled (stats : Nat) (isErr : U8) :
    (pidStatistics.counter key PidStats.totalCalls).Settled (accountOutcome stats isErr) :=
  accountOutcome_allSteps (settled_fetchAndAdd _ _ _ fun _ _ => rfl)
    (settled_fetchAndAdd _ _ _ fun _ _ => rfl)

/-- Behind the pointer, an exit first adds itself to `total_calls` and leaves it alone afterwards. -/
theorem accountExit_adds {α : Type} (stats : Nat) (isErr : U8) (latency : U64) (retval : S64)
    {rest : Unit → KretprobeProgram α}
    (settled : (pidStatistics.counter key PidStats.totalCalls).Settled (rest ())) :
    (pidStatistics.counter key PidStats.totalCalls).Adds stats
      (accountExit stats isErr latency retval >>= rest) := by
  simp only [accountExit, bind_assoc]
  apply adds_fetchAndAdd
  · intro value
    rfl
  · intro _
    apply Settled.bind (accountOutcome_settled stats isErr)
    intro _
    apply Settled.bind (accountLatency_settled stats latency)
    intro _
    apply Settled.bind
    · exact settled_store _ _ _ fun _ => rfl
    · exact fun _ => settled

/-- The statistics lookup of an exit, followed by what counts it behind a pointer. -/
theorem pidStats_searches {α : Type} {pid : U32} {rest : Option Nat → KretprobeProgram α}
    (found : ∀ stats,
      (pidStatistics.counter pid PidStats.totalCalls).Adds stats (rest (some stats))) :
    (pidStatistics.counter pid PidStats.totalCalls).Searches false (pidStats pid >>= rest) := by
  rw [pidStats, bind_assoc]
  apply searches_lookup
  · intro _
    -- the zeroed statistics are in place, so the second lookup cannot miss
    simp only [bind_assoc]
    apply searches_insertZero (by decide) PidStats.zero rfl
    intro _
    apply searches_lookup
    · intro absent
      cases absent
    · exact found
  · exact found

/-- An exit handler looks for the statistics of its PID and counts itself once. -/
theorem msbKretprobeOpenatExit_searches (call : KretprobeCall) (reserved : Option KretprobeEvent) :
    (pidStatistics.counter (pidOf call.task.pidTgid) PidStats.totalCalls).Searches false
      (msbKretprobeOpenatExit call reserved) := by
  have afterLatency (latency : U64) :
      (pidStatistics.counter (pidOf call.task.pidTgid) PidStats.totalCalls).Searches false
        (pidStats (pidOf call.task.pidTgid) >>= fun stats =>
          match stats with
          | none => emitExit call reserved (isErrorRetval call.ptRegsRc) latency
          | some stats => do
              accountExit stats (isErrorRetval call.ptRegsRc) latency call.ptRegsRc
              emitExit call reserved (isErrorRetval call.ptRegsRc) latency) := by
    apply pidStats_searches
    intro stats
    exact accountExit_adds _ _ _ _ (emitExit_settled _ _ _ _)
  rw [msbKretprobeOpenatExit, exitLatency, bind_assoc]
  -- the steps on `entry_times` come before the entry is looked for
  refine .other rfl rfl (unchanged_of_get fun _ => rfl) fun shared => ?_
  change Observation.Searches _ false
    ((match entryTimes.get shared |>.lookup call.task.pidTgid with
      | none => pure 0
      | some entryTs => do
          let entered ← load entryTimes entryTs id
          let _ ← bpfMapDeleteElem entryTimes call.task.pidTgid
          return call.ktimeGetNs - entered) >>= _)
  split
  · exact afterLatency 0
  · refine .other rfl rfl (unchanged_of_get fun _ => rfl) fun _ => ?_
    refine .other rfl rfl (unchanged_of_get fun _ => rfl) fun _ => ?_
    exact afterLatency _

end Settled

/-! ### Run alone -/

/-- Count one call as an error or as a success. -/
def PidStats.countOutcome (stats : PidStats) (isErr : U8) : PidStats :=
  if isErr ≠ 0 then { stats with errorCalls := stats.errorCalls + 1 }
  else { stats with successCalls := stats.successCalls + 1 }

/-- Record a latency; zero is not recorded, and a zero minimum is unset. -/
def PidStats.recordLatency (stats : PidStats) (latency : U64) : PidStats :=
  if latency > 0 then
    { stats with
      totalLatencyNs := stats.totalLatencyNs + latency
      minLatencyNs :=
        if stats.minLatencyNs = 0 ∨ latency < stats.minLatencyNs then latency else stats.minLatencyNs
      maxLatencyNs := if latency > stats.maxLatencyNs then latency else stats.maxLatencyNs }
  else stats

/-- The statistics after one more exit. -/
def PidStats.recordExit (stats : PidStats) (isErr : U8) (latency : U64) (retval : S64) : PidStats :=
  { (({ stats with totalCalls := stats.totalCalls + 1 }.countOutcome isErr).recordLatency latency) with
    lastRetval := retval }

/-- One invocation of a handler, with the outcome of the reservation of an exit. -/
inductive KretprobeInvocation where
  | entry (call : KretprobeCall)
  | exit (call : KretprobeCall) (reserved : Option KretprobeEvent)

/-- Run one handler alone. -/
def KretprobeMaps.step (maps : KretprobeMaps) : KretprobeInvocation → KretprobeMaps
  | .entry call => ((msbKprobeOpenatEntry call).exec maps).2
  | .exit call reserved => ((msbKretprobeOpenatExit call reserved).exec maps).2

/-- The latency an exit computes from the timestamps. -/
def latencyFrom (times : CellMap U64 U64 10240) (call : KretprobeCall) : U64 :=
  match times.find? call.task.pidTgid with
  | none => 0
  | some entered => call.ktimeGetNs - entered

section Alone

variable (maps : KretprobeMaps) (call : KretprobeCall) (reserved : Option KretprobeEvent)

theorem exec_exitLatency :
    (exitLatency call).exec maps =
      (latencyFrom maps.entryTimes call,
        { maps with entryTimes := maps.entryTimes.erase call.task.pidTgid }) := by
  rw [exitLatency, latencyFrom]
  cases found : maps.entryTimes.lookup call.task.pidTgid with
  | none =>
      rw [exec_lookup_bind S2.entryTimes found, CellMap.find?_eq_none.mpr found, CellMap.erase_of_absent found]
      rfl
  | some entryTs =>
      rw [exec_lookup_bind S2.entryTimes found, CellMap.find?_of_lookup found]
      rfl

variable {maps}

/-- With room for the PID, the statistics lookup yields a pointer to its statistics, zeroed ones when
there were none, and leaves the other PIDs alone. -/
theorem exec_pidStats {pid : U32} (room : maps.pidStatistics.HasRoom pid) :
    ∃ stats map, (pidStats pid).exec maps = (some stats, { maps with pidStatistics := map }) ∧
      map.lookup pid = some stats ∧
      map.read stats = (maps.pidStatistics.find? pid).getD PidStats.zero ∧
      ∀ other, other ≠ pid → map.find? other = maps.pidStatistics.find? other := by
  cases found : maps.pidStatistics.lookup pid with
  | none =>
      have bound := CellMap.lookup_insert_self PidStats.zero room
      refine ⟨_, maps.pidStatistics.insert pid PidStats.zero, ?_, bound, ?_, ?_⟩
      · rw [pidStats, exec_lookup_bind S2.pidStatistics found]
        exact Prod.ext bound rfl
      · have stored := CellMap.find?_insert PidStats.zero room pid
        rw [CellMap.find?_of_lookup bound, if_pos rfl, Option.some.injEq] at stored
        rw [CellMap.find?_eq_none.mpr found, stored]
        rfl
      · exact fun other different => CellMap.find?_insert_ne _ different
  | some stats =>
      refine ⟨stats, maps.pidStatistics, ?_, found, ?_, fun _ _ => rfl⟩
      · rw [pidStats, exec_lookup_bind S2.pidStatistics found]
        rfl
      · rw [CellMap.find?_of_lookup found]
        rfl

section Account

variable {stats : Nat} (allocated : stats < maps.pidStatistics.cells.length) (value : PidStats)

include allocated

theorem exec_load_stats (field : PidStats → U64) :
    (load pidStatistics stats field).exec (pidStatistics.holding maps stats value) =
      (field value, pidStatistics.holding maps stats value) :=
  exec_load_holding allocated value field

theorem exec_add_stats (field : Field PidStats U64) (amount : U64) :
    (syncFetchAndAdd pidStatistics stats field amount).exec (pidStatistics.holding maps stats value) =
      (field.get value,
        pidStatistics.holding maps stats (field.set value (field.get value + amount))) :=
  exec_syncFetchAndAdd_holding allocated value field amount

theorem exec_lowerMin (latency : U64) :
    (lowerMin stats latency).exec (pidStatistics.holding maps stats value) =
      ((), pidStatistics.holding maps stats
        { value with
          minLatencyNs :=
            if value.minLatencyNs = 0 ∨ latency < value.minLatencyNs then latency
            else value.minLatencyNs }) := by
  rw [lowerMin, StepProgram.exec_bind, exec_load_stats allocated]
  by_cases unset : value.minLatencyNs = 0
  · rw [if_pos unset, if_pos (Or.inl unset), exec_store_holding]
    rfl
  · rw [if_neg unset, StepProgram.exec_bind, exec_load_stats allocated]
    by_cases smaller : latency < value.minLatencyNs
    · rw [if_pos smaller, if_pos (Or.inr smaller), exec_store_holding]
      rfl
    · rw [if_neg smaller, if_neg (not_or.mpr ⟨unset, smaller⟩)]
      rfl

theorem exec_raiseMax (latency : U64) :
    (raiseMax stats latency).exec (pidStatistics.holding maps stats value) =
      ((), pidStatistics.holding maps stats
        { value with
          maxLatencyNs := if latency > value.maxLatencyNs then latency else value.maxLatencyNs }) := by
  rw [raiseMax, StepProgram.exec_bind, exec_load_stats allocated]
  split
  · rw [exec_store_holding]
    rfl
  · rfl

theorem exec_accountLatency (latency : U64) :
    (accountLatency stats latency).exec (pidStatistics.holding maps stats value) =
      ((), pidStatistics.holding maps stats (value.recordLatency latency)) := by
  rw [accountLatency, PidStats.recordLatency]
  split
  · rw [StepProgram.exec_bind, exec_add_stats allocated, StepProgram.exec_bind,
      exec_lowerMin allocated, exec_raiseMax allocated]
    rfl
  · rfl

theorem exec_accountOutcome (isErr : U8) :
    ((accountOutcome stats isErr).exec (pidStatistics.holding maps stats value)).2 =
      pidStatistics.holding maps stats (value.countOutcome isErr) := by
  rw [accountOutcome, PidStats.countOutcome]
  split
  · rw [exec_add_stats allocated]
    rfl
  · rw [exec_add_stats allocated]
    rfl

theorem exec_accountExit (isErr : U8) (latency : U64) (retval : S64) :
    (accountExit stats isErr latency retval).exec (pidStatistics.holding maps stats value) =
      ((), pidStatistics.holding maps stats (value.recordExit isErr latency retval)) := by
  rw [accountExit, StepProgram.exec_bind, exec_add_stats allocated, StepProgram.exec_bind,
    exec_accountOutcome allocated, StepProgram.exec_bind, exec_accountLatency allocated,
    exec_store_holding]
  rfl

end Account

/-- The statistics update through a pointer to them. -/
theorem exec_accountExit_at (maps : KretprobeMaps) {stats : Nat}
    (allocated : stats < maps.pidStatistics.cells.length) (isErr : U8) (latency : U64)
    (retval : S64) :
    (accountExit stats isErr latency retval).exec maps =
      ((), { maps with
        pidStatistics := maps.pidStatistics.assign stats
          ((maps.pidStatistics.read stats).recordExit isErr latency retval) }) := by
  have held : pidStatistics.holding maps stats (maps.pidStatistics.read stats) = maps :=
    holding_read allocated
  have ran := exec_accountExit allocated (maps.pidStatistics.read stats) isErr latency retval
  rw [held] at ran
  exact ran

theorem exec_emitExit (isErr : U8) (latency : U64) :
    (emitExit call reserved isErr latency).exec maps =
      (0, { maps with
        kretprobeEvents := maps.kretprobeEvents ++
          (reserved.map (exitEvent call isErr latency)).toList }) := by
  cases reserved with
  | none => simp [emitExit]
  | some memory => rfl

/-- **What an exit does**, when its PID has statistics or there is room for them. -/
theorem KretprobeMaps.step_exit (room : maps.pidStatistics.HasRoom (pidOf call.task.pidTgid)) :
    ∃ map, maps.step (.exit call reserved) =
        { entryTimes := maps.entryTimes.erase call.task.pidTgid
          pidStatistics := map
          kretprobeEvents := maps.kretprobeEvents ++
            (reserved.map (exitEvent call (isErrorRetval call.ptRegsRc)
              (latencyFrom maps.entryTimes call))).toList } ∧
      ∀ pid, map.find? pid =
        if pid = pidOf call.task.pidTgid then
          some (((maps.pidStatistics.find? pid).getD PidStats.zero).recordExit
            (isErrorRetval call.ptRegsRc) (latencyFrom maps.entryTimes call) call.ptRegsRc)
        else maps.pidStatistics.find? pid := by
  let forgot : KretprobeMaps := { maps with entryTimes := maps.entryTimes.erase call.task.pidTgid }
  have forgotRoom : forgot.pidStatistics.HasRoom (pidOf call.task.pidTgid) := room
  obtain ⟨stats, map, looked, bound, read, others⟩ := exec_pidStats forgotRoom
  refine ⟨map.assign stats (((maps.pidStatistics.find? (pidOf call.task.pidTgid)).getD
    PidStats.zero).recordExit (isErrorRetval call.ptRegsRc) (latencyFrom maps.entryTimes call)
    call.ptRegsRc), ?_, ?_⟩
  · have accounted := exec_accountExit_at { forgot with pidStatistics := map } (map.live bound)
      (isErrorRetval call.ptRegsRc) (latencyFrom maps.entryTimes call) call.ptRegsRc
    rw [KretprobeMaps.step, msbKretprobeOpenatExit, StepProgram.exec_bind, exec_exitLatency]
    simp only [StepProgram.exec_bind]
    rw [looked]
    simp only [StepProgram.exec_bind]
    rw [accounted, exec_emitExit]
    exact congrArg (fun value => ({ forgot with
      pidStatistics := map.assign stats (PidStats.recordExit value _ _ _)
      kretprobeEvents := _ } : KretprobeMaps)) read
  · intro pid
    rw [CellMap.find?_assign bound]
    by_cases same : pid = pidOf call.task.pidTgid
    · rw [if_pos same, if_pos same, same]
    · rw [if_neg same, if_neg same]
      exact others pid same

/-- Without statistics of the PID and without room for them, the exit is not accounted. -/
theorem KretprobeMaps.step_exit_full (full : ¬ maps.pidStatistics.HasRoom (pidOf call.task.pidTgid)) :
    maps.step (.exit call reserved) =
      { maps with
        entryTimes := maps.entryTimes.erase call.task.pidTgid
        kretprobeEvents := maps.kretprobeEvents ++
          (reserved.map (exitEvent call (isErrorRetval call.ptRegsRc)
            (latencyFrom maps.entryTimes call))).toList } := by
  let forgot : KretprobeMaps := { maps with entryTimes := maps.entryTimes.erase call.task.pidTgid }
  have absent : (S2.pidStatistics.get forgot).lookup (pidOf call.task.pidTgid) = none :=
    CellMap.lookup_eq_none.mpr (not_or.mp full).1
  have looked : (pidStats (pidOf call.task.pidTgid)).exec forgot = (none, forgot) := by
    rw [pidStats, exec_lookup_bind S2.pidStatistics absent]
    change ((forgot.pidStatistics.insert _ PidStats.zero).lookup _,
      { forgot with pidStatistics := forgot.pidStatistics.insert _ PidStats.zero }) = _
    rw [CellMap.insert_full _ full]
    exact Prod.ext absent rfl
  rw [KretprobeMaps.step, msbKretprobeOpenatExit, StepProgram.exec_bind, exec_exitLatency]
  simp only [StepProgram.exec_bind]
  rw [looked, exec_emitExit]

/-- An entry stamps its thread, when there is room for it, and changes nothing else. -/
theorem KretprobeMaps.step_entry :
    maps.step (.entry call) =
      { maps with entryTimes := maps.entryTimes.insert call.task.pidTgid call.ktimeGetNs } := rfl

end Alone

end MonsaEbpf.S2
