/-
Module: MonsaEbpf.S2.KretprobeExtremes
Layer: S2
Purpose: Exits of threads of one process that run concurrently, once the process has its `pid_statistics`
  entry. The counts are atomic additions and lose nothing. The minimum and the maximum are a check and a
  plain store, so an exit that stands between the two overwrites what another one has stored meanwhile; exits
  that never stand there together forget nothing.
Imports: MonsaEbpf.S2.Kretprobe, MonsaEbpf.Bpf.PointedValue
Trusted boundary: none
Main exports: exitWithLatency, latency_of_first_step, concurrentExits, maxStore, minStore, latencyOf,
  latencyOffers, MaximumKept, MinimumKept, ExitsApart, Remembers, NoWrap, returned_latency,
  latencyOf_of_different, apart_of_inTurn, exits_remembered_iff, exits_forget_maximum
-/
import MonsaEbpf.S2.Kretprobe
import MonsaEbpf.Bpf.PointedValue

namespace MonsaEbpf.S2

open SharedView CheckedStore

/-! ### The latency beside the result -/

/-- What follows the latency in `msb_kretprobe_openat_exit`. -/
def exitAccounting (call : KretprobeCall) (reserved : Option KretprobeEvent) (latency : U64) :
    KretprobeProgram S32 := do
  let isErr := isErrorRetval call.ptRegsRc
  let stats ← pidStats (pidOf call.task.pidTgid)
  match stats with
  | none => emitExit call reserved isErr latency
  | some stats => do
      accountExit stats isErr latency call.ptRegsRc
      emitExit call reserved isErr latency

/-- The exit handler with the latency it computes beside its result. -/
def exitWithLatency (call : KretprobeCall) (reserved : Option KretprobeEvent) :
    KretprobeProgram (U64 × S32) := do
  let latency ← exitLatency call
  let ret ← exitAccounting call reserved latency
  return (latency, ret)

/-- Without the latency it is the handler. -/
theorem mapResult_exitWithLatency (call : KretprobeCall) (reserved : Option KretprobeEvent) :
    (exitWithLatency call reserved).mapResult Prod.snd = msbKretprobeOpenatExit call reserved := by
  have returned (latency : U64) :
      (exitAccounting call reserved latency >>= fun ret =>
        (StepProgram.ret (latency, ret) : KretprobeProgram (U64 × S32))) >>=
          (fun value => StepProgram.ret value.2) = exitAccounting call reserved latency := by
    rw [bind_assoc]
    exact StepProgram.bind_ret _
  rw [StepProgram.mapResult, exitWithLatency, bind_assoc]
  simp only [StepProgram.pure_eq_ret, returned]
  rfl

/-! ### The timestamp of a thread -/

/-- The latency, after the lookup of the timestamp. -/
def foundLatency (call : KretprobeCall) : Option Nat → KretprobeProgram U64
  | none => return 0
  | some entryTs => do
      let entered ← load entryTimes entryTs id
      let _ ← bpfMapDeleteElem entryTimes call.task.pidTgid
      return call.ktimeGetNs - entered

/-- The exit after its first step, the lookup of the timestamp. -/
def afterLookup (call : KretprobeCall) (reserved : Option KretprobeEvent) (found : Option Nat) :
    KretprobeProgram (U64 × S32) := do
  let latency ← foundLatency call found
  let ret ← exitAccounting call reserved latency
  return (latency, ret)

/-- The first step of an exit looks its timestamp up. -/
theorem exitWithLatency_step (call : KretprobeCall) (reserved : Option KretprobeEvent) (maps : KretprobeMaps) :
    (exitWithLatency call reserved).step maps =
      (afterLookup call reserved (maps.entryTimes.lookup call.task.pidTgid), maps) := rfl

/-- What is read of the timestamps, as a view. -/
def timesView {W : Type} (read : CellMap U64 U64 10240 → W) : SharedView KretprobeMaps W where
  Inv := fun _ => True
  get := fun maps => read maps.entryTimes

theorem latencyFrom_none {times : CellMap U64 U64 10240} {call : KretprobeCall}
    (absent : times.lookup call.task.pidTgid = none) : latencyFrom times call = 0 := by
  rw [latencyFrom, CellMap.find?_eq_none.mpr absent]

theorem latencyFrom_some {times : CellMap U64 U64 10240} {call : KretprobeCall} {entryTs : Nat}
    (found : times.lookup call.task.pidTgid = some entryTs) :
    latencyFrom times call = call.ktimeGetNs - times.read entryTs := by
  rw [latencyFrom, CellMap.find?_of_lookup found]

section Times

variable {W : Type} {read : CellMap U64 U64 10240 → W} (call : KretprobeCall)
  (reserved : Option KretprobeEvent)

theorem times_kept {update : KretprobeMaps → KretprobeMaps}
    (same : ∀ maps, (update maps).entryTimes = maps.entryTimes) : (timesView read).Kept update := by
  intro maps _
  exact ⟨trivial, congrArg read (same maps)⟩

/-- The accounting works on other maps. -/
theorem exitAccounting_times_quiet (latency : U64) :
    (timesView read).Quiet (exitAccounting call reserved latency) := by
  have single {α : Type} {label : BpfOp KretprobeMap} {value : KretprobeMaps → α}
      {update : KretprobeMaps → KretprobeMaps} (same : ∀ maps, (update maps).entryTimes = maps.entryTimes) :
      (timesView read).Quiet (StepProgram.single label value update) :=
    .single _ (times_kept same)
  have emits : (timesView read).Quiet (emitExit call reserved (isErrorRetval call.ptRegsRc) latency) :=
    emitExit_allSteps (single fun _ => rfl) fun _ => single fun _ => rfl
  apply StepProgram.AllSteps.bind
  · exact pidStats_allSteps (single fun _ => rfl) (single fun _ => rfl)
  · intro stats
    cases stats with
    | none => exact emits
    | some stats =>
        apply StepProgram.AllSteps.bind
        · exact accountExit_allSteps (fun _ => single fun _ => rfl) (fun _ _ => single fun _ => rfl)
            (fun _ _ => single fun _ => rfl) (single fun _ => rfl)
        · exact fun _ => emits

/-- An exit only drops the timestamp of its thread. -/
theorem exitWithLatency_times_quiet
    (kept : ∀ times : CellMap U64 U64 10240, read (times.erase call.task.pidTgid) = read times) :
    (timesView read).Quiet (exitWithLatency call reserved) := by
  apply StepProgram.AllSteps.bind
  · exact exitLatency_allSteps (.single _ (times_kept fun _ => rfl))
      (fun _ => .single _ (times_kept fun _ => rfl)) (.single _ fun maps _ => ⟨trivial, kept maps.entryTimes⟩)
  · intro latency
    apply StepProgram.AllSteps.bind
    · exact exitAccounting_times_quiet call reserved latency
    · exact fun ret => .ret (latency, ret)

/-- An exit that knows its latency returns it. -/
theorem accounted_allResults (latency : U64) :
    (exitAccounting call reserved latency >>= fun ret =>
      (StepProgram.ret (latency, ret) : KretprobeProgram (U64 × S32))).AllResults
        fun result => result.1 = latency :=
  StepProgram.AllResults.bind _ fun _ => rfl

/-- An exit that has found a timestamp returns the time since then. -/
theorem afterLookup_yields (entryTs : Nat) (entered : U64) :
    (timesView fun times => times.read entryTs).Yields entered
      (fun result => result.1 = call.ktimeGetNs - entered) (afterLookup call reserved (some entryTs)) := by
  refine ⟨Or.inl (times_kept fun _ => rfl), fun maps isStamp => ?_⟩
  have since : maps.entryTimes.read entryTs = entered := isStamp
  subst since
  exact Yields.of_allResults fun _ => accounted_allResults call reserved _

end Times

/-- **What an exit computes** after its first step, in any order with others that drop timestamps at most: the time
since the timestamp that its thread had before the step. -/
theorem latency_of_first_step {ι : Type} [DecidableEq ι]
    {config : Config (BpfOp KretprobeMap) KretprobeMaps (U64 × S32) ι} {i : ι} {call : KretprobeCall}
    {reserved : Option KretprobeEvent} (own : config.threads i = exitWithLatency call reserved)
    (quiet : ∀ entryTs j, (timesView fun times => times.read entryTs).Quiet (config.threads j))
    {rest : List ι} {result : U64 × S32} (returned : ((config.step i).run rest).threads i = .ret result) :
    result.1 = latencyFrom config.shared.entryTimes call := by
  have first := exitWithLatency_step call reserved config.shared
  rw [← own] at first
  have shared : (config.step i).shared = config.shared := congrArg Prod.snd first
  have begun : (config.step i).threads i =
      afterLookup call reserved (config.shared.entryTimes.lookup call.task.pidTgid) := by
    rw [Config.step_threads_self]
    exact congrArg Prod.fst first
  cases found : config.shared.entryTimes.lookup call.task.pidTgid with
  | none =>
      rw [found] at begun
      have all : ((config.step i).threads i).AllResults fun result => result.1 = 0 := by
        rw [begun]
        exact accounted_allResults call reserved 0
      have told := Config.allResults_run all rest
      rw [returned] at told
      rw [latencyFrom_none found]
      exact told
  | some entryTs =>
      rw [found] at begun
      have reading : (timesView fun times => times.read entryTs).Reading
          (fun result => result.1 = call.ktimeGetNs - config.shared.entryTimes.read entryTs)
          (config.step i) i := by
        refine ⟨trivial, fun j _ => Config.allSteps_run (quiet entryTs j) [i], ?_⟩
        rw [begun, shared]
        exact afterLookup_yields call reserved entryTs _
      rw [latencyFrom_some found]
      exact reading.result returned

/-! ### The statistics behind the pointer -/

/-- `read` of the statistics of `pid` behind the pointer `stats`, with a minimum that is set. -/
def statsView {W : Type} (pid : U32) (stats : Nat) (read : PidStats → W) : SharedView KretprobeMaps W :=
  pidStatistics.pointed pid stats (fun value => 0 < value.minLatencyNs) read

section Quiet

variable {W : Type} {pid : U32} {stats : Nat} {read : PidStats → W}

theorem exitLatency_quiet (call : KretprobeCall) : (statsView pid stats read).Quiet (exitLatency call) :=
  exitLatency_allSteps (quiet_single fun _ => rfl) (fun _ => quiet_single fun _ => rfl)
    (quiet_single fun _ => rfl)

theorem emitExit_quiet (call : KretprobeCall) (reserved : Option KretprobeEvent) (isErr : U8)
    (latency : U64) : (statsView pid stats read).Quiet (emitExit call reserved isErr latency) :=
  emitExit_allSteps (quiet_single fun _ => rfl) fun _ => quiet_single fun _ => rfl

theorem lowerMin_quiet {latency : U64} (positive : 0 < latency)
    (same : PidStats.minLatencyField.Ignored read) :
    (statsView pid stats read).Quiet (lowerMin stats latency) :=
  lowerMin_allSteps (quiet_load _) (quiet_store same fun _ _ => positive)

theorem raiseMax_quiet (latency : U64)
    (same : PidStats.maxLatencyField.Ignored read) :
    (statsView pid stats read).Quiet (raiseMax stats latency) :=
  raiseMax_allSteps (quiet_load _) (quiet_store same fun _ old => old)

theorem accountLatency_quiet (latency : U64)
    (sameTotal : PidStats.totalLatencyField.Ignored read)
    (sameMin : PidStats.minLatencyField.Ignored read)
    (sameMax : PidStats.maxLatencyField.Ignored read) :
    (statsView pid stats read).Quiet (accountLatency stats latency) :=
  accountLatency_allSteps (quiet_fetchAndAdd sameTotal fun _ _ old => old)
    (fun positive => lowerMin_quiet positive sameMin) (raiseMax_quiet latency sameMax)

theorem accountOutcome_quiet (isErr : U8)
    (sameErrors : PidStats.errorCallsField.Ignored read)
    (sameSuccesses : PidStats.successCallsField.Ignored read) :
    (statsView pid stats read).Quiet (accountOutcome stats isErr) :=
  accountOutcome_allSteps (quiet_fetchAndAdd sameErrors fun _ _ old => old)
    (quiet_fetchAndAdd sameSuccesses fun _ _ old => old)

end Quiet

/-! ### The extremes -/

/-- A latency that is recorded. -/
abbrev PositiveLatency := { latency : U64 // 0 < latency }

/-- A latency of zero is not recorded. -/
def positive? (latency : U64) : Option PositiveLatency :=
  if positive : 0 < latency then some ⟨latency, positive⟩ else none

theorem positive?_of_pos {latency : U64} (positive : 0 < latency) :
    positive? latency = some ⟨latency, positive⟩ :=
  dif_pos positive

theorem forall_positive? {latency : U64} {P : U64 → Prop} :
    (∀ offer, positive? latency = some offer → P offer.1) ↔ (0 < latency → P latency) := by
  constructor
  · exact fun all positive => all _ (positive?_of_pos positive)
  · intro holds offer recorded
    rw [positive?] at recorded
    split at recorded
    · rename_i positive
      cases recorded
      exact holds positive
    · cases recorded

/-- What an exit offers to the extremes, by the latency beside its result. -/
def offeredBy (result : U64 × S32) : Option PositiveLatency :=
  positive? result.1

/-- The maximum of the statistics of `pid`, as `raiseMax` raises it. -/
def maxStore (pid : U32) (stats : Nat) : CheckedStore (BpfOp KretprobeMap) KretprobeMaps Nat PositiveLatency :=
  pidStatistics.checkedField pid stats (fun value => 0 < value.minLatencyNs) PidStats.maxLatencyField
    BitVec.toNat (· > ·) Subtype.val (fun _ _ => rfl) gt_iff_toNat (fun _ _ old => old)
    ⟨⟨1, by decide⟩, ⟨2, by decide⟩, by decide⟩

theorem maxStore_view (pid : U32) (stats : Nat) :
    (maxStore pid stats).view = statsView pid stats fun value => value.maxLatencyNs.toNat := rfl

theorem maxStore_check (pid : U32) (stats : Nat) (latency : PositiveLatency) :
    (maxStore pid stats).check latency = raiseMax stats latency.1 := rfl

/-- The minimum of the statistics of `pid`, as `lowerMin` lowers it once it is set; lower is higher here. -/
def minStore (pid : U32) (stats : Nat) :
    CheckedStore (BpfOp KretprobeMap) KretprobeMaps Natᵒᵈ PositiveLatency :=
  pidStatistics.checkedField pid stats (fun value => 0 < value.minLatencyNs) PidStats.minLatencyField
    (fun latency => OrderDual.toDual latency.toNat) (· < ·) Subtype.val (fun _ _ => rfl) lt_iff_toDual
    (fun latency _ _ => latency.2) ⟨⟨1, by decide⟩, ⟨2, by decide⟩, by decide⟩

theorem minStore_view (pid : U32) (stats : Nat) :
    (minStore pid stats).view = statsView pid stats fun value => OrderDual.toDual value.minLatencyNs.toNat := rfl

theorem lowerMin_eq (pid : U32) (stats : Nat) (latency : PositiveLatency) :
    lowerMin stats latency.1 = (load pidStatistics stats PidStats.minLatencyNs >>= fun unset =>
      if unset = 0 then store pidStatistics stats PidStats.minLatencyField latency.1
      else (minStore pid stats).check latency) := rfl

/-! ### What an exit does to the statistics -/

/-- The event and the results that follow the accounting. -/
def exitEmission (call : KretprobeCall) (reserved : Option KretprobeEvent) (isErr : U8) (latency : U64) :
    KretprobeProgram (U64 × S32) := do
  let ret ← emitExit call reserved isErr latency
  return (latency, ret)

section Account

variable {W : Type} {pid : U32} {stats : Nat} {read : PidStats → W} (call : KretprobeCall)
  (reserved : Option KretprobeEvent)

/-- Up to the accounting an exit changes nothing, and it finds the statistics of its PID. -/
theorem exitWithLatency_of_account {Q : KretprobeProgram (U64 × S32) → Prop}
    (absorbs : (statsView pid stats read).Absorbs Q) (samePid : pidOf call.task.pidTgid = pid)
    (account : ∀ latency, Q (accountExit stats (isErrorRetval call.ptRegsRc) latency call.ptRegsRc >>=
      fun _ => exitEmission call reserved (isErrorRetval call.ptRegsRc) latency)) :
    Q (exitWithLatency call reserved) := by
  apply absorbs.quiet (exitLatency_quiet call)
  intro latency
  rw [exitAccounting, pidStats, samePid]
  simp only [bind_assoc]
  apply absorbs_lookup absorbs
  simpa only [exitEmission, pure_bind, bind_assoc] using account latency

/-- The last steps change no statistics but the last return value, and return the latency. -/
theorem closing_of_ret {Q : KretprobeProgram (U64 × S32) → Prop}
    (absorbs : (statsView pid stats read).Absorbs Q)
    (same : PidStats.lastRetvalField.Ignored read) (isErr : U8)
    (latency : U64) (retval : S64) (returns : ∀ ret, Q (.ret (latency, ret))) :
    Q (store pidStatistics stats PidStats.lastRetvalField retval >>= fun _ =>
      exitEmission call reserved isErr latency) := by
  apply absorbs.quiet
  · exact quiet_store same fun _ old => old
  · intro _
    exact absorbs.quiet (emitExit_quiet call reserved isErr latency) returns

variable (samePid : pidOf call.task.pidTgid = pid)

include samePid

/-- An exit owes one call. -/
theorem exitWithLatency_owes_call :
    (statsView pid stats PidStats.totalCalls).Owes 1 (exitWithLatency call reserved) := by
  apply exitWithLatency_of_account call reserved (Owes.absorbs 1) samePid
  intro latency
  simp only [accountExit, bind_assoc]
  apply owes_fetchAndAdd (fun _ _ old => old) fun _ => rfl
  intro _
  apply (Owes.absorbs 0).quiet
  · exact accountOutcome_quiet _ (fun _ _ => rfl) fun _ _ => rfl
  · intro _
    apply (Owes.absorbs 0).quiet
    · exact accountLatency_quiet latency (fun _ _ => rfl) (fun _ _ => rfl) fun _ _ => rfl
    · intro _
      exact closing_of_ret call reserved (Owes.absorbs 0) (fun _ _ => rfl) _ latency _ fun _ => .ret _

/-- How many of the successes, or of the errors, an exit is. -/
theorem exitWithLatency_owes_outcome {counter : PidStats → U64} {owed : Nat}
    (sameTotal : PidStats.totalCallsField.Ignored counter)
    (sameLatency : PidStats.totalLatencyField.Ignored counter)
    (sameMin : PidStats.minLatencyField.Ignored counter)
    (sameMax : PidStats.maxLatencyField.Ignored counter)
    (sameLast : PidStats.lastRetvalField.Ignored counter)
    (outcome : ∀ rest : U64 → KretprobeProgram (U64 × S32),
      (∀ old, (statsView pid stats counter).Owes 0 (rest old)) →
      (statsView pid stats counter).Owes owed
        (accountOutcome stats (isErrorRetval call.ptRegsRc) >>= rest)) :
    (statsView pid stats counter).Owes owed (exitWithLatency call reserved) := by
  apply exitWithLatency_of_account call reserved (Owes.absorbs owed) samePid
  intro latency
  simp only [accountExit, bind_assoc]
  apply (Owes.absorbs owed).quiet
  · exact quiet_fetchAndAdd sameTotal fun _ _ old => old
  · intro _
    apply outcome
    intro _
    apply (Owes.absorbs 0).quiet
    · exact accountLatency_quiet latency sameLatency sameMin sameMax
    · intro _
      exact closing_of_ret call reserved (Owes.absorbs 0) sameLast _ latency _ fun _ => .ret _

/-- One when the exit is an error. -/
def errorOf (call : KretprobeCall) : Nat :=
  if isErrorRetval call.ptRegsRc ≠ 0 then 1 else 0

/-- One when the exit is a success. -/
def successOf (call : KretprobeCall) : Nat :=
  if isErrorRetval call.ptRegsRc ≠ 0 then 0 else 1

theorem exitWithLatency_owes_error :
    (statsView pid stats PidStats.errorCalls).Owes (errorOf call) (exitWithLatency call reserved) := by
  apply exitWithLatency_owes_outcome call reserved samePid <;> try exact fun _ _ => rfl
  intro rest owes
  rw [accountOutcome, errorOf]
  split
  · exact owes_fetchAndAdd (fun _ _ old => old) (fun _ => rfl) owes
  · exact (Owes.absorbs 0).quiet (quiet_fetchAndAdd (fun _ _ => rfl) fun _ _ old => old) owes

theorem exitWithLatency_owes_success :
    (statsView pid stats PidStats.successCalls).Owes (successOf call) (exitWithLatency call reserved) := by
  apply exitWithLatency_owes_outcome call reserved samePid <;> try exact fun _ _ => rfl
  intro rest owes
  rw [accountOutcome, successOf]
  split
  · exact (Owes.absorbs 0).quiet (quiet_fetchAndAdd (fun _ _ => rfl) fun _ _ old => old) owes
  · exact owes_fetchAndAdd (fun _ _ old => old) (fun _ => rfl) owes

/-- An exit raises what it offers if its updates of the extremes do and its other steps keep the extreme. -/
theorem exitWithLatency_of_extremes {W : Type} [LinearOrder W]
    {checked : CheckedStore (BpfOp KretprobeMap) KretprobeMaps W PositiveLatency} {read : PidStats → W}
    (view : checked.view = statsView pid stats read)
    (sameTotal : PidStats.totalCallsField.Ignored read)
    (sameErrors : PidStats.errorCallsField.Ignored read)
    (sameSuccesses : PidStats.successCallsField.Ignored read)
    (sameLatency : PidStats.totalLatencyField.Ignored read)
    (sameLast : PidStats.lastRetvalField.Ignored read)
    (extremes : ∀ latency (rest : KretprobeProgram (U64 × S32)),
      checked.Raises offeredBy (.after latency) rest →
      checked.Raises offeredBy .before
        (lowerMin stats latency.1 >>= fun _ => raiseMax stats latency.1 >>= fun _ => rest)) :
    checked.Raises offeredBy .before (exitWithLatency call reserved) := by
  have absorbs : (statsView pid stats read).Absorbs (checked.Raises offeredBy .before :
      KretprobeProgram (U64 × S32) → Prop) := view ▸ Raises.absorbs_before
  have absorbsAfter (latency : PositiveLatency) : (statsView pid stats read).Absorbs
      (checked.Raises offeredBy (.after latency) : KretprobeProgram (U64 × S32) → Prop) :=
    view ▸ Raises.absorbs_after latency
  apply exitWithLatency_of_account call reserved absorbs samePid
  intro latency
  simp only [accountExit, accountLatency, bind_assoc]
  apply absorbs.quiet
  · exact quiet_fetchAndAdd sameTotal fun _ _ old => old
  · intro _
    apply absorbs.quiet
    · exact accountOutcome_quiet _ sameErrors sameSuccesses
    · intro _
      split
      · rename_i positive
        simp only [bind_assoc]
        apply absorbs.quiet
        · exact quiet_fetchAndAdd sameLatency fun _ _ old => old
        · intro _
          apply extremes ⟨latency, positive⟩
          exact closing_of_ret call reserved (absorbsAfter _) sameLast _ latency _ fun ret =>
            .offered (positive?_of_pos positive)
      · rename_i zero
        exact closing_of_ret call reserved absorbs sameLast _ latency _ fun ret =>
          .unoffered (dif_neg zero)

/-- An exit raises the maximum to its latency. -/
theorem exitWithLatency_raises :
    (maxStore pid stats).Raises offeredBy .before (exitWithLatency call reserved) := by
  apply exitWithLatency_of_extremes call reserved samePid (maxStore_view pid stats) <;>
    try exact fun _ _ => rfl
  intro latency rest raises
  have absorbs : (maxStore pid stats).view.Absorbs
      ((maxStore pid stats).Raises offeredBy .before : KretprobeProgram (U64 × S32) → Prop) :=
    Raises.absorbs_before
  rw [maxStore_view] at absorbs
  apply absorbs.quiet (lowerMin_quiet latency.2 fun _ _ => rfl)
  intro _
  exact .check (congrArg (· >>= _) (maxStore_check pid stats latency)) raises

/-- An exit lowers the minimum to its latency. -/
theorem exitWithLatency_lowers :
    (minStore pid stats).Raises offeredBy .before (exitWithLatency call reserved) := by
  apply exitWithLatency_of_extremes call reserved samePid (minStore_view pid stats) <;>
    try exact fun _ _ => rfl
  intro latency rest lowers
  have absorbs : (minStore pid stats).view.Absorbs
      ((minStore pid stats).Raises offeredBy .before : KretprobeProgram (U64 × S32) → Prop) :=
    Raises.absorbs_before
  have absorbsAfter : (minStore pid stats).view.Absorbs
      ((minStore pid stats).Raises offeredBy (.after latency) : KretprobeProgram (U64 × S32) → Prop) :=
    Raises.absorbs_after latency
  rw [minStore_view] at absorbs absorbsAfter
  rw [lowerMin_eq pid, bind_assoc]
  -- the minimum is set, so the first test fails
  refine absorbs _ _ _ (kept_of_get fun _ => rfl) fun shared inv => ?_
  have unset : (pidStatistics.get shared |>.read stats).minLatencyNs ≠ 0 := by
    have isSet := inv.2
    bv_omega
  change Raises _ _ .before ((if (pidStatistics.get shared |>.read stats).minLatencyNs = 0 then _
    else _) >>= _)
  rw [if_neg unset]
  apply Raises.check rfl
  exact absorbsAfter.quiet (raiseMax_quiet latency.1 fun _ _ => rfl) fun _ => lowers

end Account

/-! ### Exits together -/

section Exits

variable {n : Nat} (start : KretprobeMaps) (calls : Fin n → KretprobeCall)
  (reserved : Fin n → Option KretprobeEvent) (schedule : List (Fin n))

/-- The exits before their first steps. -/
def concurrentExits : Config (BpfOp KretprobeMap) KretprobeMaps S32 (Fin n) where
  shared := start
  threads := fun i => msbKretprobeOpenatExit (calls i) (reserved i)

/-- The same exits with the latencies they compute. -/
def exitsWithLatency : Config (BpfOp KretprobeMap) KretprobeMaps (U64 × S32) (Fin n) where
  shared := start
  threads := fun i => exitWithLatency (calls i) (reserved i)

/-- The latency of an exit, by the timestamp that its thread has before the first step of the exit. -/
def latencyOf (i : Fin n) : U64 :=
  latencyFrom ((concurrentExits start calls reserved).run (Config.stepsBefore schedule i)).shared.entryTimes
    (calls i)

/-- What an exit offers to the extremes. -/
def latencyOffers (i : Fin n) : Option PositiveLatency :=
  positive? (latencyOf start calls reserved schedule i)

/-- No positive latency is above the maximum at the start, or an exit with the highest one stores it while none
stands between check and store with a lower one. -/
def MaximumKept (pid : U32) (stats : Nat) : Prop :=
  (maxStore pid stats).HighestKept (concurrentExits start calls reserved)
    (latencyOffers start calls reserved schedule) schedule

/-- No positive latency is below the minimum at the start, or an exit with the lowest one stores it while none
stands between check and store with a higher one. -/
def MinimumKept (pid : U32) (stats : Nat) : Prop :=
  (minStore pid stats).HighestKept (concurrentExits start calls reserved)
    (latencyOffers start calls reserved schedule) schedule

/-- No two exits stand between the check and the store of the same extreme at the same moment. -/
def ExitsApart (pid : U32) (stats : Nat) : Prop :=
  (maxStore pid stats).Apart (concurrentExits start calls reserved)
      (latencyOffers start calls reserved schedule) schedule ∧
    (minStore pid stats).Apart (concurrentExits start calls reserved)
      (latencyOffers start calls reserved schedule) schedule

/-- What the exits should leave in the statistics of their PID. -/
structure Remembers (before after : PidStats) (latency : Fin n → U64) : Prop where
  calls : after.totalCalls.toNat = before.totalCalls.toNat + n
  outcomes : after.successCalls.toNat + after.errorCalls.toNat =
    before.successCalls.toNat + before.errorCalls.toNat + n
  maxStart : before.maxLatencyNs ≤ after.maxLatencyNs
  max : ∀ i, 0 < latency i → latency i ≤ after.maxLatencyNs
  minStart : after.minLatencyNs ≤ before.minLatencyNs
  min : ∀ i, 0 < latency i → after.minLatencyNs ≤ latency i

/-- No counter wraps. -/
def NoWrap (before : PidStats) : Prop :=
  before.totalCalls.toNat + n < 2 ^ 64 ∧
    before.successCalls.toNat + ∑ i, successOf (calls i) < 2 ^ 64 ∧
    before.errorCalls.toNat + ∑ i, errorOf (calls i) < 2 ^ 64

variable {start calls reserved schedule}

theorem concurrentExits_eq :
    concurrentExits start calls reserved = (exitsWithLatency start calls reserved).mapResult Prod.snd := by
  simp only [concurrentExits, Config.mapResult, exitsWithLatency, mapResult_exitWithLatency]

theorem returned_of_finished (finished : ((concurrentExits start calls reserved).run schedule).Finished) :
    ((exitsWithLatency start calls reserved).run schedule).Finished := by
  rw [concurrentExits_eq, Config.run_mapResult] at finished
  exact Config.finished_mapResult.mp finished

/-- An exit that returns has taken a first step. -/
theorem first_step_of_finished (finished : ((exitsWithLatency start calls reserved).run schedule).Finished)
    (i : Fin n) : ∃ rest, schedule = Config.stepsBefore schedule i ++ i :: rest := by
  apply Config.exists_first_step
  by_contra absent
  have returned := finished i
  rw [Config.threads_run_of_notMem absent] at returned
  cases returned

/-- **The exits compute their latencies**: the time since the timestamps that their threads have before the first
steps of the exits. -/
theorem returned_latency (finished : ((exitsWithLatency start calls reserved).run schedule).Finished)
    (i : Fin n) : ∃ ret, ((exitsWithLatency start calls reserved).run schedule).threads i =
      .ret (latencyOf start calls reserved schedule i, ret) := by
  obtain ⟨rest, split⟩ := first_step_of_finished finished i
  have same : ((concurrentExits start calls reserved).run (Config.stepsBefore schedule i)).shared =
      ((exitsWithLatency start calls reserved).run (Config.stepsBefore schedule i)).shared := by
    rw [concurrentExits_eq, Config.run_mapResult]
    rfl
  have absent := Config.notMem_stepsBefore schedule i
  rw [latencyOf, same]
  generalize Config.stepsBefore schedule i = early at split absent
  subst split
  rw [Config.run_append, Config.run_cons] at finished ⊢
  have own : ((exitsWithLatency start calls reserved).run early).threads i =
      exitWithLatency (calls i) (reserved i) :=
    Config.threads_run_of_notMem absent
  have quiet (entryTs : Nat) (j : Fin n) : (timesView fun times => times.read entryTs).Quiet
      (((exitsWithLatency start calls reserved).run early).threads j) := by
    have before : (timesView fun times => times.read entryTs).Quiet
        ((exitsWithLatency start calls reserved).threads j) :=
      exitWithLatency_times_quiet (calls j) (reserved j) fun _ => rfl
    exact Config.allSteps_run before early
  have returned := finished i
  cases program : ((((exitsWithLatency start calls reserved).run early).step i).run rest).threads i with
  | ret result =>
      rw [← latency_of_first_step own quiet program]
      exact ⟨result.2, rfl⟩
  | atom label next update =>
      rw [program] at returned
      cases returned

/-- With different threads these are the timestamps at the start. -/
theorem latencyOf_of_different (different : Function.Injective fun i => (calls i).task.pidTgid) (i : Fin n) :
    latencyOf start calls reserved schedule i = latencyFrom start.entryTimes (calls i) := by
  have quiet : ∀ j ∈ Config.stepsBefore schedule i,
      (timesView fun times => times.find? (calls i).task.pidTgid).Quiet
        ((exitsWithLatency start calls reserved).threads j) := by
    intro j early
    apply exitWithLatency_times_quiet
    intro times
    rw [CellMap.find?_erase, if_neg]
    intro same
    rw [different same] at early
    exact Config.notMem_stepsBefore schedule j early
  have kept : ((exitsWithLatency start calls reserved).run
      (Config.stepsBefore schedule i)).shared.entryTimes.find? (calls i).task.pidTgid =
        start.entryTimes.find? (calls i).task.pidTgid :=
    (Quiet.run quiet trivial).2
  rw [latencyOf, concurrentExits_eq, Config.run_mapResult]
  simp only [latencyFrom, Config.mapResult, kept]

variable {pid : U32} {stats : Nat}

/-- A sum of numbers fits exactly when it does not wrap. -/
theorem toNat_add_ofNat_eq_iff (counter : U64) (amount : Nat) :
    (counter + BitVec.ofNat 64 amount).toNat = counter.toNat + amount ↔
      counter.toNat + amount < 2 ^ 64 := by
  rw [BitVec.toNat_add, BitVec.toNat_ofNat, Nat.add_mod_mod]
  omega

/-- Every exit is an error or a success. -/
theorem sum_successOf_add_sum_errorOf (calls : Fin n → KretprobeCall) :
    (∑ i, successOf (calls i)) + ∑ i, errorOf (calls i) = n := by
  have one (i : Fin n) : successOf (calls i) + errorOf (calls i) = 1 := by
    rw [successOf, errorOf]
    split <;> rfl
  rw [← Finset.sum_add_distrib, Finset.sum_congr rfl fun i _ => one i, Finset.sum_const, Finset.card_univ,
    Fintype.card_fin]
  exact Nat.mul_one n

/-- The counters in the arithmetic of their fields. -/
structure Counted (before after : PidStats) (calls : Fin n → KretprobeCall) : Prop where
  total : after.totalCalls = before.totalCalls + BitVec.ofNat 64 n
  successes : after.successCalls = before.successCalls + BitVec.ofNat 64 (∑ i, successOf (calls i))
  errors : after.errorCalls = before.errorCalls + BitVec.ofNat 64 (∑ i, errorOf (calls i))

/-- The counters are numbers exactly when none wraps. -/
theorem Counted.numbers_iff {before after : PidStats} (counted : Counted before after calls) :
    (after.totalCalls.toNat = before.totalCalls.toNat + n ∧
      after.successCalls.toNat + after.errorCalls.toNat =
        before.successCalls.toNat + before.errorCalls.toNat + n) ↔ NoWrap calls before := by
  have split := sum_successOf_add_sum_errorOf calls
  have successes := toNat_add_ofNat_eq_iff before.successCalls (∑ i, successOf (calls i))
  have errors := toNat_add_ofNat_eq_iff before.errorCalls (∑ i, errorOf (calls i))
  have successesLe : after.successCalls.toNat ≤ before.successCalls.toNat + ∑ i, successOf (calls i) := by
    rw [counted.successes, BitVec.toNat_add, BitVec.toNat_ofNat, Nat.add_mod_mod]
    exact Nat.mod_le _ _
  have errorsLe : after.errorCalls.toNat ≤ before.errorCalls.toNat + ∑ i, errorOf (calls i) := by
    rw [counted.errors, BitVec.toNat_add, BitVec.toNat_ofNat, Nat.add_mod_mod]
    exact Nat.mod_le _ _
  rw [← counted.successes] at successes
  rw [← counted.errors] at errors
  rw [NoWrap, counted.total, toNat_add_ofNat_eq_iff, ← successes, ← errors]
  omega

/-- What is remembered beyond the start, when atomic additions lose nothing and the extremes get no worse. -/
theorem Counted.remembers_iff {before after : PidStats} (counted : Counted before after calls)
    (latency : Fin n → U64) (maxStart : before.maxLatencyNs ≤ after.maxLatencyNs)
    (minStart : after.minLatencyNs ≤ before.minLatencyNs) :
    Remembers before after latency ↔ NoWrap calls before ∧
      (∀ i, 0 < latency i → latency i ≤ after.maxLatencyNs) ∧
      ∀ i, 0 < latency i → after.minLatencyNs ≤ latency i := by
  rw [← counted.numbers_iff]
  constructor
  · intro remembers
    exact ⟨⟨remembers.calls, remembers.outcomes⟩, remembers.max, remembers.min⟩
  · rintro ⟨⟨calls, outcomes⟩, max, min⟩
    exact ⟨calls, outcomes, maxStart, max, minStart, min⟩

/-- A property of all offers is one of all positive latencies. -/
theorem forall_latencyOffers {P : U64 → Prop} :
    (∀ i offer, latencyOffers start calls reserved schedule i = some offer → P offer.1) ↔
      ∀ i, 0 < latencyOf start calls reserved schedule i → P (latencyOf start calls reserved schedule i) :=
  forall_congr' fun _ => forall_positive?

section Runs

variable (samePid : ∀ i, pidOf (calls i).task.pidTgid = pid)
  (found : start.pidStatistics.lookup pid = some stats)
  (isSet : 0 < (start.pidStatistics.read stats).minLatencyNs)
  (finished : ((exitsWithLatency start calls reserved).run schedule).Finished)

include samePid found isSet finished

omit finished in
/-- The PID keeps its entry. -/
theorem lookup_run (schedule : List (Fin n)) :
    ((exitsWithLatency start calls reserved).run schedule).shared.pidStatistics.lookup pid = some stats := by
  have inv : (statsView pid stats PidStats.totalCalls).Inv start := ⟨found, isSet⟩
  obtain ⟨_, kept, _⟩ := Owes.run (exitsWithLatency start calls reserved) inv
    (fun i => exitWithLatency_owes_call (calls i) (reserved i) (samePid i)) schedule
  exact kept.1

/-- Atomic additions lose nothing. -/
theorem counted_run :
    Counted (start.pidStatistics.read stats)
      (((exitsWithLatency start calls reserved).run schedule).shared.pidStatistics.read stats) calls := by
  have inv (read : PidStats → U64) : (statsView pid stats read).Inv start := ⟨found, isSet⟩
  constructor
  · have owed := Owes.get_run (exitsWithLatency start calls reserved) (inv PidStats.totalCalls)
      (fun i => exitWithLatency_owes_call (calls i) (reserved i) (samePid i)) finished
    rw [← Finset.card_eq_sum_ones, Finset.card_univ, Fintype.card_fin] at owed
    exact owed
  · exact Owes.get_run (exitsWithLatency start calls reserved) (inv PidStats.successCalls)
      (fun i => exitWithLatency_owes_success (calls i) (reserved i) (samePid i)) finished
  · exact Owes.get_run (exitsWithLatency start calls reserved) (inv PidStats.errorCalls)
      (fun i => exitWithLatency_owes_error (calls i) (reserved i) (samePid i)) finished

omit samePid found isSet in
/-- Exits that have returned tell what they offer. -/
theorem ends_of_finished :
    Ends ((exitsWithLatency start calls reserved).run schedule) (latencyOffers start calls reserved schedule)
      offeredBy := by
  intro i
  obtain ⟨ret, returned⟩ := returned_latency finished i
  exact ⟨_, returned, rfl⟩

/-- The exits raise the maximum to their latencies. -/
theorem maxStore_run : (maxStore pid stats).Run offeredBy (exitsWithLatency start calls reserved)
    (latencyOffers start calls reserved schedule) schedule where
  inv := ⟨found, isSet⟩
  raises i := exitWithLatency_raises (calls i) (reserved i) (samePid i)
  ends := ends_of_finished finished

/-- The exits lower the minimum to their latencies. -/
theorem minStore_run : (minStore pid stats).Run offeredBy (exitsWithLatency start calls reserved)
    (latencyOffers start calls reserved schedule) schedule where
  inv := ⟨found, isSet⟩
  raises i := exitWithLatency_lowers (calls i) (reserved i) (samePid i)
  ends := ends_of_finished finished

/-- The maximum reaches every latency exactly when the highest one is kept. -/
theorem maximum_kept_iff :
    (∀ i, 0 < latencyOf start calls reserved schedule i → latencyOf start calls reserved schedule i ≤
        (((concurrentExits start calls reserved).run schedule).shared.pidStatistics.read
          stats).maxLatencyNs) ↔
      MaximumKept start calls reserved schedule pid stats := by
  have run := maxStore_run samePid found isSet finished
  rw [MaximumKept, concurrentExits_eq]
  exact (forall_latencyOffers (P := (· ≤ _))).symm.trans (run.highest_kept_iff Prod.snd)

/-- The minimum reaches every latency exactly when the lowest one is kept. -/
theorem minimum_kept_iff :
    (∀ i, 0 < latencyOf start calls reserved schedule i →
        (((concurrentExits start calls reserved).run schedule).shared.pidStatistics.read
          stats).minLatencyNs ≤ latencyOf start calls reserved schedule i) ↔
      MinimumKept start calls reserved schedule pid stats := by
  have run := minStore_run samePid found isSet finished
  rw [MinimumKept, concurrentExits_eq]
  exact (forall_latencyOffers (P := (_ ≤ ·))).symm.trans (run.highest_kept_iff Prod.snd)

/-- Exits that stay apart keep both extremes. -/
theorem extremes_of_apart (apart : ExitsApart start calls reserved schedule pid stats) :
    MaximumKept start calls reserved schedule pid stats ∧ MinimumKept start calls reserved schedule pid stats := by
  have maxRun := maxStore_run samePid found isSet finished
  have minRun := minStore_run samePid found isSet finished
  obtain ⟨apartMax, apartMin⟩ := apart
  rw [MaximumKept, MinimumKept, concurrentExits_eq]
  rw [concurrentExits_eq] at apartMax apartMin
  constructor
  · exact (maxRun.highest_kept_iff Prod.snd).mp (maxRun.highest_of_apart Prod.snd apartMax)
  · exact (minRun.highest_kept_iff Prod.snd).mp (minRun.highest_of_apart Prod.snd apartMin)

/-- Exits that take turns stay apart. -/
theorem apart_of_inTurn (inTurn : InTurn schedule) : ExitsApart start calls reserved schedule pid stats := by
  rw [ExitsApart, concurrentExits_eq]
  constructor
  · exact (maxStore_run samePid found isSet finished).apart_of_inTurn Prod.snd inTurn
  · exact (minStore_run samePid found isSet finished).apart_of_inTurn Prod.snd inTurn

end Runs

/-- **When concurrent exits are remembered**: no counter wraps, and each extreme is kept. So it is when no counter
wraps and no two exits stand between the check and the store of one extreme at the same moment. -/
theorem exits_remembered_iff (start : KretprobeMaps) (calls : Fin n → KretprobeCall)
    (reserved : Fin n → Option KretprobeEvent) (schedule : List (Fin n)) {pid : U32} {stats : Nat}
    (samePid : ∀ i, pidOf (calls i).task.pidTgid = pid)
    (found : start.pidStatistics.lookup pid = some stats)
    (isSet : 0 < (start.pidStatistics.read stats).minLatencyNs)
    (finished : ((concurrentExits start calls reserved).run schedule).Finished) :
    ((concurrentExits start calls reserved).run schedule).shared.pidStatistics.lookup pid = some stats ∧
      (∀ i, ∃ ret, ((exitsWithLatency start calls reserved).run schedule).threads i =
        .ret (latencyOf start calls reserved schedule i, ret)) ∧
      ((Function.Injective fun i => (calls i).task.pidTgid) →
        ∀ i, latencyOf start calls reserved schedule i = latencyFrom start.entryTimes (calls i)) ∧
      (Remembers (start.pidStatistics.read stats)
          (((concurrentExits start calls reserved).run schedule).shared.pidStatistics.read stats)
          (latencyOf start calls reserved schedule) ↔
        NoWrap calls (start.pidStatistics.read stats) ∧
          MaximumKept start calls reserved schedule pid stats ∧
          MinimumKept start calls reserved schedule pid stats) ∧
      (NoWrap calls (start.pidStatistics.read stats) → ExitsApart start calls reserved schedule pid stats →
        Remembers (start.pidStatistics.read stats)
          (((concurrentExits start calls reserved).run schedule).shared.pidStatistics.read stats)
          (latencyOf start calls reserved schedule)) := by
  have returned := returned_of_finished finished
  have shared : ((concurrentExits start calls reserved).run schedule).shared =
      ((exitsWithLatency start calls reserved).run schedule).shared := by
    rw [concurrentExits_eq, Config.run_mapResult]
    rfl
  have counted := counted_run samePid found isSet returned
  have maxStart := (maxStore_run samePid found isSet returned).start_le
  have minStart := (minStore_run samePid found isSet returned).start_le
  rw [← shared] at counted maxStart minStart
  have remembers := counted.remembers_iff (latencyOf start calls reserved schedule) maxStart minStart
  rw [maximum_kept_iff samePid found isSet returned, minimum_kept_iff samePid found isSet returned] at remembers
  refine ⟨?_, returned_latency returned, latencyOf_of_different, remembers,
    fun noWrap apart => remembers.mpr ⟨noWrap, ?_⟩⟩
  · rw [shared]
    exact lookup_run samePid found isSet schedule
  · exact extremes_of_apart samePid found isSet returned apart

end Exits

/-! ### Two exits -/

/-- An exit of a thread of the process 1 that entered at time zero. -/
def openAt (thread ktimeGetNs : U64) : KretprobeCall where
  task := { pidTgid := 0x100000000 + thread, uidGid := 0, cgroupId := 0, comm := Vector.replicate 16 0 }
  ktimeGetNs := ktimeGetNs
  ptRegsRc := 3

/-- The threads 1 and 2 of the process 1 have entered, and the process has statistics. -/
def bothInside : KretprobeMaps where
  entryTimes := (CellMap.empty.insert 0x100000001 0).insert 0x100000002 0
  pidStatistics := CellMap.empty.insert 1
    { PidStats.zero with totalCalls := 1, successCalls := 1, minLatencyNs := 9, maxLatencyNs := 1 }
  kretprobeEvents := []

/-- One returns after three nanoseconds, the other after five. -/
def threeAndFive : Fin 2 → KretprobeCall
  | 0 => openAt 1 3
  | 1 => openAt 2 5

/-- The first exit is interrupted between its check of the maximum and its store. -/
def interrupted : List (Fin 2) :=
  List.replicate 11 0 ++ List.replicate 13 1 ++ List.replicate 3 0

/-- One exit after the other. -/
def oneByOne : List (Fin 2) :=
  List.replicate 14 0 ++ List.replicate 13 1

/-- One exit after the other, both are remembered. -/
theorem exits_remembered_one_by_one :
    Remembers (bothInside.pidStatistics.read 0)
      (((concurrentExits bothInside threeAndFive fun _ => none).run oneByOne).shared.pidStatistics.read 0)
      (latencyOf bothInside threeAndFive (fun _ => none) oneByOne) := by
  have samePid : ∀ i, pidOf (threeAndFive i).task.pidTgid = 1 := by decide
  have finished : ((concurrentExits bothInside threeAndFive fun _ => none).run oneByOne).Finished := by decide
  have inTurn : InTurn oneByOne := ⟨Fin.val, Fin.val_injective, by decide⟩
  have noWrap : NoWrap threeAndFive (bothInside.pidStatistics.read 0) := ⟨by decide, by decide, by decide⟩
  have apart : ExitsApart bothInside threeAndFive (fun _ => none) oneByOne 1 0 :=
    apart_of_inTurn samePid rfl (by decide) (returned_of_finished finished) inTurn
  obtain ⟨-, -, -, -, ofApart⟩ :=
    exits_remembered_iff bothInside threeAndFive (fun _ => none) oneByOne samePid rfl (by decide) finished
  exact ofApart noWrap apart

/-- The latencies are three and five, and the maximum is three in the end. -/
theorem exits_forget_maximum :
    bothInside.pidStatistics.lookup 1 = some 0 ∧
      0 < (bothInside.pidStatistics.read 0).minLatencyNs ∧
      ((concurrentExits bothInside threeAndFive fun _ => none).run interrupted).Finished ∧
      latencyOf bothInside threeAndFive (fun _ => none) interrupted 0 = 3 ∧
      latencyOf bothInside threeAndFive (fun _ => none) interrupted 1 = 5 ∧
      (((concurrentExits bothInside threeAndFive fun _ => none).run interrupted).shared.pidStatistics.read
        0).maxLatencyNs = 3 ∧
      ¬ Remembers (bothInside.pidStatistics.read 0)
        (((concurrentExits bothInside threeAndFive fun _ => none).run interrupted).shared.pidStatistics.read 0)
        (latencyOf bothInside threeAndFive (fun _ => none) interrupted) := by
  refine ⟨by decide, by decide, by decide, by decide, by decide, by decide, fun remembers => ?_⟩
  exact absurd (remembers.max 1 (by decide)) (by decide)

end MonsaEbpf.S2
