/-
Module: MonsaEbpf.S1.Uretprobe
Layer: S1
Purpose: S1-basic/examples/userspace/uretprobe/example_uretprobe.bpf.c. The entry handler stamps the
  process in `uretprobe_start`; the exit handler looks the timestamp up, drops it, and replaces the
  statistics of the process in `uretprobe_stats` by an updated copy. Both maps are keyed by the PID.
Imports: MonsaEbpf.Bpf.Helpers, MonsaEbpf.Lib.CallGroups, MonsaEbpf.Lib.StampMap
Trusted boundary: human-reviewed translation
Main exports: UretprobeStat, UretprobeMaps, UretprobeCall, UretprobeInvocation, msbUretprobeEntry,
  msbUretprobeExit, UretprobeMaps.step, UretprobeMaps.step_exit_lone, UretprobeMaps.step_exit_stamped,
  UretprobeMaps.starts_step
-/
import MonsaEbpf.Bpf.Helpers
import MonsaEbpf.Lib.CallGroups
import MonsaEbpf.Lib.StampMap

namespace MonsaEbpf.S1

/-- `struct uretprobe_stat`. -/
structure UretprobeStat where
  calls : U64
  totalNs : U64
  lastRc : S64
deriving Repr, DecidableEq

/-- `struct uretprobe_stat stat = {}`. -/
def UretprobeStat.zero : UretprobeStat where
  calls := 0
  totalNs := 0
  lastRc := 0

instance : Inhabited UretprobeStat := ⟨.zero⟩

/-- The statistics after one more call. -/
def UretprobeStat.record (stat : UretprobeStat) (delta : U64) (rc : S64) : UretprobeStat where
  calls := stat.calls + 1
  totalNs := stat.totalNs + delta
  lastRc := rc

/-- The maps of the program. -/
structure UretprobeMaps where
  uretprobeStart : CellMap U32 U64 1024
  uretprobeStats : CellMap U32 UretprobeStat 1024

inductive UretprobeMap where
  | uretprobeStart
  | uretprobeStats
deriving DecidableEq, Repr

def uretprobeStart : MapRef UretprobeMap UretprobeMaps U32 U64 1024 where
  name := .uretprobeStart
  get := UretprobeMaps.uretprobeStart
  set := fun maps map => { maps with uretprobeStart := map }
  get_set := fun _ _ => rfl
  set_get := fun _ => rfl
  set_set := fun _ _ _ => rfl

def uretprobeStats : MapRef UretprobeMap UretprobeMaps U32 UretprobeStat 1024 where
  name := .uretprobeStats
  get := UretprobeMaps.uretprobeStats
  set := fun maps map => { maps with uretprobeStats := map }
  get_set := fun _ _ => rfl
  set_get := fun _ => rfl
  set_set := fun _ _ _ => rfl

/-- What one invocation of either handler sees; the entry handler reads no return value. -/
structure UretprobeCall where
  pidTgid : U64
  ktimeGetNs : U64
  ptRegsRc : S64

abbrev UretprobeProgram := StepProgram (BpfOp UretprobeMap) UretprobeMaps

/-- `msb_uretprobe_entry`: record the entry timestamp of the process. -/
def msbUretprobeEntry (call : UretprobeCall) : UretprobeProgram S32 := do
  let _ ← bpfMapUpdateElem uretprobeStart (pidOf call.pidTgid) call.ktimeGetNs
  return 0

/-- The local copy of the statistics: `*cur` when there are some, else all zero. -/
def currentStat (cur : Option Nat) : UretprobeProgram UretprobeStat :=
  match cur with
  | none => return .zero
  | some cur => load uretprobeStats cur id

/-- The second half of the exit handler: copy the statistics, record the call in the copy, store it. -/
def accountCall (pid : U32) (delta : U64) (rc : S64) : UretprobeProgram S32 := do
  let cur ← bpfMapLookupElem uretprobeStats pid
  let stat ← currentStat cur
  let _ ← bpfMapUpdateElem uretprobeStats pid (stat.record delta rc)
  return 0

/-- `msb_uretprobe_exit`. -/
def msbUretprobeExit (call : UretprobeCall) : UretprobeProgram S32 := do
  let start ← bpfMapLookupElem uretprobeStart (pidOf call.pidTgid)
  match start with
  | none => return 0
  | some start => do
      let started ← load uretprobeStart start id
      let _ ← bpfMapDeleteElem uretprobeStart (pidOf call.pidTgid)
      accountCall (pidOf call.pidTgid) (call.ktimeGetNs - started) call.ptRegsRc

/-- No map holds a key yet. -/
def UretprobeMaps.initial : UretprobeMaps where
  uretprobeStart := .empty
  uretprobeStats := .empty

/-! ### Run alone -/

/-- One invocation of a handler. -/
inductive UretprobeInvocation where
  | entry (call : UretprobeCall)
  | exit (call : UretprobeCall)

/-- An invocation as an event of its thread. -/
def UretprobeInvocation.callEvent : UretprobeInvocation → CallEvent U64 U64
  | .entry call => .enter call.pidTgid call.ktimeGetNs
  | .exit call => .leave call.pidTgid call.ktimeGetNs

/-- Run one handler alone. -/
def UretprobeMaps.step (maps : UretprobeMaps) : UretprobeInvocation → UretprobeMaps
  | .entry call => ((msbUretprobeEntry call).exec maps).2
  | .exit call => ((msbUretprobeExit call).exec maps).2

/-- Run the handlers from left to right. -/
def UretprobeMaps.run (events : List UretprobeInvocation) : UretprobeMaps :=
  Runs.run UretprobeMaps.step .initial events

section Alone

variable {maps : UretprobeMaps} (call : UretprobeCall)

/-- An entry stamps its process, when there is room for it, and changes nothing else. -/
theorem UretprobeMaps.step_entry :
    maps.step (.entry call) =
      { maps with
        uretprobeStart := maps.uretprobeStart.insert (pidOf call.pidTgid) call.ktimeGetNs } := rfl

theorem exec_accountCall (pid : U32) (delta : U64) (rc : S64) :
    (accountCall pid delta rc).exec maps =
      (0, { maps with
        uretprobeStats := maps.uretprobeStats.insert pid
          (((maps.uretprobeStats.find? pid).getD .zero).record delta rc) }) := by
  cases found : maps.uretprobeStats.lookup pid with
  | none =>
      rw [accountCall, exec_lookup_bind S1.uretprobeStats found, CellMap.find?_eq_none.mpr found]
      rfl
  | some cur =>
      rw [accountCall, exec_lookup_bind S1.uretprobeStats found, CellMap.find?_of_lookup found]
      rfl

/-- An exit without a timestamp of its process does nothing. -/
theorem UretprobeMaps.step_exit_lone (absent : maps.uretprobeStart.find? (pidOf call.pidTgid) = none) :
    maps.step (.exit call) = maps := by
  have unbound : (S1.uretprobeStart.get maps).lookup (pidOf call.pidTgid) = none :=
    CellMap.find?_eq_none.mp absent
  rw [UretprobeMaps.step, msbUretprobeExit, exec_lookup_bind S1.uretprobeStart unbound]
  rfl

/-- **What an exit with a timestamp of its process does.** -/
theorem UretprobeMaps.step_exit_stamped {started : U64}
    (found : maps.uretprobeStart.find? (pidOf call.pidTgid) = some started) :
    maps.step (.exit call) =
      { uretprobeStart := maps.uretprobeStart.erase (pidOf call.pidTgid)
        uretprobeStats := maps.uretprobeStats.insert (pidOf call.pidTgid)
          (((maps.uretprobeStats.find? (pidOf call.pidTgid)).getD .zero).record
            (call.ktimeGetNs - started) call.ptRegsRc) } := by
  obtain ⟨start, pointer, begins⟩ := CellMap.exists_lookup_of_find? found
  have bound : (S1.uretprobeStart.get maps).lookup (pidOf call.pidTgid) = some start := pointer
  rw [UretprobeMaps.step, msbUretprobeExit, exec_lookup_bind S1.uretprobeStart bound]
  simp only [StepProgram.exec_bind, exec_load, exec_bpfMapDeleteElem, exec_accountCall, ← begins]
  rfl

end Alone

/-- The timestamps follow the calls of the processes. -/
theorem UretprobeMaps.starts_step (maps : UretprobeMaps) (event : UretprobeInvocation) :
    (maps.step event).uretprobeStart = maps.uretprobeStart.stamp (event.callEvent.regroup pidOf) := by
  cases event with
  | entry call => rfl
  | exit call =>
      rw [UretprobeInvocation.callEvent, CallEvent.regroup, CellMap.stamp]
      cases found : maps.uretprobeStart.find? (pidOf call.pidTgid) with
      | none =>
          rw [UretprobeMaps.step_exit_lone call found,
            CellMap.erase_of_absent (CellMap.find?_eq_none.mp found)]
      | some started => rw [UretprobeMaps.step_exit_stamped call found]

end MonsaEbpf.S1
