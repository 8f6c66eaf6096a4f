/-
Module: MonsaEbpf.S2.StaleRecords
Layer: S2
Purpose: What the records of the S2 kprobe, kretprobe and uprobe programs let through of the memory they are
  written over. Each program writes all fields of its record but copies a name into `func_name` that is
  shorter than the field; two runs that differ in the previous contents of the reserved memory submit the same
  record exactly when those contents agree on the bytes behind the name.
Imports: MonsaEbpf.S2.Kretprobe, MonsaEbpf.S2.Uprobe
Trusted boundary: none
Main exports: SameBehind, getElem_memcpy, memcpy_eq_iff, kprobeSubmitted,
  kretprobeSubmitted, uprobeSubmitted, kprobe_submitted, kretprobe_submitted,
  uprobe_submitted, records_same_iff
-/
import MonsaEbpf.S2.Kretprobe
import MonsaEbpf.S2.Uprobe

namespace MonsaEbpf

/-! ### Partial copies -/

/-- Two arrays agree from position `start` on. -/
def SameBehind {n : Nat} (start : Nat) (first second : Vector U8 n) : Prop :=
  ∀ i, (inside : i < n) → start ≤ i → first[i] = second[i]

section Memcpy

variable {n : Nat} (target : Vector U8 n) (source : List U8) {i : Nat} (inside : i < n)

/-- A copy takes the bytes of the source as far as it goes, and leaves those of the target behind it. -/
theorem getElem_memcpy :
    (memcpy target source)[i] = if covered : i < source.length then source[i] else target[i] := by
  rw [memcpy, Vector.getElem_ofFn]
  split
  · rename_i covered
    exact (List.getD_eq_getElem?_getD ..).trans (by rw [List.getElem?_eq_getElem covered]; rfl)
  · rename_i beyond
    exact (List.getD_eq_getElem?_getD ..).trans
      (by rw [List.getElem?_eq_none (Nat.le_of_not_lt beyond)]; rfl)

/-- Copies over two targets agree exactly when the targets agree behind the source. -/
theorem memcpy_eq_iff (first second : Vector U8 n) :
    memcpy first source = memcpy second source ↔ SameBehind source.length first second := by
  rw [Vector.ext_iff]
  refine forall₂_congr fun i inside => ?_
  rw [getElem_memcpy first source inside, getElem_memcpy second source inside]
  by_cases covered : i < source.length
  · rw [dif_pos covered, dif_pos covered]
    exact iff_of_true rfl fun beyond => absurd covered (Nat.not_lt.mpr beyond)
  · rw [dif_neg covered, dif_neg covered]
    exact ⟨fun same _ => same, fun same => same (Nat.le_of_not_lt covered)⟩

end Memcpy

/-- A handler that counts and sends a record: the record is the last one in the ring. -/
theorem events_countAndEmit {μ σ K E α : Type} [DecidableEq K] {maxEntries : Nat}
    {counts : MapRef μ σ K U64 maxEntries} {ring : RingRef σ E} (apart : ring.Apart counts) (key : K)
    (memory : E) (fill : U64 → E → E) (verdict : α) (shared : σ) :
    ring.get ((countAndEmit counts ring key (some memory) fill verdict).exec shared).2 =
      ring.get shared ++ [fill (countFrom (counts.get shared) key) memory] := by
  rw [countAndEmit, StepProgram.exec_bind, exec_countEvent, exec_emitEvent]
  exact (apart.ring_get_set _ _).trans (by rw [apart.ring_get_map])

namespace S2

/-! ### The three programs -/

/-- The record that `msb_kprobe_execve` submits when it gets `memory`: the last one in the ring buffer. -/
def kprobeSubmitted (call : KprobeCall) (maps : KprobeMaps) (memory : KprobeEvent) : Option KprobeEvent :=
  ((msbKprobeExecve { call with reserved := some memory }).exec maps).2.kprobeEvents.getLast?

/-- The record that `msb_kretprobe_openat_exit` submits. -/
def kretprobeSubmitted (call : KretprobeCall) (maps : KretprobeMaps) (memory : KretprobeEvent) :
    Option KretprobeEvent :=
  ((msbKretprobeOpenatExit call (some memory)).exec maps).2.kretprobeEvents.getLast?

/-- The record that `msb_uprobe_entry` submits. -/
def uprobeSubmitted (call : UprobeCall) (maps : UprobeMaps) (memory : UprobeEvent) : Option UprobeEvent :=
  (uprobeEvents.get ((msbUprobeEntry { call with reserved := some memory }).exec maps).2).getLast?

/-! ### What they submit -/

theorem msbKprobeExecve_eq (call : KprobeCall) :
    msbKprobeExecve call =
      countAndEmit kprobeCounts kprobeEvents (pidOf call.task.pidTgid) call.reserved call.fill 0 := by
  rw [msbKprobeExecve, ← funext (emitEvent_fill call)]
  rfl

theorem kprobe_submitted (call : KprobeCall) (maps : KprobeMaps) (memory : KprobeEvent) :
    kprobeSubmitted call maps memory =
      some (call.fill (countFrom maps.kprobeCounts (pidOf call.task.pidTgid)) memory) := by
  have ring := events_countAndEmit kprobe_apart (pidOf call.task.pidTgid) memory call.fill (0 : S32) maps
  rw [kprobeSubmitted, msbKprobeExecve_eq]
  exact (congrArg List.getLast? ring).trans List.getLast?_concat

theorem uprobe_submitted (call : UprobeCall) (maps : UprobeMaps) (memory : UprobeEvent) :
    uprobeSubmitted call maps memory =
      some (call.fill (countFrom (uprobeCounts.get maps) (pidOf call.task.pidTgid)) memory) := by
  have ring := events_countAndEmit CounterMaps.apart (pidOf call.task.pidTgid) memory call.fill (0 : S32) maps
  exact (congrArg List.getLast? ring).trans List.getLast?_concat

/-- The latency in the record of an exit does not depend on the reserved memory. -/
theorem kretprobe_submitted (call : KretprobeCall) (maps : KretprobeMaps) :
    ∃ latency, ∀ memory, kretprobeSubmitted call maps memory =
      some (exitEvent call (isErrorRetval call.ptRegsRc) latency memory) := by
  have emits (shared : KretprobeMaps) (isErr : U8) (latency : U64) (memory : KretprobeEvent) :
      ((emitExit call (some memory) isErr latency).exec shared).2.kretprobeEvents.getLast? =
        some (exitEvent call isErr latency memory) := List.getLast?_concat
  refine ⟨((exitLatency call).exec maps).1, fun memory => ?_⟩
  rw [kretprobeSubmitted, msbKretprobeOpenatExit, StepProgram.exec_bind, StepProgram.exec_bind]
  split
  · exact emits _ _ _ memory
  · rw [StepProgram.exec_bind]
    exact emits _ _ _ memory

/-! ### What they let through -/

/-- The records of two memories are the same exactly when the copied names are: every other field is
written. -/
theorem kprobe_fill_eq_iff (call : KprobeCall) (count : U64) (first second : KprobeEvent) :
    call.fill count first = call.fill count second ↔
      memcpy first.funcName execveName = memcpy second.funcName execveName := by
  rw [KprobeCall.fill, KprobeCall.fill, KprobeEvent.mk.injEq]
  simp only [true_and]

theorem uprobe_fill_eq_iff (call : UprobeCall) (count : U64) (first second : UprobeEvent) :
    call.fill count first = call.fill count second ↔
      memcpy first.funcName userFunctionName = memcpy second.funcName userFunctionName := by
  rw [UprobeCall.fill, UprobeCall.fill, UprobeEvent.mk.injEq]
  simp only [true_and]

theorem exitEvent_eq_iff (call : KretprobeCall) (isErr : U8) (latency : U64)
    (first second : KretprobeEvent) :
    exitEvent call isErr latency first = exitEvent call isErr latency second ↔
      memcpy first.funcName openatName = memcpy second.funcName openatName := by
  rw [exitEvent, exitEvent, KretprobeEvent.mk.injEq]
  simp only [true_and]

theorem kprobe_same_iff (call : KprobeCall) (maps : KprobeMaps) (first second : KprobeEvent) :
    kprobeSubmitted call maps first = kprobeSubmitted call maps second ↔
      SameBehind 17 first.funcName second.funcName := by
  rw [kprobe_submitted, kprobe_submitted, Option.some.injEq, kprobe_fill_eq_iff]
  exact memcpy_eq_iff execveName _ _

theorem kretprobe_same_iff (call : KretprobeCall) (maps : KretprobeMaps)
    (first second : KretprobeEvent) :
    kretprobeSubmitted call maps first = kretprobeSubmitted call maps second ↔
      SameBehind 17 first.funcName second.funcName := by
  obtain ⟨latency, submitted⟩ := kretprobe_submitted call maps
  rw [submitted, submitted, Option.some.injEq, exitEvent_eq_iff]
  exact memcpy_eq_iff openatName _ _

theorem uprobe_same_iff (call : UprobeCall) (maps : UprobeMaps) (first second : UprobeEvent) :
    uprobeSubmitted call maps first = uprobeSubmitted call maps second ↔
      SameBehind 14 first.funcName second.funcName := by
  rw [uprobe_submitted, uprobe_submitted, Option.some.injEq, uprobe_fill_eq_iff]
  exact memcpy_eq_iff userFunctionName _ _

/-- **Two runs submit the same record exactly when the previous contents of the reserved memory agree on
`func_name` behind the name that is copied into it**: 17 bytes in the kprobe and kretprobe programs, 14 in the
uprobe program. -/
theorem records_same_iff (execve : KprobeCall) (kprobeMaps : KprobeMaps)
    (firstExecve secondExecve : KprobeEvent) (openat : KretprobeCall) (kretprobeMaps : KretprobeMaps)
    (firstOpenat secondOpenat : KretprobeEvent) (entry : UprobeCall) (uprobeMaps : UprobeMaps)
    (firstEntry secondEntry : UprobeEvent) :
    (kprobeSubmitted execve kprobeMaps firstExecve =
        kprobeSubmitted execve kprobeMaps secondExecve ↔
      SameBehind 17 firstExecve.funcName secondExecve.funcName) ∧
    (kretprobeSubmitted openat kretprobeMaps firstOpenat =
        kretprobeSubmitted openat kretprobeMaps secondOpenat ↔
      SameBehind 17 firstOpenat.funcName secondOpenat.funcName) ∧
    (uprobeSubmitted entry uprobeMaps firstEntry =
        uprobeSubmitted entry uprobeMaps secondEntry ↔
      SameBehind 14 firstEntry.funcName secondEntry.funcName) :=
  ⟨kprobe_same_iff execve kprobeMaps firstExecve secondExecve,
    kretprobe_same_iff openat kretprobeMaps firstOpenat secondOpenat,
    uprobe_same_iff entry uprobeMaps firstEntry secondEntry⟩

/-- A task of PID 1. -/
def pidOne : Task where
  pidTgid := 0x100000001
  uidGid := 0
  cgroupId := 0
  comm := Vector.replicate 16 0

def execveOfPidOne : KprobeCall where
  task := pidOne
  ktimeGetNs := 5
  ptRegsParm1 := 0
  ptRegsParm2 := 0
  ptRegsParm3 := 0
  reserved := none

def openatOfPidOne : KretprobeCall where
  task := pidOne
  ktimeGetNs := 5
  ptRegsRc := 3

def entryOfPidOne : UprobeCall where
  task := pidOne
  ktimeGetNs := 5
  ptRegsParm1 := 0
  ptRegsParm2 := 0
  ptRegsParm3 := 0
  reserved := none

/-- Reserved memory of zeros, except that `func_name` is full of `byte`. -/
def kprobeMemory (byte : U8) : KprobeEvent where
  timestampNs := 0
  pid := 0
  tid := 0
  ppid := 0
  uid := 0
  gid := 0
  cgroupId := 0
  comm := Vector.replicate 16 0
  arg0 := 0
  arg1 := 0
  arg2 := 0
  count := 0
  funcName := Vector.replicate 32 byte

def kretprobeMemory (byte : U8) : KretprobeEvent where
  timestampNs := 0
  latencyNs := 0
  pid := 0
  tid := 0
  uid := 0
  gid := 0
  cgroupId := 0
  comm := Vector.replicate 16 0
  retval := 0
  isError := 0
  errorCode := 0
  funcName := Vector.replicate 32 byte

def uprobeMemory (byte : U8) : UprobeEvent where
  timestampNs := 0
  pid := 0
  tid := 0
  uid := 0
  gid := 0
  cgroupId := 0
  comm := Vector.replicate 16 0
  arg0 := 0
  arg1 := 0
  arg2 := 0
  count := 0
  funcName := Vector.replicate 32 byte

/-- The last byte of `func_name` in each record is what the memory held there. -/
theorem records_carry_stale_bytes :
    kprobeSubmitted execveOfPidOne .initial (kprobeMemory 0) ≠
        kprobeSubmitted execveOfPidOne .initial (kprobeMemory 0x41) ∧
      kretprobeSubmitted openatOfPidOne .initial (kretprobeMemory 0) ≠
        kretprobeSubmitted openatOfPidOne .initial (kretprobeMemory 0x41) ∧
      uprobeSubmitted entryOfPidOne .initial (uprobeMemory 0) ≠
        uprobeSubmitted entryOfPidOne .initial (uprobeMemory 0x41) := by
  refine ⟨fun same => ?_, fun same => ?_, fun same => ?_⟩
  · have last := congrArg (Option.map fun event => event.funcName[31]) same
    revert last
    decide
  · have last := congrArg (Option.map fun event => event.funcName[31]) same
    revert last
    decide
  · have last := congrArg (Option.map fun event => event.funcName[31]) same
    revert last
    decide

end S2

end MonsaEbpf
