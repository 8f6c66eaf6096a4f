/-
Module: MonsaEbpf.S1.CgroupDevice
Layer: S1
Purpose: S1-basic/examples/cgroup/cgroup_device: device accesses counted by kind. The kernel passes the kind
  in the upper half of `access_type` and the type of the device in the lower half; the program compares the
  whole field with the kinds, so every access is counted as other.
Imports: MonsaEbpf.Bpf.PerCpuCounters
Trusted boundary: human-reviewed translation, UAPI encoding of access_type
Main exports: AccessKind, DevAccess, msbCgroupDev, cgroupDevice, devPrintStats, AuditsKinds,
  devCounter_accessType, audits_kinds_iff
-/
import MonsaEbpf.Bpf.PerCpuCounters

namespace MonsaEbpf.S1

open Wire Printf

/-- `enum counter_idx`. -/
def DEV_READ_CNT : Nat := 0
def DEV_WRITE_CNT : Nat := 1
def DEV_MKNOD_CNT : Nat := 2
def DEV_OTHER_CNT : Nat := 3

/-- The access kinds of linux/bpf.h. -/
def BPF_DEVCG_ACC_MKNOD : U32 := 1
def BPF_DEVCG_ACC_READ : U32 := 2
def BPF_DEVCG_ACC_WRITE : U32 := 4

/-- The counter that the switch over `ctx->access_type` chooses. -/
def devCounter (accessType : U32) : Nat :=
  if accessType = BPF_DEVCG_ACC_READ then DEV_READ_CNT
  else if accessType = BPF_DEVCG_ACC_WRITE then DEV_WRITE_CNT
  else if accessType = BPF_DEVCG_ACC_MKNOD then DEV_MKNOD_CNT
  else DEV_OTHER_CNT

/-- `msb_cgroup_dev`; of its context it reads `access_type`. -/
def msbCgroupDev (cpu : Nat) (accessType : U32) : StepProgram (BpfOp PerCpuCountMap) PerCpuCounts S32 := do
  let idx := devCounter accessType
  bump 4 cpu idx
  return 1

theorem devCounter_lt (accessType : U32) : devCounter accessType < 4 := by
  unfold devCounter
  split
  · decide
  · split
    · decide
    · split <;> decide

/-- The program as a counting program. -/
def cgroupDevice : CounterProgram U32 where
  counterMax := 4
  index := devCounter
  verdict := 1
  inside := devCounter_lt

theorem cgroupDevice_handler : cgroupDevice.handler = msbCgroupDev := rfl

/-! ### The user program -/

/-- The lines of `print_stats`, by key. -/
def devLines : List (U64 → List Piece) :=
  ["read", "write", "mknod", "other"].map fun name total => countLine name total.toNat

/-- `print_stats`. -/
def devPrintStats (possibleCpus : Nat) (maps : PerCpuCounts) (values : Vector U64 128) :
    Access (List (List Piece)) :=
  printTotals 4 possibleCpus devLines maps values

/-! ### Accesses -/

/-- What is attempted on a device. -/
inductive AccessKind where
  | mknod
  | read
  | write
deriving DecidableEq, Repr

/-- The access bit of a kind. -/
def AccessKind.bit : AccessKind → U32
  | .mknod => BPF_DEVCG_ACC_MKNOD
  | .read => BPF_DEVCG_ACC_READ
  | .write => BPF_DEVCG_ACC_WRITE

/-- One access to a device of a type. -/
structure DevAccess where
  kind : AccessKind
  devType : U16
deriving DecidableEq, Repr

/-- `(BPF_DEVCG_ACC_* << 16) | BPF_DEVCG_DEV_*`. -/
def DevAccess.accessType (access : DevAccess) : U32 :=
  (access.kind.bit <<< 16) ||| access.devType.setWidth 32

/-- The context of each access, on its CPU. -/
def accessTypes {possibleCpus : Nat} (accesses : List (Placed possibleCpus DevAccess)) :
    List (Placed possibleCpus U32) :=
  accesses.map fun placed => (placed.1, placed.2.accessType)

/-- How many accesses are of a kind. -/
def countKind {possibleCpus : Nat} (kind : AccessKind) (accesses : List (Placed possibleCpus DevAccess)) :
    Nat :=
  accesses.countP fun placed => placed.2.kind = kind

/-- The program audits the kinds of accesses: it shows the number of each kind and no others. -/
def AuditsKinds {possibleCpus : Nat} (accesses : List (Placed possibleCpus DevAccess))
    (values : Vector U64 128) : Prop :=
  devPrintStats possibleCpus (cgroupDevice.run (accessTypes accesses)) values =
    .ok [countLine "read" (countKind .read accesses), countLine "write" (countKind .write accesses),
      countLine "mknod" (countKind .mknod accesses), countLine "other" 0]

/-- The kind stands in the upper half of the field. -/
theorem accessType_large (access : DevAccess) : 65536 ≤ access.accessType.toNat := by
  rw [DevAccess.accessType, BitVec.toNat_or]
  have upper : 65536 ≤ (access.kind.bit <<< 16).toNat := by
    cases access.kind <;> decide
  exact upper.trans Nat.left_le_or

/-- **Every access is counted as other.** -/
theorem devCounter_accessType (access : DevAccess) : devCounter access.accessType = DEV_OTHER_CNT := by
  have large := accessType_large access
  have differs (kind : U32) (small : kind.toNat < 65536) : access.accessType ≠ kind := by
    rintro rfl
    omega
  rw [devCounter, if_neg (differs _ (by decide)), if_neg (differs _ (by decide)),
    if_neg (differs _ (by decide))]

/-- Every access has one of the three kinds. -/
theorem countKind_add {possibleCpus : Nat} (accesses : List (Placed possibleCpus DevAccess)) :
    countKind .read accesses + countKind .write accesses + countKind .mknod accesses = accesses.length := by
  induction accesses with
  | nil => rfl
  | cons placed rest ih =>
      rw [List.length_cons, ← ih]
      simp only [countKind, List.countP_cons]
      cases placed.2.kind <;> simp <;> omega

/-- The counter of a key other than the last stays empty. -/
theorem assigned_accessTypes {possibleCpus key : Nat} (listed : key ≠ DEV_OTHER_CNT)
    (accesses : List (Placed possibleCpus DevAccess)) :
    cgroupDevice.assigned (accessTypes accesses) key = 0 := by
  rw [CounterProgram.assigned, List.countP_eq_zero]
  intro placed member
  obtain ⟨access, -, rfl⟩ := List.mem_map.mp member
  have other : cgroupDevice.index access.2.accessType = DEV_OTHER_CNT := devCounter_accessType access.2
  simpa [other] using listed.symm

/-- What the reader shows: nothing under the three kinds. -/
theorem devPrintStats_run {possibleCpus : Nat} (few : possibleCpus ≤ 128)
    (accesses : List (Placed possibleCpus DevAccess)) (values : Vector U64 128) :
    ∃ other, devPrintStats possibleCpus (cgroupDevice.run (accessTypes accesses)) values =
      .ok [countLine "read" 0, countLine "write" 0, countLine "mknod" 0, countLine "other" other] := by
  have shown := cgroupDevice.printTotals_run devLines few (by decide) (accessTypes accesses) values
  refine ⟨(cgroupDevice.assigned (accessTypes accesses) 3 : U64).toNat, shown.trans ?_⟩
  have empty (key : Nat) (listed : key ≠ DEV_OTHER_CNT) :
      (cgroupDevice.assigned (accessTypes accesses) key : U64) = 0 := by
    rw [assigned_accessTypes listed, Nat.cast_zero]
  have lines (value : Nat → U64) : counterLines devLines 0 value =
      [countLine "read" (value 0).toNat, countLine "write" (value 1).toNat,
        countLine "mknod" (value 2).toNat, countLine "other" (value 3).toNat] := rfl
  rw [lines, empty 0 (by decide), empty 1 (by decide), empty 2 (by decide)]
  rfl

/-- **The program audits the kinds of accesses only when there are none.** -/
theorem audits_kinds_iff {possibleCpus : Nat} (few : possibleCpus ≤ 128)
    (accesses : List (Placed possibleCpus DevAccess)) (values : Vector U64 128) :
    AuditsKinds accesses values ↔ accesses = [] := by
  constructor
  · intro audits
    obtain ⟨other, shown⟩ := devPrintStats_run few accesses values
    rw [AuditsKinds, shown] at audits
    have same := Except.ok.inj audits
    simp only [List.cons.injEq, countLine_inj] at same
    have all := countKind_add accesses
    exact List.eq_nil_of_length_eq_zero (by omega)
  · rintro rfl
    have shown := cgroupDevice.printTotals_run devLines few (by decide) [] values
    exact shown

/-- The kinds are audited while nothing has happened, and not after a read, a write and a mknod of character and
block devices on two CPUs. -/
theorem audits_kinds_none_of_three :
    AuditsKinds ([] : List (Placed 2 DevAccess)) (Vector.replicate 128 0) ∧
      ¬ AuditsKinds [((0 : Fin 2), ⟨.read, 2⟩), (1, ⟨.write, 1⟩), (0, ⟨.mknod, 2⟩)]
        (Vector.replicate 128 0) := by
  refine ⟨(audits_kinds_iff (by decide) [] _).mpr rfl, ?_⟩
  intro audits
  have none := (audits_kinds_iff (by decide) _ _).mp audits
  cases none

/-- One read of a character device is not shown as a read. -/
theorem audits_no_read : ¬ AuditsKinds [((0 : Fin 1), ⟨.read, 2⟩)] (Vector.replicate 128 0) := by
  intro audits
  obtain ⟨other, shown⟩ := devPrintStats_run (by decide) [((0 : Fin 1), ⟨.read, 2⟩)] (Vector.replicate 128 0)
  rw [AuditsKinds, shown] at audits
  have same := Except.ok.inj audits
  simp only [List.cons.injEq, countLine_inj] at same
  exact absurd same.1 (by decide)

end MonsaEbpf.S1
