/-
Module: MonsaEbpf.S1.Uprobe
Layer: S1
Purpose: S1-basic/examples/userspace/uprobe: the program that counts the calls of a user function per process
  in `uprobe_count`, and `print_map` of its user program, which walks through the map while the handlers go
  on counting.
Imports: MonsaEbpf.Bpf.Helpers, MonsaEbpf.Bpf.MapDump, MonsaEbpf.Lib.Printf
Trusted boundary: human-reviewed translation
Main exports: UprobeMaps, msbUprobeTarget, UprobeMaps.run, uprobeCount_run, uprobeLine, uprobePrintMap
-/
import MonsaEbpf.Bpf.Helpers
import MonsaEbpf.Bpf.MapDump
import MonsaEbpf.Lib.Printf

namespace MonsaEbpf.S1

open BoundedCounts Printf

/-- The maps of the program. -/
structure UprobeMaps where
  uprobeCount : CellMap U32 U64 1024

inductive UprobeMap where
  | uprobeCount
deriving DecidableEq, Repr

def uprobeCount : MapRef UprobeMap UprobeMaps U32 U64 1024 where
  name := .uprobeCount
  get := UprobeMaps.uprobeCount
  set := fun maps map => { maps with uprobeCount := map }
  get_set := fun _ _ => rfl
  set_get := fun _ => rfl
  set_set := fun _ _ _ => rfl

/-- `msb_uprobe_target`, called by the thread `pidTgid`. -/
def msbUprobeTarget (pidTgid : U64) : StepProgram (BpfOp UprobeMap) UprobeMaps S32 := do
  let pid := pidOf pidTgid
  let cnt ← bpfMapLookupElem uprobeCount pid
  match cnt with
  | none => do
      let _ ← bpfMapUpdateElem uprobeCount pid 1
      return 0
  | some cnt => do
      let _ ← syncFetchAndAdd uprobeCount cnt .whole 1
      return 0

/-! ### Run alone -/

/-- Nothing counted yet. -/
def UprobeMaps.initial : UprobeMaps where
  uprobeCount := .empty

/-- Run one handler alone. -/
def UprobeMaps.step (maps : UprobeMaps) (pidTgid : U64) : UprobeMaps :=
  ((msbUprobeTarget pidTgid).exec maps).2

/-- The maps after calls that are handled one after another. -/
def UprobeMaps.run (calls : List U64) : UprobeMaps :=
  Runs.run UprobeMaps.step .initial calls

/-- A call tallies its process. -/
theorem uprobeCount_step (maps : UprobeMaps) (pidTgid : U64) :
    (maps.step pidTgid).uprobeCount = maps.uprobeCount.tally (pidOf pidTgid) := by
  change ((msbUprobeTarget pidTgid).exec maps).2.uprobeCount = _
  cases found : maps.uprobeCount.lookup (pidOf pidTgid) with
  | none =>
      rw [msbUprobeTarget, exec_lookup_bind S1.uprobeCount found, CellMap.tally, found]
      rfl
  | some cnt =>
      rw [msbUprobeTarget, exec_lookup_bind S1.uprobeCount found, CellMap.tally, found]
      rfl

/-- **The map after a run is the tally of the processes.** -/
theorem uprobeCount_run (calls : List U64) :
    (UprobeMaps.run calls).uprobeCount = tallies 1024 64 (calls.map pidOf) := by
  induction calls using List.reverseRecOn with
  | nil => rfl
  | append_singleton done pidTgid ih =>
      rw [UprobeMaps.run, Runs.run_concat, uprobeCount_step, ← UprobeMaps.run, ih, ← tallies_concat,
        List.map_append]
      rfl

/-! ### The user program -/

/-- `"PID -> calls\n"`. -/
def uprobeHeader : List Piece :=
  [.text "PID -> calls\n"]

/-- `"  pid=%u calls=%llu\n"`. -/
def uprobeLine (pid : U32) (value : U64) : List Piece :=
  [.text "  pid=", .number pid.toNat, .text " calls=", .number value.toNat, .text "\n"]

/-- `print_map`: its first line, then a line for each entry that the walk from the key zero reads. -/
def uprobePrintMap {maps : Nat → CellMap U32 U64 1024} (traversals : Traversals maps) :
    Option (List (List Piece)) :=
  (traversals.dump 0).map fun entries =>
    uprobeHeader :: entries.map fun entry => uprobeLine entry.1 entry.2

end MonsaEbpf.S1
