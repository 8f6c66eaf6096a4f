/-
Module: MonsaEbpf.S1.LiveDumps
Layer: S1
Purpose: The two user programs of S1-basic that print a counter map every second, uprobe and sk_lookup, while
  the handlers go on counting. Counters are changed in place, so a walk loses no entry to them.
Imports: MonsaEbpf.S1.Uprobe, MonsaEbpf.S1.PortDump
Trusted boundary: none
Main exports: portPrintMap, portPrintMap_still, live_dumps_count_iff
-/
import MonsaEbpf.S1.Uprobe
import MonsaEbpf.S1.PortDump

namespace MonsaEbpf.S1

open BoundedCounts Printf

/-- `print_map` of sk_lookup, while lookups are being counted. -/
def portPrintMap {maps : Nat → CellMap U16 U64 1024} (traversals : Traversals maps) :
    Option (List (List Piece)) :=
  (traversals.dump 0).map fun entries =>
    headerLine :: entries.map fun entry => entryLine entry.1 entry.2

/-- A map that does not change while it is walked through. -/
def Traversal.still {map : CellMap U16 U64 1024} (traversal : Traversal map) : Traversals fun _ => map where
  order _ := traversal.order
  distinct _ := traversal.distinct
  covers _ := traversal.covers
  keeps _ _ := List.Sublist.refl _

theorem printMapFrom_eq_dump {map : CellMap U16 U64 1024} (traversal : Traversal map) (fuel now : Nat)
    (key : U16) :
    printMapFrom map traversal.order fuel key =
      (MovingCursor.dump traversal.still.moments fuel now key).map
        (List.map fun entry => entryLine entry.1 entry.2) := by
  induction fuel generalizing now key with
  | zero => rfl
  | succ fuel ih =>
      have order : (traversal.still.moments now).order = traversal.order := rfl
      have reads : (traversal.still.moments (now + 1)).find? = map.find? := rfl
      rw [printMapFrom, MovingCursor.dump, order, reads]
      cases KeyCursor.nextKey traversal.order key with
      | none => rfl
      | some next =>
          simp only [ih (now + 2) next]
          cases map.find? next with
          | none => rfl
          | some value =>
              simp only [Option.map_map]
              rfl

/-- On a map that nobody changes, this is the `print_map` of one moment. -/
theorem portPrintMap_still {map : CellMap U16 U64 1024} (traversal : Traversal map) :
    portPrintMap traversal.still = printMap map traversal 1025 := by
  rw [portPrintMap, Traversals.dump, printMap, printMapFrom_eq_dump traversal 1025 0, Option.map_map]
  rfl

/-! ### The maps of the programs -/

/-- The map that the program of the example has after the first calls. -/
theorem uprobeCount_take (calls : List U64) (progress : Nat → Nat) (time : Nat) :
    (UprobeMaps.run (calls.take (progress time))).uprobeCount =
      countsAlong 1024 64 (calls.map pidOf) progress time := by
  rw [uprobeCount_run, countsAlong, List.map_take]

theorem portCounts_take (lookups : List Lookup) (progress : Nat → Nat) (time : Nat) :
    (PortMaps.run (lookups.take (progress time))).portCounts =
      countsAlong 1024 64 ((remotePorts lookups).map htons) progress time := by
  rw [portCounts_run, countsAlong, remotePorts, remotePorts, List.map_take, List.map_take]

/-- **Printing a counter map while it is being counted in.** Whatever is counted during the walk, in either
program it ends, and its lines are those of no key twice, of every key that was tracked when it began, and of
a count that the key had at some moment of the walk; exactly if zero was not a tracked key. -/
theorem live_dumps_count_iff :
    (∀ (calls : List U64) (progress : Nat → Nat), Monotone progress →
      ∀ traversals : Traversals fun time => (UprobeMaps.run (calls.take (progress time))).uprobeCount,
      ∃ entries, uprobePrintMap traversals =
          some (uprobeHeader :: entries.map fun entry => uprobeLine entry.1 entry.2) ∧
        (DumpsCounts 1024 64 (calls.map pidOf) progress entries ↔
          0 ∉ tracked 1024 ((calls.map pidOf).take (progress 0)))) ∧
    (∀ (lookups : List Lookup) (progress : Nat → Nat), Monotone progress →
      ∀ traversals : Traversals fun time => (PortMaps.run (lookups.take (progress time))).portCounts,
      ∃ entries, portPrintMap traversals =
          some (headerLine :: entries.map fun entry => entryLine entry.1 entry.2) ∧
        (DumpsCounts 1024 64 ((remotePorts lookups).map htons) progress entries ↔
          0 ∉ tracked 1024 (((remotePorts lookups).map htons).take (progress 0)))) := by
  constructor
  · intro calls progress forward
    rw [funext (uprobeCount_take calls progress)]
    intro traversals
    obtain ⟨entries, walked, counts⟩ := dumpCounts_iff forward traversals 0
    exact ⟨entries, congrArg (Option.map _) walked, counts⟩
  · intro lookups progress forward
    rw [funext (portCounts_take lookups progress)]
    intro traversals
    obtain ⟨entries, walked, counts⟩ := dumpCounts_iff forward traversals 0
    exact ⟨entries, congrArg (Option.map _) walked, counts⟩

/-- The processes 1 and 2 call; the process 1 calls again and the process 3 for the first time after the walk has
begun. -/
def siblingCalls : List U64 :=
  [0x100000001, 0x200000002, 0x100000003, 0x300000004]

/-- Two calls before the first step of the walk, all four before the second. -/
def twoThenFour (time : Nat) : Nat :=
  if time = 0 then 2 else 4

theorem twoThenFour_monotone : Monotone twoThenFour := by
  intro early late order
  unfold twoThenFour
  split <;> split <;> omega

/-- The kernel puts the process 3 between the other two. -/
def siblingOrder (time : Nat) : List U32 :=
  if time = 0 then [1, 2] else [1, 3, 2]

theorem keys_siblingCalls (time : Nat) :
    (UprobeMaps.run (siblingCalls.take (twoThenFour time))).uprobeCount.keys = (siblingOrder time).toFinset := by
  rw [uprobeCount_run, keys_tallies, twoThenFour, siblingOrder]
  split <;> decide

def siblingTraversals : Traversals fun time =>
    (UprobeMaps.run (siblingCalls.take (twoThenFour time))).uprobeCount where
  order := siblingOrder
  distinct time := by
    rw [siblingOrder]
    split <;> decide
  covers time key := by rw [keys_siblingCalls, List.mem_toFinset]
  keeps time _ := by
    cases time with
    | zero => decide
    | succ time => exact List.Sublist.refl _

/-- The walk lists the process that was inserted under way, and the new count of the process 1. -/
theorem live_dumps_count_siblings :
    uprobePrintMap siblingTraversals =
        some [uprobeHeader, uprobeLine 1 2, uprobeLine 3 1, uprobeLine 2 1] ∧
      ∃ entries, uprobePrintMap siblingTraversals =
          some (uprobeHeader :: entries.map fun entry => uprobeLine entry.1 entry.2) ∧
        DumpsCounts 1024 64 (siblingCalls.map pidOf) twoThenFour entries := by
  obtain ⟨entries, printed, counts⟩ :=
    live_dumps_count_iff.1 siblingCalls twoThenFour twoThenFour_monotone siblingTraversals
  exact ⟨rfl, entries, printed, counts.mpr (by decide)⟩

end MonsaEbpf.S1
