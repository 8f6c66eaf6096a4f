/-
Module: MonsaEbpf.Bpf.PerCpuCounters
Layer: Bpf
Purpose: Programs that keep their counters in one `BPF_MAP_TYPE_PERCPU_ARRAY` of 64-bit values, and the user
  programs that read it. In the kernel a lookup gives the slot of the running CPU. In user space one lookup
  copies a slot for every possible CPU into the buffer of the caller, however long that buffer is; past its
  end this is a fault.
Imports: MonsaEbpf.Bpf.Packet, MonsaEbpf.Lib.Printf, MonsaEbpf.Lib.Sharded
Trusted boundary: human-reviewed translation
Main exports: PerCpuCounts, bump, PerCpuCounts.total, total_run, slots, copyOut, sumValues, clampedCpus,
  printCounters, printCounters_fits, printCounters_overruns, CounterProgram
-/
import MonsaEbpf.Bpf.Packet
import MonsaEbpf.Lib.Printf
import MonsaEbpf.Lib.Sharded

namespace MonsaEbpf

open Wire Printf

/-- The counter of each CPU at each index. -/
structure PerCpuCounts where
  counts : Nat → Nat → U64

inductive PerCpuCountMap where
  | counts
deriving DecidableEq, Repr

def perCpuCounts (counterMax : Nat) : PerCpuRef PerCpuCountMap PerCpuCounts U64 counterMax where
  name := .counts
  get := PerCpuCounts.counts
  set := fun _ counts => ⟨counts⟩

/-- Nothing counted yet. -/
def PerCpuCounts.initial : PerCpuCounts where
  counts := fun _ _ => 0

/-- `bump`: add one to the counter of the running CPU. -/
def bump (counterMax cpu idx : Nat) : StepProgram (BpfOp PerCpuCountMap) PerCpuCounts Unit := do
  let cnt ← bpfPerCpuLookup (perCpuCounts counterMax) idx
  match cnt with
  | none => return ()
  | some cnt => do
      let _ ← perCpuFetchAndAdd (perCpuCounts counterMax) cpu cnt .whole 1
      return ()

/-- What a bump leaves in the slots of one index. -/
theorem counts_bump {counterMax idx : Nat} (inside : idx < counterMax) (maps : PerCpuCounts)
    (cpu other entry : Nat) :
    ((bump counterMax cpu idx).exec maps).2.counts other entry =
      if other = cpu then maps.counts other entry + if idx = entry then 1 else 0
      else maps.counts other entry := by
  have found : (bpfPerCpuLookup (perCpuCounts counterMax) idx).exec maps = (some idx, maps) := by
    rw [bpfPerCpuLookup, StepProgram.exec_single, if_pos inside]
    rfl
  rw [bump, StepProgram.exec_bind, found]
  change (if other = cpu ∧ entry = idx then maps.counts cpu idx + 1 else maps.counts other entry) = _
  by_cases here : other = cpu
  · by_cases same : entry = idx
    · rw [if_pos ⟨here, same⟩, if_pos here, if_pos same.symm, here, same]
    · rw [if_neg fun both => same both.2, if_pos here, if_neg fun eq => same eq.symm]
      exact (BitVec.add_zero _).symm
  · rw [if_neg fun both => here both.1, if_neg here]

/-! ### Counting programs -/

/-- A program that assigns each event to a counter, bumps it and returns a fixed verdict. -/
structure CounterProgram (E : Type) where
  counterMax : Nat
  index : E → Nat
  verdict : S32
  inside : ∀ event, index event < counterMax

/-- An event on one of the possible CPUs. -/
abbrev Placed (possibleCpus : Nat) (E : Type) := Fin possibleCpus × E

namespace CounterProgram

variable {E : Type} (program : CounterProgram E) {possibleCpus : Nat}

/-- The handler on a CPU. -/
def handler (cpu : Nat) (event : E) : StepProgram (BpfOp PerCpuCountMap) PerCpuCounts S32 := do
  bump program.counterMax cpu (program.index event)
  return program.verdict

/-- Run one handler alone. -/
def step (maps : PerCpuCounts) (placed : Placed possibleCpus E) : PerCpuCounts :=
  ((program.handler placed.1 placed.2).exec maps).2

/-- The map after events that are handled one after another. -/
def run (events : List (Placed possibleCpus E)) : PerCpuCounts :=
  Runs.run program.step .initial events

/-- How many events of a list belong to a counter. -/
def assigned (events : List (Placed possibleCpus E)) (key : Nat) : Nat :=
  events.countP fun placed => program.index placed.2 = key

theorem step_eq_bump (maps : PerCpuCounts) (placed : Placed possibleCpus E) :
    program.step maps placed =
      ((bump program.counterMax placed.1 (program.index placed.2)).exec maps).2 := by
  rw [step, handler, StepProgram.exec_bind]
  rfl

/-- A handler adds to the slot of its CPU, at the index of its event. -/
theorem adds_step (possibleCpus key : Nat) :
    Sharded.Adds (program.step : PerCpuCounts → Placed possibleCpus E → PerCpuCounts)
      (fun maps cpu => maps.counts cpu key) (fun placed => placed.1.val)
      fun placed => if program.index placed.2 = key then (1 : U64) else 0 := by
  intro maps placed other
  simp only [step_eq_bump]
  exact counts_bump (program.inside placed.2) maps placed.1 other key

/-- **The slots of all CPUs together count the events of a counter**, wherever they were placed. -/
theorem sum_counts_run (events : List (Placed possibleCpus E)) (key : Nat) :
    ∑ cpu ∈ Finset.range possibleCpus, (program.run events).counts cpu key =
      (program.assigned events key : U64) := by
  have possible : ∀ placed ∈ events, placed.1.val ∈ Finset.range possibleCpus :=
    fun placed _ => Finset.mem_range.mpr placed.1.isLt
  have sum := Sharded.sum_run (program.adds_step possibleCpus key) _ possible .initial
  have none : ∑ cpu ∈ Finset.range possibleCpus, PerCpuCounts.initial.counts cpu key = 0 :=
    Finset.sum_eq_zero fun _ _ => rfl
  have count := Sharded.sum_indicator (M := U64)
    (fun placed : Placed possibleCpus E => decide (program.index placed.2 = key)) events
  rw [run, sum, none, zero_add, assigned, ← count]
  simp only [decide_eq_true_eq]

end CounterProgram

/-! ### The user programs -/

/-- The slots of the possible CPUs at an index. -/
def PerCpuCounts.slots (maps : PerCpuCounts) (possibleCpus key : Nat) : List U64 :=
  (List.range possibleCpus).map fun cpu => maps.counts cpu key

/-- `bpf_map_lookup_elem` of user space: the slots at a key, none for a key outside the array. -/
def PerCpuCounts.lookupElem (maps : PerCpuCounts) (counterMax possibleCpus key : Nat) : Option (List U64) :=
  if key < counterMax then some (maps.slots possibleCpus key) else none

/-- The bytes that such a lookup writes, 8 for each slot. -/
def slotBytes (possibleCpus : Nat) : Nat := 8 * possibleCpus

/-- Write slots over the start of a buffer. -/
def copyOut (slots buffer : List U64) : Access (List U64) :=
  if slots.length ≤ buffer.length then .ok (slots ++ buffer.drop slots.length)
  else .error (.outOfBounds (8 * buffer.length))

/-- `values[i]`. -/
def loadSlot (values : List U64) (i : Nat) : Access U64 :=
  match values[i]? with
  | some value => .ok value
  | none => .error (.outOfBounds (8 * i))

/-- `total += values[i]`. -/
def addValue (values : List U64) (total : U64) (i : Nat) : Access U64 := do
  let value ← loadSlot values i
  return total + value

/-- `for (i = 0; i < num_cpus; i++) total += values[i]`, from `total = 0`. -/
def sumValues (values : List U64) (numCpus : Nat) : Access U64 :=
  (List.range numCpus).foldlM (addValue values) 0

/-- `num_cpus`: the number of possible CPUs, or 128 when there are more. -/
def clampedCpus (possibleCpus : Nat) : Nat :=
  if possibleCpus > 128 then 128 else possibleCpus

/-- The loop of the readers over their keys: look the key up into the buffer, read the value to show from
it and print the line of the key. A key that is not found prints nothing on the standard output. -/
def printCounters (lookup : Nat → Option (List U64)) (read : List U64 → Access U64) :
    List (U64 → List Piece) → Nat → List U64 → Access (List (List Piece))
  | [], _, _ => .ok []
  | line :: rest, key, buffer =>
      match lookup key with
      | none => printCounters lookup read rest (key + 1) buffer
      | some slots => do
          let values ← copyOut slots buffer
          let value ← read values
          let lines ← printCounters lookup read rest (key + 1) values
          return line value :: lines

/-- The lines that show a value for each key. -/
def counterLines (lines : List (U64 → List Piece)) (key : Nat) (value : Nat → U64) : List (List Piece) :=
  (lines.zipIdx key).map fun line => line.1 (value line.2)

theorem sumValues_succ (values : List U64) (i : Nat) :
    sumValues values (i + 1) = sumValues values i >>= fun total => addValue values total i := by
  rw [sumValues, List.range_succ, List.foldlM_append, ← sumValues]
  exact bind_congr fun total => bind_pure (addValue values total i)

/-- The loop adds up the first values of the buffer. -/
theorem sumValues_take (values : List U64) {numCpus : Nat} (inside : numCpus ≤ values.length) :
    sumValues values numCpus = .ok (values.take numCpus).sum := by
  induction numCpus with
  | zero => rfl
  | succ i ih =>
      have slot : loadSlot values i = .ok values[i] := by
        rw [loadSlot, List.getElem?_eq_getElem (by omega)]
      rw [sumValues_succ, ih (by omega), ← List.take_concat_get' _ _ (by omega), List.sum_append,
        List.sum_singleton]
      change addValue values (values.take i).sum i = _
      rw [addValue, slot]
      rfl

@[simp] theorem length_slots (maps : PerCpuCounts) (possibleCpus key : Nat) :
    (maps.slots possibleCpus key).length = possibleCpus := by
  simp [PerCpuCounts.slots]

theorem sum_slots (maps : PerCpuCounts) (possibleCpus key : Nat) :
    (maps.slots possibleCpus key).sum = ∑ cpu ∈ Finset.range possibleCpus, maps.counts cpu key := rfl

theorem lookupElem_inside (maps : PerCpuCounts) {counterMax key : Nat} (inside : key < counterMax)
    (possibleCpus : Nat) :
    maps.lookupElem counterMax possibleCpus key = some (maps.slots possibleCpus key) := by
  rw [PerCpuCounts.lookupElem, if_pos inside]

theorem copyOut_fits {slots buffer : List U64} (fits : slots.length ≤ buffer.length) :
    copyOut slots buffer = .ok (slots ++ buffer.drop slots.length) := by
  rw [copyOut, if_pos fits]

theorem copyOut_overruns {slots buffer : List U64} (overruns : buffer.length < slots.length) :
    copyOut slots buffer = .error (.outOfBounds (8 * buffer.length)) := by
  rw [copyOut, if_neg (by omega)]

/-- The clamp does not cut the sum when there are at most 128 possible CPUs. -/
theorem sumValues_slots (maps : PerCpuCounts) {possibleCpus : Nat} (few : possibleCpus ≤ 128) (key : Nat)
    (rest : List U64) :
    sumValues (maps.slots possibleCpus key ++ rest) (clampedCpus possibleCpus) =
      .ok (∑ cpu ∈ Finset.range possibleCpus, maps.counts cpu key) := by
  rw [clampedCpus, if_neg (by omega), sumValues_take _ (by simp), ← sum_slots]
  congr 2
  exact List.take_left' (length_slots maps possibleCpus key)

section Readers

variable {maps : PerCpuCounts} {counterMax possibleCpus : Nat} (read : List U64 → Access U64)

/-- **What a reader prints** whose keys are in the array, whose buffer has room for a slot of every possible
CPU, and who reads `value key` from the slots of a key. -/
theorem printCounters_fits {value : Nat → U64}
    (reads : ∀ key rest, read (maps.slots possibleCpus key ++ rest) = .ok (value key))
    (lines : List (U64 → List Piece)) {key : Nat} {buffer : List U64}
    (inside : key + lines.length ≤ counterMax) (fits : possibleCpus ≤ buffer.length) :
    printCounters (maps.lookupElem counterMax possibleCpus) read lines key buffer =
      .ok (counterLines lines key value) := by
  induction lines generalizing key buffer with
  | nil => rfl
  | cons line rest ih =>
      rw [List.length_cons] at inside
      have copied : copyOut (maps.slots possibleCpus key) buffer = _ := copyOut_fits (by simpa using fits)
      have later : printCounters (maps.lookupElem counterMax possibleCpus) read rest (key + 1)
          (maps.slots possibleCpus key ++ buffer.drop (maps.slots possibleCpus key).length) =
            .ok (counterLines rest (key + 1) value) := ih (by omega) (by simp)
      rw [printCounters, lookupElem_inside maps (by omega)]
      simp only [copied, access_ok_bind, reads, later]
      rfl

/-- A reader whose buffer is too short for the slots writes past its end at the first key. -/
theorem printCounters_overruns (line : U64 → List Piece) (rest : List (U64 → List Piece)) {key : Nat}
    {buffer : List U64} (inside : key < counterMax) (overruns : buffer.length < possibleCpus) :
    printCounters (maps.lookupElem counterMax possibleCpus) read (line :: rest) key buffer =
      .error (.outOfBounds (8 * buffer.length)) := by
  have past : copyOut (maps.slots possibleCpus key) buffer = .error (.outOfBounds (8 * buffer.length)) :=
    copyOut_overruns (by simpa using overruns)
  rw [printCounters, lookupElem_inside maps inside]
  simp only [past]
  rfl

end Readers

/-! ### Readers that add up 128 values -/

/-- A reader with `__u64 values[128]` that prints a total for each of its keys. -/
def printTotals (counterMax possibleCpus : Nat) (lines : List (U64 → List Piece)) (maps : PerCpuCounts)
    (values : Vector U64 128) : Access (List (List Piece)) :=
  printCounters (maps.lookupElem counterMax possibleCpus)
    (fun values => sumValues values (clampedCpus possibleCpus)) lines 0 values.toList

/-- `"%s count = %llu\n"`. -/
def countLine (name : String) (count : Nat) : List Piece :=
  [.text name, .text " count = ", .number count, .text "\n"]

theorem countLine_inj {name : String} {first second : Nat} :
    countLine name first = countLine name second ↔ first = second := by
  constructor
  · intro same
    injection same with _ same
    injection same with _ same
    injection same with same
    injection same
  · rintro rfl
    rfl

/-- A 64-bit counter shows a count that is below 2^64. -/
theorem toNat_count_eq_iff (count : Nat) : (count : U64).toNat = count ↔ count < 2 ^ 64 := by
  rw [BitVec.natCast_eq_ofNat, BitVec.toNat_ofNat]
  exact Nat.mod_eq_iff_lt (by decide)

namespace CounterProgram

variable {E : Type} (program : CounterProgram E) {possibleCpus : Nat} {lines : List (U64 → List Piece)}

/-- Up to 128 possible CPUs such a reader prints how many events belong to each counter. -/
theorem printTotals_run (lines : List (U64 → List Piece)) (few : possibleCpus ≤ 128)
    (inside : lines.length ≤ program.counterMax) (events : List (Placed possibleCpus E))
    (values : Vector U64 128) :
    printTotals program.counterMax possibleCpus lines (program.run events) values =
      .ok (counterLines lines 0 fun key => (program.assigned events key : U64)) := by
  have reads (key : Nat) (rest : List U64) :
      sumValues ((program.run events).slots possibleCpus key ++ rest) (clampedCpus possibleCpus) =
        .ok (program.assigned events key : U64) := by
    rw [sumValues_slots _ few, sum_counts_run]
  exact printCounters_fits _ reads lines (by omega) (by simpa using few)

/-- Beyond 128 possible CPUs its first lookup writes past the buffer. -/
theorem printTotals_overruns {counterMax : Nat} (many : 128 < possibleCpus) (nonempty : lines ≠ [])
    (inside : lines.length ≤ counterMax) (maps : PerCpuCounts) (values : Vector U64 128) :
    printTotals counterMax possibleCpus lines maps values = .error (.outOfBounds (8 * 128)) := by
  obtain ⟨line, rest, rfl⟩ := List.exists_cons_of_ne_nil nonempty
  rw [List.length_cons] at inside
  have length : values.toList.length = 128 := values.length_toList
  rw [printTotals, printCounters_overruns _ line rest (by omega) (by omega), length]

/-- **The reader shows the counts exactly up to 128 possible CPUs.** -/
theorem printTotals_run_iff (nonempty : lines ≠ []) (inside : lines.length ≤ program.counterMax)
    (events : List (Placed possibleCpus E)) (values : Vector U64 128) :
    (slotBytes possibleCpus ≤ slotBytes 128 ∧
        printTotals program.counterMax possibleCpus lines (program.run events) values =
          .ok (counterLines lines 0 fun key => (program.assigned events key : U64))) ↔
      possibleCpus ≤ 128 := by
  constructor
  · rintro ⟨-, shown⟩
    by_contra many
    rw [printTotals_overruns (by omega) nonempty inside] at shown
    cases shown
  · intro few
    exact ⟨Nat.mul_le_mul_left 8 few, program.printTotals_run lines few inside events values⟩

end CounterProgram

end MonsaEbpf
