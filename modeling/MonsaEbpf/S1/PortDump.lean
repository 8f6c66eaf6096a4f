/-
Module: MonsaEbpf.S1.PortDump
Layer: S1
Purpose: `print_map` of S1-basic/examples/network/sk_lookup/example_sk_lookup_user.c, which walks through
  `port_counts` with a cursor that starts as the key zero. Zero is a key like any other: if the map has it,
  the walk begins behind it.
Imports: MonsaEbpf.S1.SkLookup, MonsaEbpf.Lib.KeyCursor, MonsaEbpf.Lib.Printf
Trusted boundary: human-reviewed translation, the kernel's answers to bpf_map_get_next_key
Main exports: Traversal, printMapFrom, printMap, entryLine, ListsOnce, DumpsOnce, dumps_once_iff
-/
import MonsaEbpf.S1.SkLookup
import MonsaEbpf.Lib.KeyCursor
import MonsaEbpf.Lib.Printf

namespace MonsaEbpf.S1

open KeyCursor Printf

/-- The order in which the kernel goes through the keys of a map. -/
structure Traversal (map : CellMap U16 U64 1024) where
  order : List U16
  distinct : order.Nodup
  covers : ∀ key, key ∈ order ↔ key ∈ map.keys

/-- `"dport -> lookups\n"`. -/
def headerLine : List Piece :=
  [.text "dport -> lookups\n"]

/-- `"  %u -> %llu\n"`. -/
def entryLine (key : U16) (value : U64) : List Piece :=
  [.text "  ", .number (renderedPort key).toNat, .text " -> ", .number value.toNat, .text "\n"]

/-- The lines that the loop of `print_map` prints from a cursor on; none while it is not over. -/
def printMapFrom (map : CellMap U16 U64 1024) (order : List U16) : Nat → U16 → Option (List (List Piece))
  | 0, _ => none
  | fuel + 1, key =>
      match nextKey order key with
      | none => some []
      | some next =>
          match map.find? next with
          | none => printMapFrom map order fuel next
          | some value => (printMapFrom map order fuel next).map (entryLine next value :: ·)

/-- `print_map`. -/
def printMap (map : CellMap U16 U64 1024) (traversal : Traversal map) (fuel : Nat) :
    Option (List (List Piece)) :=
  (printMapFrom map traversal.order fuel 0).map (headerLine :: ·)

/-- The lines list the entries of a map: each once, with its own value, and nothing else. -/
structure ListsOnce (map : CellMap U16 U64 1024) (lines : List (List Piece)) : Prop where
  once : ∀ key value, map.find? key = some value → lines.count (entryLine key value) = 1
  only : ∀ line ∈ lines, ∃ key value, map.find? key = some value ∧ line = entryLine key value

/-- `print_map` ends, and behind its first line it has listed the entries of the map. -/
def DumpsOnce (map : CellMap U16 U64 1024) (traversal : Traversal map) : Prop :=
  ∀ fuel, traversal.order.length < fuel →
    ∃ lines, printMap map traversal fuel = some (headerLine :: lines) ∧ ListsOnce map lines

/-- The line of an entry of the map. -/
def lineOf? (map : CellMap U16 U64 1024) (key : U16) : Option (List Piece) :=
  (map.find? key).map (entryLine key)

/-- What is printed are the lines of the keys that the walk visits. -/
theorem printMapFrom_eq_walk (map : CellMap U16 U64 1024) (order : List U16) (fuel : Nat) (key : U16) :
    printMapFrom map order fuel key = (walk order fuel key).map (List.filterMap (lineOf? map)) := by
  induction fuel generalizing key with
  | zero => rfl
  | succ fuel ih =>
      rw [printMapFrom, walk]
      cases nextKey order key with
      | none => rfl
      | some next =>
          have visited (keys : List U16) : (next :: keys).filterMap (lineOf? map) =
              (lineOf? map next).toList ++ keys.filterMap (lineOf? map) := by
            rw [List.filterMap_cons]
            cases lineOf? map next <;> rfl
          simp only [ih, Option.map_map, Function.comp_def, visited]
          cases stored : map.find? next with
          | none => simp [lineOf?, stored]
          | some value => simp [lineOf?, stored]

theorem entryLine_inj {first second : U16} {value other : U64}
    (same : entryLine first value = entryLine second other) : first = second := by
  injection same with _ same
  injection same with number _
  injection number with number
  have ports := BitVec.eq_of_toNat_eq number
  rw [← htons_renderedPort first, ports, htons_renderedPort]

section Lines

variable {map : CellMap U16 U64 1024} {keys : List U16}

/-- A key is listed as often as it is visited. -/
theorem count_entryLine (keys : List U16) {key : U16} {value : U64} (stored : map.find? key = some value) :
    (keys.filterMap (lineOf? map)).count (entryLine key value) = keys.count key := by
  rw [List.count_filterMap, List.count_eq_countP]
  refine List.countP_congr fun other _ => ?_
  rw [beq_iff_eq, beq_iff_eq, lineOf?]
  constructor
  · intro listed
    obtain ⟨shown, -, same⟩ := Option.map_eq_some_iff.mp listed
    exact entryLine_inj same
  · rintro rfl
    rw [stored]
    rfl

/-- Only entries are listed. -/
theorem mem_lines {line : List Piece} (member : line ∈ keys.filterMap (lineOf? map)) :
    ∃ key value, map.find? key = some value ∧ line = entryLine key value := by
  obtain ⟨key, -, listed⟩ := List.mem_filterMap.mp member
  obtain ⟨value, stored, same⟩ := Option.map_eq_some_iff.mp listed
  exact ⟨key, value, stored, same.symm⟩

end Lines

section Dump

variable {map : CellMap U16 U64 1024} (traversal : Traversal map)

/-- Without the key zero the walk visits every key. -/
theorem printMap_absent (absent : 0 ∉ map.keys) {fuel : Nat} (enough : traversal.order.length < fuel) :
    printMap map traversal fuel = some (headerLine :: traversal.order.filterMap (lineOf? map)) := by
  have outside : (0 : U16) ∉ traversal.order := fun member => absent ((traversal.covers 0).mp member)
  rw [printMap, printMapFrom_eq_walk, walk_absent traversal.distinct outside enough]
  rfl

/-- With it the walk visits only what lies behind it. -/
theorem printMap_present (present : 0 ∈ map.keys) {fuel : Nat} (enough : traversal.order.length < fuel) :
    ∃ before after, traversal.order = before ++ 0 :: after ∧
      printMap map traversal fuel = some (headerLine :: after.filterMap (lineOf? map)) := by
  obtain ⟨before, after, split⟩ := List.append_of_mem ((traversal.covers 0).mpr present)
  have distinct := traversal.distinct
  rw [split] at distinct enough
  have short : after.length < fuel := by
    rw [List.length_append, List.length_cons] at enough
    omega
  refine ⟨before, after, split, ?_⟩
  rw [printMap, printMapFrom_eq_walk, split, walk_present distinct short]
  rfl

/-- An entry under zero is not listed. -/
theorem not_dumpsOnce (present : 0 ∈ map.keys) : ¬ DumpsOnce map traversal := by
  intro dumps
  obtain ⟨before, after, split, printed⟩ :=
    printMap_present traversal present (Nat.lt_succ_self traversal.order.length)
  obtain ⟨lines, listed, once⟩ := dumps _ (Nat.lt_succ_self traversal.order.length)
  obtain ⟨value, stored⟩ := CellMap.mem_keys.mp present
  have same : lines = after.filterMap (lineOf? map) := by
    rw [printed] at listed
    exact (List.cons.inj (Option.some.inj listed)).2.symm
  have count := once.once 0 value stored
  have behind : (0 : U16) ∉ after := by
    have distinct := traversal.distinct
    rw [split] at distinct
    exact (List.nodup_cons.mp (List.nodup_append.mp distinct).2.1).1
  rw [same, count_entryLine after stored, List.count_eq_zero_of_not_mem behind] at count
  cases count

/-- **`print_map` lists the map once exactly if the map does not have the key zero**, in any order. -/
theorem dumps_once_iff : DumpsOnce map traversal ↔ 0 ∉ map.keys := by
  constructor
  · intro dumps present
    exact not_dumpsOnce traversal present dumps
  · intro absent fuel enough
    refine ⟨_, printMap_absent traversal absent enough, ?_, fun line member => mem_lines member⟩
    intro key value stored
    rw [count_entryLine _ stored]
    exact List.count_eq_one_of_mem traversal.distinct
      ((traversal.covers key).mpr (CellMap.mem_keys.mpr ⟨value, stored⟩))

end Dump

/-- A map that counted one lookup from port zero. -/
def zeroPort : CellMap U16 U64 1024 :=
  CellMap.empty.insert 0 1

theorem keys_zeroPort : zeroPort.keys = {0} :=
  CellMap.keys_insert 1 (Or.inr (by decide))

def zeroPortTraversal : Traversal zeroPort where
  order := [0]
  distinct := List.nodup_singleton 0
  covers key := by rw [keys_zeroPort, List.mem_singleton, Finset.mem_singleton]

/-- That entry is not listed. -/
theorem zeroPort_not_listed : ¬ DumpsOnce zeroPort zeroPortTraversal :=
  not_dumpsOnce zeroPortTraversal (by rw [keys_zeroPort]; exact Finset.mem_singleton_self 0)

end MonsaEbpf.S1
