/-
Module: MonsaEbpf.Bpf.MapDump
Layer: Bpf
Purpose: User programs that walk through a hash map with `bpf_map_get_next_key` and look every key up, starting
  from the key zero, while the handlers go on. An entry keeps its place in the kernel's order as long as it is
  not replaced. A map that counts keys never replaces entries, so a walk reads the entry of every key that
  was counted when it began, unless the start key was (`dumpCounts_iff`); what it reads for a key is its count
  at some moment of the walk.
Imports: MonsaEbpf.Lib.MovingCursor, MonsaEbpf.Lib.BoundedCounts
Trusted boundary: the kernel's answers to bpf_map_get_next_key
Main exports: Traversals, Traversals.moments, EntriesStay, Traversals.dump_of_absent,
  Traversals.dump_of_present, countsAlong, DumpsCounts, dumpCounts_iff
-/
import MonsaEbpf.Lib.MovingCursor
import MonsaEbpf.Lib.BoundedCounts

namespace MonsaEbpf

open MovingCursor BoundedCounts

section Maps

variable {K V : Type} [DecidableEq K] {capacity : Nat}

/-- Every entry of one moment is the same entry at the next: entries are added, and changed in place. -/
def EntriesStay (now later : CellMap K V capacity) : Prop :=
  ∀ key cell, now.lookup key = some cell → later.lookup key = some cell

theorem EntriesStay.refl (map : CellMap K V capacity) : EntriesStay map map :=
  fun _ _ found => found

theorem EntriesStay.trans {first second third : CellMap K V capacity} (one : EntriesStay first second)
    (two : EntriesStay second third) : EntriesStay first third :=
  fun key cell found => two key cell (one key cell found)

/-- The orders in which the kernel goes through a map at the moments of a walk. -/
structure Traversals (maps : Nat → CellMap K V capacity) where
  order : Nat → List K
  distinct : ∀ time, (order time).Nodup
  covers : ∀ time key, key ∈ order time ↔ key ∈ (maps time).keys
  keeps : ∀ time, EntriesStay (maps time) (maps (time + 1)) → (order time).Sublist (order (time + 1))

namespace Traversals

variable {maps : Nat → CellMap K V capacity} (traversals : Traversals maps)

/-- What a walk sees of the map at each moment. -/
def moments (time : Nat) : Moment K V where
  order := traversals.order time
  find? := (maps time).find?

/-- The entries that a user program reads which starts from the key `start`. A map has at most `capacity` keys,
so that many questions and one more are enough. -/
def dump (start : K) : Option (List (K × V)) :=
  MovingCursor.dump traversals.moments (capacity + 1) 0 start

theorem length_order (time : Nat) : (traversals.order time).length ≤ capacity := by
  have keys : (traversals.order time).toFinset = (maps time).keys := by
    ext key
    rw [List.mem_toFinset, traversals.covers]
  calc (traversals.order time).length
      = (traversals.order time).toFinset.card :=
        (List.toFinset_card_of_nodup (traversals.distinct time)).symm
    _ = (maps time).keys.card := congrArg Finset.card keys
    _ ≤ capacity := (maps time).bounded

variable (stay : ∀ time, EntriesStay (maps time) (maps (time + 1)))

include stay

theorem growing : Growing traversals.moments where
  distinct := traversals.distinct
  holds time key member := CellMap.mem_keys.mp ((traversals.covers time key).mp member)
  grows time := traversals.keeps time (stay time)

/-- **A walk that starts from an absent key** reads the whole map of its beginning. -/
theorem dump_of_absent {start : K} (absent : start ∉ (maps 0).keys) :
    ∃ entries, traversals.dump start = some entries ∧
      ReadsThrough traversals.moments 0 (2 * (capacity + 1)) entries :=
  dump_absent (growing traversals stay) traversals.length_order
    (fun member => absent ((traversals.covers 0 start).mp member)) (Nat.lt_succ_self capacity)

/-- A walk that starts from a key of the map does not read that key. -/
theorem dump_of_present {start : K} (present : start ∈ (maps 0).keys) :
    ∃ entries, traversals.dump start = some entries ∧ start ∉ entries.map Prod.fst := by
  have here := (traversals.covers 0 start).mpr present
  have later : start ∈ traversals.order (2 * (capacity + 1)) :=
    ((growing traversals stay).sublist (Nat.zero_le _)).subset here
  obtain ⟨before, after, split⟩ := List.append_of_mem later
  have distinct := traversals.distinct (2 * (capacity + 1))
  have length := traversals.length_order (2 * (capacity + 1))
  rw [split, List.length_append, List.length_cons] at length
  obtain ⟨entries, walked, sub, _⟩ :=
    dump_present (growing traversals stay) split here (show after.length < capacity + 1 by omega) (by omega)
  refine ⟨entries, walked, fun again => ?_⟩
  rw [split] at distinct
  exact (List.nodup_cons.mp (List.nodup_append.mp distinct).2.1).1 (sub.subset again)

end Traversals

end Maps

/-! ### Maps that count keys -/

section Counts

variable {K : Type} [DecidableEq K] {capacity w : Nat}

theorem entriesStay_tally (map : CellMap K (BitVec w) capacity) (key : K) : EntriesStay map (map.tally key) := by
  intro other cell found
  cases looked : map.lookup key with
  | none =>
      rw [CellMap.tally, looked]
      exact CellMap.lookup_insert_bound _ looked found
  | some _ =>
      rw [CellMap.tally, looked]
      exact found

theorem entriesStay_tallies (early late : List K) :
    EntriesStay (tallies capacity w early) (tallies capacity w (early ++ late)) := by
  induction late using List.reverseRecOn with
  | nil =>
      rw [List.append_nil]
      exact .refl _
  | append_singleton done key ih =>
      rw [← List.append_assoc, tallies_concat]
      exact ih.trans (entriesStay_tally _ _)

/-- The map at the moments of a walk: `progress` says how many keys were counted before each. -/
def countsAlong (capacity w : Nat) (history : List K) (progress : Nat → Nat) (time : Nat) :
    CellMap K (BitVec w) capacity :=
  tallies capacity w (history.take (progress time))

theorem entriesStay_countsAlong (history : List K) {progress : Nat → Nat} (forward : Monotone progress)
    (time : Nat) :
    EntriesStay (countsAlong capacity w history progress time)
      (countsAlong capacity w history progress (time + 1)) := by
  obtain ⟨more, split⟩ := List.take_prefix_take_left (forward (Nat.le_succ time)) (l := history)
  rw [countsAlong, countsAlong, ← split]
  exact entriesStay_tallies _ _

/-- What a walk should read: no key twice, every key that was tracked when it began, and for each the number of
its occurrences before some moment of the walk. -/
structure DumpsCounts (capacity w : Nat) (history : List K) (progress : Nat → Nat)
    (entries : List (K × BitVec w)) : Prop where
  once : (entries.map Prod.fst).Nodup
  reads : ∀ key ∈ tracked capacity (history.take (progress 0)), key ∈ entries.map Prod.fst
  counts : ∀ entry ∈ entries, ∃ time, time ≤ 2 * (capacity + 1) ∧
    entry.1 ∈ tracked capacity (history.take (progress time)) ∧
    entry.2 = BitVec.ofNat w ((history.take (progress time)).count entry.1)

/-- **A walk reads the counts** exactly if its start key was not tracked when it began, whatever is counted
meanwhile. It ends in any case. -/
theorem dumpCounts_iff {history : List K} {progress : Nat → Nat} (forward : Monotone progress)
    (traversals : Traversals (countsAlong capacity w history progress)) (start : K) :
    ∃ entries, traversals.dump start = some entries ∧
      (DumpsCounts capacity w history progress entries ↔
        start ∉ tracked capacity (history.take (progress 0))) := by
  have stay : ∀ time, EntriesStay (countsAlong capacity w history progress time) _ :=
    entriesStay_countsAlong history forward
  have isKey (time : Nat) (key : K) : key ∈ (countsAlong capacity w history progress time).keys ↔
      key ∈ tracked capacity (history.take (progress time)) := by
    rw [countsAlong, keys_tallies, List.mem_toFinset]
  by_cases present : start ∈ tracked capacity (history.take (progress 0))
  · obtain ⟨entries, walked, missing⟩ := traversals.dump_of_present stay ((isKey 0 start).mpr present)
    exact ⟨entries, walked, iff_of_false (fun dumps => missing (dumps.reads start present))
      (not_not_intro present)⟩
  · obtain ⟨entries, walked, through⟩ := traversals.dump_of_absent stay
      fun bound => present ((isKey 0 start).mp bound)
    refine ⟨entries, walked, iff_of_true ⟨through.once, ?_, ?_⟩ present⟩
    · intro key isTracked
      exact through.reads key ((traversals.covers 0 key).mpr ((isKey 0 key).mpr isTracked))
    · intro entry member
      obtain ⟨time, _, within, held⟩ := through.held entry member
      refine ⟨time, within, ?_⟩
      have read : reading capacity w (history.take (progress time)) entry.1 = some entry.2 := by
        rw [← find?_tallies]
        exact held
      rw [reading] at read
      split at read
      · rename_i isTracked
        exact ⟨isTracked, (Option.some.inj read).symm⟩
      · cases read

end Counts

end MonsaEbpf
