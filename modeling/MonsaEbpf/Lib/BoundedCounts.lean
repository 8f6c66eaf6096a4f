/-
Module: MonsaEbpf.Lib.BoundedCounts
Layer: Lib
Purpose: A bounded store that counts keys: an absent key is inserted with one, a present key gains one. The
  first `capacity` distinct keys are tracked and count all their occurrences in the arithmetic of the
  values; later keys are never stored (`find?_tallies`).
Imports: MonsaEbpf.Lib.CellMap, MonsaEbpf.Lib.Runs
Trusted boundary: none
Main exports: CellMap.tally, BoundedCounts.tracked, BoundedCounts.tallies, BoundedCounts.find?_tallies,
  BoundedCounts.keys_tallies, BoundedCounts.shown, BoundedCounts.shown_eq_count_iff
-/
import MonsaEbpf.Lib.CellMap
import MonsaEbpf.Lib.Runs

variable {K : Type} [DecidableEq K] {capacity w : Nat}

/-- Insert one under an absent key, add one under a present key. -/
def CellMap.tally (map : CellMap K (BitVec w) capacity) (key : K) : CellMap K (BitVec w) capacity :=
  match map.lookup key with
  | none => map.insert key 1
  | some cell => map.write cell (· + 1)

namespace CellMap

variable {map : CellMap K (BitVec w) capacity} {key other : K}

/-- A stored count grows by one. -/
theorem find?_tally_stored {count : BitVec w} (stored : map.find? key = some count) :
    (map.tally key).find? key = some (count + 1) := by
  obtain ⟨cell, found, _⟩ := exists_lookup_of_find? stored
  have written : (map.write cell (· + 1)).find? key = some (count + 1) := by
    rw [find?_write found, if_pos rfl, stored]
    rfl
  rwa [tally, found]

/-- An absent key is counted once, if there is room. -/
theorem find?_tally_absent (absent : map.find? key = none) :
    (map.tally key).find? key = if map.HasRoom key then some 1 else none := by
  have inserted : (map.insert key 1).find? key = if map.HasRoom key then some 1 else none := by
    by_cases room : map.HasRoom key
    · rw [find?_insert _ room, if_pos rfl, if_pos room]
    · rw [insert_full _ room, if_neg room, absent]
  rwa [tally, find?_eq_none.mp absent]

/-- The counts of other keys stay. -/
theorem find?_tally_ne (different : other ≠ key) : (map.tally key).find? other = map.find? other := by
  cases found : map.lookup key with
  | none =>
      rw [tally, found]
      exact find?_insert_ne _ different
  | some cell =>
      have written : (map.write cell (· + 1)).find? other = map.find? other := by
        rw [find?_write found, if_neg different]
      rwa [tally, found]

end CellMap

namespace BoundedCounts

/-- The first distinct keys of a history, in the order of their first appearance. -/
def tracked (capacity : Nat) (history : List K) : List K :=
  history.eraseDups.take capacity

/-- The store after a history. -/
def tallies (capacity w : Nat) (history : List K) : CellMap K (BitVec w) capacity :=
  Runs.run CellMap.tally .empty history

/-! ### First appearances -/

theorem eraseDups_concat (history : List K) (key : K) :
    (history ++ [key]).eraseDups =
      if key ∈ history then history.eraseDups else history.eraseDups ++ [key] := by
  rw [List.eraseDups_append]
  by_cases again : key ∈ history
  · simp [List.removeAll, again]
  · simp [List.removeAll, again, List.eraseDups_cons]

theorem nodup_eraseDups (history : List K) : history.eraseDups.Nodup := by
  induction history using List.reverseRecOn with
  | nil => exact List.nodup_nil
  | append_singleton done key ih =>
      rw [eraseDups_concat]
      split
      · exact ih
      · rename_i first
        apply List.Nodup.append ih (List.nodup_singleton key)
        exact List.disjoint_singleton.mpr fun member => first (List.mem_eraseDups.mp member)

theorem eraseDups_of_nodup {history : List K} (distinct : history.Nodup) : history.eraseDups = history := by
  induction history using List.reverseRecOn with
  | nil => rfl
  | append_singleton done key ih =>
      obtain ⟨distinctDone, _, apart⟩ := List.nodup_append.mp distinct
      have first : key ∉ done := fun member => apart key member key (List.mem_singleton_self key) rfl
      rw [eraseDups_concat, if_neg first, ih distinctDone]

theorem tracked_nodup (history : List K) : (tracked capacity history).Nodup :=
  (List.take_sublist _ _).nodup (nodup_eraseDups history)

theorem mem_of_tracked {history : List K} {key : K} (member : key ∈ tracked capacity history) :
    key ∈ history :=
  List.mem_eraseDups.mp (List.mem_of_mem_take member)

theorem length_tracked (history : List K) :
    (tracked capacity history).length = min capacity history.eraseDups.length :=
  List.length_take

/-- A key that occurred before starts no entry. -/
theorem tracked_concat_again {history : List K} {key : K} (again : key ∈ history) :
    tracked capacity (history ++ [key]) = tracked capacity history := by
  rw [tracked, eraseDups_concat, if_pos again, tracked]

/-- A new key is tracked while fewer keys are. -/
theorem tracked_concat_new {history : List K} {key : K} (first : key ∉ history)
    (free : (tracked capacity history).length < capacity) :
    tracked capacity (history ++ [key]) = tracked capacity history ++ [key] := by
  rw [length_tracked] at free
  have few : history.eraseDups.length < capacity := by omega
  rw [tracked, eraseDups_concat, if_neg first, tracked, List.take_of_length_le few.le,
    List.take_of_length_le]
  rw [List.length_append, List.length_singleton]
  exact few

/-- Once as many keys are tracked as fit, no further key is. -/
theorem tracked_concat_full {history : List K} {key : K}
    (full : ¬ (tracked capacity history).length < capacity) :
    tracked capacity (history ++ [key]) = tracked capacity history := by
  by_cases again : key ∈ history
  · exact tracked_concat_again again
  · rw [length_tracked] at full
    rw [tracked, eraseDups_concat, if_neg again, tracked, List.take_append_of_le_length (by omega)]

/-- A key that occurred and is not tracked came when the store was full. -/
theorem full_of_untracked {history : List K} {key : K} (again : key ∈ history)
    (untracked : key ∉ tracked capacity history) : ¬ (tracked capacity history).length < capacity := by
  intro free
  rw [length_tracked] at free
  apply untracked
  rw [tracked, List.take_of_length_le (by omega)]
  exact List.mem_eraseDups.mpr again

/-! ### The store -/

theorem tallies_concat (history : List K) (key : K) :
    tallies capacity w (history ++ [key]) = (tallies capacity w history).tally key :=
  Runs.run_concat _ _ _

/-- What the store reads after a history. -/
def reading (capacity w : Nat) (history : List K) (key : K) : Option (BitVec w) :=
  if key ∈ tracked capacity history then some (BitVec.ofNat w (history.count key)) else none

theorem keys_of_reading {history : List K} {map : CellMap K (BitVec w) capacity}
    (reads : ∀ key, map.find? key = reading capacity w history key) :
    map.keys = (tracked capacity history).toFinset := by
  ext key
  rw [CellMap.mem_keys, reads, List.mem_toFinset, reading]
  split <;> simp_all

theorem hasRoom_of_reading {history : List K} {key : K} {map : CellMap K (BitVec w) capacity}
    (reads : ∀ key, map.find? key = reading capacity w history key)
    (untracked : key ∉ tracked capacity history) :
    map.HasRoom key ↔ (tracked capacity history).length < capacity := by
  rw [CellMap.HasRoom, keys_of_reading reads, List.mem_toFinset,
    List.toFinset_card_of_nodup (tracked_nodup history)]
  simp [untracked]

/-- An event does not change what another key reads. -/
theorem reading_other {history : List K} {event key : K} (other : key ≠ event) :
    reading capacity w (history ++ [event]) key = reading capacity w history key := by
  have counts : (history ++ [event]).count key = history.count key := by
    rw [List.count_append, List.count_singleton, beq_false_of_ne (Ne.symm other)]
    rfl
  have same : key ∈ tracked capacity (history ++ [event]) ↔ key ∈ tracked capacity history := by
    by_cases free : (tracked capacity history).length < capacity
    · by_cases again : event ∈ history
      · rw [tracked_concat_again again]
      · rw [tracked_concat_new again free]
        simp [other]
    · rw [tracked_concat_full free]
  rw [reading, reading, counts]
  exact if_congr same rfl rfl

theorem reading_self {history : List K} {key : K}
    (member : key ∈ tracked capacity (history ++ [key])) :
    reading capacity w (history ++ [key]) key = some (BitVec.ofNat w (history.count key) + 1) := by
  rw [reading, if_pos member, List.count_append, List.count_singleton_self, BitVec.ofNat_add]
  rfl

/-- **The first distinct keys are tracked and count all their occurrences.** -/
theorem find?_tallies (history : List K) (key : K) :
    (tallies capacity w history).find? key = reading capacity w history key := by
  induction history using List.reverseRecOn generalizing key with
  | nil => simp [tallies, reading, tracked]
  | append_singleton done event ih =>
      rw [tallies_concat]
      by_cases same : key = event
      · subst same
        by_cases isTracked : key ∈ tracked capacity done
        · have stored := ih key
          rw [reading, if_pos isTracked] at stored
          rw [CellMap.find?_tally_stored stored, reading_self]
          rwa [tracked_concat_again (mem_of_tracked isTracked)]
        · have absent := ih key
          rw [reading, if_neg isTracked] at absent
          rw [CellMap.find?_tally_absent absent]
          by_cases free : (tracked capacity done).length < capacity
          · -- with a free entry an untracked key is new
            have first : key ∉ done := fun again => full_of_untracked again isTracked free
            rw [if_pos ((hasRoom_of_reading ih isTracked).mpr free), reading_self,
              List.count_eq_zero_of_not_mem first]
            · simp
            · rw [tracked_concat_new first free]
              simp
          · rw [if_neg fun room => free ((hasRoom_of_reading ih isTracked).mp room), reading,
              tracked_concat_full free, if_neg isTracked]
      · rw [CellMap.find?_tally_ne same, ih key, reading_other same]

/-- The number that the store shows for a key, zero for an absent one. -/
def shown (map : CellMap K (BitVec w) capacity) (key : K) : Nat :=
  (map.find? key).elim 0 BitVec.toNat

theorem shown_tallies (history : List K) (key : K) :
    shown (tallies capacity w history) key =
      if key ∈ tracked capacity history then history.count key % 2 ^ w else 0 := by
  rw [shown, find?_tallies, reading]
  split
  · exact BitVec.toNat_ofNat _ _
  · rfl

/-- All keys are tracked exactly if there are no more of them than fit. -/
theorem forall_tracked_iff (history : List K) :
    (∀ key ∈ history, key ∈ tracked capacity history) ↔ history.toFinset.card ≤ capacity := by
  have distinct : history.toFinset.card = history.eraseDups.length := by
    rw [← List.toFinset_card_of_nodup (nodup_eraseDups history)]
    congr 1
    ext key
    simp
  rw [distinct]
  constructor
  · intro all
    have within : history.eraseDups ⊆ tracked capacity history := fun key member =>
      all key (List.mem_eraseDups.mp member)
    have fits := ((nodup_eraseDups history).subperm within).length_le
    rw [length_tracked] at fits
    omega
  · intro few key member
    rw [tracked, List.take_of_length_le few]
    exact List.mem_eraseDups.mpr member

/-- **When a store shows the counts of another history of the same length**: exactly when the other history
has the same keys equally often, all of them are tracked, and no count leaves the range of the values. -/
theorem shown_eq_count_iff {history other : List K} (same : other.length = history.length) :
    (∀ key, shown (tallies capacity w history) key = other.count key) ↔
      other.Perm history ∧ history.toFinset.card ≤ capacity ∧ ∀ key, history.count key < 2 ^ w := by
  constructor
  · intro counts
    have atMost : ∀ key, other.count key ≤ history.count key := by
      intro key
      rw [← counts, shown_tallies]
      split
      · exact Nat.mod_le _ _
      · exact Nat.zero_le _
    -- at most as often each, and as often in total
    have within : other.Subperm history := List.subperm_ext_iff.mpr fun key _ => atMost key
    have perm := within.perm_of_length_le (Nat.le_of_eq same.symm)
    have exactly : ∀ key, shown (tallies capacity w history) key = history.count key := by
      intro key
      rw [counts, perm.count_eq]
    refine ⟨perm, (forall_tracked_iff history).mp ?_, ?_⟩
    · intro key member
      by_contra untracked
      have none := exactly key
      rw [shown_tallies, if_neg untracked] at none
      exact absurd (List.count_pos_iff.mpr member) (by omega)
    · intro key
      rw [← exactly, shown_tallies]
      split
      · exact Nat.mod_lt _ (Nat.two_pow_pos w)
      · exact Nat.two_pow_pos w
  · rintro ⟨perm, few, bounded⟩ key
    rw [shown_tallies, perm.count_eq]
    split
    · exact Nat.mod_eq_of_lt (bounded key)
    · rename_i untracked
      have absent : key ∉ history := fun member => untracked ((forall_tracked_iff history).mpr few key member)
      exact (List.count_eq_zero_of_not_mem absent).symm

theorem keys_tallies (history : List K) :
    (tallies capacity w history).keys = (tracked capacity history).toFinset :=
  keys_of_reading (find?_tallies history)

end BoundedCounts
