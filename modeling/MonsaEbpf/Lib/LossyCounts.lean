/-
Module: MonsaEbpf.Lib.LossyCounts
Layer: Lib
Purpose: Counters under keys in a store that may drop keys, or refuse a new one, whenever an event is counted.
  A dropped key starts again at one. Whatever is dropped, no counter exceeds the number of events of its key,
  and all counters together do not exceed the number of events; a run that loses nothing counts exactly.
Imports: MonsaEbpf.Lib.Runs
Trusted boundary: none
Main exports: LossyCounts.value, LossyCounts.next, LossyCounts.Tallies, LossyCounts.Counting,
  LossyCounts.NothingLost, LossyCounts.value_run_le, LossyCounts.mem_of_stored,
  LossyCounts.value_run_eq, LossyCounts.sum_value_le
-/
import Mathlib.Algebra.BigOperators.Group.Finset.Basic
import Mathlib.Algebra.Order.BigOperators.Group.Finset
import Mathlib.Data.BitVec
import MonsaEbpf.Lib.Runs

namespace LossyCounts

variable {σ E K : Type} {w : Nat}

/-- The number that is stored, zero for nothing. -/
def value (stored : Option (BitVec w)) : Nat :=
  stored.elim 0 BitVec.toNat

/-- The counter after one more event: an absent one starts at one. -/
def next (stored : Option (BitVec w)) : BitVec w :=
  stored.elim 1 (· + 1)

/-- One event of a key is counted, or the key is refused or lost; another key keeps its counter or is
dropped. -/
structure Tallies (before after : K → Option (BitVec w)) (key : K) : Prop where
  own : after key = none ∨ after key = some (next (before key))
  others : ∀ other, other ≠ key → after other = none ∨ after other = before other

/-- A step counts the events that have a key and leaves the store alone at the others. -/
def Counting (step : σ → E → σ) (find : σ → K → Option (BitVec w)) (key? : E → Option K) : Prop :=
  ∀ state event,
    match key? event with
    | none => find (step state event) = find state
    | some key => Tallies (find state) (find (step state event)) key

/-- No key of the store is dropped in a step, and the key of the event is there after it. -/
structure Keeps (before after : K → Option (BitVec w)) (key : Option K) : Prop where
  kept : ∀ other, (before other).isSome → (after other).isSome
  entered : ∀ own, key = some own → (after own).isSome

/-- No step of a run loses a key. -/
def NothingLost (step : σ → E → σ) (find : σ → K → Option (BitVec w)) (key? : E → Option K)
    (initial : σ) (events : List E) : Prop :=
  ∀ done event rest, events = done ++ event :: rest →
    Keeps (find (Runs.run step initial done)) (find (Runs.run step initial (done ++ [event]))) (key? event)

/-! ### One event -/

theorem toNat_next (stored : Option (BitVec w)) : (next stored).toNat = (value stored + 1) % 2 ^ w := by
  have one : (1 : BitVec w).toNat = 1 % 2 ^ w := BitVec.toNat_ofNat 1 w
  cases stored with
  | none => exact one
  | some count =>
      change (count + 1).toNat = (count.toNat + 1) % 2 ^ w
      rw [BitVec.toNat_add, one, Nat.add_mod_mod]

section Step

variable {before after : K → Option (BitVec w)} {key : K} [DecidableEq K]

/-- A step that stores a counter under its key and changes nothing else keeps all keys. -/
theorem Keeps.of_stored {count : BitVec w}
    (stored : ∀ other, after other = if other = key then some count else before other) :
    Keeps before after (some key) := by
  constructor
  · intro other present
    rw [stored other]
    split
    · rfl
    · exact present
  · rintro _ ⟨⟩
    rw [stored key, if_pos rfl]
    rfl

/-- An event raises its own counter by at most one and no other. -/
theorem Tallies.value_le (tallies : Tallies before after key) (other : K) :
    value (after other) ≤ value (before other) + if key = other then 1 else 0 := by
  by_cases same : key = other
  · subst same
    rw [if_pos rfl]
    rcases tallies.own with lost | counted
    · rw [lost]
      exact Nat.zero_le _
    · rw [counted]
      change (next (before key)).toNat ≤ _
      rw [toNat_next]
      exact Nat.mod_le _ _
  · rw [if_neg same]
    rcases tallies.others other (Ne.symm same) with dropped | untouched
    · rw [dropped]
      exact Nat.zero_le _
    · rw [untouched]
      exact Nat.le_refl _

/-- An event that loses nothing raises its own counter by one, below the width. -/
theorem Tallies.value_eq (tallies : Tallies before after key) (keeps : Keeps before after (some key))
    (small : value (before key) + 1 < 2 ^ w) (other : K) :
    value (after other) = value (before other) + if key = other then 1 else 0 := by
  by_cases same : key = other
  · subst same
    rw [if_pos rfl]
    rcases tallies.own with lost | counted
    · have present := keeps.entered key rfl
      rw [lost] at present
      cases present
    · rw [counted]
      change (next (before key)).toNat = _
      rw [toNat_next, Nat.mod_eq_of_lt small]
  · rw [if_neg same]
    rcases tallies.others other (Ne.symm same) with dropped | untouched
    · cases stored : before other with
      | none => rw [dropped, Nat.add_zero]
      | some count =>
          have present := keeps.kept other (by rw [stored]; rfl)
          rw [dropped] at present
          cases present
    · rw [untouched, Nat.add_zero]

end Step

/-! ### Runs -/

section Runs

variable [DecidableEq K] {step : σ → E → σ} {find : σ → K → Option (BitVec w)} {key? : E → Option K}
  (counting : Counting step find key?)

/-- The occurrences of a key in one more event. -/
theorem count_concat (events : List E) (event : E) (key : K) :
    ((events ++ [event]).filterMap key?).count key =
      (events.filterMap key?).count key + if key? event = some key then 1 else 0 := by
  rw [List.filterMap_append, List.count_append]
  cases found : key? event with
  | none => simp [found]
  | some own => simp [found, List.count_singleton]

variable {initial : σ} (empty : ∀ key, find initial key = none)

include counting empty

/-- **A counter never exceeds the number of events of its key.** -/
theorem value_run_le (events : List E) (key : K) :
    value (find (Runs.run step initial events) key) ≤ (events.filterMap key?).count key := by
  induction events using List.reverseRecOn with
  | nil =>
      rw [Runs.run_nil, empty]
      exact Nat.zero_le _
  | append_singleton done event ih =>
      have counts := counting (Runs.run step initial done) event
      rw [Runs.run_concat, count_concat]
      cases found : key? event with
      | none =>
          simp only [found] at counts
          rw [counts, if_neg (by simp), Nat.add_zero]
          exact ih
      | some own =>
          simp only [found] at counts
          have raised := counts.value_le key
          simp only [Option.some.injEq]
          omega

/-- A key in the store has been the key of an event. -/
theorem mem_of_stored {events : List E} {key : K}
    (stored : (find (Runs.run step initial events) key).isSome) : key ∈ events.filterMap key? := by
  by_contra never
  induction events using List.reverseRecOn with
  | nil =>
      rw [Runs.run_nil, empty] at stored
      cases stored
  | append_singleton done event ih =>
      rw [List.filterMap_append, List.mem_append, not_or] at never
      have earlier : find (Runs.run step initial done) key = none :=
        Option.not_isSome_iff_eq_none.mp fun present => ih present never.1
      have counts := counting (Runs.run step initial done) event
      rw [Runs.run_concat] at stored
      cases found : key? event with
      | none =>
          simp only [found] at counts
          rw [counts, earlier] at stored
          cases stored
      | some own =>
          simp only [found] at counts
          have other : key ≠ own := by
            rintro rfl
            exact never.2 (by simp [found])
          rcases counts.others key other with dropped | untouched
          · rw [dropped] at stored
            cases stored
          · rw [untouched, earlier] at stored
            cases stored

/-- **A run that loses nothing counts exactly**, as long as no key has 2^w events. -/
theorem value_run_eq {events : List E} (few : events.length < 2 ^ w)
    (nothingLost : NothingLost step find key? initial events) (key : K) :
    value (find (Runs.run step initial events) key) = (events.filterMap key?).count key := by
  induction events using List.reverseRecOn generalizing key with
  | nil =>
      rw [Runs.run_nil, empty]
      rfl
  | append_singleton done event ih =>
      rw [List.length_append, List.length_singleton] at few
      obtain ⟨earlier, keeps⟩ := Runs.forall_split_concat.mp nothingLost
      have before := ih (by omega) earlier
      have counts := counting (Runs.run step initial done) event
      rw [Runs.run_concat, count_concat, ← before key]
      cases found : key? event with
      | none =>
          simp only [found] at counts
          rw [counts, if_neg (by simp), Nat.add_zero]
      | some own =>
          simp only [found] at counts
          rw [Runs.run_concat, found] at keeps
          have bounded : (done.filterMap key?).count own ≤ done.length :=
            List.count_le_length.trans (List.length_filterMap_le _ _)
          have small : value (find (Runs.run step initial done) own) + 1 < 2 ^ w := by
            rw [before own]
            omega
          rw [counts.value_eq keeps small key]
          simp only [Option.some.injEq]

/-- **All counters together do not exceed the number of events.** -/
theorem sum_value_le (events : List E) (keys : Finset K) :
    ∑ key ∈ keys, value (find (Runs.run step initial events) key) ≤ events.length := by
  have each : ∑ key ∈ keys, value (find (Runs.run step initial events) key) ≤
      ∑ key ∈ keys, (events.filterMap key?).count key :=
    Finset.sum_le_sum fun key _ => value_run_le counting empty events key
  have more : ∑ key ∈ keys, (events.filterMap key?).count key ≤
      ∑ key ∈ keys ∪ (events.filterMap key?).toFinset, (events.filterMap key?).count key :=
    Finset.sum_le_sum_of_subset Finset.subset_union_left
  have all : ∑ key ∈ keys ∪ (events.filterMap key?).toFinset, (events.filterMap key?).count key =
      (events.filterMap key?).length := by
    have within : ∀ key ∈ (events.filterMap key? : Multiset K),
        key ∈ keys ∪ (events.filterMap key?).toFinset := fun key member =>
      Finset.mem_union_right _ (List.mem_toFinset.mpr member)
    simpa only [Multiset.coe_count, Multiset.coe_card] using Multiset.sum_count_eq_card within
  have counted : (events.filterMap key?).length ≤ events.length := List.length_filterMap_le _ _
  omega

end Runs

end LossyCounts
