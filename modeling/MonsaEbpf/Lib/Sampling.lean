/-
Module: MonsaEbpf.Lib.Sampling
Layer: Lib
Purpose: Sampling one event per key and then one per `period` of that key. `samples` is the number of
  samples that a history of keys deserves; one more key adds to it as one step of a sampler does, and it
  never exceeds the period's share of the history plus the number of keys.
Trusted boundary: none
Main exports: Sampling.samples, Sampling.samples_concat_new, Sampling.samples_concat_old,
  Sampling.samples_le
-/
import Mathlib.Algebra.BigOperators.Group.Finset.Basic
import Mathlib.Algebra.Order.BigOperators.Group.Finset

namespace Sampling

open Finset

variable {K : Type} [DecidableEq K] {period : Nat}

/-- One sample for the first event of each key and one for every multiple of the period after it. -/
def samples (period : Nat) (history : List K) : Nat :=
  ∑ key ∈ history.toFinset, (1 + history.count key / period)

theorem toFinset_concat (history : List K) (key : K) :
    (history ++ [key]).toFinset = insert key history.toFinset := by
  ext other
  simp

/-- The first event of a key is sampled. -/
theorem samples_concat_new {history : List K} {key : K} (large : 1 < period)
    (first : key ∉ history) :
    samples period (history ++ [key]) = samples period history + 1 := by
  have absent : key ∉ history.toFinset := by simpa using first
  have newTerm : (history ++ [key]).count key = 1 := by
    simp [List.count_eq_zero_of_not_mem first]
  have oldTerms : ∑ other ∈ history.toFinset, (1 + (history ++ [key]).count other / period) =
      ∑ other ∈ history.toFinset, (1 + history.count other / period) := by
    apply sum_congr rfl
    intro other member
    have different : key ≠ other := by
      rintro rfl
      exact absent member
    simp [List.count_append, different]
  rw [samples, toFinset_concat, sum_insert absent, newTerm, oldTerms, Nat.div_eq_of_lt large, samples]
  exact Nat.add_comm _ _

/-- A further event of a key is sampled when it completes a period. -/
theorem samples_concat_old {history : List K} {key : K} (again : key ∈ history) :
    samples period (history ++ [key]) =
      samples period history + if period ∣ history.count key + 1 then 1 else 0 := by
  have member : key ∈ history.toFinset := by simpa using again
  have ownTerm : (history ++ [key]).count key = history.count key + 1 := by simp
  have otherTerms : ∑ other ∈ history.toFinset.erase key,
        (1 + (history ++ [key]).count other / period) =
      ∑ other ∈ history.toFinset.erase key, (1 + history.count other / period) := by
    apply sum_congr rfl
    intro other apart
    have different : key ≠ other := (ne_of_mem_erase apart).symm
    simp [List.count_append, different]
  rw [samples, toFinset_concat, insert_eq_of_mem member, ← add_sum_erase _ _ member, otherTerms, ownTerm,
    Nat.succ_div, samples, ← add_sum_erase _ _ member]
  omega

/-- Samples are bounded by the period's share of the history and the number of keys. -/
theorem samples_le (period : Nat) (history : List K) :
    samples period history ≤ history.length / period + history.toFinset.card := by
  have shares : ∀ keys : Finset K,
      ∑ key ∈ keys, history.count key / period ≤ (∑ key ∈ keys, history.count key) / period := by
    intro keys
    induction keys using Finset.induction_on with
    | empty => simp
    | insert key keys absent ih =>
        rw [sum_insert absent, sum_insert absent]
        exact Nat.le_trans (Nat.add_le_add_left ih _) Nat.div_add_div_le_add_div
  rw [samples, sum_add_distrib, ← List.sum_toFinset_count_eq_length history, Nat.add_comm]
  rw [← card_eq_sum_ones]
  exact Nat.add_le_add_right (shares _) _

end Sampling
