/-
Module: MonsaEbpf.Lib.Sharded
Layer: Lib
Purpose: A quantity that is kept in shards, one for each place where it can grow. When every event adds its
  amount to the shard of its place, the shards of the possible places together hold the sum of the amounts,
  whatever the placement (`sum_run`). A reader who looks at the shards one after another, while events happen,
  finds the sum of some moment between the beginning and the end (`seen_at_some_moment`).
Imports: MonsaEbpf.Lib.Runs
Trusted boundary: none
Main exports: Sharded.Adds, Sharded.sum_add, Sharded.sum_run, Sharded.shard_run,
  Sharded.sum_indicator, Sharded.sum_countP, Sharded.seen, Sharded.seen_at_some_moment
-/
import Mathlib.Algebra.BigOperators.Group.Finset.Piecewise
import Mathlib.Algebra.Order.BigOperators.Group.Finset
import Mathlib.Data.Nat.Cast.Basic
import MonsaEbpf.Lib.Runs

namespace Sharded

variable {σ E C M : Type} [DecidableEq C]

section Sums

variable [AddCommMonoid M]

/-- A step adds the amount of the event to the shard of its place and leaves the other shards alone. -/
def Adds (step : σ → E → σ) (shards : σ → C → M) (place : E → C) (amount : E → M) : Prop :=
  ∀ state event other, shards (step state event) other =
    if other = place event then shards state other + amount event else shards state other

/-- Adding to one possible shard adds to the sum. -/
theorem sum_add {possible : Finset C} {place : C} (isPossible : place ∈ possible) (shards : C → M)
    (amount : M) :
    ∑ other ∈ possible, (if other = place then shards other + amount else shards other) =
      ∑ other ∈ possible, shards other + amount := by
  have split (other : C) : (if other = place then shards other + amount else shards other) =
      shards other + if other = place then amount else 0 := by
    split
    · rfl
    · exact (add_zero _).symm
  rw [Finset.sum_congr rfl fun other _ => split other, Finset.sum_add_distrib,
    Finset.sum_ite_eq_of_mem' possible place _ isPossible]

/-- **The shards after a run hold what they held and the amounts of the events.** -/
theorem sum_run {step : σ → E → σ} {shards : σ → C → M} {place : E → C} {amount : E → M}
    (adds : Adds step shards place amount) (possible : Finset C) {events : List E}
    (placed : ∀ event ∈ events, place event ∈ possible) (state : σ) :
    ∑ other ∈ possible, shards (Runs.run step state events) other =
      ∑ other ∈ possible, shards state other + (events.map amount).sum := by
  induction events generalizing state with
  | nil => simp
  | cons event rest ih =>
      have here : ∑ other ∈ possible, shards (step state event) other =
          ∑ other ∈ possible, shards state other + amount event := by
        rw [Finset.sum_congr rfl fun other _ => adds state event other]
        exact sum_add (placed event (by simp)) (shards state) (amount event)
      have later := ih (fun event member => placed event (by simp [member])) (step state event)
      rw [Runs.run_cons, later, here, List.map_cons, List.sum_cons, add_assoc]

/-- A shard after a run holds what it held and the amounts of the events at its place. -/
theorem shard_run {step : σ → E → σ} {shards : σ → C → M} {place : E → C} {amount : E → M}
    (adds : Adds step shards place amount) (state : σ) (events : List E) (here : C) :
    shards (Runs.run step state events) here =
      shards state here + (events.map fun event => if here = place event then amount event else 0).sum := by
  induction events generalizing state with
  | nil => simp
  | cons event rest ih =>
      rw [Runs.run_cons, ih, adds, List.map_cons, List.sum_cons]
      split
      · rw [add_assoc]
      · rw [zero_add]

end Sums

/-- Adding one for each event of a kind counts the events of the kind. -/
theorem sum_indicator [AddCommMonoidWithOne M] (kind : E → Bool) (events : List E) :
    (events.map fun event => if kind event then (1 : M) else 0).sum = (events.countP kind : M) := by
  induction events with
  | nil => simp
  | cons event rest ih =>
      rw [List.map_cons, List.sum_cons, ih, List.countP_cons, Nat.cast_add, add_comm]
      cases kind event <;> simp

/-- Every event is at one of the possible places. -/
theorem sum_countP {possible : Finset C} {place : E → C} {events : List E}
    (placed : ∀ event ∈ events, place event ∈ possible) :
    ∑ here ∈ possible, (events.countP fun event => here = place event) = events.length := by
  induction events with
  | nil => simp
  | cons event rest ih =>
      have later := ih fun event member => placed event (by simp [member])
      simp only [List.countP_cons, Finset.sum_add_distrib, later, decide_eq_true_eq, List.length_cons]
      rw [Finset.sum_ite_eq_of_mem' possible (place event) _ (placed event (by simp))]

/-! ### Reading shard by shard -/

/-- The events of a kind that a reader finds who looks at each shard at a moment of its own: after as many
events as `handled` says. -/
def seen (possible : Finset C) (place : E → C) (kind : E → Bool) (events : List E) (handled : C → Nat) : Nat :=
  ∑ here ∈ possible, (events.take (handled here)).countP fun event => kind event && (here = place event)

/-- At one moment the reader finds all events of the kind. -/
theorem seen_at {possible : Finset C} {place : E → C} (kind : E → Bool) {events : List E}
    (placed : ∀ event ∈ events, place event ∈ possible) (now : Nat) :
    seen possible place kind events (fun _ => now) = (events.take now).countP kind := by
  have isPlaced (event : E) (member : event ∈ (events.take now).filter kind) : place event ∈ possible :=
    placed event (List.mem_of_mem_take (List.mem_of_mem_filter member))
  rw [seen, List.countP_eq_length_filter, ← sum_countP isPlaced]
  refine Finset.sum_congr rfl fun here _ => ?_
  rw [List.countP_filter]
  exact List.countP_congr fun event _ => by simp [and_comm]

/-- Later looks find more. -/
theorem seen_mono {possible : Finset C} {place : E → C} {kind : E → Bool} {events : List E}
    {early late : C → Nat} (order : ∀ here ∈ possible, early here ≤ late here) :
    seen possible place kind events early ≤ seen possible place kind events late := by
  apply Finset.sum_le_sum
  intro here member
  exact (List.take_sublist_take_left (order here member)).countP_le

/-- What the reader finds lies between the numbers of events at the beginning and at the end. -/
theorem seen_bounds {possible : Finset C} {place : E → C} (kind : E → Bool) {events : List E}
    (placed : ∀ event ∈ events, place event ∈ possible) {handled : C → Nat} {first last : Nat}
    (begun : ∀ here ∈ possible, first ≤ handled here) (ended : ∀ here ∈ possible, handled here ≤ last) :
    (events.take first).countP kind ≤ seen possible place kind events handled ∧
      seen possible place kind events handled ≤ (events.take last).countP kind := by
  rw [← seen_at kind placed first, ← seen_at kind placed last]
  exact ⟨seen_mono begun, seen_mono ended⟩

/-- A count grows by at most one with every event. -/
theorem countP_take_succ_le (kind : E → Bool) (events : List E) (now : Nat) :
    (events.take (now + 1)).countP kind ≤ (events.take now).countP kind + 1 := by
  rw [List.take_add_one, List.countP_append]
  apply Nat.add_le_add_left
  exact List.countP_le_length.trans Option.length_toList_le

/-- Every number between two counts is the count at some moment. -/
theorem countP_at_some_moment {kind : E → Bool} {events : List E} {first last count : Nat}
    (order : first ≤ last) (low : (events.take first).countP kind ≤ count)
    (high : count ≤ (events.take last).countP kind) :
    ∃ moment, first ≤ moment ∧ moment ≤ last ∧ count = (events.take moment).countP kind := by
  induction last, order using Nat.le_induction with
  | base => exact ⟨first, Nat.le_refl first, Nat.le_refl first, Nat.le_antisymm high low⟩
  | succ last order ih =>
      rcases Nat.lt_or_ge ((events.take last).countP kind) count with later | reached
      · refine ⟨last + 1, by omega, Nat.le_refl _, ?_⟩
        have grows := countP_take_succ_le kind events last
        omega
      · rcases ih reached with ⟨moment, begun, ended, same⟩
        exact ⟨moment, begun, by omega, same⟩

/-- **What the reader finds** is the number of events at some moment between the beginning and the end, as if
the reader had looked at all shards at once. -/
theorem seen_at_some_moment {possible : Finset C} {place : E → C} (kind : E → Bool) {events : List E}
    (placed : ∀ event ∈ events, place event ∈ possible) {handled : C → Nat} {first last : Nat}
    (order : first ≤ last) (begun : ∀ here ∈ possible, first ≤ handled here)
    (ended : ∀ here ∈ possible, handled here ≤ last) :
    ∃ moment, first ≤ moment ∧ moment ≤ last ∧
      seen possible place kind events handled = (events.take moment).countP kind := by
  rcases seen_bounds kind placed begun ended with ⟨low, high⟩
  exact countP_at_some_moment order low high

end Sharded
