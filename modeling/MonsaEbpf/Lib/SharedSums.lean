/-
Module: MonsaEbpf.Lib.SharedSums
Layer: Lib
Purpose: Callers that add to a shared value amounts which they find out while they run and which their results
  tell in the end. The value takes part in no decision, so the additions may come in any order and between
  any other steps: when all have returned, the value is its start plus the amounts of all results.
Imports: MonsaEbpf.Lib.SharedView
Trusted boundary: none
Main exports: SharedView.Adds, SharedView.Adds.absorbs, SharedView.Summing, SharedView.Adds.get_run
-/
import Mathlib.Algebra.BigOperators.Fin
import MonsaEbpf.Lib.SharedView

namespace SharedView

variable {ℓ σ V α β ι : Type} [AddCommGroup V]

/-- The program adds the amount of its result before it returns; `added` are the additions so far. -/
def Adds (view : SharedView σ V) (amount : α → V) (added : V) : StepProgram ℓ σ α → Prop
  | .ret result => amount result = added
  | .atom _ next update => ∀ shared, view.Inv shared → view.Inv (update shared) ∧
      ∃ now, view.get (update shared) = view.get shared + now ∧
        view.Adds amount (added + now) (next shared)

variable {view : SharedView σ V} {amount : α → V} {added : V}

theorem Adds.absorbs : view.Absorbs (Adds view amount added : StepProgram ℓ σ α → Prop) := by
  intro label next update kept rest shared inv
  obtain ⟨inv', same⟩ := kept shared inv
  refine ⟨inv', 0, same.trans (add_zero _).symm, ?_⟩
  rw [add_zero]
  exact rest shared inv

/-- What a step adds is added. -/
theorem Adds.step {program : StepProgram ℓ σ α} {shared : σ} (adds : view.Adds amount added program)
    (inv : view.Inv shared) :
    view.Inv (program.step shared).2 ∧
      ∃ now, view.get (program.step shared).2 = view.get shared + now ∧
        view.Adds amount (added + now) (program.step shared).1 := by
  cases program with
  | ret result =>
      refine ⟨inv, 0, (add_zero _).symm, ?_⟩
      rw [add_zero]
      exact adds
  | atom label next update => exact adds shared inv

/-! ### Callers together -/

section Callers

variable [DecidableEq ι] [Fintype ι]

/-- The callers have added `added` so far, to a value that was `start`. -/
structure Summing (view : SharedView σ V) (amount : ι → α → V) (start : V) (config : Config ℓ σ α ι)
    (added : ι → V) : Prop where
  inv : view.Inv config.shared
  adds : ∀ i, view.Adds (amount i) (added i) (config.threads i)
  total : view.get config.shared = start + ∑ i, added i

variable {amount : ι → α → V} {start : V} {config : Config ℓ σ α ι}

/-- One step keeps the value the start plus what has been added. -/
theorem Summing.step {added : ι → V} (summing : view.Summing amount start config added) (i : ι) :
    ∃ added', view.Summing amount start (config.step i) added' := by
  obtain ⟨inv, now, moved, adds⟩ := (summing.adds i).step summing.inv
  refine ⟨Function.update added i (added i + now), inv, fun j => ?_, ?_⟩
  · by_cases same : j = i
    · subst same
      rw [Function.update_self, Config.step_threads_self]
      exact adds
    · rw [Function.update_of_ne same, Config.step_threads_ne config same]
      exact summing.adds j
  · have before := Finset.sum_eq_add_sum_sdiff_singleton_of_mem (Finset.mem_univ i) added
    rw [Config.step_shared, moved, summing.total, Finset.sum_update_of_mem (Finset.mem_univ i), before]
    rw [add_assoc, add_right_comm (added i)]

theorem Summing.run {added : ι → V} (summing : view.Summing amount start config added) (schedule : List ι) :
    ∃ added', view.Summing amount start (config.run schedule) added' := by
  induction schedule generalizing config added with
  | nil => exact ⟨added, summing⟩
  | cons i rest ih =>
      obtain ⟨_, summing'⟩ := summing.step i
      exact ih summing'

/-- **The value at the end** is its start plus the amounts that the results tell. -/
theorem Adds.get_run (inv : view.Inv config.shared) (adds : ∀ i, view.Adds (amount i) 0 (config.threads i))
    {schedule : List ι} {results : ι → α}
    (returned : ∀ i, (config.run schedule).threads i = .ret (results i)) :
    view.Inv (config.run schedule).shared ∧
      view.get (config.run schedule).shared = view.get config.shared + ∑ i, amount i (results i) := by
  have beginning : view.Summing amount (view.get config.shared) config fun _ => 0 :=
    ⟨inv, adds, by rw [Finset.sum_const_zero, add_zero]⟩
  obtain ⟨added, summing⟩ := beginning.run schedule
  refine ⟨summing.inv, summing.total.trans (congrArg (_ + ·) (Finset.sum_congr rfl fun i _ => ?_))⟩
  have told := summing.adds i
  rw [returned i] at told
  exact told.symm

end Callers

end SharedView
