/-
Module: MonsaEbpf.Lib.Interleaving
Layer: Lib
Purpose: Programs that share one state and take their indivisible steps in any order. A schedule is a
  list of callers; each occurrence lets that caller take its next step. `Along` states a condition on the
  configuration before each step of a schedule. A caller that takes a step takes a first one. Callers keep the
  results that they have and take no new kinds of steps, and renaming the results changes no step.
Imports: MonsaEbpf.Lib.StepProgram
Trusted boundary: none
Main exports: Config, Config.step, Config.run, Config.Along, Config.threads_run_of_notMem,
  Config.allResults_run, Config.allSteps_run, Config.exists_first_step, Config.run_mapResult
-/
import Mathlib.Data.Fintype.Basic
import MonsaEbpf.Lib.StepProgram

/-- A shared state and the rest of the program of every caller. -/
structure Config (ℓ σ α ι : Type) where
  shared : σ
  threads : ι → StepProgram ℓ σ α

namespace Config

variable {ℓ σ α ι : Type} [DecidableEq ι]

/-- Caller `i` takes its next indivisible step. -/
def step (config : Config ℓ σ α ι) (i : ι) : Config ℓ σ α ι :=
  { shared := ((config.threads i).step config.shared).2
    threads := Function.update config.threads i ((config.threads i).step config.shared).1 }

/-- Take the steps of a schedule from left to right. -/
def run (config : Config ℓ σ α ι) (schedule : List ι) : Config ℓ σ α ι :=
  schedule.foldl step config

/-- Every caller has returned. -/
def Finished (config : Config ℓ σ α ι) : Prop :=
  ∀ i, (config.threads i).Finished

instance [Fintype ι] [DecidableEq ℓ] (config : Config ℓ σ α ι) : Decidable config.Finished :=
  inferInstanceAs (Decidable (∀ i, (config.threads i).Finished))

/-- `P` holds of the configuration and the chosen caller before each step of the schedule. -/
def Along (P : Config ℓ σ α ι → ι → Prop) : Config ℓ σ α ι → List ι → Prop
  | _, [] => True
  | config, i :: rest => P config i ∧ Along P (config.step i) rest

instance decidableAlong (P : Config ℓ σ α ι → ι → Prop) [∀ config i, Decidable (P config i)] :
    ∀ (config : Config ℓ σ α ι) (schedule : List ι), Decidable (Along P config schedule)
  | _, [] => isTrue trivial
  | config, i :: rest =>
      have := decidableAlong P (config.step i) rest
      inferInstanceAs (Decidable (P config i ∧ Along P (config.step i) rest))

@[simp] theorem run_nil (config : Config ℓ σ α ι) : config.run [] = config := rfl

@[simp] theorem run_cons (config : Config ℓ σ α ι) (i : ι) (rest : List ι) :
    config.run (i :: rest) = (config.step i).run rest := rfl

theorem run_append (config : Config ℓ σ α ι) (first second : List ι) :
    config.run (first ++ second) = (config.run first).run second :=
  List.foldl_append

@[simp] theorem step_shared (config : Config ℓ σ α ι) (i : ι) :
    (config.step i).shared = ((config.threads i).step config.shared).2 := rfl

@[simp] theorem step_threads_self (config : Config ℓ σ α ι) (i : ι) :
    (config.step i).threads i = ((config.threads i).step config.shared).1 :=
  Function.update_self ..

theorem step_threads_ne (config : Config ℓ σ α ι) {i j : ι} (other : j ≠ i) :
    (config.step i).threads j = config.threads j :=
  Function.update_of_ne other ..

/-- A caller that has returned has no step left. -/
theorem step_of_finished (config : Config ℓ σ α ι) {i : ι} (finished : (config.threads i).Finished) :
    config.step i = config := by
  cases programEq : config.threads i with
  | ret value =>
      simp only [step, programEq, StepProgram.step]
      rw [← programEq, Function.update_eq_self]
  | atom label next update =>
      rw [programEq] at finished
      cases finished

/-- A caller that takes no step stays where it is. -/
theorem threads_run_of_notMem {config : Config ℓ σ α ι} {i : ι} {schedule : List ι} (absent : i ∉ schedule) :
    (config.run schedule).threads i = config.threads i := by
  induction schedule generalizing config with
  | nil => rfl
  | cons j rest ih =>
      rw [List.mem_cons, not_or] at absent
      rw [run_cons, ih absent.2, step_threads_ne config absent.1]

/-- What holds of all results of a caller keeps holding of them. -/
theorem allResults_run {P : α → Prop} {config : Config ℓ σ α ι} {i : ι}
    (all : (config.threads i).AllResults P) (schedule : List ι) :
    ((config.run schedule).threads i).AllResults P := by
  induction schedule generalizing config with
  | nil => exact all
  | cons j rest ih =>
      apply ih
      by_cases own : i = j
      · subst own
        rw [step_threads_self]
        exact all.step _
      · rw [step_threads_ne _ own]
        exact all

/-- What holds of all steps of a caller keeps holding of those it has left. -/
theorem allSteps_run {P : ℓ → (σ → σ) → Prop} {config : Config ℓ σ α ι} {i : ι}
    (all : (config.threads i).AllSteps P) (schedule : List ι) :
    ((config.run schedule).threads i).AllSteps P := by
  induction schedule generalizing config with
  | nil => exact all
  | cons j rest ih =>
      apply ih
      by_cases own : i = j
      · subst own
        rw [step_threads_self]
        exact all.step _
      · rw [step_threads_ne _ own]
        exact all

/-! ### The first step of a caller -/

/-- The steps of a schedule before the first one of caller `i`. -/
def stepsBefore (schedule : List ι) (i : ι) : List ι :=
  schedule.takeWhile fun j => j ≠ i

theorem notMem_stepsBefore (schedule : List ι) (i : ι) : i ∉ stepsBefore schedule i := by
  intro member
  have other := List.all_eq_true.mp List.all_takeWhile i member
  exact of_decide_eq_true other rfl

/-- A caller that takes a step takes a first one. -/
theorem exists_first_step {schedule : List ι} {i : ι} (takes : i ∈ schedule) :
    ∃ rest, schedule = stepsBefore schedule i ++ i :: rest := by
  obtain ⟨early, rest, rfl, absent⟩ := List.eq_append_cons_of_mem takes
  refine ⟨rest, congrArg (· ++ _) ?_⟩
  rw [stepsBefore, List.takeWhile_append_of_pos, List.takeWhile_cons_of_neg, List.append_nil]
  · simp
  · intro j member
    rw [decide_eq_true_iff]
    rintro rfl
    exact absent member

/-! ### Results renamed -/

variable {β : Type}

/-- The configuration with `f` applied to the results of the callers. -/
def mapResult (f : α → β) (config : Config ℓ σ α ι) : Config ℓ σ β ι where
  shared := config.shared
  threads := fun i => (config.threads i).mapResult f

theorem step_mapResult (f : α → β) (config : Config ℓ σ α ι) (i : ι) :
    (config.mapResult f).step i = (config.step i).mapResult f := by
  simp only [step, mapResult, StepProgram.step_mapResult]
  congr 1
  funext j
  by_cases same : j = i
  · subst same
    rw [Function.update_self, Function.update_self]
  · rw [Function.update_of_ne same, Function.update_of_ne same]

/-- Renaming results changes no step. -/
theorem run_mapResult (f : α → β) (config : Config ℓ σ α ι) (schedule : List ι) :
    (config.mapResult f).run schedule = (config.run schedule).mapResult f := by
  induction schedule generalizing config with
  | nil => rfl
  | cons i rest ih => rw [run_cons, run_cons, step_mapResult, ih]

omit [DecidableEq ι] in
theorem finished_mapResult {f : α → β} {config : Config ℓ σ α ι} :
    (config.mapResult f).Finished ↔ config.Finished :=
  forall_congr' fun _ => StepProgram.finished_mapResult

end Config
