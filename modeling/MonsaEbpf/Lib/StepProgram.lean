/-
Module: MonsaEbpf.Lib.StepProgram
Layer: Lib
Purpose: Programs as trees of indivisible steps over a shared state. One tree has two readings: run
  alone to its end (`exec`), and step by step among other programs (`Lib.Interleaving`). A predicate on
  all the steps a program can take (`AllSteps`) composes along sequencing.
Trusted boundary: none
Main exports: StepProgram, StepProgram.exec, StepProgram.step, StepProgram.AllSteps,
  StepProgram.exec_bind, StepProgram.AllSteps.bind, StepProgram.AllResults
-/
import Mathlib.Logic.Function.Basic

/-- A program over the shared state `σ` as the tree of its indivisible steps. A step carries a label,
changes the shared state with `update`, and continues with what it read from the state before. -/
inductive StepProgram (ℓ σ α : Type) where
  | ret (value : α)
  | atom (label : ℓ) (next : σ → StepProgram ℓ σ α) (update : σ → σ)

namespace StepProgram

variable {ℓ σ α β γ : Type}

/-- Sequencing grafts the continuation onto the leaves. -/
def bind : StepProgram ℓ σ α → (α → StepProgram ℓ σ β) → StepProgram ℓ σ β
  | .ret value, rest => rest value
  | .atom label next update, rest =>
      .atom label (fun shared => (next shared).bind rest) update

instance : Monad (StepProgram ℓ σ) where
  pure := .ret
  bind := bind

/-- The one-step program that reads `read` from the state before its update. -/
def single (label : ℓ) (read : σ → α) (update : σ → σ) : StepProgram ℓ σ α :=
  .atom label (fun shared => .ret (read shared)) update

/-- Run the program alone until it returns. -/
def exec : StepProgram ℓ σ α → σ → α × σ
  | .ret value, shared => (value, shared)
  | .atom _ next update, shared => (next shared).exec (update shared)

/-- The first indivisible step; a program that has returned stays where it is. -/
def step : StepProgram ℓ σ α → σ → StepProgram ℓ σ α × σ
  | .ret value, shared => (.ret value, shared)
  | .atom _ next update, shared => (next shared, update shared)

/-- The label of the step the program takes next, `none` once it has returned. -/
def label? : StepProgram ℓ σ α → Option ℓ
  | .ret _ => none
  | .atom label _ _ => some label

/-- The program has returned. -/
def Finished (program : StepProgram ℓ σ α) : Prop :=
  program.label? = none

instance [DecidableEq ℓ] (program : StepProgram ℓ σ α) : Decidable program.Finished :=
  inferInstanceAs (Decidable (program.label? = none))

@[simp] theorem pure_eq_ret (value : α) :
    (pure value : StepProgram ℓ σ α) = .ret value := rfl

@[simp] theorem ret_bind (value : α) (rest : α → StepProgram ℓ σ β) :
    (StepProgram.ret value >>= rest) = rest value := rfl

@[simp] theorem atom_bind (label : ℓ) (next : σ → StepProgram ℓ σ α) (update : σ → σ)
    (rest : α → StepProgram ℓ σ β) :
    (StepProgram.atom label next update >>= rest) =
      .atom label (fun shared => next shared >>= rest) update := rfl

theorem bind_ret (program : StepProgram ℓ σ α) : (program >>= .ret) = program := by
  induction program with
  | ret value => rfl
  | atom label next update ih =>
      rw [atom_bind]
      exact congrArg (StepProgram.atom label · update) (funext ih)

theorem bind_assoc (program : StepProgram ℓ σ α) (middle : α → StepProgram ℓ σ β)
    (rest : β → StepProgram ℓ σ γ) :
    (program >>= middle >>= rest) = (program >>= fun value => middle value >>= rest) := by
  induction program with
  | ret value => rfl
  | atom label next update ih =>
      simp only [atom_bind]
      exact congrArg (StepProgram.atom label · update) (funext ih)

instance : LawfulMonad (StepProgram ℓ σ) :=
  LawfulMonad.mk' (StepProgram ℓ σ) bind_ret (fun _ _ => rfl) bind_assoc

/-! ### Running alone -/

@[simp] theorem exec_ret (value : α) (shared : σ) :
    (StepProgram.ret value : StepProgram ℓ σ α).exec shared = (value, shared) := rfl

@[simp] theorem exec_single (label : ℓ) (read : σ → α) (update : σ → σ) (shared : σ) :
    (single label read update).exec shared = (read shared, update shared) := rfl

/-- Sequential composition runs the two parts one after the other. -/
@[simp] theorem exec_bind (program : StepProgram ℓ σ α) (rest : α → StepProgram ℓ σ β)
    (shared : σ) :
    (program >>= rest).exec shared =
      (rest (program.exec shared).1).exec (program.exec shared).2 := by
  induction program generalizing shared with
  | ret value => rfl
  | atom label next update ih => exact ih shared (update shared)

/-! ### Predicates on every step -/

/-- Every step the program can take, whatever it reads, satisfies `P`. -/
def AllSteps (P : ℓ → (σ → σ) → Prop) : StepProgram ℓ σ α → Prop
  | .ret _ => True
  | .atom label next update => P label update ∧ ∀ shared, (next shared).AllSteps P

namespace AllSteps

variable {P : ℓ → (σ → σ) → Prop}

theorem ret (value : α) : (StepProgram.ret value : StepProgram ℓ σ α).AllSteps P := trivial

theorem single {label : ℓ} {update : σ → σ} (read : σ → α) (holds : P label update) :
    (StepProgram.single label read update).AllSteps P :=
  ⟨holds, fun _ => trivial⟩

theorem bind {program : StepProgram ℓ σ α} {rest : α → StepProgram ℓ σ β}
    (first : program.AllSteps P) (second : ∀ value, (rest value).AllSteps P) :
    (program >>= rest).AllSteps P := by
  induction program with
  | ret value => exact second value
  | atom label next update ih =>
      exact ⟨first.1, fun shared => ih shared (first.2 shared)⟩

theorem imp {Q : ℓ → (σ → σ) → Prop} {program : StepProgram ℓ σ α} (all : program.AllSteps P)
    (implies : ∀ label update, P label update → Q label update) : program.AllSteps Q := by
  induction program with
  | ret value => trivial
  | atom label next update ih =>
      exact ⟨implies label update all.1, fun shared => ih shared (all.2 shared)⟩

theorem step {program : StepProgram ℓ σ α} (all : program.AllSteps P) (shared : σ) :
    (program.step shared).1.AllSteps P := by
  cases program with
  | ret value => trivial
  | atom label next update => exact all.2 shared

/-- A program that returned, or whose next step satisfies `P`. -/
theorem next {program : StepProgram ℓ σ α} (all : program.AllSteps P) :
    program.Finished ∨
      ∃ label next update, program = .atom label next update ∧ P label update ∧
        ∀ shared, (next shared).AllSteps P := by
  cases program with
  | ret value => exact Or.inl rfl
  | atom label next update => exact Or.inr ⟨label, next, update, rfl, all.1, all.2⟩

end AllSteps

/-- Every result the program can return, whatever it reads, satisfies `P`. -/
def AllResults (P : α → Prop) : StepProgram ℓ σ α → Prop
  | .ret value => P value
  | .atom _ next _ => ∀ shared, (next shared).AllResults P

namespace AllResults

variable {P : β → Prop}

/-- The results are those of the last part. -/
theorem bind (program : StepProgram ℓ σ α) {rest : α → StepProgram ℓ σ β}
    (second : ∀ value, (rest value).AllResults P) : (program >>= rest).AllResults P := by
  induction program with
  | ret value => exact second value
  | atom label next update ih => exact fun shared => ih shared

theorem step {program : StepProgram ℓ σ β} (all : program.AllResults P) (shared : σ) :
    (program.step shared).1.AllResults P := by
  cases program with
  | ret value => exact all
  | atom label next update => exact all shared

end AllResults

/-! ### Results renamed -/

/-- The program with `f` applied to its result. -/
def mapResult (f : α → β) (program : StepProgram ℓ σ α) : StepProgram ℓ σ β :=
  program >>= fun value => .ret (f value)

theorem step_mapResult (f : α → β) (program : StepProgram ℓ σ α) (shared : σ) :
    (program.mapResult f).step shared =
      ((program.step shared).1.mapResult f, (program.step shared).2) := by
  cases program <;> rfl

theorem finished_mapResult {f : α → β} {program : StepProgram ℓ σ α} :
    (program.mapResult f).Finished ↔ program.Finished := by
  cases program <;> exact Iff.rfl

end StepProgram
