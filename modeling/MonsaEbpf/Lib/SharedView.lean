/-
Module: MonsaEbpf.Lib.SharedView
Layer: Lib
Purpose: A value inside a shared state, under an invariant of the state, as programs that interleave change
  it. Steps that keep the value can be put before any part of a program whose property absorbs them. A
  reader yields what the value determines when the other callers leave the value alone. A
  program that owes an amount adds exactly that much before it returns, in whatever order the callers take
  their steps; so the value of a counter at the end is its start plus what all callers owed.
Imports: MonsaEbpf.Lib.Interleaving
Trusted boundary: none
Main exports: SharedView, SharedView.Kept, SharedView.Quiet, SharedView.Absorbs, SharedView.Absorbs.quiet,
  SharedView.Yields, SharedView.Reading.result, SharedView.Owes, SharedView.Owes.get_run
-/
import Mathlib.Algebra.BigOperators.Group.Finset.Piecewise
import Mathlib.Data.BitVec
import MonsaEbpf.Lib.Interleaving

/-- A value of the shared state, and the invariant under which it is looked at. -/
structure SharedView (σ V : Type) where
  Inv : σ → Prop
  get : σ → V

namespace SharedView

variable {ℓ σ V α β ι : Type}

/-- The update keeps the invariant and the value. -/
def Kept (view : SharedView σ V) (update : σ → σ) : Prop :=
  ∀ shared, view.Inv shared → view.Inv (update shared) ∧ view.get (update shared) = view.get shared

/-- No step of the program changes the value. -/
def Quiet (view : SharedView σ V) (program : StepProgram ℓ σ α) : Prop :=
  program.AllSteps fun _ update => view.Kept update

/-- The property of programs holds of a step that keeps the value if it holds of what follows. -/
def Absorbs (view : SharedView σ V) (Q : StepProgram ℓ σ β → Prop) : Prop :=
  ∀ label next update, view.Kept update → (∀ shared, view.Inv shared → Q (next shared)) →
    Q (.atom label next update)

section Absorbs

variable {view : SharedView σ V} {Q : StepProgram ℓ σ β → Prop} (absorbs : view.Absorbs Q)

include absorbs

/-- A quiet program is absorbed in front of what follows it. -/
theorem Absorbs.quiet {program : StepProgram ℓ σ α} {rest : α → StepProgram ℓ σ β}
    (quiet : view.Quiet program) (holds : ∀ value, Q (rest value)) : Q (program >>= rest) := by
  induction program with
  | ret value => exact holds value
  | atom label next update ih =>
      exact absorbs label _ update quiet.1 fun shared _ => ih shared (quiet.2 shared)

end Absorbs

/-! ### Readers -/

/-- While the value stays `value`, every result satisfies `P`; a step that changes the value comes when the
results are settled. -/
def Yields (view : SharedView σ V) (value : V) (P : α → Prop) : StepProgram ℓ σ α → Prop
  | .ret result => P result
  | .atom _ next update =>
      (view.Kept update ∨ ∀ shared, (next shared).AllResults P) ∧
        ∀ shared, view.get shared = value → view.Yields value P (next shared)

theorem Yields.of_allResults {view : SharedView σ V} {value : V} {P : α → Prop}
    {program : StepProgram ℓ σ α} (all : program.AllResults P) : view.Yields value P program := by
  induction program with
  | ret result => exact all
  | atom label next update ih => exact ⟨Or.inr all, fun shared _ => ih shared (all shared)⟩

/-- A quiet program keeps the invariant and the value, and stays quiet. -/
theorem Quiet.step {view : SharedView σ V} {program : StepProgram ℓ σ α} (quiet : view.Quiet program)
    {shared : σ} (inv : view.Inv shared) :
    view.Quiet (program.step shared).1 ∧ view.Inv (program.step shared).2 ∧
      view.get (program.step shared).2 = view.get shared := by
  cases program with
  | ret result => exact ⟨quiet, inv, rfl⟩
  | atom label next update => exact ⟨quiet.2 shared, quiet.1 shared inv⟩

/-- A step of a reader settles its results or keeps the invariant and the value. -/
theorem Yields.step {view : SharedView σ V} {P : α → Prop} {program : StepProgram ℓ σ α} {shared : σ}
    (yields : view.Yields (view.get shared) P program) (inv : view.Inv shared) :
    (program.step shared).1.AllResults P ∨
      (view.Inv (program.step shared).2 ∧ view.get (program.step shared).2 = view.get shared ∧
        view.Yields (view.get shared) P (program.step shared).1) := by
  cases program with
  | ret result => exact Or.inl yields
  | atom label next update =>
      rcases yields.1 with kept | settled
      · obtain ⟨inv', same⟩ := kept shared inv
        exact Or.inr ⟨inv', same, yields.2 shared rfl⟩
      · exact Or.inl (settled shared)

section Callers

variable [DecidableEq ι] {view : SharedView σ V} {config : Config ℓ σ α ι} {schedule : List ι}

/-- Callers that are quiet keep the value among themselves. -/
theorem Quiet.run (quiet : ∀ i ∈ schedule, view.Quiet (config.threads i)) (inv : view.Inv config.shared) :
    view.Inv (config.run schedule).shared ∧ view.get (config.run schedule).shared = view.get config.shared := by
  induction schedule generalizing config with
  | nil => exact ⟨inv, rfl⟩
  | cons i rest ih =>
      obtain ⟨own, inv', same⟩ := (quiet i List.mem_cons_self).step inv
      have later : ∀ j ∈ rest, view.Quiet ((config.step i).threads j) := by
        intro j member
        by_cases here : j = i
        · subst here
          rw [Config.step_threads_self]
          exact own
        · rw [Config.step_threads_ne config here]
          exact quiet j (List.mem_cons_of_mem i member)
      obtain ⟨invEnd, kept⟩ := ih later inv'
      exact ⟨invEnd, kept.trans same⟩

end Callers

section Reading

variable [DecidableEq ι]

/-- Caller `i` reads, and no other caller changes the value. -/
structure Reading (view : SharedView σ V) (P : α → Prop) (config : Config ℓ σ α ι) (i : ι) : Prop where
  inv : view.Inv config.shared
  quiet : ∀ j, j ≠ i → view.Quiet (config.threads j)
  yields : view.Yields (view.get config.shared) P (config.threads i)

variable {view : SharedView σ V} {P : α → Prop} {config : Config ℓ σ α ι} {i : ι}

theorem Reading.step_self (reading : view.Reading P config i) :
    ((config.step i).threads i).AllResults P ∨ view.Reading P (config.step i) i := by
  rw [Config.step_threads_self]
  refine (reading.yields.step reading.inv).imp id ?_
  rintro ⟨inv, same, yields⟩
  refine ⟨inv, fun j other => ?_, ?_⟩
  · rw [Config.step_threads_ne _ other]
    exact reading.quiet j other
  · rw [Config.step_threads_self, Config.step_shared, same]
    exact yields

theorem Reading.step_other (reading : view.Reading P config i) {j : ι} (other : j ≠ i) :
    view.Reading P (config.step j) i := by
  obtain ⟨quiet, inv, same⟩ := (reading.quiet j other).step reading.inv
  refine ⟨inv, fun k apart => ?_, ?_⟩
  · by_cases here : k = j
    · subst here
      rw [Config.step_threads_self]
      exact quiet
    · rw [Config.step_threads_ne _ here]
      exact reading.quiet k apart
  · rw [Config.step_threads_ne _ (Ne.symm other), Config.step_shared, same]
    exact reading.yields

/-- **What a reader yields** among callers that leave its value alone. -/
theorem Reading.run (reading : view.Reading P config i) (schedule : List ι) :
    ((config.run schedule).threads i).AllResults P ∨ view.Reading P (config.run schedule) i := by
  induction schedule using List.reverseRecOn with
  | nil => exact Or.inr reading
  | append_singleton done j ih =>
      rw [Config.run_append, Config.run_cons, Config.run_nil]
      by_cases own : j = i
      · subst own
        rcases ih with settled | reading
        · rw [Config.step_threads_self]
          exact Or.inl (settled.step _)
        · exact reading.step_self
      · rw [Config.step_threads_ne _ (Ne.symm own)]
        exact ih.imp id fun reading => reading.step_other own

/-- The result of a reader that has returned. -/
theorem Reading.result (reading : view.Reading P config i) {schedule : List ι} {result : α}
    (returned : (config.run schedule).threads i = .ret result) : P result := by
  rcases reading.run schedule with settled | later
  · rw [returned] at settled
    exact settled
  · have yields := later.yields
    rw [returned] at yields
    exact yields

end Reading

/-! ### Counters -/

variable {w : Nat}

/-- The program adds `owed` to the counter in total before it returns. -/
inductive Owes (view : SharedView σ (BitVec w)) : Nat → StepProgram ℓ σ α → Prop where
  | ret (value : α) : Owes view 0 (.ret value)
  | add {label : ℓ} {next : σ → StepProgram ℓ σ α} {update : σ → σ} {now later : Nat}
      (adds : ∀ shared, view.Inv shared → view.Inv (update shared) ∧
        view.get (update shared) = view.get shared + BitVec.ofNat w now)
      (rest : ∀ shared, view.Inv shared → Owes view later (next shared)) :
      Owes view (now + later) (.atom label next update)

variable {view : SharedView σ (BitVec w)}

theorem Owes.absorbs (owed : Nat) :
    view.Absorbs (Owes view owed : StepProgram ℓ σ α → Prop) := by
  intro label next update kept rest
  rw [← Nat.zero_add owed]
  refine .add (fun shared inv => ?_) rest
  obtain ⟨inv', same⟩ := kept shared inv
  exact ⟨inv', by rw [same]; exact (BitVec.add_zero _).symm⟩

/-- A program that has returned owes nothing. -/
theorem Owes.of_finished {owed : Nat} {program : StepProgram ℓ σ α} (owes : view.Owes owed program)
    (finished : program.Finished) : owed = 0 := by
  cases owes with
  | ret value => rfl
  | add adds rest => cases finished

/-- What a step adds is no longer owed. -/
theorem Owes.step {owed : Nat} {program : StepProgram ℓ σ α} {shared : σ} (owes : view.Owes owed program)
    (inv : view.Inv shared) :
    ∃ now later, owed = now + later ∧ view.Owes later (program.step shared).1 ∧
      view.Inv (program.step shared).2 ∧
      view.get (program.step shared).2 = view.get shared + BitVec.ofNat w now := by
  cases owes with
  | ret value => exact ⟨0, 0, rfl, .ret value, inv, (BitVec.add_zero _).symm⟩
  | add adds rest => exact ⟨_, _, rfl, rest shared inv, adds shared inv⟩

variable [DecidableEq ι] [Fintype ι]

/-- In every order of steps, what has been added and what is still owed stay the same in total. -/
theorem Owes.run (config : Config ℓ σ α ι) {owed : ι → Nat} (inv : view.Inv config.shared)
    (owes : ∀ i, view.Owes (owed i) (config.threads i)) (schedule : List ι) :
    ∃ left : ι → Nat, view.Inv (config.run schedule).shared ∧
      (∀ i, view.Owes (left i) ((config.run schedule).threads i)) ∧
      view.get (config.run schedule).shared + BitVec.ofNat w (∑ i, left i) =
        view.get config.shared + BitVec.ofNat w (∑ i, owed i) := by
  induction schedule generalizing config owed with
  | nil => exact ⟨owed, inv, owes, rfl⟩
  | cons i rest ih =>
      obtain ⟨now, later, split, owesLater, inv', added⟩ := (owes i).step inv
      have owes' : ∀ j, view.Owes (Function.update owed i later j) ((config.step i).threads j) := by
        intro j
        by_cases same : j = i
        · subst same
          rw [Function.update_self, Config.step_threads_self]
          exact owesLater
        · rw [Function.update_of_ne same, Config.step_threads_ne config same]
          exact owes j
      have total : ∑ j, owed j = now + ∑ j, Function.update owed i later j := by
        rw [Finset.sum_update_of_mem (Finset.mem_univ i), ← Nat.add_assoc, ← split]
        exact Finset.sum_eq_add_sum_sdiff_singleton_of_mem (Finset.mem_univ i) owed
      obtain ⟨left, invEnd, owesEnd, sum⟩ := ih (config.step i) inv' owes'
      refine ⟨left, invEnd, owesEnd, ?_⟩
      rw [Config.run_cons, sum, Config.step_shared, added, total, BitVec.ofNat_add, BitVec.add_assoc]

/-- **The counter at the end** is its start plus what all callers owed. -/
theorem Owes.get_run (config : Config ℓ σ α ι) {owed : ι → Nat} (inv : view.Inv config.shared)
    (owes : ∀ i, view.Owes (owed i) (config.threads i)) {schedule : List ι}
    (finished : (config.run schedule).Finished) :
    view.get (config.run schedule).shared = view.get config.shared + BitVec.ofNat w (∑ i, owed i) := by
  obtain ⟨left, _, owesEnd, sum⟩ := Owes.run config inv owes schedule
  have nothing : ∑ i, left i = 0 := Finset.sum_eq_zero fun i _ => (owesEnd i).of_finished (finished i)
  rw [nothing] at sum
  exact (BitVec.add_zero _).symm.trans sum

end SharedView
