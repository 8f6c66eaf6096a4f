/-
Module: MonsaEbpf.Lib.FirstTouch
Layer: Lib
Purpose: Counting callers through one lookup-or-insert entry, for every interleaving. In the abstract
  model each caller is first searching, then tied to a cell, and at last counted in that cell; an insertion
  puts a fresh cell in front of the older ones, whose counts are lost. The count of the newest cell is the
  number of callers exactly when every insertion happened while all callers were still searching
  (`Observation.stored_eq_card_iff`). Programs enter through `Searches`, a predicate on the steps of one
  caller, and `Simulates` is the refinement between configurations of such programs and the abstract model.
Imports: MonsaEbpf.Lib.Interleaving
Trusted boundary: none
Main exports: FirstTouch.State, FirstTouch.Step, FirstTouch.Consistent, FirstTouch.Newest,
  FirstTouch.Stale, FirstTouch.Observation, FirstTouch.Searches, FirstTouch.Simulates,
  FirstTouch.Observation.stored_eq_card_iff
-/
import Mathlib.Data.Fintype.Card
import Mathlib.Data.BitVec
import MonsaEbpf.Lib.Interleaving

namespace FirstTouch

/-! ## The abstract model -/

/-- What a caller has done so far. -/
inductive Phase where
  | searching
  | bound (cell : Nat)
  | counted (cell : Nat)
deriving DecidableEq, Repr

/-- The cell a caller is tied to. -/
def Phase.cell? : Phase → Option Nat
  | .searching => none
  | .bound cell | .counted cell => some cell

/-- The counts of all cells ever inserted, oldest first, and the phase of every caller. -/
structure State (w : Nat) (ι : Type) where
  cells : List (BitVec w)
  phase : ι → Phase

variable {w : Nat} {ι : Type}

/-- No cell, and every caller searching. -/
def State.initial : State w ι where
  cells := []
  phase := fun _ => .searching

/-- Every caller is still searching. -/
def State.OnlySearching (state : State w ι) : Prop :=
  ∀ i, state.phase i = .searching

variable [DecidableEq ι]

/-- One step of caller `i`; the flag tells whether it inserted a cell. -/
inductive Step (i : ι) : Bool → State w ι → State w ι → Prop where
  | idle (state : State w ι) : Step i false state state
  | hit {state : State w ι} {cell : Nat}
      (searching : state.phase i = .searching) (newest : cell + 1 = state.cells.length) :
      Step i false state { state with phase := Function.update state.phase i (.bound cell) }
  | insertZero {state : State w ι} (searching : state.phase i = .searching) :
      Step i true state { state with cells := state.cells ++ [0] }
  | insertOne {state : State w ι} (searching : state.phase i = .searching) :
      Step i true state
        { cells := state.cells ++ [1]
          phase := Function.update state.phase i (.counted state.cells.length) }
  | add {state : State w ι} {cell : Nat} (bound : state.phase i = .bound cell) :
      Step i false state
        { cells := state.cells.modify cell (· + 1)
          phase := Function.update state.phase i (.counted cell) }

theorem cell?_update {phase : ι → Phase} {i j : ι} {next : Phase} {cell : Nat}
    (tied : (Function.update phase i next j).cell? = some cell) :
    (j = i ∧ next.cell? = some cell) ∨ (phase j).cell? = some cell := by
  by_cases same : j = i
  · subst same
    rw [Function.update_self] at tied
    exact Or.inl ⟨rfl, tied⟩
  · rw [Function.update_of_ne same] at tied
    exact Or.inr tied

section Counting

variable [Fintype ι]

/-- The number of callers counted in a cell. -/
def countedIn (phase : ι → Phase) (cell : Nat) : Nat :=
  (Finset.univ.filter fun i => phase i = .counted cell).card

theorem countedIn_update_other {phase : ι → Phase} {i : ι} {cell : Nat} {next : Phase}
    (before : phase i ≠ .counted cell) (after : next ≠ .counted cell) :
    countedIn (Function.update phase i next) cell = countedIn phase cell := by
  unfold countedIn
  congr 1
  ext j
  by_cases same : j = i
  · simp [same, before, after]
  · simp [same]

theorem countedIn_update_self {phase : ι → Phase} {i : ι} {cell : Nat}
    (before : phase i ≠ .counted cell) :
    countedIn (Function.update phase i (.counted cell)) cell = countedIn phase cell + 1 := by
  have fresh : i ∉ Finset.univ.filter fun j => phase j = .counted cell := by simpa using before
  rw [countedIn, countedIn, ← Finset.card_insert_of_notMem fresh]
  congr 1
  ext j
  by_cases same : j = i
  · simp [same]
  · simp [same]

/-- Callers are tied to inserted cells, and every cell holds the number of its callers. -/
structure Consistent (state : State w ι) : Prop where
  tied : ∀ {i cell}, (state.phase i).cell? = some cell → cell < state.cells.length
  counts : ∀ {cell} {value : BitVec w}, state.cells[cell]? = some value →
    value = BitVec.ofNat w (countedIn state.phase cell)

omit [DecidableEq ι] in
theorem Consistent.initial : Consistent (State.initial : State w ι) where
  tied := by simp [State.initial, Phase.cell?]
  counts := by simp [State.initial]

omit [DecidableEq ι] in
/-- A cell that nobody can be tied to yet has no callers. -/
theorem Consistent.countedIn_fresh {state : State w ι} (consistent : Consistent state) {cell : Nat}
    (fresh : state.cells.length ≤ cell) : countedIn state.phase cell = 0 := by
  rw [countedIn, Finset.card_eq_zero, Finset.filter_eq_empty_iff]
  intro i _ counted
  have tied : (state.phase i).cell? = some cell := by rw [counted, Phase.cell?]
  exact absurd (consistent.tied tied) (Nat.not_lt.mpr fresh)

omit [DecidableEq ι] [Fintype ι] in
/-- A cell after an insertion is an older one or the inserted one. -/
theorem cell_of_concat {cells : List (BitVec w)} {cell : Nat} {fresh value : BitVec w}
    (found : (cells ++ [fresh])[cell]? = some value) :
    (cell < cells.length ∧ cells[cell]? = some value) ∨ (cell = cells.length ∧ value = fresh) := by
  rcases Nat.lt_or_ge cell cells.length with old | beyond
  · rw [List.getElem?_append_left old] at found
    exact Or.inl ⟨old, found⟩
  · rw [List.getElem?_append_right beyond, List.getElem?_singleton] at found
    split at found
    · exact Or.inr ⟨by omega, (Option.some.inj found).symm⟩
    · cases found

/-- After a step callers are tied to inserted cells. -/
theorem Consistent.tied_step {state next : State w ι} {i j : ι} {inserted : Bool} {cell : Nat}
    (consistent : Consistent state) (step : Step i inserted state next)
    (tied : (next.phase j).cell? = some cell) : cell < next.cells.length := by
  cases step with
  | idle => exact consistent.tied tied
  | hit searching newest =>
      rcases cell?_update tied with ⟨_, here⟩ | before
      · cases here
        exact newest ▸ Nat.lt_succ_self _
      · exact consistent.tied before
  | insertZero searching =>
      have older := consistent.tied tied
      simp only [List.length_append, List.length_singleton]
      omega
  | insertOne searching =>
      simp only [List.length_append, List.length_singleton]
      rcases cell?_update tied with ⟨_, here⟩ | before
      · cases here
        exact Nat.lt_succ_self _
      · exact Nat.lt_succ_of_lt (consistent.tied before)
  | add bound =>
      simp only [List.length_modify]
      rcases cell?_update tied with ⟨_, here⟩ | before
      · exact consistent.tied (i := i) (by rw [bound]; exact here)
      · exact consistent.tied before

/-- After a step every cell holds the number of its callers. -/
theorem Consistent.counts_step {state next : State w ι} {i : ι} {inserted : Bool} {read : Nat}
    {value : BitVec w} (consistent : Consistent state) (step : Step i inserted state next)
    (found : next.cells[read]? = some value) : value = BitVec.ofNat w (countedIn next.phase read) := by
  cases step with
  | idle => exact consistent.counts found
  | hit searching newest =>
      rw [countedIn_update_other (by simp [searching]) (by simp)]
      exact consistent.counts found
  | insertZero searching =>
      rcases cell_of_concat found with ⟨_, older⟩ | ⟨rfl, rfl⟩
      · exact consistent.counts older
      · rw [consistent.countedIn_fresh (Nat.le_refl _)]
        rfl
  | insertOne searching =>
      rcases cell_of_concat found with ⟨old, older⟩ | ⟨rfl, rfl⟩
      · rw [countedIn_update_other (by simp [searching]) (by simp; omega)]
        exact consistent.counts older
      · rw [countedIn_update_self (by simp [searching]), consistent.countedIn_fresh (Nat.le_refl _)]
        rfl
  | @add _ cell bound =>
      dsimp only at found
      rw [List.getElem?_modify, Option.map_eq_map, Option.map_eq_some_iff] at found
      obtain ⟨old, oldFound, rfl⟩ := found
      by_cases same : cell = read
      · subst same
        rw [if_pos rfl, countedIn_update_self (by simp [bound]), consistent.counts oldFound,
          BitVec.ofNat_add]
        rfl
      · rw [if_neg same, countedIn_update_other (by simp [bound]) (by simpa using same)]
        exact consistent.counts oldFound

theorem Consistent.step {state next : State w ι} {i : ι} {inserted : Bool}
    (consistent : Consistent state) (step : Step i inserted state next) : Consistent next where
  tied := consistent.tied_step step
  counts := consistent.counts_step step

end Counting

/-- Every tied caller is tied to the newest cell. -/
def Newest (state : State w ι) : Prop :=
  ∀ {i cell}, (state.phase i).cell? = some cell → cell + 1 = state.cells.length

/-- Some caller is tied to a cell that has been replaced. -/
def Stale (state : State w ι) : Prop :=
  ∃ i cell, (state.phase i).cell? = some cell ∧ cell + 1 < state.cells.length

/-- While insertions happen only when all callers are searching, nobody falls behind. -/
theorem Newest.step {state next : State w ι} {i : ι} {inserted : Bool} (newest : Newest state)
    (step : Step i inserted state next) (early : inserted = true → state.OnlySearching) :
    Newest next := by
  intro j tiedCell tied
  cases step with
  | idle => exact newest tied
  | @hit _ cell searching last =>
      rcases cell?_update tied with ⟨_, here⟩ | before
      · cases here
        exact last
      · exact newest before
  | insertZero searching =>
      rw [early rfl j] at tied
      cases tied
  | insertOne searching =>
      rcases cell?_update tied with ⟨_, here⟩ | before
      · cases here
        simp
      · rw [early rfl j] at before
        cases before
  | @add _ cell bound =>
      simp only [List.length_modify]
      rcases cell?_update tied with ⟨_, here⟩ | before
      · exact newest (i := i) (by rw [bound]; exact here)
      · exact newest before

/-- A step leaves every tied caller tied to the same cell. -/
theorem Step.keeps_tied {state next : State w ι} {i j : ι} {inserted : Bool} {cell : Nat}
    (step : Step i inserted state next) (tied : (state.phase j).cell? = some cell) :
    (next.phase j).cell? = some cell := by
  have moved {phase : Phase} (kept : state.phase i = .searching ∨ phase.cell? = (state.phase i).cell?) :
      (Function.update state.phase i phase j).cell? = some cell := by
    by_cases same : j = i
    · subst same
      rw [Function.update_self]
      rcases kept with searching | cellEq
      · rw [searching] at tied
        cases tied
      · rw [cellEq, tied]
    · rw [Function.update_of_ne same]
      exact tied
  cases step with
  | idle => exact tied
  | hit searching => exact moved (Or.inl searching)
  | insertZero => exact tied
  | insertOne searching => exact moved (Or.inl searching)
  | add bound => exact moved (Or.inr (by rw [bound]; rfl))

/-- Cells are only ever added, and an insertion adds one. -/
theorem Step.length_cells {state next : State w ι} {i : ι} {inserted : Bool}
    (step : Step i inserted state next) :
    next.cells.length = state.cells.length + inserted.toNat := by
  cases step <;> simp

/-- A caller that fell behind stays behind: its cell never becomes the newest again. -/
theorem Stale.step {state next : State w ι} {i : ι} {inserted : Bool} (stale : Stale state)
    (step : Step i inserted state next) : Stale next := by
  obtain ⟨j, cell, tied, behind⟩ := stale
  have length := step.length_cells
  exact ⟨j, cell, step.keeps_tied tied, by omega⟩

/-- An insertion after some caller has been tied leaves that caller behind. -/
theorem Stale.of_insert [Fintype ι] {state next : State w ι} {i j : ι}
    (consistent : Consistent state) (step : Step i true state next)
    (late : state.phase j ≠ .searching) : Stale next := by
  obtain ⟨cell, tied⟩ : ∃ cell, (state.phase j).cell? = some cell := by
    cases phase : state.phase j with
    | searching => exact absurd phase late
    | bound cell => exact ⟨cell, rfl⟩
    | counted cell => exact ⟨cell, rfl⟩
  have allocated := consistent.tied tied
  have length := step.length_cells
  exact ⟨j, cell, step.keeps_tied tied, by rw [length]; exact Nat.add_lt_add_right allocated 1⟩

/-- The count that a lookup of the entry reads: the newest cell, zero when there is none. -/
def storedCount (cells : List (BitVec w)) : Nat :=
  (cells.getLast?.getD 0).toNat

section Outcome

variable [Fintype ι] {state : State w ι}

omit [DecidableEq ι] in
theorem storedCount_eq (consistent : Consistent state) :
    storedCount state.cells = countedIn state.phase (state.cells.length - 1) % 2 ^ w := by
  rw [storedCount]
  cases last : state.cells.getLast? with
  | none =>
      have empty : state.cells = [] := List.getLast?_eq_none_iff.mp last
      rw [consistent.countedIn_fresh (by simp [empty])]
      simp
  | some value =>
      have found : state.cells[state.cells.length - 1]? = some value := by
        rw [← List.getLast?_eq_getElem?]
        exact last
      rw [consistent.counts found]
      simp

omit [DecidableEq ι] in
/-- With every caller counted in the newest cell, the stored count is exact up to wrap-around. -/
theorem storedCount_of_newest (consistent : Consistent state) (newest : Newest state)
    (counted : ∀ i, ∃ cell, state.phase i = .counted cell) :
    storedCount state.cells = Fintype.card ι % 2 ^ w := by
  rw [storedCount_eq consistent, countedIn, Finset.filter_true_of_mem, Finset.card_univ]
  intro i _
  obtain ⟨cell, phase⟩ := counted i
  have last : cell + 1 = state.cells.length := newest (i := i) (by rw [phase, Phase.cell?])
  rw [phase, ← last, Nat.add_sub_cancel]

omit [DecidableEq ι] in
/-- A caller left behind is missing from the stored count. -/
theorem storedCount_of_stale (consistent : Consistent state) (stale : Stale state) :
    storedCount state.cells < Fintype.card ι := by
  obtain ⟨j, cell, tied, behind⟩ := stale
  refine Nat.lt_of_le_of_lt (storedCount_eq consistent ▸ Nat.mod_le _ _) ?_
  rw [countedIn, ← Finset.card_univ]
  apply Finset.card_lt_card
  rw [Finset.filter_ssubset]
  refine ⟨j, Finset.mem_univ j, fun counted => ?_⟩
  rw [counted, Phase.cell?, Option.some.injEq] at tied
  omega

end Outcome

/-! ## Programs that count -/

/-- How a program's shared state shows the entry under observation: the cell the entry is bound to and
the counts of all its cells, under an invariant of the shared state. `early` marks the labels of the steps
a caller takes before it is tied to a cell, `inserts` those of insertions. -/
structure Observation (ℓ σ : Type) (w : Nat) where
  entry : σ → Option Nat
  cells : σ → List (BitVec w)
  Inv : σ → Prop
  early : ℓ → Bool
  inserts : ℓ → Bool
  inserts_early : ∀ {label}, inserts label = true → early label = true

namespace Observation

variable {ℓ σ α : Type} (o : Observation ℓ σ w)

/-- The update keeps the invariant and shows the same entry. -/
def Unchanged (update : σ → σ) : Prop :=
  ∀ shared, o.Inv shared →
    o.Inv (update shared) ∧ o.entry (update shared) = o.entry shared ∧
      o.cells (update shared) = o.cells shared

/-- The update binds the entry to a fresh cell that holds `value`. -/
def Inserts (value : BitVec w) (update : σ → σ) : Prop :=
  ∀ shared, o.Inv shared →
    o.Inv (update shared) ∧ o.entry (update shared) = some (o.cells shared).length ∧
      o.cells (update shared) = o.cells shared ++ [value]

/-- The update counts one caller in `cell`. -/
def Increments (cell : Nat) (update : σ → σ) : Prop :=
  ∀ shared, o.Inv shared →
    o.Inv (update shared) ∧ o.entry (update shared) = o.entry shared ∧
      o.cells (update shared) = (o.cells shared).modify cell (· + 1)

/-- The program is done with counting. -/
def Settled (program : StepProgram ℓ σ α) : Prop :=
  program.AllSteps fun label update => o.early label = false ∧ o.Unchanged update

/-- The program counts itself in `cell` next. -/
inductive Adds (cell : Nat) : StepProgram ℓ σ α → Prop where
  | add {label : ℓ} {next : σ → StepProgram ℓ σ α} {update : σ → σ}
      (late : o.early label = false) (counts : o.Increments cell update)
      (rest : ∀ shared, o.Settled (next shared)) :
      Adds cell (.atom label next update)

/-- The program is looking for its cell. With `present` it relies on the entry being bound already. -/
inductive Searches : (present : Bool) → StepProgram ℓ σ α → Prop where
  | other {present : Bool} {label : ℓ} {next : σ → StepProgram ℓ σ α} {update : σ → σ}
      (early : o.early label = true) (keeps : o.inserts label = false)
      (unchanged : o.Unchanged update) (rest : ∀ shared, Searches present (next shared)) :
      Searches present (.atom label next update)
  | lookup {present : Bool} {label : ℓ} {next : σ → StepProgram ℓ σ α} {update : σ → σ}
      (early : o.early label = true) (keeps : o.inserts label = false)
      (unchanged : o.Unchanged update)
      (missed : present = false → ∀ shared, o.entry shared = none → Searches false (next shared))
      (found : ∀ shared cell, o.entry shared = some cell → o.Adds cell (next shared)) :
      Searches present (.atom label next update)
  | insertZero {present : Bool} {label : ℓ} {next : σ → StepProgram ℓ σ α} {update : σ → σ}
      (early : o.early label = true) (marked : o.inserts label = true)
      (inserts : o.Inserts 0 update) (rest : ∀ shared, Searches true (next shared)) :
      Searches present (.atom label next update)
  | insertOne {present : Bool} {label : ℓ} {next : σ → StepProgram ℓ σ α} {update : σ → σ}
      (early : o.early label = true) (marked : o.inserts label = true)
      (inserts : o.Inserts 1 update) (rest : ∀ shared, o.Settled (next shared)) :
      Searches present (.atom label next update)

/-- The next step of the program is one of an untied caller. -/
def Early (program : StepProgram ℓ σ α) : Prop :=
  ∃ label, program.label? = some label ∧ o.early label = true

/-- The next step of the program is an insertion. -/
def AtInsert (program : StepProgram ℓ σ α) : Prop :=
  ∃ label, program.label? = some label ∧ o.inserts label = true

instance (program : StepProgram ℓ σ α) : Decidable (o.Early program) :=
  decidable_of_iff (program.label?.any o.early = true) (by simp [Early, Option.any_eq_true])

instance (program : StepProgram ℓ σ α) : Decidable (o.AtInsert program) :=
  decidable_of_iff (program.label?.any o.inserts = true) (by simp [AtInsert, Option.any_eq_true])

/-- Every insertion of the schedule executes while all callers are still untied. -/
def InsertsEarly (config : Config ℓ σ α ι) (schedule : List ι) : Prop :=
  config.Along (fun before i =>
    o.AtInsert (before.threads i) → ∀ j, o.Early (before.threads j)) schedule

instance [Fintype ι] (config : Config ℓ σ α ι) (schedule : List ι) :
    Decidable (o.InsertsEarly config schedule) :=
  Config.decidableAlong _ config schedule

/-- The count a lookup of the entry reads, zero while the entry is unbound. -/
def stored (shared : σ) : Nat :=
  match o.entry shared with
  | none => 0
  | some cell => ((o.cells shared)[cell]?.getD 0).toNat

/-- The program of a caller in a phase; `inserted` tells whether a cell exists. -/
def Runs (inserted : Prop) : Phase → StepProgram ℓ σ α → Prop
  | .searching, program => ∃ present, o.Searches present program ∧ (present = true → inserted)
  | .bound cell, program => o.Adds cell program
  | .counted _, program => o.Settled program

/-- A configuration of counting programs and the abstract state it stands for. -/
structure Simulates (config : Config ℓ σ α ι) (state : State w ι) : Prop where
  inv : o.Inv config.shared
  cells : o.cells config.shared = state.cells
  entry : o.entry config.shared =
    if state.cells = [] then none else some (state.cells.length - 1)
  threads : ∀ i, o.Runs (state.cells ≠ []) (state.phase i) (config.threads i)

variable {o}

theorem AtInsert.early {program : StepProgram ℓ σ α} (atInsert : o.AtInsert program) :
    o.Early program := by
  obtain ⟨label, next, inserts⟩ := atInsert
  exact ⟨label, next, o.inserts_early inserts⟩

theorem Searches.early {present : Bool} {program : StepProgram ℓ σ α}
    (searches : o.Searches present program) : o.Early program := by
  cases searches with
  | other early => exact ⟨_, rfl, early⟩
  | lookup early => exact ⟨_, rfl, early⟩
  | insertZero early => exact ⟨_, rfl, early⟩
  | insertOne early => exact ⟨_, rfl, early⟩

theorem Adds.not_early {cell : Nat} {program : StepProgram ℓ σ α} (adds : o.Adds cell program) :
    ¬ o.Early program := by
  cases adds with
  | add late =>
      rintro ⟨_, label, early⟩
      cases label
      rw [late] at early
      cases early

theorem Settled.not_early {program : StepProgram ℓ σ α} (settled : o.Settled program) :
    ¬ o.Early program := by
  rintro ⟨label, next, early⟩
  rcases settled.next with finished | ⟨_, _, _, rfl, ⟨late, _⟩, _⟩
  · rw [finished] at next
    cases next
  · cases next
    rw [late] at early
    cases early

theorem Runs.early_iff {inserted : Prop} {phase : Phase} {program : StepProgram ℓ σ α}
    (runs : o.Runs inserted phase program) : o.Early program ↔ phase = .searching := by
  cases phase with
  | searching =>
      obtain ⟨_, searches, _⟩ := runs
      exact iff_of_true searches.early rfl
  | bound cell => exact iff_of_false (Adds.not_early runs) (by simp)
  | counted cell => exact iff_of_false (Settled.not_early runs) (by simp)

/-- A caller whose program has returned has been counted. -/
theorem Runs.counted_of_finished {inserted : Prop} {phase : Phase} {program : StepProgram ℓ σ α}
    (runs : o.Runs inserted phase program) (finished : program.Finished) :
    ∃ cell, phase = .counted cell := by
  cases phase with
  | searching =>
      obtain ⟨_, searches, _⟩ := runs
      obtain ⟨_, label, _⟩ := searches.early
      rw [finished] at label
      cases label
  | bound cell =>
      cases runs with
      | add => cases finished
  | counted cell => exact ⟨cell, rfl⟩

/-- Cells are never taken away, so a searching program may keep relying on them. -/
theorem Runs.mono {inserted later : Prop} {phase : Phase} {program : StepProgram ℓ σ α}
    (grown : inserted → later) (runs : o.Runs inserted phase program) :
    o.Runs later phase program := by
  cases phase with
  | searching =>
      obtain ⟨present, searches, relies⟩ := runs
      exact ⟨present, searches, fun isPresent => grown (relies isPresent)⟩
  | bound cell => exact runs
  | counted cell => exact runs

/-! ### The simulation -/

namespace Simulates

variable {config : Config ℓ σ α ι} {state : State w ι} {i : ι}
variable {label : ℓ} {next : σ → StepProgram ℓ σ α} {update : σ → σ}

omit [DecidableEq ι] in
theorem entry_eq_none (simulates : o.Simulates config state) (empty : state.cells = []) :
    o.entry config.shared = none := by
  rw [simulates.entry, if_pos empty]

omit [DecidableEq ι] in
theorem entry_eq_some (simulates : o.Simulates config state) (inserted : state.cells ≠ []) :
    ∃ cell, o.entry config.shared = some cell ∧ cell + 1 = state.cells.length := by
  refine ⟨state.cells.length - 1, by rw [simulates.entry, if_neg inserted], ?_⟩
  have := List.length_pos_of_ne_nil inserted
  omega

/-- The configuration after the step of caller `i`, from what its update does to the entry. -/
theorem advance (simulates : o.Simulates config state)
    (thread : config.threads i = .atom label next update) {cells : List (BitVec w)} {phase : Phase}
    (inv : o.Inv (update config.shared)) (cellsEq : o.cells (update config.shared) = cells)
    (entryEq : o.entry (update config.shared) =
      if cells = [] then none else some (cells.length - 1))
    (grown : state.cells ≠ [] → cells ≠ [])
    (runs : o.Runs (cells ≠ []) phase (next config.shared)) :
    o.Simulates (config.step i)
      { cells := cells, phase := Function.update state.phase i phase } := by
  have shared : (config.step i).shared = update config.shared := by
    rw [Config.step_shared, thread]
    rfl
  refine ⟨shared ▸ inv, by rw [shared, cellsEq], by rw [shared, entryEq], fun j => ?_⟩
  by_cases same : j = i
  · subst same
    rw [Config.step_threads_self, thread]
    simpa only [Function.update_self, StepProgram.step] using runs
  · rw [Config.step_threads_ne _ same]
    simpa only [Function.update_of_ne same] using (simulates.threads j).mono grown

/-- A step that does not touch the entry and leaves its caller in the same phase. -/
theorem idle (simulates : o.Simulates config state)
    (thread : config.threads i = .atom label next update) (unchanged : o.Unchanged update)
    (runs : o.Runs (state.cells ≠ []) (state.phase i) (next config.shared)) :
    o.Simulates (config.step i) state := by
  obtain ⟨inv, entryEq, cellsEq⟩ := unchanged config.shared simulates.inv
  have moved := simulates.advance thread inv (cellsEq.trans simulates.cells)
    (entryEq.trans simulates.entry) id runs
  rwa [Function.update_eq_self] at moved

/-- An insertion of `value` by caller `i`. -/
theorem insert (simulates : o.Simulates config state)
    (thread : config.threads i = .atom label next update) {value : BitVec w} {phase : Phase}
    (inserts : o.Inserts value update)
    (runs : o.Runs (state.cells ++ [value] ≠ []) phase (next config.shared)) :
    o.Simulates (config.step i)
      { cells := state.cells ++ [value], phase := Function.update state.phase i phase } := by
  obtain ⟨inv, entryEq, cellsEq⟩ := inserts config.shared simulates.inv
  refine simulates.advance thread inv (by rw [cellsEq, simulates.cells]) ?_ (by simp) runs
  rw [entryEq, simulates.cells]
  simp

/-- A step of a caller that is still searching. -/
theorem step_searching (simulates : o.Simulates config state) (phaseEq : state.phase i = .searching) :
    ∃ inserted after, Step i inserted state after ∧
      (inserted = true ↔ o.AtInsert (config.threads i)) ∧ o.Simulates (config.step i) after := by
  have runs := simulates.threads i
  rw [phaseEq] at runs
  obtain ⟨present, searches, relies⟩ := runs
  generalize thread : config.threads i = program at searches
  cases searches with
  | other early keeps unchanged rest =>
      refine ⟨false, state, .idle state, ?_, simulates.idle thread unchanged ?_⟩
      · simp [AtInsert, StepProgram.label?, keeps]
      · rw [phaseEq]
        exact ⟨present, rest _, relies⟩
  | @lookup _ label next update early keeps unchanged missed found =>
      have notInsert :
          false = true ↔ o.AtInsert (.atom label next update : StepProgram ℓ σ α) := by
        simp [AtInsert, StepProgram.label?, keeps]
      by_cases empty : state.cells = []
      · have absent : present = false := by
          cases present with
          | false => rfl
          | true => exact absurd empty (relies rfl)
        refine ⟨false, state, .idle state, notInsert, simulates.idle thread unchanged ?_⟩
        rw [phaseEq]
        exact ⟨false, missed absent _ (simulates.entry_eq_none empty), by simp⟩
      · obtain ⟨cell, entryEq, newest⟩ := simulates.entry_eq_some empty
        obtain ⟨inv, entrySame, cellsSame⟩ := unchanged config.shared simulates.inv
        exact ⟨false, _, .hit phaseEq newest, notInsert,
          simulates.advance thread inv (cellsSame.trans simulates.cells)
            (entrySame.trans simulates.entry) id (found _ cell entryEq)⟩
  | insertZero early marked inserts rest =>
      refine ⟨true, _, .insertZero phaseEq, ?_, ?_⟩
      · simp [AtInsert, StepProgram.label?, marked]
      · have runs : o.Runs (state.cells ++ [0] ≠ []) .searching _ :=
          ⟨true, rest config.shared, fun _ => by simp⟩
        have moved := simulates.insert thread inserts runs
        rwa [← phaseEq, Function.update_eq_self] at moved
  | insertOne early marked inserts rest =>
      refine ⟨true, _, .insertOne phaseEq, ?_, simulates.insert thread inserts (rest _)⟩
      simp [AtInsert, StepProgram.label?, marked]

/-- A step of a caller that is tied to a cell. -/
theorem step_bound (simulates : o.Simulates config state) {cell : Nat}
    (phaseEq : state.phase i = .bound cell) :
    ∃ inserted after, Step i inserted state after ∧
      (inserted = true ↔ o.AtInsert (config.threads i)) ∧ o.Simulates (config.step i) after := by
  have runs := simulates.threads i
  rw [phaseEq] at runs
  have notInsert : false = true ↔ o.AtInsert (config.threads i) :=
    iff_of_false (by simp) fun atInsert => Adds.not_early runs atInsert.early
  generalize thread : config.threads i = program at runs notInsert
  cases runs with
  | add late counts rest =>
      obtain ⟨inv, entrySame, cellsEq⟩ := counts config.shared simulates.inv
      rw [simulates.cells] at cellsEq
      refine ⟨false, _, .add phaseEq, notInsert, simulates.advance thread inv cellsEq ?_ ?_ (rest _)⟩
      · rw [entrySame, simulates.entry]
        simp
      · simp

/-- A step of a caller that has been counted. -/
theorem step_counted (simulates : o.Simulates config state) {cell : Nat}
    (phaseEq : state.phase i = .counted cell) :
    ∃ inserted after, Step i inserted state after ∧
      (inserted = true ↔ o.AtInsert (config.threads i)) ∧ o.Simulates (config.step i) after := by
  have runs := simulates.threads i
  rw [phaseEq] at runs
  have notInsert : false = true ↔ o.AtInsert (config.threads i) :=
    iff_of_false (by simp) fun atInsert => Settled.not_early runs atInsert.early
  refine ⟨false, state, .idle state, notInsert, ?_⟩
  rcases StepProgram.AllSteps.next runs with finished | ⟨_, _, _, thread, ⟨_, unchanged⟩, rest⟩
  · rw [config.step_of_finished finished]
    exact simulates
  · exact simulates.idle thread unchanged (by rw [phaseEq]; exact rest _)

/-- Every step of the configuration is a step of the abstract model. -/
theorem step (simulates : o.Simulates config state) (i : ι) :
    ∃ inserted after, Step i inserted state after ∧
      (inserted = true ↔ o.AtInsert (config.threads i)) ∧ o.Simulates (config.step i) after := by
  cases phaseEq : state.phase i with
  | searching => exact simulates.step_searching phaseEq
  | bound cell => exact simulates.step_bound phaseEq
  | counted cell => exact simulates.step_counted phaseEq

omit [DecidableEq ι] in
/-- The entry reads the newest cell. -/
theorem stored_eq (simulates : o.Simulates config state) :
    o.stored config.shared = storedCount state.cells := by
  rw [stored, simulates.entry, simulates.cells, storedCount, List.getLast?_eq_getElem?]
  by_cases empty : state.cells = []
  · simp [empty]
  · rw [if_neg empty]

omit [DecidableEq ι] in
theorem onlySearching_iff (simulates : o.Simulates config state) :
    state.OnlySearching ↔ ∀ j, o.Early (config.threads j) :=
  forall_congr' fun j => (simulates.threads j).early_iff.symm

variable [Fintype ι]

/-- A schedule whose insertions are early leaves nobody behind. -/
theorem run_newest {schedule : List ι} (simulates : o.Simulates config state)
    (consistent : Consistent state) (newest : Newest state) (early : o.InsertsEarly config schedule) :
    ∃ after, o.Simulates (config.run schedule) after ∧ Consistent after ∧ Newest after := by
  induction schedule generalizing config state with
  | nil => exact ⟨state, simulates, consistent, newest⟩
  | cons i rest ih =>
      obtain ⟨inserted, after, step, inserts, simulates'⟩ := simulates.step i
      refine ih simulates' (consistent.step step) (newest.step step fun isInsert => ?_) early.2
      exact simulates.onlySearching_iff.mpr (early.1 (inserts.mp isInsert))

/-- Once a caller is behind, every schedule leaves it behind. -/
theorem run_stale {schedule : List ι} (simulates : o.Simulates config state)
    (consistent : Consistent state) (stale : Stale state) :
    ∃ after, o.Simulates (config.run schedule) after ∧ Consistent after ∧ Stale after := by
  induction schedule generalizing config state with
  | nil => exact ⟨state, simulates, consistent, stale⟩
  | cons i rest ih =>
      obtain ⟨_, after, step, _, simulates'⟩ := simulates.step i
      exact ih simulates' (consistent.step step) (stale.step step)

/-- A schedule with a late insertion leaves some caller behind. -/
theorem run_late {schedule : List ι} (simulates : o.Simulates config state)
    (consistent : Consistent state) (late : ¬ o.InsertsEarly config schedule) :
    ∃ after, o.Simulates (config.run schedule) after ∧ Consistent after ∧ Stale after := by
  induction schedule generalizing config state with
  | nil => exact absurd trivial late
  | cons i rest ih =>
      obtain ⟨inserted, after, step, inserts, simulates'⟩ := simulates.step i
      by_cases first : o.AtInsert (config.threads i) → ∀ j, o.Early (config.threads j)
      · exact ih simulates' (consistent.step step) fun early => late ⟨first, early⟩
      · obtain ⟨atInsert, someLate⟩ := Classical.not_imp.mp first
        rw [← simulates.onlySearching_iff, State.OnlySearching, not_forall] at someLate
        obtain ⟨j, tied⟩ := someLate
        cases inserts.mpr atInsert
        exact simulates'.run_stale (consistent.step step) (Stale.of_insert consistent step tied)

end Simulates

omit [DecidableEq ι] in
/-- Callers that look for their cell, before their first step. -/
theorem Simulates.initial {shared : σ} {threads : ι → StepProgram ℓ σ α} (inv : o.Inv shared)
    (entry : o.entry shared = none) (cells : o.cells shared = [])
    (searches : ∀ i, o.Searches false (threads i)) :
    o.Simulates { shared := shared, threads := threads } State.initial where
  inv := inv
  cells := cells
  entry := entry
  threads := fun i => ⟨false, searches i, by simp⟩

/-- **Exact counting at first touch.** When all callers have returned, the entry holds their number
exactly if the number fits the counter and no insertion was executed after some caller had been tied to a
cell. -/
theorem stored_eq_card_iff [Fintype ι] {shared : σ} {threads : ι → StepProgram ℓ σ α}
    {schedule : List ι} (inv : o.Inv shared) (entry : o.entry shared = none)
    (cells : o.cells shared = []) (searches : ∀ i, o.Searches false (threads i))
    (finished : (Config.run { shared := shared, threads := threads } schedule).Finished) :
    o.stored (Config.run { shared := shared, threads := threads } schedule).shared = Fintype.card ι ↔
      Fintype.card ι < 2 ^ w ∧ o.InsertsEarly { shared := shared, threads := threads } schedule := by
  have start := Simulates.initial inv entry cells searches
  by_cases early : o.InsertsEarly { shared := shared, threads := threads } schedule
  · have newest : Newest (State.initial : State w ι) := by simp [Newest, State.initial, Phase.cell?]
    obtain ⟨after, simulates, consistent, newest⟩ := start.run_newest .initial newest early
    have counted i := (simulates.threads i).counted_of_finished (finished i)
    rw [simulates.stored_eq, storedCount_of_newest consistent newest counted]
    constructor
    · intro exact
      exact ⟨exact ▸ Nat.mod_lt _ (Nat.two_pow_pos w), early⟩
    · rintro ⟨fits, -⟩
      exact Nat.mod_eq_of_lt fits
  · obtain ⟨after, simulates, consistent, stale⟩ := start.run_late .initial early
    rw [simulates.stored_eq]
    exact iff_of_false (Nat.ne_of_lt (storedCount_of_stale consistent stale)) fun both => early both.2

end Observation

end FirstTouch
