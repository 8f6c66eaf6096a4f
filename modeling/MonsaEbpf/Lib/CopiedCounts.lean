/-
Module: MonsaEbpf.Lib.CopiedCounts
Layer: Lib
Purpose: Callers that count by copying. A caller that finds something to count takes a copy of a shared
  counter, raises the copy by one and stores it back, in steps of its own; whatever others have stored in
  between is overwritten. The abstract model is a ledger: the value, the copies that are held, and how many
  have been stored. A ledger stays fresh as long as nobody takes a copy while another is held, and once
  that has happened it is behind for good. Programs follow the ledger (`CopyCounter.Counts`), so the count
  is exact for exactly the schedules in which no two callers hold copies at a time
  (`CopyCounter.get_run_iff`).
Imports: MonsaEbpf.Lib.SharedView
Trusted boundary: none
Main exports: Ledger, Ledger.Step, Ledger.Fresh, Ledger.Lost, CopyCounter, CopyCounter.Counts,
  CopyCounter.finders, CopyCounter.Alone, CopyCounter.get_run_iff
-/
import MonsaEbpf.Lib.SharedView

/-! ### The ledger -/

/-- A counter, the copies of it that callers hold, and how many copies have been stored back. -/
structure Ledger (ι : Type) (w : Nat) where
  value : BitVec w
  copies : ι → Option (BitVec w)
  stored : Nat

namespace Ledger

variable {ι : Type} [DecidableEq ι] {w : Nat}

/-- What caller `i` can do to the ledger; the flag tells whether it takes a copy. -/
inductive Step (i : ι) (ledger : Ledger ι w) : Bool → Ledger ι w → Prop where
  | idle : Step i ledger false ledger
  | take (free : ledger.copies i = none) :
      Step i ledger true { ledger with copies := Function.update ledger.copies i (some ledger.value) }
  | store {copy : BitVec w} (held : ledger.copies i = some copy) :
      Step i ledger false
        { value := copy + 1
          copies := Function.update ledger.copies i none
          stored := ledger.stored + 1 }

/-- `value` is what counting fewer than `bound` from `start` gives. -/
def Below (start : BitVec w) (bound : Nat) (value : BitVec w) : Prop :=
  ∃ gain, gain < bound ∧ value = start + BitVec.ofNat w gain

/-- Neither the value nor a copy counts more than has been stored. -/
structure Bounded (start : BitVec w) (ledger : Ledger ι w) : Prop where
  value : Below start (ledger.stored + 1) ledger.value
  copies : ∀ i copy, ledger.copies i = some copy → Below start (ledger.stored + 1) copy

/-- The value counts everything that has been stored, and at most one caller holds a copy of it. -/
structure Fresh (start : BitVec w) (ledger : Ledger ι w) : Prop where
  value : ledger.value = start + BitVec.ofNat w ledger.stored
  current : ∀ i copy, ledger.copies i = some copy → copy = ledger.value
  single : ∀ i j, (ledger.copies i).isSome → (ledger.copies j).isSome → i = j

/-- The value and all copies count less than has been stored. -/
structure Behind (start : BitVec w) (ledger : Ledger ι w) : Prop where
  value : Below start ledger.stored ledger.value
  copies : ∀ i copy, ledger.copies i = some copy → Below start ledger.stored copy

/-- Something stored is lost, or it will be when the copies that are held are stored. -/
inductive Lost (start : BitVec w) (ledger : Ledger ι w) : Prop where
  | behind (behind : Behind start ledger)
  | stale (i : ι) (copy : BitVec w) (held : ledger.copies i = some copy)
      (below : Below start ledger.stored copy)
  | racing (i j : ι) (apart : i ≠ j) (one : (ledger.copies i).isSome) (two : (ledger.copies j).isSome)

variable {start value : BitVec w} {ledger ledger' : Ledger ι w} {i : ι} {taking : Bool} {bound : Nat}

theorem Below.mono (below : Below start bound value) {more : Nat} (le : bound ≤ more) :
    Below start more value := by
  obtain ⟨gain, small, isGain⟩ := below
  exact ⟨gain, lt_of_lt_of_le small le, isGain⟩

/-- One more in the value is one more in the bound. -/
theorem Below.succ (below : Below start bound value) : Below start (bound + 1) (value + 1) := by
  obtain ⟨gain, small, rfl⟩ := below
  refine ⟨gain + 1, Nat.succ_lt_succ small, ?_⟩
  rw [BitVec.add_assoc, BitVec.ofNat_add]
  rfl

/-- A copy of the updated caller or of another one. -/
theorem copies_update {copies : ι → Option (BitVec w)} {new : Option (BitVec w)} {j : ι} {copy : BitVec w}
    (held : Function.update copies i new j = some copy) :
    (j = i ∧ new = some copy) ∨ (j ≠ i ∧ copies j = some copy) := by
  by_cases same : j = i
  · subst same
    rw [Function.update_self] at held
    exact Or.inl ⟨rfl, held⟩
  · rw [Function.update_of_ne same] at held
    exact Or.inr ⟨same, held⟩

/-- What holds of the value and of all copies holds of the copies when one has been taken. -/
theorem copies_taken {P : BitVec w → Prop} (atValue : P value) {copies : ι → Option (BitVec w)}
    (atCopies : ∀ j copy, copies j = some copy → P copy) (j : ι) (copy : BitVec w)
    (held : Function.update copies i (some value) j = some copy) : P copy := by
  rcases copies_update held with ⟨_, taken⟩ | ⟨_, before⟩
  · cases taken
    exact atValue
  · exact atCopies j copy before

/-- What holds of all copies holds of those that are left when one has been stored. -/
theorem copies_left {P : BitVec w → Prop} {copies : ι → Option (BitVec w)}
    (atCopies : ∀ j copy, copies j = some copy → P copy) (j : ι) (copy : BitVec w)
    (held : Function.update copies i none j = some copy) : P copy := by
  rcases copies_update held with ⟨_, nothing⟩ | ⟨_, before⟩
  · cases nothing
  · exact atCopies j copy before

theorem Bounded.step (bounded : Bounded start ledger) (step : Step i ledger taking ledger') :
    Bounded start ledger' := by
  cases step with
  | idle => exact bounded
  | take free => exact ⟨bounded.value, copies_taken bounded.value bounded.copies⟩
  | store held =>
      refine ⟨(bounded.copies i _ held).succ, copies_left fun j copy before => ?_⟩
      exact (bounded.copies j copy before).mono (Nat.le_succ _)

/-- A fresh ledger stays fresh when a copy is taken and no other caller holds one. -/
theorem Fresh.take (fresh : Fresh start ledger) (alone : ∀ j, j ≠ i → ledger.copies j = none) :
    Fresh start { ledger with copies := Function.update ledger.copies i (some ledger.value) } := by
  have holder (j : ι) (holds : (Function.update ledger.copies i (some ledger.value) j).isSome) :
      j = i := by
    by_contra apart
    rw [Function.update_of_ne apart, alone j apart] at holds
    cases holds
  refine ⟨fresh.value, copies_taken (P := (· = ledger.value)) rfl fresh.current, fun j k one two => ?_⟩
  exact (holder j one).trans (holder k two).symm

/-- It stays fresh when the copy is stored, and nobody holds a copy then. -/
theorem Fresh.store (fresh : Fresh start ledger) {copy : BitVec w} (held : ledger.copies i = some copy) :
    Fresh start (⟨copy + 1, Function.update ledger.copies i none, ledger.stored + 1⟩ : Ledger ι w) := by
  have nobody (j : ι) : Function.update ledger.copies i none j = none := by
    rw [Option.eq_none_iff_forall_ne_some]
    intro other holds
    rcases copies_update holds with ⟨_, nothing⟩ | ⟨apart, before⟩
    · cases nothing
    · exact apart (fresh.single j i (by rw [before]; rfl) (by rw [held]; rfl))
  refine ⟨?_, fun j other holds => ?_, fun j k one _ => ?_⟩
  · change copy + 1 = start + BitVec.ofNat w (ledger.stored + 1)
    rw [fresh.current i copy held, fresh.value, BitVec.ofNat_add, BitVec.add_assoc]
    rfl
  · cases (nobody j).symm.trans holds
  · have impossible : (none : Option (BitVec w)).isSome :=
      (congrArg Option.isSome (nobody j)).symm.trans one
    cases impossible

/-- A fresh ledger stays fresh when copies are only taken while no other caller holds one. -/
theorem Fresh.step (fresh : Fresh start ledger) (step : Step i ledger taking ledger')
    (alone : taking = true → ∀ j, j ≠ i → ledger.copies j = none) : Fresh start ledger' := by
  cases step with
  | idle => exact fresh
  | take free => exact fresh.take (alone rfl)
  | store held => exact fresh.store held

/-- A copy taken while another is held: one of the two stores will overwrite the other. -/
theorem lost_of_take (step : Step i ledger true ledger') {j : ι} (apart : j ≠ i)
    (held : ledger.copies j ≠ none) : Lost start ledger' := by
  cases step with
  | take free =>
      refine .racing j i apart ?_ ?_
      · change (Function.update ledger.copies i _ j).isSome
        rw [Function.update_of_ne apart]
        exact Option.isSome_iff_ne_none.mpr held
      · change (Function.update ledger.copies i _ i).isSome
        rw [Function.update_self]
        rfl

/-- What is lost stays lost when a caller without a copy takes one. -/
theorem Lost.take (lost : Lost start ledger) (free : ledger.copies i = none) :
    Lost start { ledger with copies := Function.update ledger.copies i (some ledger.value) } := by
  have kept {j : ι} (holds : (ledger.copies j).isSome) :
      Function.update ledger.copies i (some ledger.value) j = ledger.copies j := by
    apply Function.update_of_ne
    rintro rfl
    rw [free] at holds
    cases holds
  cases lost with
  | behind behind => exact .behind ⟨behind.value, copies_taken behind.value behind.copies⟩
  | stale j copy held below => exact .stale j copy ((kept (by rw [held]; rfl)).trans held) below
  | racing j k apart one two =>
      exact .racing j k apart ((congrArg Option.isSome (kept one)).trans one)
        ((congrArg Option.isSome (kept two)).trans two)

/-- What is lost stays lost when a copy is stored. -/
theorem Lost.store (lost : Lost start ledger) (bounded : Bounded start ledger) {copy : BitVec w}
    (held : ledger.copies i = some copy) :
    Lost start (⟨copy + 1, Function.update ledger.copies i none, ledger.stored + 1⟩ : Ledger ι w) := by
  -- a copy that is not stored now was taken before this store
  have older {j : ι} {other : BitVec w} (apart : j ≠ i) (holds : ledger.copies j = some other) :
      Lost start (⟨copy + 1, Function.update ledger.copies i none, ledger.stored + 1⟩ : Ledger ι w) :=
    .stale j other ((Function.update_of_ne apart ..).trans holds) (bounded.copies j other holds)
  -- a copy that was behind leaves the value behind, and every copy that is left is older
  have late (below : Below start ledger.stored copy) :
      Lost start (⟨copy + 1, Function.update ledger.copies i none, ledger.stored + 1⟩ : Ledger ι w) :=
    .behind ⟨below.succ, copies_left bounded.copies⟩
  cases lost with
  | behind behind => exact late (behind.copies i copy held)
  | stale j other holds below =>
      by_cases same : j = i
      · rw [same, held] at holds
        cases holds
        exact late below
      · exact older same holds
  | racing j k apart one two =>
      obtain ⟨first, heldFirst⟩ := Option.isSome_iff_exists.mp one
      obtain ⟨second, heldSecond⟩ := Option.isSome_iff_exists.mp two
      by_cases same : j = i
      · exact older (same ▸ Ne.symm apart) heldSecond
      · exact older same heldFirst

/-- **What is lost stays lost.** -/
theorem Lost.step (lost : Lost start ledger) (bounded : Bounded start ledger)
    (step : Step i ledger taking ledger') : Lost start ledger' := by
  cases step with
  | idle => exact lost
  | take free => exact lost.take free
  | store held => exact lost.store bounded held

omit [DecidableEq ι] in
/-- Before anything is copied or stored the ledger is fresh. -/
theorem fresh_of_free (free : ∀ i, ledger.copies i = none) (nothing : ledger.stored = 0) :
    Fresh ledger.value ledger ∧ Bounded ledger.value ledger := by
  have zero : ledger.value = ledger.value + BitVec.ofNat w 0 := (BitVec.add_zero _).symm
  have noCopy {i : ι} {copy : BitVec w} (held : ledger.copies i = some copy) : False := by
    rw [free i] at held
    cases held
  refine ⟨⟨nothing ▸ zero, fun _ _ held => (noCopy held).elim, fun i j one _ => ?_⟩,
    ⟨⟨0, Nat.succ_pos _, zero⟩, fun _ _ held => (noCopy held).elim⟩⟩
  rw [free i] at one
  cases one

omit [DecidableEq ι] in
/-- Once no copy is held, what is lost is missing from the value. -/
theorem Lost.below (lost : Lost start ledger) (free : ∀ i, ledger.copies i = none) :
    Below start ledger.stored ledger.value := by
  cases lost with
  | behind behind => exact behind.value
  | stale i copy held below =>
      rw [free i] at held
      cases held
  | racing i j apart one two =>
      rw [free i] at one
      cases one

end Ledger

/-! ### Programs that count by copying -/

/-- What a step is for: it looks for something to count, takes the copy, or holds it (up to its store). -/
inductive CopyStep where
  | plain
  | search
  | take
  | hold
deriving DecidableEq, Repr

/-- A counter in a shared state, with what the steps on it are for and what a search finds. The state
grows: what `Grows` relates keeps the copies that were taken readable. -/
structure CopyCounter (ℓ σ : Type) (w : Nat) extends SharedView σ (BitVec w) where
  kind : ℓ → CopyStep
  found : σ → Bool
  Grows : σ → σ → Prop
  grows_refl : ∀ shared, Grows shared shared
  grows_trans : ∀ {first second third}, Grows first second → Grows second third → Grows first third

namespace CopyCounter

variable {ℓ σ α ι : Type} {w : Nat}

/-- How far a caller is: it has not searched, it owes the count, it holds its copy, or it is done. -/
inductive Stage (w : Nat) where
  | idle
  | owing
  | holding (copy : BitVec w)
  | settled

namespace Stage

/-- The copy that is held. -/
def copy? : Stage w → Option (BitVec w)
  | .holding copy => some copy
  | .idle | .owing | .settled => none

/-- How many stores are to come of what was found. -/
def pending : Stage w → Nat
  | .owing | .holding _ => 1
  | .idle | .settled => 0

theorem copy?_of_pending {stage : Stage w} (nothing : stage.pending = 0) : stage.copy? = none := by
  cases stage with
  | idle | owing | settled => rfl
  | holding copy => cases nothing

end Stage

/-- What a step of a kind does to the stage and to the value. -/
inductive Moved (value : BitVec w) (found : Bool) :
    CopyStep → Stage w → Stage w → BitVec w → Prop where
  | plain : Moved value found .plain .settled .settled value
  | wait : Moved value found .plain .owing .owing value
  | search : Moved value found .search .idle (if found then .owing else .settled) value
  | take : Moved value found .take .owing (.holding value) value
  | hold (copy : BitVec w) : Moved value found .hold (.holding copy) (.holding copy) value
  | store (copy : BitVec w) : Moved value found .hold (.holding copy) .settled (copy + 1)

variable (counter : CopyCounter ℓ σ w)

/-- The program counts by copying from a stage on, in states that have grown from `seen`. -/
inductive Counts : σ → Stage w → StepProgram ℓ σ α → Prop where
  | ret {seen : σ} (result : α) : Counts seen .settled (.ret result)
  | step {seen : σ} {label : ℓ} {next : σ → StepProgram ℓ σ α} {update : σ → σ} {stage : Stage w}
      (later : σ → Stage w)
      (keeps : ∀ shared, counter.Inv shared →
        counter.Inv (update shared) ∧ counter.Grows shared (update shared))
      (moves : ∀ shared, counter.Inv shared → counter.Grows seen shared →
        Moved (counter.get shared) (counter.found shared) (counter.kind label) stage (later shared)
          (counter.get (update shared)))
      (rest : ∀ shared, counter.Inv shared → counter.Grows seen shared →
        Counts (update shared) (later shared) (next shared)) :
      Counts seen stage (.atom label next update)

/-- What the next step of the program is for. -/
def kind? (program : StepProgram ℓ σ α) : Option CopyStep :=
  program.label?.map counter.kind

/-- The next step of caller `i` is a search that finds something to count. -/
def Finds (config : Config ℓ σ α ι) (i : ι) : Prop :=
  counter.kind? (config.threads i) = some .search ∧ counter.found config.shared = true

instance (config : Config ℓ σ α ι) (i : ι) : Decidable (counter.Finds config i) :=
  inferInstanceAs (Decidable (_ ∧ _))

/-- When caller `i` takes its copy next, no other caller holds one. -/
def Alone (config : Config ℓ σ α ι) (i : ι) : Prop :=
  counter.kind? (config.threads i) = some .take →
    ∀ j, j ≠ i → counter.kind? (config.threads j) ≠ some .hold

variable [DecidableEq ι]

instance [Fintype ι] (config : Config ℓ σ α ι) (i : ι) : Decidable (counter.Alone config i) :=
  inferInstanceAs (Decidable (_ → _))

/-- The callers that find something to count along a schedule. -/
def finders : Config ℓ σ α ι → List ι → Finset ι
  | _, [] => ∅
  | config, i :: rest =>
      if counter.Finds config i then insert i (finders (config.step i) rest)
      else finders (config.step i) rest

variable {counter} {seen shared : σ} {stage : Stage w} {program : StepProgram ℓ σ α}

/-! ### One program -/

/-- A program that counts goes on to count as the state grows. -/
theorem Counts.grow (counts : counter.Counts seen stage program) (grows : counter.Grows seen shared) :
    counter.Counts shared stage program := by
  cases counts with
  | ret result => exact .ret result
  | step later keeps moves rest =>
      refine .step later keeps (fun next inv after => ?_) fun next inv after => ?_
      · exact moves next inv (counter.grows_trans grows after)
      · exact rest next inv (counter.grows_trans grows after)

/-- A caller that has returned is done. -/
theorem Counts.of_finished (counts : counter.Counts seen stage program) (finished : program.Finished) :
    stage = .settled := by
  cases counts with
  | ret result => rfl
  | step later keeps moves rest => cases finished

theorem Moved.hold_iff {value value' : BitVec w} {found : Bool} {kind : CopyStep} {stage stage' : Stage w}
    (moved : Moved value found kind stage stage' value') : kind = .hold ↔ stage.copy? ≠ none := by
  cases moved <;> simp [Stage.copy?]

/-- A copy is held exactly when the next step is one that holds it. -/
theorem Counts.holds_iff (counts : counter.Counts shared stage program) (inv : counter.Inv shared) :
    counter.kind? program = some .hold ↔ stage.copy? ≠ none := by
  cases counts with
  | ret result => simp [kind?, StepProgram.label?, Stage.copy?]
  | step later keeps moves rest =>
      have moved := moves shared inv (counter.grows_refl shared)
      rw [kind?, StepProgram.label?, Option.map_some, Option.some.injEq]
      exact moved.hold_iff

/-- What one step does: a caller that has returned stays, any other moves as its step says. -/
theorem Counts.next (counts : counter.Counts shared stage program) (inv : counter.Inv shared) :
    ∃ stage', counter.Counts (program.step shared).2 stage' (program.step shared).1 ∧
      counter.Inv (program.step shared).2 ∧ counter.Grows shared (program.step shared).2 ∧
      ((counter.kind? program = none ∧ stage = .settled ∧ stage' = .settled ∧
          counter.get (program.step shared).2 = counter.get shared) ∨
        ∃ kind, counter.kind? program = some kind ∧
          Moved (counter.get shared) (counter.found shared) kind stage stage'
            (counter.get (program.step shared).2)) := by
  cases counts with
  | ret result =>
      exact ⟨.settled, .ret result, inv, counter.grows_refl shared, Or.inl ⟨rfl, rfl, rfl, rfl⟩⟩
  | step later keeps moves rest =>
      have same := counter.grows_refl shared
      obtain ⟨inv', grows⟩ := keeps shared inv
      exact ⟨later shared, rest shared inv same, inv', grows, Or.inr ⟨_, rfl, moves shared inv same⟩⟩

/-! ### One step on the ledger -/

variable {ledger : Ledger ι w} {stage' : Stage w} {value' : BitVec w} {i : ι}

theorem update_same_copy (isStage : ledger.copies i = stage.copy?) (same : stage'.copy? = stage.copy?) :
    Function.update ledger.copies i stage'.copy? = ledger.copies := by
  rw [same, ← isStage, Function.update_eq_self]

/-- A move is a step of the ledger, and what is found but not yet stored stays pending. -/
theorem Moved.ledger_step {kind : CopyStep} {found : Bool}
    (moved : Moved ledger.value found kind stage stage' value') (isStage : ledger.copies i = stage.copy?) :
    ∃ stored', ledger.Step i (decide (kind = .take))
        ⟨value', Function.update ledger.copies i stage'.copy?, stored'⟩ ∧
      stored' + stage'.pending =
        ledger.stored + stage.pending + (if kind = .search ∧ found = true then 1 else 0) := by
  have idle (same : stage'.copy? = stage.copy?) :
      ledger.Step i false ⟨ledger.value, Function.update ledger.copies i stage'.copy?, ledger.stored⟩ := by
    rw [update_same_copy isStage same]
    exact .idle
  cases moved with
  | plain => exact ⟨ledger.stored, idle rfl, rfl⟩
  | wait => exact ⟨ledger.stored, idle rfl, rfl⟩
  | search =>
      cases found with
      | false => exact ⟨ledger.stored, idle rfl, rfl⟩
      | true => exact ⟨ledger.stored, idle rfl, rfl⟩
  | take => exact ⟨ledger.stored, .take isStage, rfl⟩
  | hold copy => exact ⟨ledger.stored, idle rfl, rfl⟩
  | store copy => exact ⟨ledger.stored + 1, .store isStage, rfl⟩

/-- Only a caller that has not searched yet finds something, and no step leads back there. -/
theorem Moved.of_search {value : BitVec w} {kind : CopyStep} {found : Bool}
    (moved : Moved value found kind stage stage' value') :
    (kind = .search → stage = .idle) ∧ stage' ≠ .idle := by
  cases moved with
  | search => cases found <;> exact ⟨fun _ => rfl, nofun⟩
  | plain | wait | take | hold | store => exact ⟨nofun, nofun⟩

/-! ### Callers together -/

/-- Every caller counts by copying, each from its stage on. -/
structure Counting (counter : CopyCounter ℓ σ w) (config : Config ℓ σ α ι) (stages : ι → Stage w) :
    Prop where
  inv : counter.Inv config.shared
  counts : ∀ i, counter.Counts config.shared (stages i) (config.threads i)

/-- The ledger of a configuration, after `stored` stores. -/
def ledgerOf (counter : CopyCounter ℓ σ w) (config : Config ℓ σ α ι) (stages : ι → Stage w)
    (stored : Nat) : Ledger ι w where
  value := counter.get config.shared
  copies := Stage.copy? ∘ stages
  stored := stored

/-- The stores to come. -/
def pendingOf [Fintype ι] (stages : ι → Stage w) : Nat :=
  ∑ i, (stages i).pending

variable {config : Config ℓ σ α ι} {stages : ι → Stage w} {stored : Nat}

theorem pendingOf_update [Fintype ι] (stages : ι → Stage w) (i : ι) (stage : Stage w) :
    pendingOf (Function.update stages i stage) + (stages i).pending = pendingOf stages + stage.pending := by
  have new : pendingOf (Function.update stages i stage) =
      stage.pending + ∑ j ∈ Finset.univ \ {i}, (stages j).pending := by
    rw [pendingOf, ← Finset.sum_update_of_mem (Finset.mem_univ i)]
    exact Finset.sum_congr rfl fun j _ => (Function.apply_update (fun _ => Stage.pending) stages i stage j)
  have old : pendingOf stages = (stages i).pending + ∑ j ∈ Finset.univ \ {i}, (stages j).pending :=
    Finset.sum_eq_add_sum_sdiff_singleton_of_mem (Finset.mem_univ i) _
  omega

/-- One step of a caller: the others keep their stages. -/
theorem Counting.moved (counting : counter.Counting config stages) (i : ι) :
    ∃ stage', counter.Counting (config.step i) (Function.update stages i stage') ∧
      ((counter.kind? (config.threads i) = none ∧ stages i = .settled ∧ stage' = .settled ∧
          counter.get (config.step i).shared = counter.get config.shared) ∨
        ∃ kind, counter.kind? (config.threads i) = some kind ∧
          Moved (counter.get config.shared) (counter.found config.shared) kind (stages i) stage'
            (counter.get (config.step i).shared)) := by
  obtain ⟨stage', counts, inv, grows, moved⟩ := (counting.counts i).next counting.inv
  refine ⟨stage', ⟨inv, fun j => ?_⟩, moved⟩
  by_cases same : j = i
  · subst same
    rw [Function.update_self, Config.step_threads_self]
    exact counts
  · rw [Function.update_of_ne same, Config.step_threads_ne config same]
    exact (counting.counts j).grow grows

/-- **The callers follow the ledger**: one step is a step of the ledger, and what was found is stored or
pending. -/
theorem Counting.step [Fintype ι] (counting : counter.Counting config stages) (stored : Nat) (i : ι) :
    ∃ stages' stored', counter.Counting (config.step i) stages' ∧
      (counter.ledgerOf config stages stored).Step i
        (decide (counter.kind? (config.threads i) = some .take))
        (counter.ledgerOf (config.step i) stages' stored') ∧
      stored' + pendingOf stages' =
        stored + pendingOf stages + (if counter.Finds config i then 1 else 0) := by
  obtain ⟨stage', counting', moved⟩ := counting.moved i
  have copies : Stage.copy? ∘ Function.update stages i stage' =
      Function.update (Stage.copy? ∘ stages) i stage'.copy? := Function.comp_update ..
  have pending := pendingOf_update stages i stage'
  rcases moved with ⟨returned, settled, rfl, same⟩ | ⟨kind, isKind, moved⟩
  · refine ⟨_, stored, counting', ?_, ?_⟩
    · rw [returned]
      have stays : counter.ledgerOf (config.step i) (Function.update stages i .settled) stored =
          counter.ledgerOf config stages stored := by
        rw [← settled, Function.update_eq_self, ledgerOf, same]
        rfl
      exact stays ▸ .idle
    · rw [if_neg (show ¬ counter.Finds config i by simp [Finds, returned])]
      rw [settled] at pending
      exact congrArg (stored + ·) (Nat.add_right_cancel pending)
  · obtain ⟨stored', step, total⟩ :=
      moved.ledger_step (show (counter.ledgerOf config stages stored).copies i = _ from rfl)
    refine ⟨_, stored', counting', ?_, ?_⟩
    · have takes : (some kind = some CopyStep.take) = (kind = .take) := by rw [Option.some.injEq]
      simp only [isKind, takes]
      rw [ledgerOf.eq_def counter (config.step i), copies]
      exact step
    · have finds : counter.Finds config i ↔ kind = .search ∧ counter.found config.shared = true := by
        rw [Finds, isKind, Option.some.injEq]
      change stored' + stage'.pending = stored + (stages i).pending + _ at total
      rw [if_congr finds rfl rfl]
      omega

/-- A step takes its caller past the search, and only a caller that has not searched yet finds something. -/
theorem Counting.searched (counting : counter.Counting config stages) (i : ι) :
    ∃ stage', counter.Counting (config.step i) (Function.update stages i stage') ∧ stage' ≠ .idle ∧
      (counter.Finds config i → stages i = .idle) := by
  obtain ⟨stage', counting', ⟨returned, _, rfl, _⟩ | ⟨kind, isKind, moved⟩⟩ := counting.moved i
  · refine ⟨.settled, counting', nofun, fun finds => ?_⟩
    rw [Finds, returned] at finds
    cases finds.1
  · refine ⟨stage', counting', moved.of_search.2, fun finds => ?_⟩
    rw [Finds, isKind, Option.some.injEq] at finds
    exact moved.of_search.1 finds.1

/-- A caller that has searched finds nothing any more. -/
theorem Counting.notMem_finders (counting : counter.Counting config stages) {i : ι}
    (searched : stages i ≠ .idle) (schedule : List ι) : i ∉ counter.finders config schedule := by
  induction schedule generalizing config stages with
  | nil => exact Finset.notMem_empty i
  | cons j rest ih =>
      obtain ⟨stage', counting', past, finder⟩ := counting.searched j
      have later : i ∉ counter.finders (config.step j) rest := by
        apply ih counting'
        by_cases same : i = j
        · subst same
          rw [Function.update_self]
          exact past
        · rw [Function.update_of_ne same]
          exact searched
      rw [finders]
      split
      · rename_i finds
        rw [Finset.mem_insert, not_or]
        refine ⟨?_, later⟩
        rintro rfl
        exact searched (finder finds)
      · exact later

/-- A caller finds something at most once. -/
theorem Counting.card_finders_cons (counting : counter.Counting config stages) (i : ι) (rest : List ι) :
    (counter.finders config (i :: rest)).card =
      (if counter.Finds config i then 1 else 0) + (counter.finders (config.step i) rest).card := by
  rw [finders]
  split
  · obtain ⟨stage', counting', past, _⟩ := counting.searched i
    have searched : Function.update stages i stage' i ≠ .idle := by
      rw [Function.update_self]
      exact past
    rw [Finset.card_insert_of_notMem (counting'.notMem_finders searched rest), Nat.add_comm]
  · exact (Nat.zero_add _).symm

omit [DecidableEq ι] in
/-- When a caller is alone in taking its copy, no other copy is held in the ledger. -/
theorem Counting.alone_iff (counting : counter.Counting config stages) (stored : Nat) (i : ι) :
    counter.Alone config i ↔ (counter.kind? (config.threads i) = some .take →
      ∀ j, j ≠ i → (counter.ledgerOf config stages stored).copies j = none) := by
  refine forall_congr' fun _ => forall_congr' fun j => forall_congr' fun _ => ?_
  rw [ne_eq, (counting.counts j).holds_iff counting.inv, not_not]
  rfl

section Finished

variable [Fintype ι] {start : BitVec w} {schedule : List ι}

omit [DecidableEq ι] in
/-- When all callers have returned, every copy has been stored. -/
theorem Counting.of_finished (counting : counter.Counting config stages) (finished : config.Finished)
    (stored : Nat) : pendingOf stages = 0 ∧
      ∀ i, (counter.ledgerOf config stages stored).copies i = none := by
  have settled (i : ι) : stages i = .settled := (counting.counts i).of_finished (finished i)
  refine ⟨Finset.sum_eq_zero fun i _ => ?_, fun i => ?_⟩
  · rw [settled i]
    rfl
  · exact congrArg Stage.copy? (settled i)

/-- Once a count is lost, the value ends below what was found. -/
theorem Counting.below_of_lost (counting : counter.Counting config stages)
    (bounded : (counter.ledgerOf config stages stored).Bounded start)
    (lost : (counter.ledgerOf config stages stored).Lost start)
    (finished : (config.run schedule).Finished) :
    Ledger.Below start (stored + pendingOf stages + (counter.finders config schedule).card)
      (counter.get (config.run schedule).shared) := by
  induction schedule generalizing config stages stored with
  | nil =>
      obtain ⟨nothing, free⟩ := counting.of_finished finished stored
      rw [nothing]
      exact lost.below free
  | cons i rest ih =>
      obtain ⟨stages', stored', counting', step, total⟩ := counting.step stored i
      rw [counting.card_finders_cons, ← Nat.add_assoc, ← total]
      exact ih counting' (bounded.step step) (lost.step bounded step) finished

/-- While the ledger is fresh, the rest of the schedule decides whether the count is exact. -/
theorem Counting.outcome (counting : counter.Counting config stages)
    (bounded : (counter.ledgerOf config stages stored).Bounded start)
    (fresh : (counter.ledgerOf config stages stored).Fresh start)
    (finished : (config.run schedule).Finished) :
    (config.Along counter.Alone schedule →
      counter.get (config.run schedule).shared = start +
        BitVec.ofNat w (stored + pendingOf stages + (counter.finders config schedule).card)) ∧
    (¬ config.Along counter.Alone schedule →
      Ledger.Below start (stored + pendingOf stages + (counter.finders config schedule).card)
        (counter.get (config.run schedule).shared)) := by
  induction schedule generalizing config stages stored with
  | nil =>
      obtain ⟨nothing, _⟩ := counting.of_finished finished stored
      rw [nothing]
      exact ⟨fun _ => fresh.value, fun raced => absurd trivial raced⟩
  | cons i rest ih =>
      obtain ⟨stages', stored', counting', step, total⟩ := counting.step stored i
      rw [counting.card_finders_cons, ← Nat.add_assoc, ← total]
      by_cases alone : counter.Alone config i
      · have free := (counting.alone_iff stored i).mp alone
        have fresh' := fresh.step step fun taking => free (of_decide_eq_true taking)
        obtain ⟨exactly, below⟩ := ih counting' (bounded.step step) fresh' finished
        exact ⟨fun along => exactly along.2, fun raced => below fun along => raced ⟨alone, along⟩⟩
      · refine ⟨fun along => absurd along.1 alone, fun _ => ?_⟩
        rw [counting.alone_iff stored i] at alone
        push Not at alone
        obtain ⟨takes, j, apart, held⟩ := alone
        rw [decide_eq_true takes] at step
        exact counting'.below_of_lost (bounded.step step) (Ledger.lost_of_take step apart held) finished

/-- **Counting by copies**: when all callers have returned, the value is its start plus the number of
callers that found something exactly if that number fits and nobody took a copy while another caller held
one. -/
theorem get_run_iff (counting : counter.Counting config stages)
    (unstarted : ∀ i, (stages i).pending = 0) (finished : (config.run schedule).Finished) :
    (counter.get (config.run schedule).shared).toNat =
        (counter.get config.shared).toNat + (counter.finders config schedule).card ↔
      (counter.get config.shared).toNat + (counter.finders config schedule).card < 2 ^ w ∧
        config.Along counter.Alone schedule := by
  have nothing : pendingOf stages = 0 := Finset.sum_eq_zero fun i _ => unstarted i
  have free (i : ι) : (counter.ledgerOf config stages 0).copies i = none :=
    Stage.copy?_of_pending (unstarted i)
  obtain ⟨fresh, bounded⟩ := Ledger.fresh_of_free free rfl
  obtain ⟨exactly, below⟩ := counting.outcome bounded fresh finished
  rw [nothing, Nat.add_zero, Nat.zero_add] at exactly below
  have final (gain : Nat) : (counter.get config.shared + BitVec.ofNat w gain).toNat =
      ((counter.get config.shared).toNat + gain) % 2 ^ w := by
    rw [BitVec.toNat_add, BitVec.toNat_ofNat, Nat.add_mod_mod]
  constructor
  · intro same
    refine ⟨same ▸ BitVec.isLt _, ?_⟩
    by_contra raced
    obtain ⟨gain, less, isGain⟩ := below raced
    have most := Nat.mod_le ((counter.get config.shared).toNat + gain) (2 ^ w)
    have ends := (congrArg BitVec.toNat isGain).trans (final gain)
    omega
  · rintro ⟨small, along⟩
    rw [exactly along]
    exact (final _).trans (Nat.mod_eq_of_lt small)

end Finished

end CopyCounter
