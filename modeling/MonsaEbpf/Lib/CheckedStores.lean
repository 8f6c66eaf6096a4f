/-
Module: MonsaEbpf.Lib.CheckedStores
Layer: Lib
Purpose: Callers that raise a shared value by a check and a later store: each compares an offer of its own
  with the value and, if the offer is higher, stores it in its next step. Between the two steps other
  callers may store higher offers, which the store then overwrites. The highest offer is kept exactly when
  no offer is above the start, or when at some store of it nobody else is about to store a lower one
  (`Run.highest_kept_iff`). It is kept whenever no two callers stand between check and store at the same
  moment (`Run.highest_of_apart`), so in particular when the callers take turns. The value is never below
  its start. Lowering a value is raising it in the order dual.
Imports: MonsaEbpf.Lib.SharedView
Trusted boundary: none
Main exports: CheckedStore, CheckedStore.check, CheckedStore.Raises, CheckedStore.Between,
  CheckedStore.HighestKept, CheckedStore.Apart, CheckedStore.Run.start_le, CheckedStore.Run.highest_kept_iff,
  CheckedStore.Run.highest_of_apart, CheckedStore.Run.apart_of_inTurn
-/
import Mathlib.Order.Basic
import MonsaEbpf.Lib.SharedView

/-- The program goes on with `part`. -/
def StepProgram.StandsAt {ℓ σ α : Type} (part : StepProgram ℓ σ Unit) (program : StepProgram ℓ σ α) : Prop :=
  ∃ rest, program = part >>= rest

/-- The next step of the program stores `value`, whatever was there. -/
def SharedView.StoresNext {ℓ σ V α : Type} (view : SharedView σ V) (program : StepProgram ℓ σ α)
    (value : V) : Prop :=
  ∀ shared, view.Inv shared → view.get (program.step shared).2 = value

/-- A shared value that can be raised to an offer: how high an offer is, the test whether it is higher than
the value, and the write that stores it. -/
structure CheckedStore (ℓ σ V A : Type) [LinearOrder V] where
  view : SharedView σ V
  order : A → V
  look : ℓ
  put : ℓ
  higher : A → σ → Prop
  decideHigher : ∀ offer shared, Decidable (higher offer shared)
  write : A → σ → σ
  higher_iff : ∀ offer shared, view.Inv shared → (higher offer shared ↔ view.get shared < order offer)
  writes : ∀ offer shared, view.Inv shared →
    view.Inv (write offer shared) ∧ view.get (write offer shared) = order offer
  varies : ∃ one two, order one ≠ order two

namespace CheckedStore

open StepProgram

variable {ℓ σ V A α β ι : Type} [LinearOrder V] (checked : CheckedStore ℓ σ V A)

instance (offer : A) (shared : σ) : Decidable (checked.higher offer shared) :=
  checked.decideHigher offer shared

/-- Store the offer. -/
def store (offer : A) : StepProgram ℓ σ Unit :=
  .single checked.put (fun _ => ()) (checked.write offer)

/-- Compare the offer with the value and store it in the next step if it is higher. -/
def check (offer : A) : StepProgram ℓ σ Unit :=
  .atom checked.look (fun shared => if checked.higher offer shared then checked.store offer else .ret ()) id

/-- How far a caller is with its offer: it has not compared it, it has found it higher and stores it next, or it
is done with it. -/
inductive Stage (A : Type) where
  | before
  | pending (offer : A)
  | after (offer : A)

/-- The offer that a caller has compared. -/
def Stage.offer? : Stage A → Option A
  | .before => none
  | .pending offer => some offer
  | .after offer => some offer

variable (offerOf : α → Option A)

/-- The program compares one offer with the value, stores it if it is higher, and tells it in its result; or it
tells that it had none. Its other steps keep the value. -/
inductive Raises : Stage A → StepProgram ℓ σ α → Prop where
  | unoffered {result : α} (nothing : offerOf result = none) : Raises .before (.ret result)
  | offered {result : α} {offer : A} (told : offerOf result = some offer) : Raises (.after offer) (.ret result)
  | keep {stage : Stage A} {label : ℓ} {next : σ → StepProgram ℓ σ α} {update : σ → σ}
      (idle : ∀ offer, stage ≠ .pending offer) (kept : checked.view.Kept update)
      (rest : ∀ shared, checked.view.Inv shared → Raises stage (next shared)) :
      Raises stage (.atom label next update)
  | check {offer : A} {program : StepProgram ℓ σ α} {rest : Unit → StepProgram ℓ σ α}
      (here : program = checked.check offer >>= rest) (later : Raises (.after offer) (rest ())) :
      Raises .before program
  | store {offer : A} {program : StepProgram ℓ σ α} {rest : Unit → StepProgram ℓ σ α}
      (here : program = checked.store offer >>= rest) (later : Raises (.after offer) (rest ())) :
      Raises (.pending offer) program

/-- What one step of a caller does to its stage and to the value that was `now`. -/
inductive Moves (program : StepProgram ℓ σ α) (now : V) : Stage A → Stage A → V → Prop where
  | keep {stage : Stage A} (idle : ∀ offer, stage ≠ .pending offer) : Moves program now stage stage now
  | lower {offer : A} (stands : StandsAt (checked.check offer) program) (below : now < checked.order offer) :
      Moves program now .before (.pending offer) now
  | covered {offer : A} (above : checked.order offer ≤ now) : Moves program now .before (.after offer) now
  | store {offer : A} : Moves program now (.pending offer) (.after offer) (checked.order offer)

variable {checked offerOf} {program : StepProgram ℓ σ α} {stage stage' : Stage A} {shared : σ}

theorem Raises.absorbs_before :
    checked.view.Absorbs (Raises checked offerOf .before : StepProgram ℓ σ α → Prop) :=
  fun _ _ _ => .keep nofun

theorem Raises.absorbs_after (offer : A) :
    checked.view.Absorbs (Raises checked offerOf (.after offer) : StepProgram ℓ σ α → Prop) :=
  fun _ _ _ => .keep nofun

/-- **One step** of a caller. -/
theorem Raises.step (raises : checked.Raises offerOf stage program) (inv : checked.view.Inv shared) :
    checked.view.Inv (program.step shared).2 ∧
      ∃ stage', checked.Raises offerOf stage' (program.step shared).1 ∧
        checked.Moves program (checked.view.get shared) stage stage'
          (checked.view.get (program.step shared).2) := by
  cases raises with
  | unoffered nothing => exact ⟨inv, _, .unoffered nothing, .keep nofun⟩
  | offered told => exact ⟨inv, _, .offered told, .keep nofun⟩
  | @keep _ _ _ update idle kept rest =>
      obtain ⟨inv', same⟩ := kept shared inv
      refine ⟨inv', _, rest shared inv, ?_⟩
      change checked.Moves _ _ _ _ (checked.view.get (update shared))
      rw [same]
      exact .keep idle
  | @check offer _ rest here later =>
      subst here
      refine ⟨inv, ?_⟩
      change ∃ stage', checked.Raises offerOf stage'
        ((if checked.higher offer shared then checked.store offer else .ret ()) >>= rest) ∧
          checked.Moves _ _ _ stage' (checked.view.get shared)
      by_cases higher : checked.higher offer shared
      · rw [if_pos higher]
        exact ⟨_, .store rfl later, .lower ⟨rest, rfl⟩ ((checked.higher_iff offer shared inv).mp higher)⟩
      · rw [if_neg higher]
        refine ⟨_, later, .covered (not_lt.mp fun below => higher ?_)⟩
        exact (checked.higher_iff offer shared inv).mpr below
  | @store offer _ rest here later =>
      subst here
      obtain ⟨inv', stored⟩ := checked.writes offer shared inv
      refine ⟨inv', _, later, ?_⟩
      change checked.Moves _ _ _ _ (checked.view.get (checked.write offer shared))
      rw [stored]
      exact .store

/-- The stage of a caller that has returned tells its offer. -/
theorem Raises.of_ret {result : α} (raises : checked.Raises offerOf stage (.ret result)) :
    stage = (offerOf result).elim .before .after := by
  cases raises with
  | unoffered nothing =>
      rw [nothing]
      rfl
  | offered told =>
      rw [told]
      rfl
  | check here later => cases here
  | store here later => cases here

/-- An offer that has been compared stays the offer of its caller. -/
theorem Moves.offer? {now next : V} (moves : checked.Moves program now stage stage' next) {offer : A}
    (compared : stage.offer? = some offer) : stage'.offer? = some offer := by
  cases moves with
  | keep idle => exact compared
  | lower stands below => cases compared
  | covered above => cases compared
  | store => exact compared

/-- A step stores the pending offer; or it keeps the value, and an offer that becomes pending is higher and one
that is done with is not. -/
theorem Moves.stores_or_keeps {now next : V} (moves : checked.Moves program now stage stage' next) :
    (∃ offer, stage = .pending offer ∧ stage' = .after offer ∧ next = checked.order offer) ∨
      ((∀ offer, stage ≠ .pending offer) ∧ next = now ∧
        ∀ offer, (stage' = .pending offer → StandsAt (checked.check offer) program ∧ now < checked.order offer) ∧
          (stage' = .after offer → stage = .after offer ∨ checked.order offer ≤ now)) := by
  cases moves with
  | keep idle =>
      refine Or.inr ⟨idle, rfl, fun offer => ⟨fun pending => absurd pending (idle offer), Or.inl⟩⟩
  | lower stands below =>
      refine Or.inr ⟨nofun, rfl, fun offer => ⟨?_, nofun⟩⟩
      rintro ⟨⟩
      exact ⟨stands, below⟩
  | covered above =>
      refine Or.inr ⟨nofun, rfl, fun offer => ⟨nofun, ?_⟩⟩
      rintro ⟨⟩
      exact Or.inr above
  | store => exact Or.inl ⟨_, rfl, rfl, rfl⟩

/-- The pending offer is the one that the next step stores. -/
theorem Raises.storesNext_iff (raises : checked.Raises offerOf stage program)
    (inv : checked.view.Inv shared) (value : V) :
    checked.view.StoresNext program value ↔ ∃ offer, stage = .pending offer ∧ checked.order offer = value := by
  constructor
  · intro stores
    -- the value can be another one, so a step that keeps it does not store it
    obtain ⟨other, invOther, different⟩ : ∃ shared, checked.view.Inv shared ∧
        checked.view.get shared ≠ value := by
      obtain ⟨one, two, apart⟩ := checked.varies
      obtain ⟨invOne, isOne⟩ := checked.writes one shared inv
      obtain ⟨invTwo, isTwo⟩ := checked.writes two shared inv
      by_cases same : checked.order one = value
      · exact ⟨_, invTwo, fun also => apart (same.trans (also.symm.trans isTwo))⟩
      · exact ⟨_, invOne, fun also => same (isOne.symm.trans also)⟩
    have stored := stores other invOther
    obtain ⟨_, _, _, moves⟩ := raises.step invOther
    rw [stored] at moves
    cases moves with
    | keep idle => exact absurd rfl different
    | lower stands below => exact absurd rfl different
    | covered above => exact absurd rfl different
    | store => exact ⟨_, rfl, rfl⟩
  · rintro ⟨offer, rfl, rfl⟩ other invOther
    obtain ⟨_, _, _, moves⟩ := raises.step invOther
    generalize checked.view.get (program.step other).2 = next at moves
    cases moves with
    | keep idle => exact absurd rfl (idle offer)
    | store => rfl

/-! ### Callers together -/

variable [DecidableEq ι]

section Statement

variable (checked : CheckedStore ℓ σ V A) (config : Config ℓ σ β ι) (offers : ι → Option A)

/-- After the steps of `done`, caller `i` stands between its check and its store: in its last step it has found
the value lower than its offer. -/
def Between (done : List ι) (i : ι) (offer : A) : Prop :=
  offers i = some offer ∧ ∃ early late, done = early ++ i :: late ∧ i ∉ late ∧
    StandsAt (checked.check offer) ((config.run early).threads i) ∧
    checked.view.get (config.run early).shared < checked.order offer

/-- No offer is above the start; or at some step a caller with the highest offer stores it, while nobody stands
between check and store with a lower one. -/
def HighestKept (schedule : List ι) : Prop :=
  (∀ i offer, offers i = some offer → checked.order offer ≤ checked.view.get config.shared) ∨
  ∃ done i rest best, schedule = done ++ i :: rest ∧ checked.Between config offers done i best ∧
    (∀ j offer, offers j = some offer → checked.order offer ≤ checked.order best) ∧
    ∀ j other, checked.Between config offers done j other → checked.order best ≤ checked.order other

/-- No two callers stand between check and store at the same moment. -/
def Apart (schedule : List ι) : Prop :=
  ∀ done rest, schedule = done ++ rest → ∀ i j one two, checked.Between config offers done i one →
    checked.Between config offers done j two → i = j

/-- Every caller has returned and tells its offer. -/
def Ends (offerOf : β → Option A) : Prop :=
  ∀ i, ∃ result, config.threads i = .ret result ∧ offerOf result = offers i

/-- Every caller takes all its steps before the next one begins. -/
def InTurn (schedule : List ι) : Prop :=
  ∃ rank : ι → Nat, Function.Injective rank ∧ schedule.Pairwise fun i j => rank i ≤ rank j

end Statement

/-- Every caller raises the value, each at its stage. -/
structure Racing (checked : CheckedStore ℓ σ V A) (offerOf : α → Option A) (config : Config ℓ σ α ι)
    (stages : ι → Stage A) : Prop where
  inv : checked.view.Inv config.shared
  raises : ∀ i, checked.Raises offerOf (stages i) (config.threads i)

variable {config : Config ℓ σ α ι} {stages : ι → Stage A} {offers : ι → Option A} {schedule : List ι}

/-- What one step does: caller `i` moves, and the others stay where they are. -/
theorem Racing.step (racing : checked.Racing offerOf config stages) (i : ι) :
    ∃ stage, checked.Racing offerOf (config.step i) (Function.update stages i stage) ∧
      checked.Moves (config.threads i) (checked.view.get config.shared) (stages i) stage
        (checked.view.get (config.step i).shared) := by
  obtain ⟨inv, stage, raises, moves⟩ := (racing.raises i).step racing.inv
  refine ⟨stage, ⟨inv, fun j => ?_⟩, moves⟩
  by_cases same : j = i
  · subst same
    rw [Function.update_self, Config.step_threads_self]
    exact raises
  · rw [Function.update_of_ne same, Config.step_threads_ne config same]
    exact racing.raises j

/-- The offers that have been compared stay what they are. -/
theorem Racing.run (racing : checked.Racing offerOf config stages) (schedule : List ι) :
    ∃ stages', checked.Racing offerOf (config.run schedule) stages' ∧
      ∀ i offer, (stages i).offer? = some offer → (stages' i).offer? = some offer := by
  induction schedule generalizing config stages with
  | nil => exact ⟨stages, racing, fun _ _ compared => compared⟩
  | cons j rest ih =>
      obtain ⟨stage, racing', moves⟩ := racing.step j
      obtain ⟨stages', racingEnd, keeps⟩ := ih racing'
      refine ⟨stages', racingEnd, fun i offer compared => keeps i offer ?_⟩
      by_cases same : i = j
      · subst same
        rw [Function.update_self]
        exact moves.offer? compared
      · rw [Function.update_of_ne same]
        exact compared

omit [DecidableEq ι] in
/-- The stage of every caller at the end. -/
theorem Racing.stages_of_ends (racing : checked.Racing offerOf config stages) (ends : Ends config offers offerOf)
    (i : ι) : stages i = (offers i).elim .before .after := by
  obtain ⟨result, returned, told⟩ := ends i
  have raises := racing.raises i
  rw [returned] at raises
  rw [← told]
  exact raises.of_ret

/-- What a caller compares is what it tells in the end. -/
theorem Racing.told (racing : checked.Racing offerOf config stages)
    (ends : Ends (config.run schedule) offers offerOf) {i : ι} {offer : A}
    (compared : (stages i).offer? = some offer) : offers i = some offer := by
  obtain ⟨stages', racingEnd, keeps⟩ := racing.run schedule
  have kept := keeps i offer compared
  rw [racingEnd.stages_of_ends ends] at kept
  cases own : offers i with
  | none =>
      rw [own] at kept
      cases kept
  | some other =>
      rw [own] at kept
      exact kept

/-! ### Between check and store -/

omit [DecidableEq ι] in
/-- A caller that finds the value lower than its offer stores the offer next. -/
theorem storesNext_of_standsAt {offer : A} (stands : StandsAt (checked.check offer) program)
    (inv : checked.view.Inv shared) (below : checked.view.get shared < checked.order offer) :
    checked.view.StoresNext (program.step shared).1 (checked.order offer) := by
  obtain ⟨rest, rfl⟩ := stands
  intro other invOther
  change checked.view.get ((((if checked.higher offer shared then checked.store offer else .ret ()) >>= rest)
    ).step other).2 = _
  rw [if_pos ((checked.higher_iff offer shared inv).mpr below)]
  exact (checked.writes offer other invOther).2

/-- Waiting does not change where a caller stands. -/
theorem Between.wait {config : Config ℓ σ β ι} {done : List ι} {i j : ι} {offer : A}
    (between : checked.Between config offers done i offer) (other : i ≠ j) :
    checked.Between config offers (done ++ [j]) i offer := by
  obtain ⟨own, early, late, rfl, waits, stands, below⟩ := between
  refine ⟨own, early, late ++ [j], by simp, ?_, stands, below⟩
  simp [waits, other]

/-- Callers that raise the value run from the beginning to the end; `offers` are what they offer. -/
structure Run (checked : CheckedStore ℓ σ V A) (offerOf : α → Option A) (config : Config ℓ σ α ι)
    (offers : ι → Option A) (schedule : List ι) : Prop where
  inv : checked.view.Inv config.shared
  raises : ∀ i, checked.Raises offerOf .before (config.threads i)
  ends : Ends (config.run schedule) offers offerOf

namespace Run

variable (run : checked.Run offerOf config offers schedule) (f : α → β)

include run

theorem racing : checked.Racing offerOf config fun _ => .before := ⟨run.inv, run.raises⟩

theorem told {done rest : List ι} (split : schedule = done ++ rest)
    (racing : checked.Racing offerOf (config.run done) stages) {i : ι} {offer : A}
    (compared : (stages i).offer? = some offer) : offers i = some offer := by
  have ends := run.ends
  rw [split, Config.run_append] at ends
  exact racing.told ends compared

/-- A caller with a pending offer has stood at its check, as an observer of the results sees it. -/
theorem exists_stages {done : List ι} :
    ∀ {rest}, schedule = done ++ rest → ∃ stages, checked.Racing offerOf (config.run done) stages ∧
      ∀ i offer, stages i = .pending offer → checked.Between (config.mapResult f) offers done i offer := by
  induction done using List.reverseRecOn with
  | nil => exact fun _ => ⟨_, run.racing, fun _ _ => nofun⟩
  | append_singleton done j ih =>
      intro rest split
      obtain ⟨stages, racing, between⟩ := ih (split.trans (List.append_assoc ..))
      obtain ⟨stage, racing', moves⟩ := racing.step j
      have racingNext : checked.Racing offerOf (config.run (done ++ [j])) (Function.update stages j stage) := by
        rw [Config.run_append]
        exact racing'
      refine ⟨_, racingNext, fun i offer pending => ?_⟩
      by_cases same : i = j
      · subst same
        have own := run.told split racingNext (congrArg Stage.offer? pending)
        rw [Function.update_self] at pending
        rcases moves.stores_or_keeps with ⟨_, _, after, _⟩ | ⟨_, _, becomes⟩
        · rw [pending] at after
          cases after
        · obtain ⟨⟨rest, stands⟩, below⟩ := (becomes offer).1 pending
          refine ⟨own, done, [], rfl, List.not_mem_nil, ?_, ?_⟩
          · rw [Config.run_mapResult]
            exact ⟨_, (congrArg (StepProgram.mapResult f) stands).trans (StepProgram.bind_assoc ..)⟩
          · rw [Config.run_mapResult]
            exact below
      · rw [Function.update_of_ne same] at pending
        exact (between i offer pending).wait same

/-- **Who stands between check and store** is told by the stages. -/
theorem between_iff {done rest : List ι} (split : schedule = done ++ rest)
    (racing : checked.Racing offerOf (config.run done) stages) (i : ι) (offer : A) :
    checked.Between (config.mapResult f) offers done i offer ↔ stages i = .pending offer := by
  constructor
  · rintro ⟨own, early, late, rfl, waits, stands, below⟩
    obtain ⟨_, racingEarly, _⟩ := run.racing.run early
    rw [Config.run_mapResult] at stands below
    have observed := storesNext_of_standsAt stands racingEarly.inv below
    have stores : checked.view.StoresNext ((config.run (early ++ i :: late)).threads i)
        (checked.order offer) := by
      rw [Config.run_append, Config.run_cons, Config.threads_run_of_notMem waits, Config.step_threads_self]
      intro shared inv
      have stored := observed shared inv
      simp only [Config.mapResult, step_mapResult] at stored
      exact stored
    obtain ⟨other, pending, _⟩ := ((racing.raises i).storesNext_iff racing.inv _).mp stores
    have same := run.told split racing (congrArg Stage.offer? pending)
    rw [own] at same
    rw [pending, Option.some.inj same]
  · intro pending
    obtain ⟨stages', racing', between⟩ := run.exists_stages f split
    have stores := ((racing.raises i).storesNext_iff racing.inv _).mpr ⟨offer, pending, rfl⟩
    obtain ⟨other, pending', _⟩ := ((racing'.raises i).storesNext_iff racing'.inv _).mp stores
    have own := run.told split racing (congrArg Stage.offer? pending)
    have same := run.told split racing' (congrArg Stage.offer? pending')
    rw [own] at same
    obtain rfl := Option.some.inj same
    exact between i offer pending'

end Run

/-! ### The highest offer -/

/-- Once the value is `best`, no offer is higher and nothing else is about to be stored, it stays. -/
theorem Racing.settled (racing : checked.Racing offerOf config stages)
    (ends : Ends (config.run schedule) offers offerOf) {best : V} (value : checked.view.get config.shared = best)
    (same : ∀ i offer, stages i = .pending offer → checked.order offer = best)
    (highest : ∀ i offer, offers i = some offer → checked.order offer ≤ best) :
    checked.view.get (config.run schedule).shared = best := by
  induction schedule generalizing config stages with
  | nil => exact value
  | cons i rest ih =>
      obtain ⟨stage, racing', moves⟩ := racing.step i
      rcases moves.stores_or_keeps with ⟨offer, pending, after, stored⟩ | ⟨_, unchanged, becomes⟩
      · refine ih racing' ends (stored.trans (same i offer pending)) fun j other waiting => ?_
        by_cases own : j = i
        · rw [own, Function.update_self, after] at waiting
          cases waiting
        · rw [Function.update_of_ne own] at waiting
          exact same j other waiting
      · refine ih racing' ends (unchanged.trans value) fun j other waiting => ?_
        by_cases own : j = i
        · -- a look that finds a lower value would offer more than `best`
          have offered := racing'.told ends (congrArg Stage.offer? waiting)
          rw [own, Function.update_self] at waiting
          have above := ((becomes other).1 waiting).2
          rw [value] at above
          exact absurd above (not_lt_of_ge (highest j other offered))
        · rw [Function.update_of_ne own] at waiting
          exact same j other waiting

/-- A store of the highest offer settles the value, when nobody is about to store less. -/
theorem Racing.kept_of_store (racing : checked.Racing offerOf config stages) {i : ι} {best : A} {rest : List ι}
    (ends : Ends ((config.step i).run rest) offers offerOf) (pending : stages i = .pending best)
    (nobody : ∀ j other, stages j = .pending other → checked.order best ≤ checked.order other)
    (highest : ∀ j offer, offers j = some offer → checked.order offer ≤ checked.order best) :
    checked.view.get ((config.step i).run rest).shared = checked.order best := by
  obtain ⟨stage, racing', moves⟩ := racing.step i
  rcases moves.stores_or_keeps with ⟨offer, same, after, stored⟩ | ⟨idle, _⟩
  · obtain rfl : best = offer := Stage.pending.inj (pending.symm.trans same)
    refine racing'.settled ends stored (fun j other waiting => ?_) highest
    have atMost := highest j other (racing'.told ends (congrArg Stage.offer? waiting))
    by_cases own : j = i
    · rw [own, Function.update_self, after] at waiting
      cases waiting
    · rw [Function.update_of_ne own] at waiting
      exact le_antisymm atMost (nobody j other waiting)
  · exact absurd pending (idle best)

/-- If the value ends as `best` but was not settled there, somebody stored `best` when nobody was about to
store less. -/
theorem Racing.exists_store (racing : checked.Racing offerOf config stages)
    (ends : Ends (config.run schedule) offers offerOf) {best : V}
    (unsettled : ¬ (checked.view.get config.shared = best ∧
      ∀ i offer, stages i = .pending offer → best ≤ checked.order offer))
    (final : checked.view.get (config.run schedule).shared = best) :
    ∃ done i rest stages offer, schedule = done ++ i :: rest ∧
      checked.Racing offerOf (config.run done) stages ∧ stages i = .pending offer ∧
      checked.order offer = best ∧ ∀ j other, stages j = .pending other → best ≤ checked.order other := by
  induction schedule generalizing config stages with
  | nil =>
      refine absurd ⟨final, fun i offer waiting => ?_⟩ unsettled
      rw [racing.stages_of_ends ends i] at waiting
      cases own : offers i <;> rw [own] at waiting <;> cases waiting
  | cons i rest ih =>
      obtain ⟨stage, racing', moves⟩ := racing.step i
      by_cases settled : checked.view.get (config.step i).shared = best ∧
        ∀ j offer, Function.update stages i stage j = .pending offer → best ≤ checked.order offer
      · have others {j : ι} {offer : A} (apart : j ≠ i) (waiting : stages j = .pending offer) :
            best ≤ checked.order offer := by
          apply settled.2 j offer
          rw [Function.update_of_ne apart]
          exact waiting
        rcases moves.stores_or_keeps with ⟨offer, pending, _, stored⟩ | ⟨idle, unchanged, _⟩
        · have isBest : checked.order offer = best := stored.symm.trans settled.1
          refine ⟨[], i, rest, stages, offer, rfl, racing, pending, isBest, fun j other waiting => ?_⟩
          by_cases same : j = i
          · rw [same, pending] at waiting
            rw [← Stage.pending.inj waiting, isBest]
          · exact others same waiting
        · -- a look settles nothing that was not settled before
          refine absurd ⟨unchanged.symm.trans settled.1, fun j offer waiting => ?_⟩ unsettled
          by_cases same : j = i
          · exact absurd (same ▸ waiting) (idle offer)
          · exact others same waiting
      · obtain ⟨done, j, later, stages', offer, split, racingDone, rest⟩ := ih racing' ends settled final
        exact ⟨i :: done, j, later, stages', offer, by rw [split, List.cons_append], racingDone, rest⟩

namespace Run

variable (run : checked.Run offerOf config offers schedule) (f : α → β)

include run

/-- **When the highest offer is kept**: no offer is above the start, or at some store of the highest offer
nobody is about to store a lower one. -/
theorem highest_kept_iff :
    (∀ i offer, offers i = some offer →
        checked.order offer ≤ checked.view.get ((config.mapResult f).run schedule).shared) ↔
      checked.HighestKept (config.mapResult f) offers schedule := by
  have same : ((config.mapResult f).run schedule).shared = (config.run schedule).shared := by
    rw [Config.run_mapResult]
    rfl
  rw [same]
  constructor
  · intro kept
    by_cases moved : checked.view.get config.shared = checked.view.get (config.run schedule).shared
    · left
      intro i offer own
      rw [Config.mapResult, moved]
      exact kept i offer own
    · right
      obtain ⟨done, i, rest, stages, best, split, racing, pending, isBest, nobody⟩ :=
        run.racing.exists_store run.ends (fun settled => moved settled.1) rfl
      have between := run.between_iff f split racing
      refine ⟨done, i, rest, best, split, (between i best).mpr pending, ?_, ?_⟩
      · rw [isBest]
        exact kept
      · intro j other waiting
        rw [isBest]
        exact nobody j other ((between j other).mp waiting)
  · rintro (none | ⟨done, i, rest, best, rfl, stands, highest, nobody⟩)
    · have nobody : ∀ (_ : ι) offer, Stage.before = .pending offer →
          checked.order offer = checked.view.get config.shared := by
        intro i offer pending
        cases pending
      rw [run.racing.settled run.ends rfl nobody none]
      exact none
    · obtain ⟨stages, racing, _⟩ := run.racing.run done
      have between := run.between_iff f rfl racing
      have ends := run.ends
      rw [Config.run_append, Config.run_cons] at ends ⊢
      rw [racing.kept_of_store ends ((between i best).mp stands)
        (fun j other waiting => nobody j other ((between j other).mpr waiting)) highest]
      exact highest

/-- The value never falls below its start. -/
theorem start_le : checked.view.get config.shared ≤ checked.view.get (config.run schedule).shared := by
  have kept : ∀ schedule, ∃ stages, checked.Racing offerOf (config.run schedule) stages ∧
      checked.view.get config.shared ≤ checked.view.get (config.run schedule).shared ∧
      ∀ i offer, stages i = .pending offer → checked.view.get config.shared < checked.order offer := by
    intro schedule
    induction schedule using List.reverseRecOn with
    | nil => exact ⟨_, run.racing, le_rfl, fun _ _ => nofun⟩
    | append_singleton done i ih =>
        obtain ⟨stages, racing, above, higher⟩ := ih
        obtain ⟨stage, racing', moves⟩ := racing.step i
        rw [Config.run_append, Config.run_cons, Config.run_nil]
        refine ⟨_, racing', ?_⟩
        rcases moves.stores_or_keeps with ⟨offer, pending, after, stored⟩ | ⟨_, unchanged, becomes⟩
        · rw [stored]
          refine ⟨(higher i offer pending).le, fun j other waiting => ?_⟩
          by_cases same : j = i
          · rw [same, Function.update_self, after] at waiting
            cases waiting
          · rw [Function.update_of_ne same] at waiting
            exact higher j other waiting
        · rw [unchanged]
          refine ⟨above, fun j other waiting => ?_⟩
          by_cases same : j = i
          · rw [same, Function.update_self] at waiting
            exact above.trans_lt ((becomes other).1 waiting).2
          · rw [Function.update_of_ne same] at waiting
            exact higher j other waiting
  obtain ⟨_, _, above, _⟩ := kept schedule
  exact above

/-- While callers stay apart, a pending offer is still higher than the value, and no offer that is done with is. -/
theorem covered_of_apart (apart : checked.Apart (config.mapResult f) offers schedule) {done : List ι} :
    ∀ {rest}, schedule = done ++ rest → ∃ stages, checked.Racing offerOf (config.run done) stages ∧
      (∀ i offer, stages i = .pending offer →
        checked.view.get (config.run done).shared < checked.order offer) ∧
      ∀ i offer, stages i = .after offer → checked.order offer ≤ checked.view.get (config.run done).shared := by
  induction done using List.reverseRecOn with
  | nil => exact fun _ => ⟨_, run.racing, fun _ _ => nofun, fun _ _ => nofun⟩
  | append_singleton done j ih =>
      intro rest split
      have split := split.trans (List.append_assoc ..)
      obtain ⟨stages, racing, higher, covered⟩ := ih split
      have between := run.between_iff f split racing
      obtain ⟨stage, racing', moves⟩ := racing.step j
      rw [Config.run_append, Config.run_cons, Config.run_nil]
      refine ⟨_, racing', ?_⟩
      rcases moves.stores_or_keeps with ⟨offer, pending, after, stored⟩ | ⟨_, unchanged, becomes⟩
      · rw [stored]
        constructor
        · -- nobody else stands between check and store when `j` stores
          intro i other waiting
          by_cases same : i = j
          · rw [same, Function.update_self, after] at waiting
            cases waiting
          · rw [Function.update_of_ne same] at waiting
            exact absurd (apart _ _ split i j other offer ((between i other).mpr waiting)
              ((between j offer).mpr pending)) same
        · intro i other done
          by_cases same : i = j
          · rw [same, Function.update_self, after] at done
            rw [Stage.after.inj done]
          · rw [Function.update_of_ne same] at done
            exact (covered i other done).trans (higher j offer pending).le
      · rw [unchanged]
        constructor
        · intro i other waiting
          by_cases same : i = j
          · rw [same, Function.update_self] at waiting
            exact ((becomes other).1 waiting).2
          · rw [Function.update_of_ne same] at waiting
            exact higher i other waiting
        · intro i other done
          by_cases same : i = j
          · rw [same, Function.update_self] at done
            exact ((becomes other).2 done).elim (covered j other) id
          · rw [Function.update_of_ne same] at done
            exact covered i other done

/-- **Callers that stay apart keep the highest offer.** -/
theorem highest_of_apart (apart : checked.Apart (config.mapResult f) offers schedule) (i : ι) (offer : A)
    (own : offers i = some offer) :
    checked.order offer ≤ checked.view.get ((config.mapResult f).run schedule).shared := by
  obtain ⟨stages, racing, _, covered⟩ := run.covered_of_apart f apart (List.append_nil schedule).symm
  have stage := racing.stages_of_ends run.ends i
  rw [own] at stage
  rw [Config.run_mapResult]
  exact covered i offer stage

/-- **Callers that take turns stay apart.** -/
theorem apart_of_inTurn (inTurn : InTurn schedule) : checked.Apart (config.mapResult f) offers schedule := by
  intro done rest split i j one two betweenOne betweenTwo
  obtain ⟨rank, separate, sorted⟩ := inTurn
  rw [split] at sorted
  obtain ⟨_, _, crossing⟩ := List.pairwise_append.mp sorted
  obtain ⟨stages, racing, _⟩ := run.racing.run done
  have begun {k : ι} {offer : A} (between : checked.Between (config.mapResult f) offers done k offer) :
      k ∈ done := by
    obtain ⟨_, early, late, rfl, _⟩ := between
    simp
  have waits {k : ι} {offer : A} (between : checked.Between (config.mapResult f) offers done k offer) :
      k ∈ rest := by
    by_contra absent
    obtain ⟨result, returned, _⟩ := run.ends k
    rw [split, Config.run_append, Config.threads_run_of_notMem absent] at returned
    have raises := racing.raises k
    rw [(run.between_iff f split racing k offer).mp between, returned] at raises
    have stage := raises.of_ret
    cases told : offerOf result <;> rw [told] at stage <;> cases stage
  apply separate
  apply le_antisymm
  · exact crossing i (begun betweenOne) j (waits betweenTwo)
  · exact crossing j (begun betweenTwo) i (waits betweenOne)

end Run

end CheckedStore
