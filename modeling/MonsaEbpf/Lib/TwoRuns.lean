/-
Module: MonsaEbpf.Lib.TwoRuns
Layer: Lib
Purpose: Two runs of one program over the same events, side by side. A `Reporter` keeps a keyed store and
  asks, at some of its events, for a resource that it may or may not get. `Independent` says that its store
  does not depend on which requests were granted. For a program that changes the store exactly when a
  request is granted, `independent_iff` says when two patterns of grants leave the same store.
Imports: MonsaEbpf.Lib.Runs
Trusted boundary: none
Main exports: Runs.Twice, Runs.Reporter, Runs.Reporter.Independent, Runs.Reporter.SameOutcomes,
  Runs.Reporter.independent_iff
-/
import MonsaEbpf.Lib.Runs

namespace Runs

variable {σ E R K V X : Type}

/-- An event with the outcome of its request in either run. -/
structure Twice (E R : Type) where
  event : E
  first : Option R
  second : Option R

/-- A program with a keyed store that requests a resource: `requesting` gives an event its outcome, and
`requests` says which events get as far as the request. `HasRoom` says that the store can take the event. -/
structure Reporter (σ E R K V : Type) where
  initial : σ
  step : σ → E → σ
  find : σ → K → Option V
  requesting : E → Option R → E
  requests : σ → E → Prop
  HasRoom : σ → E → Prop

namespace Reporter

variable (program : Reporter σ E R K V) (items : List (Twice E R))

/-- The state after the first run. -/
def firstRun : σ :=
  run program.step program.initial (items.map fun item => program.requesting item.event item.first)

/-- The state after the second run. -/
def secondRun : σ :=
  run program.step program.initial (items.map fun item => program.requesting item.event item.second)

/-- Either run takes its own step. -/
def stepBoth (states : σ × σ) (item : Twice E R) : σ × σ :=
  (program.step states.1 (program.requesting item.event item.first),
    program.step states.2 (program.requesting item.event item.second))

/-- A condition on the two states before each event and on the event. -/
def BeforeBoth (P : σ × σ → Twice E R → Prop) : Prop :=
  Before program.stepBoth P (program.initial, program.initial) items

/-- Both stores always have room. -/
def RoomInBoth : Prop :=
  program.BeforeBoth items fun states item =>
    program.HasRoom states.1 item.event ∧ program.HasRoom states.2 item.event

/-- The stores agree in every pair of states reached. -/
def Independent : Prop :=
  ∀ count key, program.find (program.firstRun (items.take count)) key =
    program.find (program.secondRun (items.take count)) key

/-- Every event that gets as far as its request has it granted in both runs or in neither. -/
def SameOutcomes : Prop :=
  program.BeforeBoth items fun states item =>
    program.requests states.1 item.event → (item.first.isSome ↔ item.second.isSome)

variable {program items}

theorem run_stepBoth (states : σ × σ) :
    run program.stepBoth states items =
      (run program.step states.1 (items.map fun item => program.requesting item.event item.first),
        run program.step states.2 (items.map fun item => program.requesting item.event item.second)) := by
  induction items generalizing states with
  | nil => rfl
  | cons item rest ih =>
      rw [run_cons, ih]
      rfl

/-- **The store is independent of the grants exactly when they agree where it matters**, for a program
whose store changes at the granted requests only, by a record that both runs share. -/
theorem independent_iff [DecidableEq K] (out : σ → E → Option (K × X)) (I : σ × σ → Prop)
    {next : Option V → X → V}
    (changes : ∀ value record, some (next value record) ≠ value)
    (touches : ∀ state event outcome, program.HasRoom state event →
      Touches program.step program.find out next state (program.requesting event outcome))
    (emits : ∀ state event outcome,
      (out state (program.requesting event outcome)).isSome ↔
        program.requests state event ∧ outcome.isSome)
    (start : I (program.initial, program.initial))
    (keeps : ∀ states item, I states → I (program.stepBoth states item))
    (sameRequests : ∀ states, I states → ∀ event,
      program.requests states.1 event ↔ program.requests states.2 event)
    (sameRecord : ∀ states (item : Twice E R), I states →
      ∀ record ∈ out states.1 (program.requesting item.event item.first),
        ∀ other ∈ out states.2 (program.requesting item.event item.second), record = other)
    (room : program.RoomInBoth items) :
    program.Independent items ↔ program.SameOutcomes items := by
  have exactly : ∀ states item, I states →
      (∀ key, program.find states.1 key = program.find states.2 key) →
      (program.HasRoom states.1 item.event ∧ program.HasRoom states.2 item.event) →
      ((∀ key, program.find (program.stepBoth states item).1 key =
          program.find (program.stepBoth states item).2 key) ↔
        (program.requests states.1 item.event → (item.first.isSome ↔ item.second.isSome))) := by
    intro states item inv agree hasRoom
    have step := (touches states.1 item.event item.first hasRoom.1).agree_iff changes
      (touches states.2 item.event item.second hasRoom.2) agree (sameRecord states item inv)
    rw [emits, emits, ← sameRequests states inv, and_congr_right_iff] at step
    exact step
  have always := always_iff_before (fun states item inv _ => keeps states item inv) exactly start
    (fun _ => rfl) room
  rw [always_iff_forall_take] at always
  simp only [run_stepBoth] at always
  exact always

end Reporter

end Runs
