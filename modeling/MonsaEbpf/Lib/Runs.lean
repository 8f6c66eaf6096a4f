/-
Module: MonsaEbpf.Lib.Runs
Layer: Lib
Purpose: Runs of a step function over a list of events. `Before` states a condition on the state before
  each event and the event itself; `Always` states a property of every state reached. `always_iff_before`
  turns an exact condition on one step into an exact condition on a run, and `find_run` reads a keyed
  store after a run as the fold of the records emitted under each key.
Trusted boundary: none
Main exports: Runs.run, Runs.Before, Runs.Always, Runs.emitted, Runs.forall_split_concat,
  Runs.always_iff_before,
  Runs.run_invariant, Runs.Touches, Runs.find_run,
  Runs.Touches.agree_iff
-/
import Mathlib.Data.List.Basic

namespace Runs

variable {σ E O K V X : Type}

/-- Handle the events from left to right. -/
def run (step : σ → E → σ) (state : σ) (events : List E) : σ :=
  events.foldl step state

/-- `P` holds of the state before each event and of the event. -/
def Before (step : σ → E → σ) (P : σ → E → Prop) : σ → List E → Prop
  | _, [] => True
  | state, event :: rest => P state event ∧ Before step P (step state event) rest

/-- `P` holds of every state reached, the first one included. -/
def Always (step : σ → E → σ) (P : σ → Prop) : σ → List E → Prop
  | state, [] => P state
  | state, event :: rest => P state ∧ Always step P (step state event) rest

/-- What the steps of a run emit, in order. -/
def emitted (step : σ → E → σ) (out : σ → E → Option O) : σ → List E → List O
  | _, [] => []
  | state, event :: rest => (out state event).toList ++ emitted step out (step state event) rest

/-- The records emitted under one key. -/
def under [DecidableEq K] (key : K) (records : List (K × X)) : List X :=
  records.filterMap fun record => if record.1 = key then some record.2 else none

variable {step : σ → E → σ}

@[simp] theorem run_nil (state : σ) : run step state [] = state := rfl

@[simp] theorem run_cons (state : σ) (event : E) (rest : List E) :
    run step state (event :: rest) = run step (step state event) rest := rfl

theorem run_append (state : σ) (first second : List E) :
    run step state (first ++ second) = run step (run step state first) second :=
  List.foldl_append

theorem run_concat (state : σ) (events : List E) (event : E) :
    run step state (events ++ [event]) = step (run step state events) event := by
  rw [run_append, run_cons, run_nil]

/-- Recording the events gives them back. -/
theorem run_snoc (start events : List E) :
    run (fun done event => done ++ [event]) start events = start ++ events := by
  induction events generalizing start with
  | nil => exact (List.append_nil start).symm
  | cons event rest ih =>
      rw [run_cons, ih, List.append_assoc]
      rfl

theorem emitted_append (out : σ → E → Option O) (state : σ) (first second : List E) :
    emitted step out state (first ++ second) =
      emitted step out state first ++ emitted step out (run step state first) second := by
  induction first generalizing state with
  | nil => rfl
  | cons event rest ih =>
      rw [List.cons_append, emitted, emitted, ih, List.append_assoc]
      rfl

theorem emitted_concat (out : σ → E → Option O) (state : σ) (events : List E) (event : E) :
    emitted step out state (events ++ [event]) =
      emitted step out state events ++ (out (run step state events) event).toList := by
  rw [emitted_append, emitted, emitted, List.append_nil]

/-- Records that depend on a part of the state that follows the events by itself. -/
theorem emitted_map {τ : Type} (part : σ → τ) (partStep : τ → E → τ)
    (follows : ∀ state event, part (step state event) = partStep (part state) event)
    (out : τ → E → Option O) (state : σ) (events : List E) :
    emitted step (fun state => out (part state)) state events =
      emitted partStep out (part state) events := by
  induction events generalizing state with
  | nil => rfl
  | cons event rest ih => rw [emitted, emitted, ih, follows]

/-- Records that do not depend on the state are those of the events. -/
theorem emitted_of_events (f : E → Option O) (state : σ) (events : List E) :
    emitted step (fun _ event => f event) state events = events.filterMap f := by
  induction events generalizing state with
  | nil => rfl
  | cons event rest ih =>
      rw [emitted, ih]
      cases emits : f event with
      | none => simp [emits]
      | some record => simp [emits]

/-- A key has records exactly when it was emitted. -/
theorem under_ne_nil [DecidableEq K] {key : K} {records : List (K × X)} :
    under key records ≠ [] ↔ key ∈ records.map Prod.fst := by
  simp [under]

theorem length_under [DecidableEq K] (key : K) (records : List (K × X)) :
    (under key records).length = (records.map Prod.fst).count key := by
  induction records with
  | nil => rfl
  | cons record rest ih =>
      by_cases same : record.1 = key
      · rw [List.map_cons, same, List.count_cons_self, ← ih]
        simp [under, same]
      · rw [List.map_cons, List.count_cons_of_ne same, ← ih]
        simp [under, same]

theorem Before.imp {P Q : σ → E → Prop} (weaker : ∀ state event, P state event → Q state event)
    {state : σ} {events : List E} (before : Before step P state events) :
    Before step Q state events := by
  induction events generalizing state with
  | nil => trivial
  | cons event rest ih => exact ⟨weaker _ _ before.1, ih before.2⟩

/-- A condition that every state under an invariant meets for every event of the list. -/
theorem Before.of_invariant {I : σ → Prop} {P : σ → E → Prop} {state : σ} {events : List E}
    (start : I state) (keeps : ∀ s e, e ∈ events → I s → P s e → I (step s e))
    (meets : ∀ s e, e ∈ events → I s → P s e) : Before step P state events := by
  induction events generalizing state with
  | nil => trivial
  | cons event rest ih =>
      have here := meets state event (by simp) start
      exact ⟨here, ih (keeps state event (by simp) start here)
        (fun s e member => keeps s e (by simp [member]))
        (fun s e member => meets s e (by simp [member]))⟩

/-- What holds before each event holds at every split of the run. -/
theorem before_iff_forall_split {P : σ → E → Prop} {state : σ} {events : List E} :
    Before step P state events ↔
      ∀ done event rest, events = done ++ event :: rest → P (run step state done) event := by
  induction events generalizing state with
  | nil => simp [Before]
  | cons head tail ih =>
      rw [Before, ih]
      constructor
      · rintro ⟨here, later⟩ done event rest split
        cases done with
        | nil =>
            cases split
            exact here
        | cons first done =>
            cases split
            exact later done event rest rfl
      · intro all
        exact ⟨all [] head tail rfl, fun done event rest split =>
          all (head :: done) event rest (by rw [split, List.cons_append])⟩

/-- What holds at every split of a longer list holds at the earlier ones and at the last. -/
theorem forall_split_concat {P : List E → E → Prop} {events : List E} {last : E} :
    (∀ done event rest, events ++ [last] = done ++ event :: rest → P done event) ↔
      (∀ done event rest, events = done ++ event :: rest → P done event) ∧ P events last := by
  constructor
  · intro all
    refine ⟨?_, all events last [] rfl⟩
    rintro done event rest rfl
    exact all done event (rest ++ [last]) (by simp)
  · rintro ⟨earlier, here⟩ done event rest split
    rcases List.eq_nil_or_concat rest with rfl | ⟨front, final, rfl⟩
    · obtain ⟨rfl, same⟩ := List.append_inj' split rfl
      exact List.singleton_inj.mp same ▸ here
    · rw [List.concat_eq_append, ← List.cons_append, ← List.append_assoc] at split
      exact earlier done event front (List.append_inj' split rfl).1

/-- An invariant that each step keeps. -/
theorem run_invariant {I : σ → Prop} (keeps : ∀ s e, I s → I (step s e)) {state : σ} (start : I state)
    (events : List E) : I (run step state events) := by
  induction events generalizing state with
  | nil => exact start
  | cons event rest ih => exact ih (keeps state event start)

/-- Two runs over the same events that stay related as long as the condition of the first one is met: if
related states meet their conditions together, so do the runs. -/
theorem before_iff_before {τ : Type} {other : τ → E → τ} {P : σ → E → Prop} {Q : τ → E → Prop}
    {R : σ → τ → Prop} (same : ∀ s t e, R s t → (P s e ↔ Q t e))
    (keeps : ∀ s t e, R s t → P s e → R (step s e) (other t e)) {s : σ} {t : τ} (related : R s t)
    (events : List E) : Before step P s events ↔ Before other Q t events := by
  induction events generalizing s t with
  | nil => exact Iff.rfl
  | cons event rest ih =>
      rw [Before, Before, ← same s t event related]
      exact and_congr_right fun here => ih (keeps s t event related here)

theorem always_iff_forall_take {P : σ → Prop} {state : σ} {events : List E} :
    Always step P state events ↔ ∀ count, P (run step state (events.take count)) := by
  induction events generalizing state with
  | nil => simp [Always]
  | cons event rest ih =>
      rw [Always, ih]
      constructor
      · rintro ⟨here, later⟩ count
        cases count with
        | zero => exact here
        | succ count => exact later count
      · intro all
        exact ⟨all 0, fun count => all (count + 1)⟩

/-- **Exactness along a run.** If, under the invariant `I` and the assumption `A`, one step keeps `P`
exactly when the condition `C` holds before it, then `P` holds in every state reached exactly when `C`
holds before every step. -/
theorem always_iff_before {I P : σ → Prop} {A C : σ → E → Prop}
    (keeps : ∀ s e, I s → A s e → I (step s e))
    (exactly : ∀ s e, I s → P s → A s e → (P (step s e) ↔ C s e))
    {state : σ} {events : List E} (inv : I state) (start : P state)
    (assumed : Before step A state events) :
    Always step P state events ↔ Before step C state events := by
  induction events generalizing state with
  | nil => exact iff_of_true start trivial
  | cons event rest ih =>
      have one := exactly state event inv start assumed.1
      have inv' := keeps state event inv assumed.1
      rw [Always, Before]
      constructor
      · rintro ⟨_, later⟩
        have next : P (step state event) := by
          cases rest with
          | nil => exact later
          | cons => exact later.1
        exact ⟨one.mp next, (ih inv' next assumed.2).mp later⟩
      · rintro ⟨here, later⟩
        have next := one.mpr here
        exact ⟨start, (ih inv' next assumed.2).mpr later⟩

/-- A step on a keyed store changes the value of the emitted key by `next`, and of no other key. -/
def Touches [DecidableEq K] (step : σ → E → σ) (find : σ → K → Option V)
    (out : σ → E → Option (K × X)) (next : Option V → X → V) (state : σ) (event : E) : Prop :=
  ∀ key, find (step state event) key =
    match out state event with
    | none => find state key
    | some (touched, record) =>
        if touched = key then some (next (find state key) record) else find state key

/-- The value under a key after a run is the fold of the records emitted under the key. -/
theorem find_run [DecidableEq K] {find : σ → K → Option V} {out : σ → E → Option (K × X)}
    {next : Option V → X → V} {state : σ} {events : List E}
    (touches : Before step (Touches step find out next) state events) (key : K) :
    find (run step state events) key =
      (under key (emitted step out state events)).foldl
        (fun value record => some (next value record)) (find state key) := by
  induction events generalizing state with
  | nil => rfl
  | cons event rest ih =>
      rw [run_cons, ih touches.2, touches.1 key, emitted]
      cases emits : out state event with
      | none => rfl
      | some record =>
          obtain ⟨touched, record⟩ := record
          by_cases same : touched = key
          · simp [under, same]
          · simp [under, same]

/-- Two stores that agree still agree after a step on each exactly when both steps touch the key or
neither does, provided that `next` always changes the value and the steps would record the same. -/
theorem Touches.agree_iff [DecidableEq K] {find : σ → K → Option V}
    {out : σ → E → Option (K × X)} {next : Option V → X → V} {first second : σ} {one two : E}
    (changes : ∀ value record, some (next value record) ≠ value)
    (touchesOne : Touches step find out next first one)
    (touchesTwo : Touches step find out next second two)
    (agree : ∀ key, find first key = find second key)
    (sameRecord : ∀ record ∈ out first one, ∀ other ∈ out second two, record = other) :
    (∀ key, find (step first one) key = find (step second two) key) ↔
      ((out first one).isSome ↔ (out second two).isSome) := by
  cases emitsOne : out first one with
  | none =>
      simp only [Touches, emitsOne] at touchesOne
      cases emitsTwo : out second two with
      | none =>
          simp only [Touches, emitsTwo] at touchesTwo
          refine iff_of_true (fun key => ?_) Iff.rfl
          rw [touchesOne, touchesTwo, agree]
      | some record =>
          refine iff_of_false (fun same => ?_) (by simp)
          have touched := touchesTwo record.1
          simp only [emitsTwo, if_true] at touched
          rw [← same, touchesOne, agree] at touched
          exact changes _ _ touched.symm
  | some record =>
      cases emitsTwo : out second two with
      | none =>
          simp only [Touches, emitsTwo] at touchesTwo
          refine iff_of_false (fun same => ?_) (by simp)
          have touched := touchesOne record.1
          simp only [emitsOne, if_true] at touched
          rw [same, touchesTwo, agree] at touched
          exact changes _ _ touched.symm
      | some other =>
          have equal := sameRecord record emitsOne other emitsTwo
          refine iff_of_true (fun key => ?_) (by simp)
          rw [touchesOne, touchesTwo]
          simp only [emitsOne, emitsTwo, equal, agree]

end Runs
