/-
Module: MonsaEbpf.Bpf.CountingHandler
Layer: Bpf
Purpose: The handlers that count their events under a key and then report, one handler at a time. A
  `CountingHandler` is `countEvent` followed by any program that leaves the counters alone; its capacity,
  keys and records are parameters. Its map after a run is a bounded tally of the keys of the calls
  (`talliesExactly_run`), and its reports carry ordinals exactly when no report repeats a key that the map
  refused (`carriesOrdinals_iff`).
Imports: MonsaEbpf.Bpf.Counting, MonsaEbpf.Lib.BoundedCounts
Trusted boundary: none
Main exports: emitEvent, countAndEmit, countAndSample, exec_countEvent, RingRef.Apart, CountingHandler,
  CountingHandler.handler, runAlone, TalliesExactly, CountingHandler.talliesExactly_run, CarriesOrdinals,
  SubmitsTracked, CountingHandler.carriesOrdinals_iff
-/
import MonsaEbpf.Bpf.Counting
import MonsaEbpf.Lib.BoundedCounts

namespace MonsaEbpf

open BoundedCounts

section Programs

variable {μ σ K E α : Type} [DecidableEq K] {maxEntries : Nat}

/-- Reserve an event, fill it in and submit it; without ring space nothing is sent. -/
def emitEvent (ring : RingRef σ E) (reserved : Option E) (fill : E → E) (verdict : α) :
    StepProgram (BpfOp μ) σ α := do
  let evt ← bpfRingbufReserve reserved
  match evt with
  | none => return verdict
  | some evt => do
      bpfRingbufSubmit ring (fill evt)
      return verdict

/-- A handler that counts its event under a key and sends a record with the count. -/
def countAndEmit (counts : MapRef μ σ K U64 maxEntries) (ring : RingRef σ E) (key : K)
    (reserved : Option E) (fill : U64 → E → E) (verdict : α) : StepProgram (BpfOp μ) σ α := do
  let newCount ← countEvent counts key
  emitEvent ring reserved (fill newCount) verdict

/-- What follows the counting in a handler that sends a record for 1/100 events. -/
def emitSampled (ring : RingRef σ E) (reserved : Option E) (fill : U64 → E → E) (verdict : α)
    (newCount : U64) : StepProgram (BpfOp μ) σ α :=
  if newCount % 100 ≠ 0 then return verdict
  else emitEvent ring reserved (fill newCount) verdict

/-- A handler that counts its event under a key and samples 1/100 events. -/
def countAndSample (counts : MapRef μ σ K U64 maxEntries) (ring : RingRef σ E) (key : K)
    (reserved : Option E) (fill : U64 → E → E) (verdict : α) : StepProgram (BpfOp μ) σ α := do
  let newCount ← countEvent counts key
  emitSampled ring reserved fill verdict newCount

/-! ### Run alone -/

/-- The number that the counting idiom returns. -/
def countFrom (map : CellMap K U64 maxEntries) (key : K) : U64 :=
  match map.find? key with
  | none => 1
  | some stored => stored + 1

/-- **The counting idiom run alone**: the key is tallied. -/
theorem exec_countEvent (counts : MapRef μ σ K U64 maxEntries) (key : K) (shared : σ) :
    (countEvent counts key).exec shared =
      (countFrom (counts.get shared) key, counts.set shared ((counts.get shared).tally key)) := by
  cases found : (counts.get shared).lookup key with
  | none =>
      rw [countEvent, exec_lookup_bind counts found, countFrom, CellMap.find?_eq_none.mpr found,
        CellMap.tally, found]
      rfl
  | some val =>
      rw [countEvent, exec_lookup_bind counts found, countFrom, CellMap.find?_of_lookup found,
        CellMap.tally, found]
      rfl

theorem exec_emitEvent (ring : RingRef σ E) (reserved : Option E) (fill : E → E) (verdict : α)
    (shared : σ) :
    (emitEvent ring reserved fill verdict : StepProgram (BpfOp μ) σ α).exec shared =
      (verdict,
        match reserved with
        | none => shared
        | some memory => ring.set shared (ring.get shared ++ [fill memory])) := by
  cases reserved <;> rfl

/-- A ring and a map that are different components of the shared state. -/
structure RingRef.Apart (ring : RingRef σ E) (map : MapRef μ σ K U64 maxEntries) : Prop where
  ring_get_set : ∀ shared events, ring.get (ring.set shared events) = events
  map_get_ring : ∀ shared events, map.get (ring.set shared events) = map.get shared
  ring_get_map : ∀ shared counters, ring.get (map.set shared counters) = ring.get shared

end Programs

/-! ### Counting handlers -/

/-- A handler that counts under a key and then does what leaves the counters alone. A call without a key is
rejected before counting; `event?` is what a call submits with the count it obtained. -/
structure CountingHandler (μ σ K C E α : Type) [DecidableEq K] (maxEntries : Nat) where
  counts : MapRef μ σ K U64 maxEntries
  events : RingRef σ E
  initial : σ
  key? : C → Option K
  rejects : C → α
  emit : C → U64 → StepProgram (BpfOp μ) σ α
  event? : C → U64 → Option E
  initial_counts : counts.get initial = .empty
  apart : events.Apart counts
  emit_counts : ∀ call count shared, counts.get ((emit call count).exec shared).2 = counts.get shared
  emit_events : ∀ call count shared,
    events.get ((emit call count).exec shared).2 = events.get shared ++ (event? call count).toList

/-- The state after calls that are handled one after another. -/
def runAlone {ℓ σ C α : Type} (handler : C → StepProgram ℓ σ α) (initial : σ) (calls : List C) : σ :=
  Runs.run (fun shared call => ((handler call).exec shared).2) initial calls

/-- **The exact contents of a counter map**: it holds the first distinct keys of the calls, each with the
number of its occurrences in the arithmetic of the field, and a call changes no other key's value. -/
structure TalliesExactly {μ σ K C : Type} [DecidableEq K] {maxEntries : Nat}
    (counts : MapRef μ σ K U64 maxEntries) (key? : C → Option K) (run : List C → σ) (calls : List C) :
    Prop where
  keys : (counts.get (run calls)).keys = ((calls.filterMap key?).eraseDups.take maxEntries).toFinset
  values : ∀ key ∈ (calls.filterMap key?).eraseDups.take maxEntries,
    (counts.get (run calls)).find? key = some (BitVec.ofNat 64 ((calls.filterMap key?).count key))
  keeps : ∀ done call rest, calls = done ++ call :: rest → ∀ earlier stored, key? call ≠ some earlier →
    (counts.get (run done)).find? earlier = some stored →
    (counts.get (run (done ++ [call]))).find? earlier = some stored

/-- Every submitted event carries the number of calls with its key up to and including its own. -/
def CarriesOrdinals {σ K C E : Type} [DecidableEq K] (events : RingRef σ E) (count : E → U64)
    (key? : C → Option K) (run : List C → σ) (calls : List C) : Prop :=
  ∀ done call rest, calls = done ++ call :: rest → ∀ key, key? call = some key →
    ∀ event, events.get (run (done ++ [call])) = events.get (run done) ++ [event] →
      (count event).toNat = ((done ++ [call]).filterMap key?).count key

/-- No call with ring space repeats a key that came after `maxEntries` others. -/
def SubmitsTracked {K C E : Type} [DecidableEq K] (maxEntries : Nat) (key? : C → Option K)
    (reserved : C → Option E) (calls : List C) : Prop :=
  ∀ done call rest, calls = done ++ call :: rest → (reserved call).isSome →
    ∀ key, key? call = some key → key ∈ done.filterMap key? →
      key ∈ (done.filterMap key?).eraseDups.take maxEntries

/-- With at most `maxEntries` different keys, no key is refused. -/
theorem submitsTracked_of_few_keys {K C E : Type} [DecidableEq K] {maxEntries : Nat} {key? : C → Option K}
    (reserved : C → Option E) {calls : List C}
    (few : (calls.filterMap key?).eraseDups.length ≤ maxEntries) :
    SubmitsTracked maxEntries key? reserved calls := by
  rintro done call rest rfl _ key _ again
  rw [List.filterMap_append, List.eraseDups_append, List.length_append] at few
  rw [List.take_of_length_le (Nat.le_of_add_right_le few)]
  exact List.mem_eraseDups.mpr again

namespace CountingHandler

variable {μ σ K C E α : Type} [DecidableEq K] {maxEntries : Nat}
  (program : CountingHandler μ σ K C E α maxEntries)

/-- The handler as a program: count, then report. -/
def handler (call : C) : StepProgram (BpfOp μ) σ α :=
  match program.key? call with
  | none => return program.rejects call
  | some key => countEvent program.counts key >>= program.emit call

/-- The state after calls that are handled one after another. -/
def run (calls : List C) : σ :=
  runAlone program.handler program.initial calls

/-- The keys of the calls that were counted. -/
def keys (calls : List C) : List K :=
  calls.filterMap program.key?

variable {program} {done calls : List C} {call : C} {key : K}

theorem run_concat : program.run (done ++ [call]) = ((program.handler call).exec (program.run done)).2 :=
  Runs.run_concat _ _ _

theorem keys_concat : program.keys (done ++ [call]) = program.keys done ++ (program.key? call).toList := by
  rw [keys, List.filterMap_append, keys]
  cases found : program.key? call <;> simp [found]

theorem handler_counted (found : program.key? call = some key) :
    program.handler call = (countEvent program.counts key >>= program.emit call) := by
  rw [handler, found]

theorem run_rejected (rejected : program.key? call = none) :
    program.run (done ++ [call]) = program.run done := by
  rw [run_concat, handler, rejected]
  rfl

/-- One more call tallies its key. -/
theorem counts_run_concat (found : program.key? call = some key) :
    program.counts.get (program.run (done ++ [call])) =
      (program.counts.get (program.run done)).tally key := by
  rw [run_concat, handler_counted found, StepProgram.exec_bind, exec_countEvent, program.emit_counts,
    program.counts.get_set]

/-- A counted call submits its event with the count it obtains. -/
theorem events_handler (found : program.key? call = some key) (shared : σ) :
    program.events.get ((program.handler call).exec shared).2 =
      program.events.get shared ++
        (program.event? call (countFrom (program.counts.get shared) key)).toList := by
  rw [handler_counted found, StepProgram.exec_bind, exec_countEvent, program.emit_events,
    program.apart.ring_get_map]

variable (program call) in
/-- What a counted call adds to the ring is its event. -/
theorem event?_of_submitted {shared : σ} {event : E} (found : program.key? call = some key)
    (submitted : program.events.get ((program.handler call).exec shared).2 =
      program.events.get shared ++ [event]) :
    program.event? call (countFrom (program.counts.get shared) key) = some event := by
  rw [events_handler found] at submitted
  exact Option.toList_eq_singleton_iff.mp (List.append_cancel_left submitted)

/-- One more call submits its event with the count it obtained. -/
theorem events_run_concat (found : program.key? call = some key) :
    program.events.get (program.run (done ++ [call])) =
      program.events.get (program.run done) ++
        (program.event? call (countFrom (program.counts.get (program.run done)) key)).toList := by
  rw [run_concat, events_handler found]

/-- **The counters after a run are the tally of the keys.** -/
theorem counts_run (calls : List C) :
    program.counts.get (program.run calls) = tallies maxEntries 64 (program.keys calls) := by
  induction calls using List.reverseRecOn with
  | nil => exact program.initial_counts
  | append_singleton done call ih =>
      rw [keys_concat]
      cases found : program.key? call with
      | none =>
          rw [run_rejected found, ih, Option.toList_none, List.append_nil]
      | some key =>
          rw [counts_run_concat found, ih, Option.toList_some, tallies_concat]

theorem find?_run (calls : List C) (key : K) :
    (program.counts.get (program.run calls)).find? key = reading maxEntries 64 (program.keys calls) key := by
  rw [counts_run]
  exact find?_tallies _ _

/-- A call keeps the values of other keys. -/
theorem find?_run_other {earlier : K} {stored : U64} (other : program.key? call ≠ some earlier)
    (found : (program.counts.get (program.run done)).find? earlier = some stored) :
    (program.counts.get (program.run (done ++ [call]))).find? earlier = some stored := by
  cases counted : program.key? call with
  | none => rwa [run_rejected counted]
  | some key =>
      have different : earlier ≠ key := by
        rintro rfl
        exact other counted
      rw [find?_run, keys_concat, counted, Option.toList_some, reading_other different, ← find?_run]
      exact found

variable (program) in
theorem talliesExactly_run (calls : List C) :
    TalliesExactly program.counts program.key? program.run calls where
  keys := by
    rw [counts_run]
    exact keys_tallies _
  values := by
    intro key member
    rw [find?_run, reading]
    exact if_pos member
  keeps := by
    rintro done call rest rfl earlier stored other found
    exact find?_run_other other found

/-- The count a call obtains: one more than the earlier calls of a tracked key, else one. -/
theorem countFrom_run (few : done.length + 1 < 2 ^ 64) :
    (countFrom (program.counts.get (program.run done)) key).toNat =
      if key ∈ tracked maxEntries (program.keys done) then (program.keys done).count key + 1 else 1 := by
  rw [countFrom, find?_run, reading]
  by_cases isTracked : key ∈ tracked maxEntries (program.keys done)
  · have bounded : (program.keys done).count key ≤ done.length :=
      List.count_le_length.trans (List.length_filterMap_le _ _)
    rw [if_pos isTracked, if_pos isTracked]
    have one : (1 : U64).toNat = 1 := rfl
    simp only [BitVec.toNat_add, BitVec.toNat_ofNat, one]
    omega
  · rw [if_neg isTracked, if_neg isTracked]
    rfl

/-- The handler reports every call that gets ring space, with the count it obtained. -/
structure Numbers (program : CountingHandler μ σ K C E α maxEntries) (reserved : C → Option E)
    (count : E → U64) : Prop where
  submits : ∀ call newCount, (program.event? call newCount).isSome = (reserved call).isSome
  carries : ∀ call newCount event, program.event? call newCount = some event → count event = newCount

/-- **When reported counts are ordinals**: exactly when no report repeats a key that the map refused. -/
theorem carriesOrdinals_iff {reserved : C → Option E} {count : E → U64}
    (numbers : program.Numbers reserved count) (few : calls.length < 2 ^ 64) :
    CarriesOrdinals program.events count program.key? program.run calls ↔
      SubmitsTracked maxEntries program.key? reserved calls := by
  have shorter {done : List C} {call : C} {rest : List C} (split : calls = done ++ call :: rest) :
      done.length + 1 < 2 ^ 64 := by
    rw [split, List.length_append, List.length_cons] at few
    omega
  have ordinal {done : List C} {call : C} {key : K} (found : program.key? call = some key) :
      ((done ++ [call]).filterMap program.key?).count key = (program.keys done).count key + 1 := by
    change (program.keys (done ++ [call])).count key = _
    rw [keys_concat, found, Option.toList_some, List.count_append, List.count_singleton_self]
  constructor
  · intro ordinals done call rest split granted key found again
    by_contra refused
    have untracked : key ∉ tracked maxEntries (program.keys done) := refused
    rw [← numbers.submits call (countFrom (program.counts.get (program.run done)) key)] at granted
    obtain ⟨event, submitted⟩ := Option.isSome_iff_exists.mp granted
    have carried := ordinals done call rest split key found event
      (by rw [events_run_concat found, submitted, Option.toList_some])
    -- the refused key obtains one again, although it occurred before
    rw [numbers.carries call _ event submitted, countFrom_run (shorter split), if_neg untracked,
      ordinal found] at carried
    have positive := List.count_pos_iff.mpr again
    rw [← keys] at positive
    omega
  · intro submitsTracked done call rest split key found event reported
    rw [events_run_concat found, List.append_cancel_left_eq, Option.toList_eq_singleton_iff] at reported
    rw [numbers.carries call _ event reported, countFrom_run (shorter split), ordinal found]
    split
    · rfl
    · rename_i untracked
      have granted : (reserved call).isSome := by
        rw [← numbers.submits call (countFrom (program.counts.get (program.run done)) key), reported]
        rfl
      have first : key ∉ program.keys done := fun again =>
        untracked (submitsTracked done call rest split granted key found again)
      rw [List.count_eq_zero_of_not_mem first]

/-- After `maxEntries` other keys, the second report of a key carries one again. -/
theorem not_carriesOrdinals_of_refused {reserved : C → Option E} {count : E → U64}
    (numbers : program.Numbers reserved count) {front : List K} (keys : program.keys done = front ++ [key])
    (distinct : (front ++ [key]).Nodup) (full : front.length = maxEntries)
    (found : program.key? call = some key) (granted : (reserved call).isSome)
    (few : done.length + 1 < 2 ^ 64) :
    ¬ CarriesOrdinals program.events count program.key? program.run (done ++ [call]) := by
  rw [carriesOrdinals_iff numbers (by simpa using few)]
  intro submitsTracked
  have again : key ∈ program.keys done := by simp [keys]
  have member : key ∈ tracked maxEntries (program.keys done) :=
    submitsTracked done call [] rfl granted key found again
  rw [keys, tracked, eraseDups_of_nodup distinct, ← full, List.take_left] at member
  exact (List.nodup_append.mp distinct).2.2 key member key (List.mem_singleton_self key) rfl

/-! ### Handlers that send every record, and handlers that sample -/

section Kinds

variable (counts : MapRef μ σ K U64 maxEntries) (events : RingRef σ E) (initial : σ)
  (start : counts.get initial = .empty) (apart : events.Apart counts) (key? : C → Option K)
  (rejects : C → α) (reserved : C → Option E) (fill : C → U64 → E → E) (verdict : C → α)

include apart in
theorem counts_emitEvent (memory : Option E) (write : E → E) (value : α) (shared : σ) :
    counts.get ((emitEvent events memory write value : StepProgram (BpfOp μ) σ α).exec shared).2 =
      counts.get shared := by
  rw [exec_emitEvent]
  cases memory with
  | none => rfl
  | some memory => exact apart.map_get_ring _ _

include apart in
theorem events_emitEvent (memory : Option E) (write : E → E) (value : α) (shared : σ) :
    events.get ((emitEvent events memory write value : StepProgram (BpfOp μ) σ α).exec shared).2 =
      events.get shared ++ (memory.map write).toList := by
  rw [exec_emitEvent]
  cases memory with
  | none => exact (List.append_nil _).symm
  | some memory => exact apart.ring_get_set _ _

/-- A handler that sends a record for every call it counts. -/
def emitting : CountingHandler μ σ K C E α maxEntries where
  counts := counts
  events := events
  initial := initial
  key? := key?
  rejects := rejects
  emit call newCount := emitEvent events (reserved call) (fill call newCount) (verdict call)
  event? call newCount := (reserved call).map (fill call newCount)
  initial_counts := start
  apart := apart
  emit_counts _ _ _ := counts_emitEvent counts events apart _ _ _ _
  emit_events _ _ _ := events_emitEvent counts events apart _ _ _ _

/-- A handler that samples 1/100 of the calls it counts. -/
def sampling : CountingHandler μ σ K C E α maxEntries where
  counts := counts
  events := events
  initial := initial
  key? := key?
  rejects := rejects
  emit call newCount := emitSampled events (reserved call) (fill call) (verdict call) newCount
  event? call newCount := if newCount % 100 ≠ 0 then none else (reserved call).map (fill call newCount)
  initial_counts := start
  apart := apart
  emit_counts call newCount shared := by
    rw [emitSampled]
    split
    · rfl
    · exact counts_emitEvent counts events apart _ _ _ _
  emit_events call newCount shared := by
    rw [emitSampled]
    split
    · exact (List.append_nil _).symm
    · exact events_emitEvent counts events apart _ _ _ _

/-- A handler that writes the count into every record reports it. -/
theorem emitting_numbers {count : E → U64}
    (writes : ∀ call newCount memory, count (fill call newCount memory) = newCount) :
    (emitting counts events initial start apart key? rejects reserved fill verdict).Numbers
      reserved count where
  submits _ _ := Option.isSome_map
  carries call newCount event submitted := by
    obtain ⟨memory, _, rfl⟩ := Option.map_eq_some_iff.mp submitted
    exact writes call newCount memory

end Kinds

end CountingHandler

/-! ### The maps of a counting program -/

/-- A counter map and a ring buffer. -/
structure CounterMaps (K E : Type) [DecidableEq K] (maxEntries : Nat) where
  counts : CellMap K U64 maxEntries
  events : List E

inductive CounterMap where
  | counts
deriving DecidableEq, Repr

namespace CounterMaps

variable {K E : Type} [DecidableEq K] {maxEntries : Nat}

/-- No key is counted yet and nothing was submitted. -/
def initial : CounterMaps K E maxEntries where
  counts := .empty
  events := []

/-- The counter map as a component of the maps. -/
def counters : MapRef CounterMap (CounterMaps K E maxEntries) K U64 maxEntries where
  name := .counts
  get := counts
  set := fun maps map => { maps with counts := map }
  get_set := fun _ _ => rfl
  set_get := fun _ => rfl
  set_set := fun _ _ _ => rfl

/-- The ring buffer as a component of the maps. -/
def ring : RingRef (CounterMaps K E maxEntries) E where
  get := events
  set := fun maps events => { maps with events := events }

theorem apart : (ring : RingRef (CounterMaps K E maxEntries) E).Apart counters where
  ring_get_set _ _ := rfl
  map_get_ring _ _ := rfl
  ring_get_map _ _ := rfl

end CounterMaps

end MonsaEbpf
