/-
Module: MonsaEbpf.Bpf.LiveCounters
Layer: Bpf
Purpose: The loop of the user programs that print per-CPU counters once a second, while the handlers go on
  counting. A lookup copies the slots of the CPUs one after another, each at a moment of its own. Its total is
  still the number of events at one moment of the lookup, so the totals of later rounds are never smaller
  (`watchesCounts_of_totals`).
Imports: MonsaEbpf.Bpf.PerCpuCounters
Trusted boundary: the order in which the kernel copies the slots
Main exports: CopyTimes, watch, handledOf, copiedCounts, InLookups, WatchesCounts, watchesCounts_of_totals,
  CounterProgram.copied, CounterProgram.WatchedBy, CounterProgram.watchedBy_printTotals
-/
import Mathlib.Algebra.BigOperators.Ring.Finset
import MonsaEbpf.Bpf.PerCpuCounters

namespace MonsaEbpf

open Wire Printf

/-- How many events were handled when the kernel copies the slot of a CPU at a key, in a round of the loop.
The slots are copied one after another, and the rounds follow one another. -/
structure CopyTimes where
  handled : Nat → Nat → Nat → Nat
  slots : ∀ round key, Monotone (handled round key)
  rounds : ∀ {round later}, round < later → ∀ key other cpu elsewhere,
    handled round key cpu ≤ handled later other elsewhere

/-- `while (!stop) { print_stats(map); sleep(1); }`: the lines of a number of rounds. -/
def watch (rounds : Nat) (print : Nat → Access (List (List Piece))) : Access (List (List (List Piece))) :=
  (List.range rounds).mapM print

theorem watch_ok {print : Nat → Access (List (List Piece))} {lines : Nat → List (List Piece)}
    (prints : ∀ round, print round = .ok (lines round)) (rounds : Nat) :
    watch rounds print = .ok ((List.range rounds).map lines) := by
  have pure : print = fun round => Pure.pure (lines round) := funext prints
  rw [watch, pure]
  exact List.mapM_pure

/-- A loop whose first round faults prints nothing. -/
theorem watch_error {print : Nat → Access (List (List Piece))} {fault : Fault}
    (faults : print 0 = .error fault) {rounds : Nat} (some : 0 < rounds) :
    watch rounds print = .error fault := by
  obtain ⟨rounds, rfl⟩ := Nat.exists_eq_succ_of_ne_zero (Nat.pos_iff_ne_zero.mp some)
  rw [watch, List.range_succ_eq_map, List.mapM_cons, faults]
  rfl

section Reading

variable {E : Type} (index : E → Nat) {possibleCpus : Nat} (events : List (Placed possibleCpus E))

/-- How many of the first `now` events belong to a counter. -/
def handledOf (now key : Nat) : Nat :=
  (events.take now).countP fun placed => index placed.2 = key

/-- The slots that the lookups of a round copy, each at a moment of its own. -/
def copiedCounts (handled : Nat → Nat → Nat) : PerCpuCounts where
  counts cpu key :=
    ((events.take (handled key cpu)).countP fun placed => index placed.2 = key && cpu = placed.1 : Nat)

/-- How many events of a counter the lookup of its key finds. -/
def foundOf (handled : Nat → Nat → Nat) (key : Nat) : Nat :=
  Sharded.seen (Finset.range possibleCpus) (fun placed => placed.1.val) (fun placed => index placed.2 = key)
    events (handled key)

theorem sum_copiedCounts (handled : Nat → Nat → Nat) (key : Nat) :
    ∑ cpu ∈ Finset.range possibleCpus, (copiedCounts index events handled).counts cpu key =
      (foundOf index events handled key : U64) :=
  (Nat.cast_sum _ _).symm

end Reading

/-- The moments that a round shows of its counters lie in the lookups of the counters. -/
def InLookups (possibleCpus : Nat) (copies : CopyTimes) (moment : Nat → Nat → Nat) : Prop :=
  ∀ now key, copies.handled now key 0 ≤ moment now key ∧
    moment now key ≤ copies.handled now key (possibleCpus - 1)

/-- **A loop that prints counters while they count**, for any machine, any events on its CPUs, any times at
which the slots are copied and any contents of the buffers. With at most 128 possible CPUs a round prints, for
each counter, its number of events at one moment of its lookup, modulo 2^64, and the moments of later rounds
are later. With more, the first lookup writes past its buffer. -/
structure WatchesCounts {E : Type} (index : E → Nat) (lines : List (U64 → List Piece))
    (round : ∀ {possibleCpus : Nat}, List (Placed possibleCpus E) → (Nat → Nat → Nat) →
      Vector U64 128 → Access (List (List Piece))) : Prop where
  prints : ∀ (possibleCpus : Nat), possibleCpus ≤ 128 →
    ∀ (events : List (Placed possibleCpus E)) (copies : CopyTimes) (values : Nat → Vector U64 128)
      (rounds : Nat), ∃ moment : Nat → Nat → Nat, InLookups possibleCpus copies moment ∧
      (∀ key, Monotone fun now => moment now key) ∧
      watch rounds (fun now => round events (copies.handled now) (values now)) =
        .ok ((List.range rounds).map fun now =>
          counterLines lines 0 fun key => (handledOf index events (moment now key) key : U64))
  faults : ∀ (possibleCpus : Nat), 128 < possibleCpus →
    ∀ (events : List (Placed possibleCpus E)) (copies : CopyTimes) (values : Nat → Vector U64 128)
      (rounds : Nat), 0 < rounds →
      watch rounds (fun now => round events (copies.handled now) (values now)) =
        .error (.outOfBounds (8 * 128))

section Moments

variable {E : Type} (index : E → Nat) {possibleCpus : Nat} (events : List (Placed possibleCpus E))

/-- What the lookups of the rounds find are the numbers of events at moments of the lookups. -/
theorem foundOf_moments (copies : CopyTimes) :
    ∃ moment : Nat → Nat → Nat, InLookups possibleCpus copies moment ∧ ∀ now key,
      foundOf index events (copies.handled now) key = handledOf index events (moment now key) key := by
  have each (now key : Nat) : ∃ moment, copies.handled now key 0 ≤ moment ∧
      moment ≤ copies.handled now key (possibleCpus - 1) ∧
      foundOf index events (copies.handled now) key = handledOf index events moment key := by
    apply Sharded.seen_at_some_moment
    · exact fun placed _ => Finset.mem_range.mpr placed.1.isLt
    · exact copies.slots now key (Nat.zero_le _)
    · exact fun cpu _ => copies.slots now key (Nat.zero_le cpu)
    · exact fun cpu isPossible =>
        copies.slots now key (Nat.le_sub_one_of_lt (Finset.mem_range.mp isPossible))
  choose moment begun ended found using each
  exact ⟨moment, fun now key => ⟨begun now key, ended now key⟩, found⟩

/-- Moments of later lookups are later. -/
theorem InLookups.mono {copies : CopyTimes} {moment : Nat → Nat → Nat}
    (inside : InLookups possibleCpus copies moment) (key : Nat) : Monotone fun now => moment now key := by
  intro now later order
  rcases Nat.eq_or_lt_of_le order with rfl | before
  · exact Nat.le_refl (moment now key)
  · calc moment now key
        ≤ copies.handled now key (possibleCpus - 1) := (inside now key).2
      _ ≤ copies.handled later key 0 := copies.rounds before key key _ _
      _ ≤ moment later key := (inside later key).1

end Moments

/-- Readers that print the totals of what their lookups copy. -/
theorem watchesCounts_of_totals {E : Type} {index : E → Nat} {lines : List (U64 → List Piece)}
    {round : ∀ {possibleCpus : Nat}, List (Placed possibleCpus E) → (Nat → Nat → Nat) →
      Vector U64 128 → Access (List (List Piece))} {counterMax : Nat}
    (nonempty : lines ≠ []) (inside : lines.length ≤ counterMax)
    (totals : ∀ {possibleCpus : Nat} (events : List (Placed possibleCpus E)) handled values,
      round events handled values =
        printTotals counterMax possibleCpus lines (copiedCounts index events handled) values) :
    WatchesCounts index lines round where
  prints possibleCpus few events copies values rounds := by
    rcases foundOf_moments index events copies with ⟨moment, inside, found⟩
    refine ⟨moment, inside, inside.mono, ?_⟩
    apply watch_ok
    intro now
    rw [totals]
    apply printCounters_fits _ _ lines (by omega) (by simpa using few)
    intro key rest
    rw [sumValues_slots _ few, sum_copiedCounts, found]
  faults possibleCpus many events copies values rounds some := by
    apply watch_error _ some
    rw [totals]
    exact CounterProgram.printTotals_overruns many nonempty inside _ _

/-- A slot that starts at zero counts the events of its CPU that belong to its counter. -/
theorem slot_run {σ E : Type} {index : E → Nat} {possibleCpus key : Nat}
    {step : σ → Placed possibleCpus E → σ} {slots : σ → Nat → U64} {initial : σ}
    (adds : Sharded.Adds step slots (fun placed => placed.1.val)
      fun placed => if index placed.2 = key then (1 : U64) else 0)
    (empty : ∀ cpu, slots initial cpu = 0) (events : List (Placed possibleCpus E)) (cpu : Nat) :
    slots (Runs.run step initial events) cpu =
      (events.countP fun placed => index placed.2 = key && cpu = placed.1 : Nat) := by
  have shard := Sharded.shard_run adds initial events cpu
  have count := Sharded.sum_indicator (M := U64)
    (fun placed : Placed possibleCpus E => index placed.2 = key && cpu = placed.1) events
  have amounts (placed : Placed possibleCpus E) :
      (if cpu = placed.1 then if index placed.2 = key then (1 : U64) else 0 else 0) =
        if (index placed.2 = key && cpu = placed.1 : Bool) then 1 else 0 := by
    by_cases here : cpu = placed.1 <;> by_cases same : index placed.2 = key <;> simp [here, same]
  rw [shard, ← count, List.map_congr_left fun placed _ => amounts placed, empty]
  exact BitVec.zero_add _

/-! ### Programs with one array -/

namespace CounterProgram

variable {E : Type} (program : CounterProgram E) {possibleCpus : Nat}

/-- What the lookups of a round find in the map of a program. -/
def copied (events : List (Placed possibleCpus E)) (handled : Nat → Nat → Nat) : PerCpuCounts where
  counts cpu key := (program.run (events.take (handled key cpu))).counts cpu key

theorem counts_run (events : List (Placed possibleCpus E)) (cpu key : Nat) :
    (program.run events).counts cpu key =
      (events.countP fun placed => program.index placed.2 = key && cpu = placed.1 : Nat) :=
  slot_run (program.adds_step possibleCpus key) (fun _ => rfl) events cpu

theorem copied_eq (events : List (Placed possibleCpus E)) (handled : Nat → Nat → Nat) :
    program.copied events handled = copiedCounts program.index events handled := by
  simp only [copied, copiedCounts, counts_run]

/-- The loop of a user program prints the counters of a program. -/
def WatchedBy (lines : List (U64 → List Piece))
    (print : Nat → PerCpuCounts → Vector U64 128 → Access (List (List Piece))) : Prop :=
  WatchesCounts program.index lines fun {possibleCpus} events handled values =>
    print possibleCpus (program.copied events handled) values

/-- **A reader of 128 values in its loop.** -/
theorem watchedBy_printTotals {lines : List (U64 → List Piece)} (nonempty : lines ≠ [])
    (inside : lines.length ≤ program.counterMax) :
    program.WatchedBy lines fun possibleCpus => printTotals program.counterMax possibleCpus lines := by
  apply watchesCounts_of_totals nonempty inside
  intro possibleCpus events handled values
  rw [copied_eq]

end CounterProgram

end MonsaEbpf
