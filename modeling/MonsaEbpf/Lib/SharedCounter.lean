/-
Module: MonsaEbpf.Lib.SharedCounter
Layer: Lib
Purpose: Callers that add one to a shared counter at a fixed step of theirs and read it at any of their
  steps. What a caller reads is a function of the schedule: the counter's start plus the number of callers
  that took the adding step before (`seen`). The numbers seen at the adding step itself are handed out
  like tickets (`image_rank`).
Imports: MonsaEbpf.Lib.Interleaving, MonsaEbpf.Lib.Runs
Trusted boundary: none
Main exports: SharedCounter.reached, SharedCounter.seen, SharedCounter.rank, SharedCounter.image_rank,
  SharedCounter.exists_rank, SharedCounter.rank_injective, SharedCounter.Callers, SharedCounter.readings,
  SharedCounter.Callers.After, SharedCounter.Callers.after_run, SharedCounter.Draws,
  SharedCounter.Draws.injective, SharedCounter.Draws.image_toNat
-/
import Mathlib.Algebra.BigOperators.Group.Finset.Basic
import Mathlib.Algebra.BigOperators.Group.Finset.Piecewise
import Mathlib.Data.Fintype.Card
import Mathlib.Data.List.GetD
import Mathlib.Order.Interval.Finset.Nat
import MonsaEbpf.Lib.Interleaving
import MonsaEbpf.Lib.Runs

namespace SharedCounter

variable {ι : Type} [DecidableEq ι] [Fintype ι]

/-! ### What a schedule shows -/

/-- The callers that have taken their step number `k`, counted from zero. -/
def reached (k : Nat) (schedule : List ι) : Finset ι :=
  Finset.univ.filter fun i => k < schedule.count i

/-- How many callers had taken their step number `k` before each step of `i`. -/
def seen (k : Nat) (i : ι) (schedule : List ι) : List Nat :=
  Runs.emitted (fun done j => done ++ [j])
    (fun done j => if j = i then some (reached k done).card else none) [] schedule

/-- How many callers took their step number `k` before `i` took it. -/
def rank (k : Nat) (i : ι) (schedule : List ι) : Nat :=
  (seen k i schedule).getD k 0

variable {k : Nat} {i j : ι} {schedule done : List ι}

theorem mem_reached : i ∈ reached k schedule ↔ k < schedule.count i := by
  rw [reached, Finset.mem_filter_univ]

@[simp] theorem reached_nil : reached k ([] : List ι) = ∅ := by
  ext i
  rw [mem_reached, List.count_nil]
  simp

/-- The caller that takes its step number `k` joins those that have. -/
theorem reached_concat_now (now : done.count j = k) :
    reached k (done ++ [j]) = insert j (reached k done) := by
  ext i
  rw [Finset.mem_insert, mem_reached, mem_reached, List.count_append]
  by_cases same : i = j
  · subst same
    rw [List.count_singleton_self]
    exact iff_of_true (by omega) (Or.inl rfl)
  · rw [List.count_singleton, if_neg (by simpa using Ne.symm same), Nat.add_zero]
    exact (or_iff_right same).symm

/-- Another step changes nothing. -/
theorem reached_concat_other (other : done.count j ≠ k) : reached k (done ++ [j]) = reached k done := by
  ext i
  rw [mem_reached, mem_reached, List.count_append]
  by_cases same : i = j
  · subst same
    rw [List.count_singleton_self]
    omega
  · rw [List.count_singleton, if_neg (by simpa using Ne.symm same), Nat.add_zero]

theorem card_reached_concat :
    (reached k (done ++ [j])).card =
      if done.count j = k then (reached k done).card + 1 else (reached k done).card := by
  split
  · rename_i now
    have new : j ∉ reached k done := by
      rw [mem_reached, now]
      exact Nat.lt_irrefl k
    rw [reached_concat_now now, Finset.card_insert_of_notMem new]
  · rename_i other
    rw [reached_concat_other other]

theorem seen_concat :
    seen k i (done ++ [j]) =
      if j = i then seen k i done ++ [(reached k done).card] else seen k i done := by
  rw [seen, Runs.emitted_concat, Runs.run_snoc, List.nil_append]
  split
  · rfl
  · exact List.append_nil _

@[simp] theorem length_seen : (seen k i schedule).length = schedule.count i := by
  induction schedule using List.reverseRecOn with
  | nil => rfl
  | append_singleton done j ih =>
      rw [seen_concat, List.count_append, List.count_singleton]
      by_cases own : j = i
      · rw [if_pos own, List.length_append, ih, if_pos (beq_iff_eq.mpr own)]
        rfl
      · rw [if_neg own, ih, if_neg (by simpa using own)]
        rfl

/-- A rank is settled once the step is taken. -/
theorem rank_concat_past (past : i ∈ reached k done) : rank k i (done ++ [j]) = rank k i done := by
  have taken : k < (seen k i done).length := by
    rw [length_seen]
    exact mem_reached.mp past
  rw [rank, seen_concat]
  split
  · rw [List.getD_append _ _ _ _ taken, rank]
  · rfl

theorem rank_concat_now (now : done.count j = k) : rank k j (done ++ [j]) = (reached k done).card := by
  have length : (seen k j done).length = k := length_seen.trans now
  rw [rank, seen_concat, if_pos rfl, List.getD_append_right _ _ _ _ length.le, length, Nat.sub_self]
  rfl

/-- **Tickets**: the callers that took a step were numbered from zero in the order in which they did. -/
theorem image_rank (k : Nat) (schedule : List ι) :
    (reached k schedule).image (rank k · schedule) = Finset.range (reached k schedule).card := by
  induction schedule using List.reverseRecOn with
  | nil => simp
  | append_singleton done j ih =>
      have settled : (reached k done).image (rank k · (done ++ [j])) =
          (reached k done).image (rank k · done) :=
        Finset.image_congr fun i past => rank_concat_past past
      rw [card_reached_concat]
      by_cases now : done.count j = k
      · rw [if_pos now, reached_concat_now now, Finset.image_insert, settled, ih,
          rank_concat_now now, Finset.range_add_one]
      · rw [if_neg now, reached_concat_other now, settled, ih]

/-- No two callers have the same rank. -/
theorem rank_injOn (k : Nat) (schedule : List ι) :
    Set.InjOn (rank k · schedule) (reached k schedule) := by
  rw [← Finset.card_image_iff, image_rank, Finset.card_range]

/-- Nobody sees more callers than there are. -/
theorem seen_le {step adds : Nat} (taken : (seen k i schedule)[step]? = some adds) :
    adds ≤ Fintype.card ι := by
  induction schedule using List.reverseRecOn with
  | nil => cases taken
  | append_singleton done j ih =>
      rw [seen_concat] at taken
      by_cases own : j = i
      · rw [if_pos own, List.getElem?_append] at taken
        split at taken
        · exact ih taken
        · rw [List.getElem?_singleton] at taken
          split at taken
          · exact Option.some.inj taken ▸ Finset.card_le_univ _
          · cases taken
      · rw [if_neg own] at taken
        exact ih taken

/-- After its own step number `k`, a caller sees itself and those before it. -/
theorem rank_lt_seen {step adds : Nat} (later : k < step)
    (taken : (seen k i schedule)[step]? = some adds) : rank k i schedule < adds := by
  induction schedule using List.reverseRecOn with
  | nil => cases taken
  | append_singleton done j ih =>
      have inside : step < (seen k i (done ++ [j])).length := (List.getElem?_eq_some_iff.mp taken).1
      rw [seen_concat] at taken inside
      by_cases own : j = i
      · rw [if_pos own, List.length_append, length_seen] at inside
        have past : i ∈ reached k done := by
          rw [mem_reached]
          exact Nat.lt_of_lt_of_le later (Nat.le_of_lt_succ inside)
        rw [rank_concat_past past]
        rw [if_pos own, List.getElem?_append] at taken
        split at taken
        · exact ih taken
        · rw [List.getElem?_singleton] at taken
          split at taken
          · rw [← Option.some.inj taken, ← Finset.mem_range, ← image_rank]
            exact Finset.mem_image_of_mem _ past
          · cases taken
      · rw [if_neg own] at taken inside
        rw [length_seen] at inside
        rw [rank_concat_past (mem_reached.mpr (later.trans inside))]
        exact ih taken

section Everyone

variable (all : ∀ i, k < schedule.count i)

include all

theorem reached_eq_univ : reached k schedule = Finset.univ :=
  Finset.filter_true_of_mem fun i _ => all i

/-- When everyone has taken the step, the ranks are the numbers below the number of callers. -/
theorem image_rank_univ :
    Finset.univ.image (rank k · schedule) = Finset.range (Fintype.card ι) := by
  rw [← reached_eq_univ all, image_rank, reached_eq_univ all, Finset.card_univ]

theorem rank_injective : Function.Injective (rank k · schedule) := by
  rw [← Set.injOn_univ, ← Finset.coe_univ, ← reached_eq_univ all]
  exact rank_injOn k schedule

theorem rank_lt (i : ι) : rank k i schedule < Fintype.card ι := by
  rw [← Finset.mem_range, ← image_rank_univ all]
  exact Finset.mem_image_of_mem _ (Finset.mem_univ i)

/-- Every number below the number of callers is the rank of one. -/
theorem exists_rank {number : Nat} (below : number < Fintype.card ι) :
    ∃ i, rank k i schedule = number := by
  rw [← Finset.mem_range, ← image_rank_univ all, Finset.mem_image] at below
  obtain ⟨i, _, ranked⟩ := below
  exact ⟨i, ranked⟩

end Everyone

/-! ### Callers around a counter -/

/-- Callers whose rest of program depends on the values the counter had before the steps they took. Each
adds one at its step number `draw`; the other steps leave the counter alone and may write to a log, where
`sent` is what a caller has written so far. -/
structure Callers (ℓ σ E α ι : Type) (w : Nat) where
  draw : Nat
  Inv : σ → Prop
  count : σ → BitVec w
  log : σ → List E
  stage : ι → List (BitVec w) → StepProgram ℓ σ α
  sent : ι → List (BitVec w) → List E
  sent_nil : ∀ i, sent i [] = []
  step : ∀ i readings shared, Inv shared → ∃ next new,
    (stage i readings).step shared = (stage i (readings ++ [count shared]), next) ∧
      Inv next ∧ count next = (if readings.length = draw then count shared + 1 else count shared) ∧
      log next = log shared ++ new ∧ sent i (readings ++ [count shared]) = sent i readings ++ new

variable {ℓ σ E α : Type} {w : Nat}

/-- The values of the counter before the steps of `i`, when it starts at `start` and step `draw` adds one. -/
def readings (draw : Nat) (start : BitVec w) (i : ι) (schedule : List ι) : List (BitVec w) :=
  (seen draw i schedule).map fun adds => start + BitVec.ofNat w adds

theorem readings_concat (draw : Nat) (start : BitVec w) :
    readings draw start i (done ++ [j]) =
      if j = i then readings draw start i done ++ [start + BitVec.ofNat w (reached draw done).card]
      else readings draw start i done := by
  rw [readings, seen_concat]
  split
  · rw [List.map_append]
    rfl
  · rfl

@[simp] theorem length_readings (draw : Nat) (start : BitVec w) :
    (readings draw start i schedule).length = schedule.count i := by
  rw [readings, List.length_map, length_seen]

/-- What a caller read at one of its steps: the start plus the additions it sees there. -/
theorem reading_eq {draw step : Nat} {start value : BitVec w}
    (read : (readings draw start i schedule)[step]? = some value) :
    value = start + BitVec.ofNat w ((seen draw i schedule).getD step 0) := by
  rw [readings, List.getElem?_map] at read
  obtain ⟨adds, found, rfl⟩ := Option.map_eq_some_iff.mp read
  rw [List.getD_eq_getElem?_getD, found, Option.getD_some]

omit [DecidableEq ι] [Fintype ι] in
/-- Gathering one element from each member of a set. -/
theorem sum_singletons (callers : Finset ι) (f : ι → E) :
    ∑ i ∈ callers, ({f i} : Multiset E) = callers.val.map f := by
  rw [Finset.sum, ← Multiset.sum_map_singleton (callers.val.map f), Multiset.map_map]
  rfl

namespace Callers

variable (callers : Callers ℓ σ E α ι w)

/-- What a schedule leads to. -/
structure After (start : σ) (schedule : List ι) (config : Config ℓ σ α ι) : Prop where
  inv : callers.Inv config.shared
  count : callers.count config.shared =
    callers.count start + BitVec.ofNat w (reached callers.draw schedule).card
  threads : ∀ i, config.threads i =
    callers.stage i (readings callers.draw (callers.count start) i schedule)
  log : ∃ records, callers.log config.shared = callers.log start ++ records ∧
    (records : Multiset E) =
      ∑ i, (callers.sent i (readings callers.draw (callers.count start) i schedule) : Multiset E)

variable {callers} {start : σ} {config : Config ℓ σ α ι}

/-- One more step. -/
theorem After.step (after : callers.After start done config) (j : ι) :
    callers.After start (done ++ [j]) (config.step j) := by
  set counter : ι → List ι → List (BitVec w) := readings callers.draw (callers.count start) with counterDef
  have taken : (counter j done).length = done.count j := length_readings _ _
  have grown (i : ι) : counter i (done ++ [j]) =
      if j = i then counter i done ++ [callers.count config.shared] else counter i done := by
    rw [after.count]
    exact readings_concat _ _
  obtain ⟨next, new, stepped, inv, counted, wrote, more⟩ :=
    callers.step j (counter j done) config.shared after.inv
  have moved : (config.step j).shared = next := by rw [Config.step_shared, after.threads, stepped]
  constructor
  · rwa [moved]
  · rw [moved, counted, card_reached_concat, taken]
    split
    · rw [after.count, BitVec.add_assoc, BitVec.ofNat_add]
      rfl
    · exact after.count
  · intro i
    rw [← counterDef, grown]
    by_cases own : i = j
    · subst own
      rw [if_pos rfl, Config.step_threads_self, after.threads, stepped]
    · rw [if_neg (Ne.symm own), Config.step_threads_ne _ own, after.threads]
  · obtain ⟨records, logged, sent⟩ := after.log
    refine ⟨records ++ new, ?_, ?_⟩
    · rw [moved, wrote, logged, List.append_assoc]
    · have each (i : ι) : (callers.sent i (counter i (done ++ [j])) : Multiset E) =
          (callers.sent i (counter i done) : Multiset E) + if j = i then (new : Multiset E) else 0 := by
        rw [grown]
        split
        · rename_i own
          subst own
          rw [more]
          rfl
        · exact (add_zero _).symm
      rw [← counterDef, Finset.sum_congr rfl fun i _ => each i, Finset.sum_add_distrib,
        Finset.sum_ite_eq, if_pos (Finset.mem_univ j), ← sent]
      rfl

/-- **What the callers read, and what they have written, is determined by the schedule.** -/
theorem after_run (config : Config ℓ σ α ι) (inv : callers.Inv config.shared)
    (threads : ∀ i, config.threads i = callers.stage i []) (schedule : List ι) :
    callers.After config.shared schedule (config.run schedule) := by
  induction schedule using List.reverseRecOn with
  | nil =>
      refine ⟨inv, ?_, threads, [], (List.append_nil _).symm, ?_⟩
      · rw [reached_nil, Finset.card_empty]
        exact (BitVec.add_zero _).symm
      · refine (Finset.sum_eq_zero fun i _ => ?_).symm
        exact congrArg _ (callers.sent_nil i)
  | append_singleton done j ih =>
      rw [Config.run_append]
      exact ih.step j

end Callers

/-! ### The numbers drawn -/

/-- Everyone obtained one more than what it read at its adding step. -/
def Draws (draw : Nat) (start : BitVec w) (schedule : List ι) (number : ι → BitVec w) : Prop :=
  ∀ i, ∃ old, (readings draw start i schedule)[draw]? = some old ∧ number i = old + 1

section Draws

variable {draw : Nat} {start : BitVec w} {number : ι → BitVec w} (draws : Draws draw start schedule number)

include draws

theorem Draws.all_drew (i : ι) : draw < schedule.count i := by
  obtain ⟨old, read, _⟩ := draws i
  have inside := (List.getElem?_eq_some_iff.mp read).1
  rwa [length_readings] at inside

variable (noWrap : start.toNat + Fintype.card ι < 2 ^ w)

include noWrap

/-- The number obtained is the next one after those of the callers that added before. -/
theorem Draws.toNat_number (i : ι) :
    (number i).toNat = start.toNat + (rank draw i schedule + 1) := by
  obtain ⟨old, read, obtained⟩ := draws i
  have below := rank_lt draws.all_drew i
  have old_eq : old = start + BitVec.ofNat w (rank draw i schedule) := reading_eq read
  have follows : number i = start + BitVec.ofNat w (rank draw i schedule + 1) := by
    rw [obtained, old_eq, BitVec.ofNat_add, ← BitVec.add_assoc]
    rfl
  rw [follows, BitVec.toNat_add, BitVec.toNat_ofNat, Nat.add_mod_mod, Nat.mod_eq_of_lt (by omega)]

theorem Draws.injective : Function.Injective number := by
  intro first second same
  apply rank_injective draws.all_drew
  have numbers := congrArg BitVec.toNat same
  rw [draws.toNat_number noWrap, draws.toNat_number noWrap] at numbers
  exact Nat.succ.inj (Nat.add_left_cancel numbers)

/-- **Tickets**: the numbers obtained are those that follow the start. -/
theorem Draws.image_toNat :
    Finset.univ.image (fun i => (number i).toNat) =
      Finset.Ioc start.toNat (start.toNat + Fintype.card ι) := by
  ext value
  rw [Finset.mem_image, Finset.mem_Ioc]
  constructor
  · rintro ⟨i, _, rfl⟩
    have below := rank_lt draws.all_drew i
    rw [draws.toNat_number noWrap]
    omega
  · rintro ⟨above, below⟩
    have few : value - start.toNat - 1 < Fintype.card ι := by omega
    obtain ⟨i, ranked⟩ := exists_rank draws.all_drew few
    refine ⟨i, Finset.mem_univ i, ?_⟩
    rw [draws.toNat_number noWrap, ranked]
    omega

end Draws

end SharedCounter
