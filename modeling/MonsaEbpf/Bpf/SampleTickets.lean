/-
Module: MonsaEbpf.Bpf.SampleTickets
Layer: Bpf
Purpose: Sampling handlers that count under one key on several CPUs at once, when the key has an entry. Each
  handler decides on the number that its own addition returned, so the numbers are handed out like tickets
  and every multiple of a hundred is sampled by the handler that drew it.
Imports: MonsaEbpf.Bpf.CountingHandler, MonsaEbpf.Lib.SharedCounter
Trusted boundary: none
Main exports: SampleLocals, countAndSampleLocals, verdict_countAndSampleLocals, Ticketed, ticketed,
  DrawsTickets, drawsTickets_of_countAndSample
-/
import Mathlib.Order.Interval.Finset.Nat
import MonsaEbpf.Bpf.CountingHandler
import MonsaEbpf.Lib.SharedCounter

namespace MonsaEbpf

open SharedCounter

/-- The locals of a sampling handler when it returns: the count it obtained and whether it asked the ring
buffer for space. -/
structure SampleLocals (α : Type) where
  newCount : U64
  reserves : Bool
  verdict : α

section Programs

variable {μ σ K E α : Type} [DecidableEq K] {maxEntries : Nat}

/-- `emitSampled` with the locals of the handler. -/
def emitSampledLocals (ring : RingRef σ E) (reserved : Option E) (fill : U64 → E → E) (verdict : α)
    (newCount : U64) : StepProgram (BpfOp μ) σ (SampleLocals α) :=
  if newCount % 100 ≠ 0 then return ⟨newCount, false, verdict⟩
  else do
    let verdict ← emitEvent ring reserved (fill newCount) verdict
    return ⟨newCount, true, verdict⟩

/-- `countAndSample` with the locals of the handler. -/
def countAndSampleLocals (counts : MapRef μ σ K U64 maxEntries) (ring : RingRef σ E) (key : K)
    (reserved : Option E) (fill : U64 → E → E) (verdict : α) :
    StepProgram (BpfOp μ) σ (SampleLocals α) := do
  let newCount ← countEvent counts key
  emitSampledLocals ring reserved fill verdict newCount

/-- Forgetting the other locals gives the handler. -/
theorem verdict_countAndSampleLocals (counts : MapRef μ σ K U64 maxEntries) (ring : RingRef σ E) (key : K)
    (reserved : Option E) (fill : U64 → E → E) (verdict : α) :
    SampleLocals.verdict <$> countAndSampleLocals counts ring key reserved fill verdict =
      countAndSample counts ring key reserved fill verdict := by
  rw [countAndSampleLocals, countAndSample, map_bind]
  congr
  funext newCount
  rw [emitSampledLocals, emitSampled]
  split
  · exact map_pure _ _
  · rw [map_bind]
    simp only [map_pure]
    exact bind_pure _

end Programs

/-! ### The handlers of one key -/

/-- A program that starts with a lookup takes it as its first step. -/
theorem step_lookup_bind {μ σ K V α : Type} [DecidableEq K] {maxEntries : Nat}
    (map : MapRef μ σ K V maxEntries) {shared : σ} {key : K} {pointer : Option Nat}
    (found : (map.get shared).lookup key = pointer) (rest : Option Nat → StepProgram (BpfOp μ) σ α) :
    (bpfMapLookupElem map key >>= rest).step shared = (rest pointer, shared) := by
  rw [← found]
  rfl

section Sampling

variable {μ σ K E α : Type} [DecidableEq K] {maxEntries n : Nat}
  (counts : MapRef μ σ K U64 maxEntries) (ring : RingRef σ E) (key : K)
  (reserved : Fin n → Option E) (fill : Fin n → U64 → E → E) (verdict : Fin n → α)

/-- The rest of a handler that drew a multiple of a hundred: the reservation, and the submission when it is
granted. The list has an entry for each step it took since. -/
def sendingStage {R : Type} (i : Fin n) (newCount : U64) :
    List R → StepProgram (BpfOp μ) σ (SampleLocals α)
  | [] => do
      let verdict ← emitEvent ring (reserved i) (fill i newCount) (verdict i)
      return ⟨newCount, true, verdict⟩
  | [_] =>
      match reserved i with
      | none => return ⟨newCount, true, verdict i⟩
      | some memory => do
          bpfRingbufSubmit ring (fill i newCount memory)
          return ⟨newCount, true, verdict i⟩
  | _ => return ⟨newCount, true, verdict i⟩

/-- What such a handler has submitted. -/
def sendingSent {R : Type} (i : Fin n) (newCount : U64) : List R → List E
  | [] | [_] => []
  | _ => ((reserved i).map (fill i newCount)).toList

/-- The rest of a handler, given the values that the counter had before the steps it took: the lookup, the
addition, and then what depends on the number drawn. -/
def samplingStage (pointer : Nat) (i : Fin n) : List U64 → StepProgram (BpfOp μ) σ (SampleLocals α)
  | [] => countAndSampleLocals counts ring key (reserved i) (fill i) (verdict i)
  | [_] => do
      let old ← syncFetchAndAdd counts pointer .whole 1
      emitSampledLocals ring (reserved i) (fill i) (verdict i) (old + 1)
  | _ :: old :: later =>
      if (old + 1) % 100 ≠ 0 then return ⟨old + 1, false, verdict i⟩
      else sendingStage ring reserved fill verdict i (old + 1) later

/-- What a handler has submitted. -/
def samplingSent (i : Fin n) : List U64 → List E
  | [] | [_] => []
  | _ :: old :: later => if (old + 1) % 100 ≠ 0 then [] else sendingSent reserved fill i (old + 1) later

variable {counts ring key reserved fill verdict}

variable (verdict) in
/-- A step of a handler that drew a multiple of a hundred leaves the counters alone. -/
theorem sendingStage_step {R : Type} (apart : ring.Apart counts) (i : Fin n) (newCount : U64)
    (later : List R) (reading : R) (shared : σ) :
    ∃ next new, (sendingStage ring reserved fill verdict i newCount later :
        StepProgram (BpfOp μ) σ (SampleLocals α)).step shared =
        (sendingStage ring reserved fill verdict i newCount (later ++ [reading]), next) ∧
      counts.get next = counts.get shared ∧ ring.get next = ring.get shared ++ new ∧
      sendingSent reserved fill i newCount (later ++ [reading]) =
        sendingSent reserved fill i newCount later ++ new := by
  match later with
  | [] =>
      refine ⟨shared, [], ?_, rfl, (List.append_nil _).symm, rfl⟩
      cases granted : reserved i <;> simp only [sendingStage, granted] <;> rfl
  | [_] =>
      cases granted : reserved i with
      | none =>
          refine ⟨shared, [], ?_, rfl, (List.append_nil _).symm, ?_⟩
          · simp only [sendingStage, granted]
            rfl
          · simp [sendingSent, granted]
      | some memory =>
          refine ⟨ring.set shared (ring.get shared ++ [fill i newCount memory]),
            [fill i newCount memory], ?_, apart.map_get_ring _ _, apart.ring_get_set _ _, ?_⟩
          · simp only [sendingStage, granted]
            rfl
          · simp [sendingSent, granted]
  | _ :: _ :: _ =>
      exact ⟨shared, [], rfl, rfl, (List.append_nil _).symm, (List.append_nil _).symm⟩

variable (counts ring key reserved fill verdict)

/-- The handlers as callers around the counter of their key. -/
def samplingCallers (apart : ring.Apart counts) (pointer : Nat) :
    Callers (BpfOp μ) σ E (SampleLocals α) (Fin n) 64 where
  draw := 1
  Inv shared := (counts.get shared).lookup key = some pointer
  count shared := (counts.get shared).read pointer
  log := ring.get
  stage := samplingStage counts ring key reserved fill verdict pointer
  sent := samplingSent reserved fill
  sent_nil _ := rfl
  step i readings shared found := by
    match readings with
    | [] =>
        refine ⟨shared, [], ?_, found, rfl, (List.append_nil _).symm, rfl⟩
        rw [samplingStage, countAndSampleLocals, countEvent, bind_assoc, step_lookup_bind counts found]
        rfl
    | [_] =>
        have allocated := (counts.get shared).live found
        refine ⟨_, [], rfl, ?_, ?_, ?_, ?_⟩
        · rw [counts.get_set, CellMap.lookup_write]
          exact found
        · rw [counts.get_set, CellMap.read_write _ allocated]
          exact (if_pos rfl).symm
        · rw [apart.ring_get_map, List.append_nil]
        · exact ite_self _
    | _ :: old :: later =>
        have other : ¬ (later.length + 2 = 1) := by omega
        by_cases skips : (old + 1) % 100 ≠ 0
        · refine ⟨shared, [], ?_, found, (if_neg other).symm, (List.append_nil _).symm, ?_⟩
          · simp only [samplingStage, List.cons_append, if_pos skips]
            rfl
          · simp only [samplingSent, List.cons_append, if_pos skips, List.append_nil]
        · obtain ⟨next, new, stepped, kept, logged, sent⟩ :=
            sendingStage_step verdict apart i (old + 1) later
              ((counts.get shared).read pointer) shared
          refine ⟨next, new, ?_, ?_, ?_, logged, ?_⟩
          · simp only [samplingStage, List.cons_append, if_neg skips]
            exact stepped
          · rw [kept]
            exact found
          · rw [kept]
            exact (if_neg other).symm
          · simp only [samplingSent, List.cons_append, if_neg skips]
            exact sent

variable {counts ring key reserved fill verdict}

/-- The locals of a handler that has returned. -/
theorem samplingStage_returned {pointer : Nat} {i : Fin n} {readings : List U64} {locals : SampleLocals α}
    (returned : (samplingStage counts ring key reserved fill verdict pointer i readings :
      StepProgram (BpfOp μ) σ (SampleLocals α)) = .ret locals) :
    ∃ old, readings[1]? = some old ∧ locals.newCount = old + 1 ∧
      (locals.reserves = true ↔ locals.newCount % 100 = 0) ∧
      samplingSent reserved fill i readings =
        if locals.reserves then ((reserved i).map (fill i locals.newCount)).toList else [] := by
  match readings with
  | [] => cases returned
  | [_] => cases returned
  | _ :: old :: later =>
      refine ⟨old, rfl, ?_⟩
      by_cases skips : (old + 1) % 100 ≠ 0
      · simp only [samplingStage, if_pos skips] at returned
        cases returned
        refine ⟨rfl, iff_of_false Bool.false_ne_true skips, ?_⟩
        simp only [samplingSent, if_pos skips]
        rfl
      · simp only [samplingStage, if_neg skips] at returned
        simp only [samplingSent, if_neg skips]
        match later with
        | [] => cases returned
        | [_] =>
            cases granted : reserved i with
            | none =>
                simp only [sendingStage, granted] at returned
                cases returned
                exact ⟨rfl, iff_of_true rfl (not_not.mp skips), rfl⟩
            | some memory =>
                simp only [sendingStage, granted] at returned
                cases returned
        | _ :: _ :: _ =>
            cases returned
            exact ⟨rfl, iff_of_true rfl (not_not.mp skips), rfl⟩

/-- **Tickets**: the invocations obtain the numbers after `c`, one each, and those that obtain a multiple of a
hundred ask for ring space. Who gets it submits a record with that number. -/
structure Ticketed (counts : MapRef μ σ K U64 maxEntries) (ring : RingRef σ E) (key : K) (c : U64)
    (granted : Fin n → Bool) (recordCount : E → U64) (start final : σ) (locals : Fin n → SampleLocals α) :
    Prop where
  distinct : Function.Injective fun i => (locals i).newCount
  tickets : Finset.univ.image (fun i => (locals i).newCount.toNat) = Finset.Ioc c.toNat (c.toNat + n)
  stored : ((counts.get final).find? key).map BitVec.toNat = some (c.toNat + n)
  attempts : ∀ multiple ∈ Finset.Ioc c.toNat (c.toNat + n), 100 ∣ multiple →
    ∃! i, (locals i).reserves = true ∧ (locals i).newCount.toNat = multiple
  attemptsOnly : ∀ i, (locals i).reserves = true → 100 ∣ (locals i).newCount.toNat
  records : ∃ records, ring.get final = ring.get start ++ records ∧
    (records.map recordCount : Multiset U64) =
      (Finset.univ.filter fun i => (locals i).reserves = true ∧ granted i = true).val.map
        fun i => (locals i).newCount

variable (counts ring key reserved fill verdict) in
/-- Sampling handlers of one key on `n` CPUs. -/
def samplingConfig (start : σ) : Config (BpfOp μ) σ (SampleLocals α) (Fin n) where
  shared := start
  threads i := countAndSampleLocals counts ring key (reserved i) (fill i) (verdict i)

section Returned

variable {c : U64} {pointer : Nat} {start : σ} {config : Config (BpfOp μ) σ (SampleLocals α) (Fin n)}
  {schedule : List (Fin n)} {locals : Fin n → SampleLocals α} {apart : ring.Apart counts}
  (after : (samplingCallers counts ring key reserved fill verdict apart pointer).After start schedule
    config)
  (begins : (counts.get start).read pointer = c) (noWrap : c.toNat + n < 2 ^ 64)
  (returned : ∀ i, config.threads i = .ret (locals i))

include after returned

theorem drew_all (i : Fin n) : 1 < schedule.count i := by
  obtain ⟨old, read, _⟩ := samplingStage_returned ((after.threads i).symm.trans (returned i))
  have inside := (List.getElem?_eq_some_iff.mp read).1
  rwa [length_readings] at inside

theorem reserves_iff (i : Fin n) : (locals i).reserves = true ↔ 100 ∣ (locals i).newCount.toNat := by
  obtain ⟨old, _, _, reserves, _⟩ := samplingStage_returned ((after.threads i).symm.trans (returned i))
  rw [reserves, hundredth_iff]

include begins noWrap

/-- The number an invocation obtains: the next one after those of the invocations that added before. -/
theorem newCount_toNat (i : Fin n) :
    (locals i).newCount.toNat = c.toNat + (rank 1 i schedule + 1) := by
  obtain ⟨old, read, obtained, _⟩ := samplingStage_returned ((after.threads i).symm.trans (returned i))
  have below := rank_lt (drew_all after returned) i
  rw [Fintype.card_fin] at below
  have old_eq : old = c + BitVec.ofNat 64 (rank 1 i schedule) := by
    rw [← begins]
    exact reading_eq read
  have one : (1 : U64).toNat = 1 := rfl
  rw [obtained, old_eq, BitVec.toNat_add, BitVec.toNat_add, BitVec.toNat_ofNat, one]
  omega

theorem newCount_injective : Function.Injective fun i => (locals i).newCount := by
  intro first second same
  apply rank_injective (drew_all after returned)
  have numbers : (locals first).newCount.toNat = (locals second).newCount.toNat :=
    congrArg BitVec.toNat same
  rw [newCount_toNat after begins noWrap returned, newCount_toNat after begins noWrap returned] at numbers
  exact Nat.succ.inj (Nat.add_left_cancel numbers)

/-- Every number after `c` up to the number of invocations is obtained. -/
theorem exists_newCount {number : Nat} (member : number ∈ Finset.Ioc c.toNat (c.toNat + n)) :
    ∃ i, (locals i).newCount.toNat = number := by
  obtain ⟨above, below⟩ := Finset.mem_Ioc.mp member
  have few : number - c.toNat - 1 < Fintype.card (Fin n) := by
    rw [Fintype.card_fin]
    omega
  obtain ⟨i, ranked⟩ := exists_rank (drew_all after returned) few
  refine ⟨i, ?_⟩
  rw [newCount_toNat after begins noWrap returned, ranked]
  omega

theorem newCount_mem (i : Fin n) : (locals i).newCount.toNat ∈ Finset.Ioc c.toNat (c.toNat + n) := by
  have below := rank_lt (drew_all after returned) i
  rw [Fintype.card_fin] at below
  rw [newCount_toNat after begins noWrap returned, Finset.mem_Ioc]
  omega

theorem stored_after : ((counts.get config.shared).find? key).map BitVec.toNat = some (c.toNat + n) := by
  have found : (counts.get config.shared).lookup key = some pointer := after.inv
  have counted : (counts.get config.shared).read pointer =
      c + BitVec.ofNat 64 (reached 1 schedule).card := by
    rw [← begins]
    exact after.count
  rw [CellMap.find?_of_lookup found, counted, reached_eq_univ (drew_all after returned), Finset.card_fin,
    Option.map_some, BitVec.toNat_add, BitVec.toNat_ofNat]
  congr 1
  omega

omit begins noWrap in
/-- The records are those of the invocations that asked for space and got it. -/
theorem records_after {recordCount : E → U64}
    (writes : ∀ i newCount memory, recordCount (fill i newCount memory) = newCount) :
    ∃ records, ring.get config.shared = ring.get start ++ records ∧
      (records.map recordCount : Multiset U64) =
        (Finset.univ.filter fun i => (locals i).reserves = true ∧ (reserved i).isSome = true).val.map
          fun i => (locals i).newCount := by
  obtain ⟨records, submitted, sent⟩ := after.log
  refine ⟨records, submitted, ?_⟩
  have each (i : Fin n) : ((samplingSent reserved fill i
        (readings 1 ((counts.get start).read pointer) i schedule) : Multiset E)).map recordCount =
      if (locals i).reserves = true ∧ (reserved i).isSome = true then {(locals i).newCount} else 0 := by
    obtain ⟨old, _, _, _, wrote⟩ :=
      samplingStage_returned ((after.threads i).symm.trans (returned i))
    refine (congrArg (fun list : List E => (list : Multiset E).map recordCount) wrote).trans ?_
    cases (locals i).reserves with
    | false => rfl
    | true =>
        cases granted : reserved i with
        | none => rfl
        | some memory => simp [writes]
  rw [← Multiset.map_coe, sent, ← Multiset.coe_mapAddMonoidHom, map_sum]
  refine (Finset.sum_congr rfl fun i _ => each i).trans ?_
  rw [← Finset.sum_filter, sum_singletons]

end Returned

/-- **Sampling handlers of a key that has an entry draw tickets**, for every number of them and every
schedule. -/
theorem ticketed {recordCount : E → U64} {c : U64} {start : σ} {schedule : List (Fin n)}
    {locals : Fin n → SampleLocals α} (apart : ring.Apart counts)
    (writes : ∀ i newCount memory, recordCount (fill i newCount memory) = newCount)
    (known : (counts.get start).find? key = some c) (noWrap : c.toNat + n < 2 ^ 64)
    (returned : ∀ i, ((samplingConfig counts ring key reserved fill verdict start).run schedule).threads i =
      .ret (locals i)) :
    Ticketed counts ring key c (fun i => (reserved i).isSome) recordCount start
      ((samplingConfig counts ring key reserved fill verdict start).run schedule).shared locals := by
  obtain ⟨pointer, found, begins⟩ := CellMap.exists_lookup_of_find? known
  have after := (samplingCallers counts ring key reserved fill verdict apart pointer).after_run
    (samplingConfig counts ring key reserved fill verdict start) found (fun _ => rfl) schedule
  constructor
  · exact newCount_injective after begins noWrap returned
  · ext number
    rw [Finset.mem_image]
    constructor
    · rintro ⟨i, _, rfl⟩
      exact newCount_mem after begins noWrap returned i
    · intro member
      obtain ⟨i, obtained⟩ := exists_newCount after begins noWrap returned member
      exact ⟨i, Finset.mem_univ i, obtained⟩
  · exact stored_after after begins noWrap returned
  · intro multiple member hundredth
    obtain ⟨i, rfl⟩ := exists_newCount after begins noWrap returned member
    refine ⟨i, ⟨(reserves_iff after returned i).mpr hundredth, rfl⟩, ?_⟩
    rintro other ⟨_, same⟩
    exact newCount_injective after begins noWrap returned (BitVec.eq_of_toNat_eq same)
  · exact fun i => (reserves_iff after returned i).mp
  · exact records_after after returned writes

end Sampling

/-- Concurrent invocations of a handler under one key that has an entry draw tickets: `withLocals` is the
handler with its locals, and whatever the schedule on which all of them have returned, their locals are
`Ticketed`. -/
structure DrawsTickets {μ σ K C E α : Type} [DecidableEq K] {maxEntries : Nat}
    (counts : MapRef μ σ K U64 maxEntries) (ring : RingRef σ E) (key? : C → Option K)
    (handler : C → StepProgram (BpfOp μ) σ α)
    (withLocals : K → C → StepProgram (BpfOp μ) σ (SampleLocals α)) (reserved : C → Option E)
    (recordCount : E → U64) : Prop where
  forgets : ∀ key call, key? call = some key → SampleLocals.verdict <$> withLocals key call = handler call
  draws : ∀ (n : Nat) (key : K) (c : U64) (start : σ) (calls : Fin n → C) (schedule : List (Fin n))
    (locals : Fin n → SampleLocals α), (∀ i, key? (calls i) = some key) →
    (counts.get start).find? key = some c → c.toNat + n < 2 ^ 64 →
    (∀ i, (Config.run ⟨start, fun i => withLocals key (calls i)⟩ schedule).threads i = .ret (locals i)) →
    Ticketed counts ring key c (fun i => (reserved (calls i)).isSome) recordCount start
      (Config.run ⟨start, fun i => withLocals key (calls i)⟩ schedule).shared locals

/-- A handler of the sampling shape draws tickets. -/
theorem drawsTickets_of_countAndSample {μ σ K C E α : Type} [DecidableEq K] {maxEntries : Nat}
    {counts : MapRef μ σ K U64 maxEntries} {ring : RingRef σ E} {key? : C → Option K}
    {handler : C → StepProgram (BpfOp μ) σ α} {reserved : C → Option E} {fill : C → U64 → E → E}
    {verdict : C → α} {recordCount : E → U64} (apart : ring.Apart counts)
    (writes : ∀ call newCount memory, recordCount (fill call newCount memory) = newCount)
    (shape : ∀ key call, key? call = some key →
      handler call = countAndSample counts ring key (reserved call) (fill call) (verdict call)) :
    DrawsTickets counts ring key? handler
      (fun key call => countAndSampleLocals counts ring key (reserved call) (fill call) (verdict call))
      reserved recordCount where
  forgets key call counted := by rw [verdict_countAndSampleLocals, shape key call counted]
  draws _ _ _ _ calls _ _ _ known noWrap returned :=
    ticketed apart (fun i => writes (calls i)) known noWrap returned

end MonsaEbpf
