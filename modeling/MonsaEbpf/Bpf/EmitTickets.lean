/-
Module: MonsaEbpf.Bpf.EmitTickets
Layer: Bpf
Purpose: Handlers that count under one key on several CPUs at once and report every event. When the key has
  an entry, the reported numbers are handed out like tickets on every schedule (`numbered_of_known`). When
  it has none yet, the invocations are numbered exactly on the schedules whose first two steps belong to
  one invocation (`numbered_iff_of_fresh`): whoever else looks the key up before the first insertion
  reports the number one again. When the map refuses the key, every record says one (`ones_of_refused`).
Imports: MonsaEbpf.Bpf.SampleTickets
Trusted boundary: none
Main exports: countAndEmitLocals, verdict_countAndEmitLocals, Numbered, numbered_of_known,
  numbered_iff_of_fresh, AllOnes, ones_of_refused, NumbersReports, numbersReports_of_countAndEmit
-/
import MonsaEbpf.Bpf.SampleTickets

namespace MonsaEbpf

open SharedCounter

section Programs

variable {μ σ K E α : Type} [DecidableEq K] {maxEntries : Nat}

/-- What follows the counting in an emitting handler, with its locals. -/
def emitLocals (ring : RingRef σ E) (reserved : Option E) (fill : U64 → E → E) (verdict : α)
    (newCount : U64) : StepProgram (BpfOp μ) σ (SampleLocals α) := do
  let verdict ← emitEvent ring reserved (fill newCount) verdict
  return ⟨newCount, true, verdict⟩

/-- `countAndEmit` with the locals of the handler; it asks for ring space in every call. -/
def countAndEmitLocals (counts : MapRef μ σ K U64 maxEntries) (ring : RingRef σ E) (key : K)
    (reserved : Option E) (fill : U64 → E → E) (verdict : α) :
    StepProgram (BpfOp μ) σ (SampleLocals α) := do
  let newCount ← countEvent counts key
  emitLocals ring reserved fill verdict newCount

/-- Forgetting the other locals gives the handler. -/
theorem verdict_countAndEmitLocals (counts : MapRef μ σ K U64 maxEntries) (ring : RingRef σ E) (key : K)
    (reserved : Option E) (fill : U64 → E → E) (verdict : α) :
    SampleLocals.verdict <$> countAndEmitLocals counts ring key reserved fill verdict =
      countAndEmit counts ring key reserved fill verdict := by
  rw [countAndEmitLocals, countAndEmit, map_bind]
  congr
  funext newCount
  rw [emitLocals, map_bind]
  simp only [map_pure]
  exact bind_pure _

theorem allResults_emitLocals (ring : RingRef σ E) (reserved : Option E) (fill : U64 → E → E)
    (verdict : α) (newCount : U64) :
    (emitLocals ring reserved fill verdict newCount : StepProgram (BpfOp μ) σ _).AllResults
      fun locals => locals.newCount = newCount :=
  StepProgram.AllResults.bind _ fun _ => rfl

end Programs

section Emitting

variable {μ σ K E α : Type} [DecidableEq K] {maxEntries n : Nat}
  (counts : MapRef μ σ K U64 maxEntries) (ring : RingRef σ E) (key : K)
  (reserved : Fin n → Option E) (fill : Fin n → U64 → E → E) (verdict : Fin n → α)

/-- Emitting handlers of one key on `n` CPUs. -/
def emittingConfig (start : σ) : Config (BpfOp μ) σ (SampleLocals α) (Fin n) where
  shared := start
  threads i := countAndEmitLocals counts ring key (reserved i) (fill i) (verdict i)

/-- The rest of a handler, given the values that the counter had before the steps it took: the lookup, the
addition, the reservation, and the submission when it is granted. -/
def emittingStage (pointer : Nat) (i : Fin n) : List U64 → StepProgram (BpfOp μ) σ (SampleLocals α)
  | [] => countAndEmitLocals counts ring key (reserved i) (fill i) (verdict i)
  | [_] => do
      let old ← syncFetchAndAdd counts pointer .whole 1
      emitLocals ring (reserved i) (fill i) (verdict i) (old + 1)
  | _ :: old :: later => sendingStage ring reserved fill verdict i (old + 1) later

/-- What a handler has submitted. -/
def emittingSent (i : Fin n) : List U64 → List E
  | [] | [_] => []
  | _ :: old :: later => sendingSent reserved fill i (old + 1) later

/-- The handlers as callers around the counter of their key. -/
def emittingCallers (apart : ring.Apart counts) (pointer : Nat) :
    Callers (BpfOp μ) σ E (SampleLocals α) (Fin n) 64 where
  draw := 1
  Inv shared := (counts.get shared).lookup key = some pointer
  count shared := (counts.get shared).read pointer
  log := ring.get
  stage := emittingStage counts ring key reserved fill verdict pointer
  sent := emittingSent reserved fill
  sent_nil _ := rfl
  step i readings shared found := by
    match readings with
    | [] =>
        refine ⟨shared, [], ?_, found, rfl, (List.append_nil _).symm, rfl⟩
        rw [emittingStage, countAndEmitLocals, countEvent, bind_assoc, step_lookup_bind counts found]
        rfl
    | [_] =>
        have allocated := (counts.get shared).live found
        refine ⟨_, [], rfl, ?_, ?_, ?_, rfl⟩
        · rw [counts.get_set, CellMap.lookup_write]
          exact found
        · rw [counts.get_set, CellMap.read_write _ allocated]
          exact (if_pos rfl).symm
        · rw [apart.ring_get_map, List.append_nil]
    | _ :: old :: later =>
        have other : ¬ (later.length + 2 = 1) := by omega
        obtain ⟨next, new, stepped, kept, logged, sent⟩ :=
          sendingStage_step verdict apart i (old + 1) later ((counts.get shared).read pointer) shared
        refine ⟨next, new, stepped, ?_, ?_, logged, sent⟩
        · rw [kept]
          exact found
        · rw [kept]
          exact (if_neg other).symm

variable {counts ring key reserved fill verdict}

/-- The number of a handler that has returned, and what it has submitted. -/
theorem emittingStage_returned {pointer : Nat} {i : Fin n} {readings : List U64} {locals : SampleLocals α}
    (returned : (emittingStage counts ring key reserved fill verdict pointer i readings :
      StepProgram (BpfOp μ) σ (SampleLocals α)) = .ret locals) :
    ∃ old, readings[1]? = some old ∧ locals.newCount = old + 1 ∧
      emittingSent reserved fill i readings = ((reserved i).map (fill i locals.newCount)).toList := by
  match readings with
  | [] => cases returned
  | [_] => cases returned
  | [_, _] => cases returned
  | [_, old, _] =>
      cases granted : reserved i with
      | none =>
          simp only [emittingStage, sendingStage, granted] at returned
          cases returned
          exact ⟨old, rfl, rfl, rfl⟩
      | some memory =>
          simp only [emittingStage, sendingStage, granted] at returned
          cases returned
  | _ :: old :: _ :: _ :: _ =>
      cases returned
      exact ⟨old, rfl, rfl, rfl⟩

/-- When every handler that got ring space has submitted one record, with its number, the records carry the
numbers of those handlers. -/
theorem numbers_of_records {records : List E} {sent : Fin n → List E} {recordCount : E → U64}
    {number : Fin n → U64} (submitted : (records : Multiset E) = ∑ i, (sent i : Multiset E))
    (wrote : ∀ i, sent i = ((reserved i).map (fill i (number i))).toList)
    (writes : ∀ i newCount memory, recordCount (fill i newCount memory) = newCount) :
    (records.map recordCount : Multiset U64) =
      (Finset.univ.filter fun i => (reserved i).isSome = true).val.map number := by
  have each (i : Fin n) : (sent i : Multiset E).map recordCount =
      if (reserved i).isSome = true then {number i} else 0 := by
    rw [wrote i]
    cases granted : reserved i with
    | none => rfl
    | some memory => simp [writes]
  rw [← Multiset.map_coe, submitted, ← Multiset.coe_mapAddMonoidHom, map_sum]
  refine (Finset.sum_congr rfl fun i _ => each i).trans ?_
  rw [← Finset.sum_filter, sum_singletons]

/-- **Numbered invocations**: they obtain the numbers after `c`, one each, and the records of those that get
ring space carry their numbers. -/
structure Numbered (counts : MapRef μ σ K U64 maxEntries) (ring : RingRef σ E) (key : K) (c : U64)
    (granted : Fin n → Bool) (recordCount : E → U64) (start final : σ) (number : Fin n → U64) : Prop where
  distinct : Function.Injective number
  numbers : Finset.univ.image (fun i => (number i).toNat) = Finset.Ioc c.toNat (c.toNat + n)
  stored : ((counts.get final).find? key).map BitVec.toNat = some (c.toNat + n)
  records : ∃ records, ring.get final = ring.get start ++ records ∧
    (records.map recordCount : Multiset U64) =
      (Finset.univ.filter fun i => granted i = true).val.map number

section Returned

variable {pointer : Nat} {start : σ} {config : Config (BpfOp μ) σ (SampleLocals α) (Fin n)}
  {schedule : List (Fin n)} {locals : Fin n → SampleLocals α} {apart : ring.Apart counts}
  (after : (emittingCallers counts ring key reserved fill verdict apart pointer).After start schedule
    config)
  (returned : ∀ i, config.threads i = .ret (locals i))

include after returned

theorem draws_emitted :
    Draws 1 ((counts.get start).read pointer) schedule fun i => (locals i).newCount := by
  intro i
  obtain ⟨old, read, obtained, _⟩ := emittingStage_returned ((after.threads i).symm.trans (returned i))
  exact ⟨old, read, obtained⟩

/-- The records are those of the invocations that got ring space. -/
theorem records_emitted {recordCount : E → U64}
    (writes : ∀ i newCount memory, recordCount (fill i newCount memory) = newCount) :
    ∃ records, ring.get config.shared = ring.get start ++ records ∧
      (records.map recordCount : Multiset U64) =
        (Finset.univ.filter fun i => (reserved i).isSome = true).val.map fun i => (locals i).newCount := by
  obtain ⟨records, submitted, sent⟩ := after.log
  refine ⟨records, submitted, numbers_of_records sent (fun i => ?_) writes⟩
  obtain ⟨_, _, _, wrote⟩ := emittingStage_returned ((after.threads i).symm.trans (returned i))
  exact wrote

end Returned

/-- **A key that has an entry**: whatever the schedule, the invocations are numbered. -/
theorem numbered_of_known {recordCount : E → U64} {c : U64} {start : σ} {schedule : List (Fin n)}
    {locals : Fin n → SampleLocals α} (apart : ring.Apart counts)
    (writes : ∀ i newCount memory, recordCount (fill i newCount memory) = newCount)
    (known : (counts.get start).find? key = some c) (noWrap : c.toNat + n < 2 ^ 64)
    (returned : ∀ i, ((emittingConfig counts ring key reserved fill verdict start).run schedule).threads i =
      .ret (locals i)) :
    Numbered counts ring key c (fun i => (reserved i).isSome) recordCount start
      ((emittingConfig counts ring key reserved fill verdict start).run schedule).shared
      fun i => (locals i).newCount := by
  obtain ⟨pointer, found, rfl⟩ := CellMap.exists_lookup_of_find? known
  have after := (emittingCallers counts ring key reserved fill verdict apart pointer).after_run
    (emittingConfig counts ring key reserved fill verdict start) found (fun _ => rfl) schedule
  have draws := draws_emitted after returned
  have fits : ((counts.get start).read pointer).toNat + Fintype.card (Fin n) < 2 ^ 64 := by
    rwa [Fintype.card_fin]
  constructor
  · exact draws.injective fits
  · have image := draws.image_toNat fits
    rw [Fintype.card_fin] at image
    exact image
  · have bound : (counts.get _).lookup key = some pointer := after.inv
    have counted : (counts.get _).read pointer =
        (counts.get start).read pointer + BitVec.ofNat 64 (reached 1 schedule).card := after.count
    rw [CellMap.find?_of_lookup bound, counted, reached_eq_univ draws.all_drew, Finset.card_fin,
      Option.map_some, BitVec.toNat_add, BitVec.toNat_ofNat, Nat.add_mod_mod, Nat.mod_eq_of_lt noWrap]
  · exact records_emitted after returned writes

/-! ### A key without an entry -/

variable (counts ring key reserved fill verdict) in
/-- The rest of a handler that has missed the key: insert one, and report one. -/
def missedStage (i : Fin n) : StepProgram (BpfOp μ) σ (SampleLocals α) := do
  let _ ← bpfMapUpdateElem counts key 1
  emitLocals ring (reserved i) (fill i) (verdict i) 1

theorem step_missing {shared : σ} (absent : (counts.get shared).lookup key = none) (i : Fin n) :
    (countAndEmitLocals counts ring key (reserved i) (fill i) (verdict i)).step shared =
      (missedStage counts ring key reserved fill verdict i, shared) := by
  rw [countAndEmitLocals, countEvent, bind_assoc, step_lookup_bind counts absent]
  rfl

theorem allResults_missedStage (i : Fin n) :
    (missedStage counts ring key reserved fill verdict i :
      StepProgram (BpfOp μ) σ (SampleLocals α)).AllResults fun locals => locals.newCount = 1 :=
  StepProgram.AllResults.bind _ fun _ => allResults_emitLocals _ _ _ _ _

variable (ring reserved fill verdict) in
/-- The first two steps of a handler whose key counts zero: the lookup, and the addition. -/
theorem two_steps_zero {shared : σ} {pointer : Nat} (found : (counts.get shared).lookup key = some pointer)
    (zero : (counts.get shared).read pointer = 0) (i : Fin n) :
    ∃ bound, (countAndEmitLocals counts ring key (reserved i) (fill i) (verdict i)).step shared =
        (bound, shared) ∧
      bound.step shared = (emitLocals ring (reserved i) (fill i) (verdict i) 1,
        counts.set shared ((counts.get shared).write pointer fun old => old + 1)) := by
  refine ⟨syncFetchAndAdd counts pointer .whole 1 >>= fun old =>
    emitLocals ring (reserved i) (fill i) (verdict i) (old + 1), ?_, ?_⟩
  · rw [countAndEmitLocals, countEvent, bind_assoc, step_lookup_bind counts found]
    rfl
  · have stepped : (syncFetchAndAdd counts pointer .whole 1 >>= fun old =>
          emitLocals ring (reserved i) (fill i) (verdict i) (old + 1)).step shared =
        (emitLocals ring (reserved i) (fill i) (verdict i) ((counts.get shared).read pointer + 1),
          counts.set shared ((counts.get shared).write pointer fun old => old + 1)) := rfl
    rw [stepped, zero]
    rfl

/-- An invocation that looks for the key and inserts it at once leads where an entry that counts zero would
have led. -/
theorem run_pair_of_fresh {start : σ} (absent : (counts.get start).lookup key = none)
    (room : (counts.get start).HasRoom key) (i : Fin n) (rest : List (Fin n)) :
    (emittingConfig counts ring key reserved fill verdict start).run (i :: i :: rest) =
      (emittingConfig counts ring key reserved fill verdict
        (counts.set start ((counts.get start).insert key 0))).run (i :: i :: rest) := by
  have bound : (counts.get (counts.set start ((counts.get start).insert key 0))).lookup key =
      some (counts.get start).cells.length := by
    rw [counts.get_set]
    exact CellMap.lookup_insert_self _ room
  have zero : (counts.get (counts.set start ((counts.get start).insert key 0))).read
      (counts.get start).cells.length = 0 := by
    apply Option.some.inj
    rw [← CellMap.find?_of_lookup bound, counts.get_set, CellMap.find?_insert _ room, if_pos rfl]
  have inserting (i : Fin n) : (missedStage counts ring key reserved fill verdict i).step start =
      (emitLocals ring (reserved i) (fill i) (verdict i) 1,
        counts.set start ((counts.get start).insert key 1)) := rfl
  obtain ⟨found, finding, adding⟩ := two_steps_zero ring reserved fill verdict bound zero i
  rw [Config.run_cons, Config.run_cons, Config.run_cons, Config.run_cons]
  congr 1
  simp only [Config.step, emittingConfig, Function.update_self, Function.update_idem]
  rw [step_missing absent, finding, inserting, adding, counts.get_set, counts.set_set,
    CellMap.write_insert _ room]
  rfl

variable (ring reserved fill verdict) in
/-- When two invocations look for an absent key first, both obtain one. -/
theorem ones_of_two_lookups {start : σ} (absent : (counts.get start).lookup key = none) {i j : Fin n}
    (apart : i ≠ j) (rest : List (Fin n)) (caller : Fin n) (isOne : caller = i ∨ caller = j) :
    (((emittingConfig counts ring key reserved fill verdict start).run (i :: j :: rest)).threads
      caller).AllResults fun locals => locals.newCount = 1 := by
  rw [Config.run_cons, Config.run_cons]
  apply Config.allResults_run
  have fresh : ((emittingConfig counts ring key reserved fill verdict start).step i).threads j =
      countAndEmitLocals counts ring key (reserved j) (fill j) (verdict j) :=
    Config.step_threads_ne _ apart.symm
  have same : ((emittingConfig counts ring key reserved fill verdict start).step i).shared = start := by
    rw [Config.step_shared]
    exact congrArg Prod.snd (step_missing absent i)
  rcases isOne with rfl | rfl
  · rw [Config.step_threads_ne _ apart, Config.step_threads_self]
    exact (congrArg Prod.fst (step_missing absent caller)).symm ▸ allResults_missedStage caller
  · rw [Config.step_threads_self, fresh, same, step_missing absent]
    exact allResults_missedStage caller

/-- **A key without an entry**: the invocations are numbered exactly if the first two steps are taken by one
of them. -/
theorem numbered_iff_of_fresh {recordCount : E → U64} {start : σ} {schedule : List (Fin n)}
    {locals : Fin n → SampleLocals α} (apart : ring.Apart counts)
    (writes : ∀ i newCount memory, recordCount (fill i newCount memory) = newCount)
    (fresh : (counts.get start).find? key = none) (room : (counts.get start).HasRoom key)
    (called : 0 < n) (noWrap : n < 2 ^ 64)
    (returned : ∀ i, ((emittingConfig counts ring key reserved fill verdict start).run schedule).threads i =
      .ret (locals i)) :
    Numbered counts ring key 0 (fun i => (reserved i).isSome) recordCount start
        ((emittingConfig counts ring key reserved fill verdict start).run schedule).shared
        (fun i => (locals i).newCount) ↔
      ∃ i rest, schedule = i :: i :: rest := by
  have absent := CellMap.find?_eq_none.mp fresh
  constructor
  · intro numbered
    match schedule with
    | [] => cases returned ⟨0, called⟩
    | [i] =>
        have ended := returned i
        rw [Config.run_cons, Config.run_nil, Config.step_threads_self] at ended
        -- the insertion is still to come
        cases (congrArg Prod.fst (step_missing absent i)).symm.trans ended
    | i :: j :: rest =>
        by_cases same : i = j
        · subst same
          exact ⟨i, rest, rfl⟩
        · have one (caller : Fin n) (isOne : caller = i ∨ caller = j) : (locals caller).newCount = 1 := by
            have all := ones_of_two_lookups ring reserved fill verdict absent same rest caller isOne
            rw [returned caller] at all
            exact all
          exact absurd (numbered.distinct ((one i (Or.inl rfl)).trans (one j (Or.inr rfl)).symm)) same
  · rintro ⟨i, rest, rfl⟩
    rw [run_pair_of_fresh absent room] at returned ⊢
    have known : (counts.get (counts.set start ((counts.get start).insert key 0))).find? key = some 0 := by
      rw [counts.get_set, CellMap.find?_insert _ room, if_pos rfl]
    have small : (0 : U64).toNat + n < 2 ^ 64 := by
      change 0 + n < 2 ^ 64
      omega
    have numbered := numbered_of_known apart writes known small returned
    obtain ⟨records, submitted, counted⟩ := numbered.records
    rw [apart.ring_get_map] at submitted
    exact ⟨numbered.distinct, numbered.numbers, numbered.stored, records, submitted, counted⟩

/-! ### A key that the map refuses -/

variable (counts ring key reserved fill verdict) in
/-- The rest of a handler after as many steps as the list has entries, when the map refuses the key: the lookup,
the insertion, and what sends the number one. -/
def refusedStage (i : Fin n) : List (BitVec 0) → StepProgram (BpfOp μ) σ (SampleLocals α)
  | [] => countAndEmitLocals counts ring key (reserved i) (fill i) (verdict i)
  | [_] => missedStage counts ring key reserved fill verdict i
  | _ :: _ :: later => sendingStage ring reserved fill verdict i 1 later

variable (reserved fill) in
/-- What such a handler has submitted. -/
def refusedSent (i : Fin n) : List (BitVec 0) → List E
  | [] | [_] => []
  | _ :: _ :: later => sendingSent reserved fill i 1 later

variable (reserved fill verdict) in
/-- The handlers as callers without a counter: the map stays `full` without the key. -/
def refusedCallers (apart : ring.Apart counts) (full : CellMap K U64 maxEntries)
    (absent : full.lookup key = none) (noRoom : ¬ full.HasRoom key) :
    Callers (BpfOp μ) σ E (SampleLocals α) (Fin n) 0 where
  draw := 0
  Inv shared := counts.get shared = full
  count _ := 0
  log := ring.get
  stage := refusedStage counts ring key reserved fill verdict
  sent := refusedSent reserved fill
  sent_nil _ := rfl
  step i readings shared isFull := by
    match readings with
    | [] =>
        refine ⟨shared, [], ?_, isFull, Subsingleton.elim _ _, (List.append_nil _).symm, rfl⟩
        exact step_missing (isFull.symm ▸ absent) i
    | [_] =>
        refine ⟨counts.set shared ((counts.get shared).insert key 1), [], rfl, ?_, Subsingleton.elim _ _, ?_, rfl⟩
        · rw [counts.get_set, isFull, CellMap.insert_full _ noRoom]
        · rw [apart.ring_get_map, List.append_nil]
    | _ :: _ :: later =>
        obtain ⟨next, new, stepped, kept, logged, sent⟩ :=
          sendingStage_step verdict apart i 1 later (0 : BitVec 0) shared
        exact ⟨next, new, stepped, kept.trans isFull, Subsingleton.elim _ _, logged, sent⟩

/-- A handler that has returned obtained one, and has submitted that number if it got ring space. -/
theorem refusedStage_returned {i : Fin n} {readings : List (BitVec 0)} {locals : SampleLocals α}
    (returned : (refusedStage counts ring key reserved fill verdict i readings :
      StepProgram (BpfOp μ) σ (SampleLocals α)) = .ret locals) :
    locals.newCount = 1 ∧ refusedSent reserved fill i readings = ((reserved i).map (fill i 1)).toList := by
  match readings with
  | [] => cases returned
  | [_] => cases returned
  | [_, _] => cases returned
  | [_, _, _] =>
      cases granted : reserved i with
      | none =>
          simp only [refusedStage, sendingStage, granted] at returned
          cases returned
          exact ⟨rfl, rfl⟩
      | some memory =>
          simp only [refusedStage, sendingStage, granted] at returned
          cases returned
  | _ :: _ :: _ :: _ :: _ =>
      cases returned
      exact ⟨rfl, rfl⟩

/-- **Refused invocations**: all obtain one, the map stays as it is, and each one that gets ring space adds a
record with the number one. -/
structure AllOnes (counts : MapRef μ σ K U64 maxEntries) (ring : RingRef σ E) (granted : Fin n → Bool)
    (recordCount : E → U64) (start final : σ) (number : Fin n → U64) : Prop where
  ones : ∀ i, number i = 1
  map : counts.get final = counts.get start
  records : ∃ records, ring.get final = ring.get start ++ records ∧
    records.map recordCount = List.replicate (Finset.univ.filter fun i => granted i = true).card 1

/-- **A key that the map refuses**: every invocation reports one, and the map stays as it is. -/
theorem ones_of_refused {recordCount : E → U64} {start : σ} {schedule : List (Fin n)}
    {locals : Fin n → SampleLocals α} (apart : ring.Apart counts)
    (writes : ∀ i newCount memory, recordCount (fill i newCount memory) = newCount)
    (fresh : (counts.get start).find? key = none) (noRoom : ¬ (counts.get start).HasRoom key)
    (returned : ∀ i, ((emittingConfig counts ring key reserved fill verdict start).run schedule).threads i =
      .ret (locals i)) :
    AllOnes counts ring (fun i => (reserved i).isSome) recordCount start
      ((emittingConfig counts ring key reserved fill verdict start).run schedule).shared
      fun i => (locals i).newCount := by
  have absent := CellMap.find?_eq_none.mp fresh
  have after := (refusedCallers reserved fill verdict apart (counts.get start) absent noRoom).after_run
    (emittingConfig counts ring key reserved fill verdict start) rfl (fun _ => rfl) schedule
  have settled (i : Fin n) := refusedStage_returned ((after.threads i).symm.trans (returned i))
  refine ⟨fun i => (settled i).1, after.inv, ?_⟩
  obtain ⟨records, submitted, sent⟩ := after.log
  refine ⟨records, submitted, ?_⟩
  have numbers := numbers_of_records sent (fun i => (settled i).2) writes
  rw [Multiset.map_const', ← Multiset.coe_replicate, Multiset.coe_eq_coe] at numbers
  exact List.perm_replicate.mp numbers

end Emitting

/-! ### Programs that report every event -/

/-- What concurrent invocations of a handler under one key report: `withLocals` is the handler with its
locals, and its invocations have all returned. -/
structure NumbersReports {μ σ K C E α : Type} [DecidableEq K] {maxEntries : Nat}
    (counts : MapRef μ σ K U64 maxEntries) (ring : RingRef σ E) (key? : C → Option K)
    (handler : C → StepProgram (BpfOp μ) σ α)
    (withLocals : K → C → StepProgram (BpfOp μ) σ (SampleLocals α)) (reserved : C → Option E)
    (recordCount : E → U64) : Prop where
  forgets : ∀ key call, key? call = some key → SampleLocals.verdict <$> withLocals key call = handler call
  known : ∀ (n : Nat) (key : K) (c : U64) (start : σ) (calls : Fin n → C) (schedule : List (Fin n))
    (locals : Fin n → SampleLocals α), (∀ i, key? (calls i) = some key) →
    (counts.get start).find? key = some c → c.toNat + n < 2 ^ 64 →
    (∀ i, (Config.run ⟨start, fun i => withLocals key (calls i)⟩ schedule).threads i = .ret (locals i)) →
    Numbered counts ring key c (fun i => (reserved (calls i)).isSome) recordCount start
      (Config.run ⟨start, fun i => withLocals key (calls i)⟩ schedule).shared fun i => (locals i).newCount
  fresh : ∀ (n : Nat) (key : K) (start : σ) (calls : Fin n → C) (schedule : List (Fin n))
    (locals : Fin n → SampleLocals α), (∀ i, key? (calls i) = some key) →
    (counts.get start).find? key = none → (counts.get start).HasRoom key → 0 < n → n < 2 ^ 64 →
    (∀ i, (Config.run ⟨start, fun i => withLocals key (calls i)⟩ schedule).threads i = .ret (locals i)) →
    (Numbered counts ring key 0 (fun i => (reserved (calls i)).isSome) recordCount start
        (Config.run ⟨start, fun i => withLocals key (calls i)⟩ schedule).shared
        (fun i => (locals i).newCount) ↔
      ∃ i rest, schedule = i :: i :: rest)
  refused : ∀ (n : Nat) (key : K) (start : σ) (calls : Fin n → C) (schedule : List (Fin n))
    (locals : Fin n → SampleLocals α), (∀ i, key? (calls i) = some key) →
    (counts.get start).find? key = none → ¬ (counts.get start).HasRoom key →
    (∀ i, (Config.run ⟨start, fun i => withLocals key (calls i)⟩ schedule).threads i = .ret (locals i)) →
    AllOnes counts ring (fun i => (reserved (calls i)).isSome) recordCount start
      (Config.run ⟨start, fun i => withLocals key (calls i)⟩ schedule).shared fun i => (locals i).newCount

/-- A handler of the emitting shape numbers its reports. -/
theorem numbersReports_of_countAndEmit {μ σ K C E α : Type} [DecidableEq K] {maxEntries : Nat}
    {counts : MapRef μ σ K U64 maxEntries} {ring : RingRef σ E} {key? : C → Option K}
    {handler : C → StepProgram (BpfOp μ) σ α} {reserved : C → Option E} {fill : C → U64 → E → E}
    {verdict : C → α} {recordCount : E → U64} (apart : ring.Apart counts)
    (writes : ∀ call newCount memory, recordCount (fill call newCount memory) = newCount)
    (shape : ∀ key call, key? call = some key →
      handler call = countAndEmit counts ring key (reserved call) (fill call) (verdict call)) :
    NumbersReports counts ring key? handler
      (fun key call => countAndEmitLocals counts ring key (reserved call) (fill call) (verdict call))
      reserved recordCount where
  forgets key call counted := by rw [verdict_countAndEmitLocals, shape key call counted]
  known _ _ _ _ calls _ _ _ known noWrap returned :=
    numbered_of_known apart (fun i => writes (calls i)) known noWrap returned
  fresh _ _ _ calls _ _ _ fresh room called noWrap returned :=
    numbered_iff_of_fresh apart (fun i => writes (calls i)) fresh room called noWrap returned
  refused _ _ _ calls _ _ _ fresh noRoom returned :=
    ones_of_refused apart (fun i => writes (calls i)) fresh noRoom returned

end MonsaEbpf
