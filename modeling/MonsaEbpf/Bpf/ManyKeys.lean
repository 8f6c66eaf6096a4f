/-
Module: MonsaEbpf.Bpf.ManyKeys
Layer: Bpf
Purpose: Handlers that add to a field of the entries of one map, under different keys and at the same time. A
  key that has an entry gains exactly what its invocations add, whatever is inserted and counted beside it.
  For any key, at any moment, the field is at most its start plus that amount: concurrent first touches can
  lose additions, but none ever counts twice or under another key. A pointer that a lookup of a key has
  yielded is never bound to another key, which is what makes a late addition through it harmless.
Imports: MonsaEbpf.Bpf.CountingHandler, MonsaEbpf.Bpf.OtherKeys
Trusted boundary: none
Main exports: MapRef.Owned, CountsAtMost, Looked, Counting, Counting.lookup, Counting.insert, Counting.write,
  Counting.idle, CountsManyKeys, countsManyKeys_of_counting,
  CountingHandler.countsManyKeys
-/
import Mathlib.Algebra.BigOperators.Fin
import MonsaEbpf.Bpf.CountingHandler
import MonsaEbpf.Bpf.OtherKeys

namespace MonsaEbpf

open SharedView

variable {μ σ K V A E α β : Type} [DecidableEq K] {maxEntries : Nat}

/-- The cell is allocated, and no key but `key` is bound to it. -/
def MapRef.Owned (map : MapRef μ σ K V maxEntries) (key : K) (cell : Nat) (shared : σ) : Prop :=
  cell < (map.get shared).cells.length ∧ ∀ other, (map.get shared).lookup other = some cell → other = key

/-- From one state to the next no cell changes its owner, and no count rises but that of `key?`, which rises
by at most `cost`. -/
structure Charged (map : MapRef μ σ K V maxEntries) (field : V → U64) (key? : Option K) (cost : Nat)
    (now later : σ) : Prop where
  owners : ∀ key cell, map.Owned key cell now → map.Owned key cell later
  rises : ∀ key, map.storedCount key field later ≤
    map.storedCount key field now + if key? = some key then cost else 0

/-- The program raises the count of `key?` by at most `credit`, and no other count. The pointer that it holds
is one of a cell of its key. -/
def CountsAtMost (map : MapRef μ σ K V maxEntries) (field : V → U64) (key? : Option K) :
    Option Nat → Nat → StepProgram (BpfOp μ) σ α → Prop
  | _, _, .ret _ => True
  | held, credit, .atom _ next update => ∀ shared,
      (∀ key ∈ key?, ∀ cell ∈ held, map.Owned key cell shared) →
      ∃ found cost left, cost + left = credit ∧ Charged map field key? cost shared (update shared) ∧
        (∀ key ∈ key?, ∀ cell ∈ found, map.Owned key cell (update shared)) ∧
        CountsAtMost map field key? found left (next shared)

variable {map : MapRef μ σ K V maxEntries} {field : V → U64} {key? : Option K}

/-! ### What the helper calls cost -/

section Costs

variable {shared later : σ}

theorem Charged.of_get (same : map.get later = map.get shared) : Charged map field key? 0 shared later where
  owners key cell owned := by
    rw [MapRef.Owned, same]
    exact owned
  rises key := by
    rw [MapRef.storedCount, same, ← MapRef.storedCount]
    exact Nat.le_add_right _ _

theorem owned_write {key : K} {cell other : Nat} {change : V → V} (owned : map.Owned key cell shared) :
    map.Owned key cell (map.set shared ((map.get shared).write other change)) := by
  rw [MapRef.Owned, map.get_set, CellMap.cells_write, List.length_modify]
  exact owned

theorem owned_insert {key added : K} {cell : Nat} {value : V} (owned : map.Owned key cell shared) :
    map.Owned key cell (map.set shared ((map.get shared).insert added value)) := by
  rw [MapRef.Owned, map.get_set]
  by_cases room : (map.get shared).HasRoom added
  · rw [CellMap.cells_insert value room, List.length_append]
    refine ⟨Nat.lt_add_right _ owned.1, fun other bound => ?_⟩
    by_cases same : other = added
    · -- the added key is bound to a new cell
      rw [same, CellMap.lookup_insert_self value room] at bound
      rw [← Option.some.inj bound] at owned
      exact absurd owned.1 (Nat.lt_irrefl _)
    · rw [CellMap.lookup_insert_ne value same] at bound
      exact owned.2 other bound
  · rw [CellMap.insert_full value room]
    exact owned

/-- Inserting costs at most what is inserted. -/
theorem Charged.insert {key : K} {value : V} {cost : Nat} (few : (field value).toNat ≤ cost) :
    Charged map field (some key) cost shared (map.set shared ((map.get shared).insert key value)) where
  owners _ _ := owned_insert
  rises other := by
    rw [MapRef.storedCount, map.get_set]
    by_cases room : (map.get shared).HasRoom key
    · rw [CellMap.find?_insert value room]
      by_cases same : other = key
      · rw [if_pos same, same, if_pos rfl, Option.map_some]
        exact Nat.le_add_left_of_le few
      · rw [if_neg same]
        exact Nat.le_add_right _ _
    · rw [CellMap.insert_full value room]
      exact Nat.le_add_right _ _

/-- Writing through a cell of the key costs what the write adds to the count. -/
theorem Charged.write {key : K} {cell cost : Nat} {change : V → V} (owned : map.Owned key cell shared)
    (adds : ∀ value, (field (change value)).toNat ≤ (field value).toNat + cost) :
    Charged map field (some key) cost shared (map.set shared ((map.get shared).write cell change)) where
  owners _ _ := owned_write
  rises other := by
    rw [MapRef.storedCount, map.get_set]
    by_cases bound : (map.get shared).lookup other = some cell
    · obtain rfl := owned.2 other bound
      rw [CellMap.find?_write bound, if_pos rfl, if_pos rfl, MapRef.storedCount]
      cases (map.get shared).find? other with
      | none => exact Nat.zero_le _
      | some value => exact adds value
    · have same : ((map.get shared).write cell change).find? other = (map.get shared).find? other := by
        rw [CellMap.find?, CellMap.find?, CellMap.lookup_write]
        cases found : (map.get shared).lookup other with
        | none => rfl
        | some elsewhere =>
            have apart : cell ≠ elsewhere := fun equal => bound (found.trans (congrArg some equal.symm))
            simp [List.getElem?_modify, apart]
      rw [same]
      exact Nat.le_add_right _ _

end Costs

/-! ### What an invocation adds -/

/-- What an invocation knows of the entry of its key. -/
inductive Looked where
  | notYet
  | missed
  | found (pointer : Nat)

/-- The pointer that it holds. -/
def Looked.held : Looked → Option Nat
  | .notYet | .missed => none
  | .found pointer => some pointer

/-- The field of the entry of a key, as long as the key is bound to `pointer`. -/
def MapRef.entryView [Inhabited V] (map : MapRef μ σ K V maxEntries) (key : K) (pointer : Nat)
    (field : V → U64) : SharedView σ U64 :=
  map.pointed key pointer (fun _ => True) field

/-- The program adds `amount` under `key`: at most that in any case, exactly that if the key has an entry from
the first lookup on, and nothing under another key. -/
structure Counting [Inhabited V] (map : MapRef μ σ K V maxEntries) (field : V → U64) (key : K)
    (looked : Looked) (amount : Nat) (program : StepProgram (BpfOp μ) σ α) : Prop where
  atMost : CountsAtMost map field (some key) looked.held amount program
  own : ∀ pointer, looked = .notYet ∨ looked = .found pointer →
    (map.entryView key pointer field).Owes amount program
  other : ∀ other pointer, key ≠ other → looked.held ≠ some pointer →
    (map.entryView other pointer field).Owes 0 program

/-- The program leaves the map alone, but for writes through the held pointer that keep the field. -/
def MapRef.Idle (map : MapRef μ σ K V maxEntries) (field : V → U64) (held : Option Nat)
    (program : StepProgram (BpfOp μ) σ α) : Prop :=
  program.AllSteps fun _ update => (∀ shared, map.get (update shared) = map.get shared) ∨
    ∃ pointer change, held = some pointer ∧ (∀ old, field (change old) = field old) ∧
      ∀ shared, update shared = map.set shared ((map.get shared).write pointer change)


section Rules

variable [Inhabited V] {key : K} {looked : Looked} {amount : Nat}

theorem Counting.ret (result : α) :
    Counting map field key looked 0 (StepProgram.ret result : StepProgram (BpfOp μ) σ α) where
  atMost := trivial
  own _ _ := .ret result
  other _ _ _ _ := .ret result

/-- A lookup of the key. -/
theorem Counting.lookup {rest : Option Nat → StepProgram (BpfOp μ) σ α}
    (missed : Counting map field key .missed amount (rest none))
    (found : ∀ pointer, Counting map field key (.found pointer) amount (rest (some pointer))) :
    Counting map field key looked amount (bpfMapLookupElem map key >>= rest) where
  atMost := by
    intro shared _
    refine ⟨(map.get shared).lookup key, 0, amount, Nat.zero_add _, Charged.of_get rfl, ?owned, ?rest⟩
    case owned =>
      rintro _ ⟨⟩ cell isFound
      exact ⟨(map.get shared).live isFound, fun other bound => (map.get shared).separate bound isFound⟩
    case rest =>
      change CountsAtMost map field (some key) _ amount (rest ((map.get shared).lookup key))
      cases (map.get shared).lookup key with
      | none => exact missed.atMost
      | some pointer => exact (found pointer).atMost
  own pointer _ := absorbs_lookup (Owes.absorbs amount) ((found pointer).own pointer (Or.inr rfl))
  other other pointer different _ := by
    apply absorbs_lookup_other (Owes.absorbs 0) different
    intro yielded apart
    cases yielded with
    | none => exact missed.other other pointer different nofun
    | some elsewhere => exact (found elsewhere).other other pointer different apart

/-- An insertion for a key that was missed. -/
theorem Counting.insert {value : V} {cost later : Nat} (few : (field value).toNat ≤ cost)
    {rest : S32 → StepProgram (BpfOp μ) σ α}
    (holds : ∀ result, Counting map field key .missed later (rest result)) :
    Counting map field key .missed (cost + later) (bpfMapUpdateElem map key value >>= rest) where
  atMost := by
    intro shared _
    exact ⟨none, cost, later, rfl, Charged.insert few, nofun, (holds _).atMost⟩
  own pointer isKnown := by
    rcases isKnown with impossible | impossible <;> cases impossible
  other other pointer different apart := by
    apply (Owes.absorbs 0).quiet (quiet_update_other different value)
    exact fun result => (holds result).other other pointer different apart

/-- A write through the pointer of the key. -/
theorem Counting.write {pointer now later : Nat} {label : BpfOp μ} {read : σ → β} {change : V → V}
    (adds : ∀ old, field (change old) = field old + BitVec.ofNat 64 now)
    {rest : β → StepProgram (BpfOp μ) σ α}
    (holds : ∀ result, Counting map field key (.found pointer) later (rest result)) :
    Counting map field key (.found pointer) (now + later)
      (StepProgram.single label read (fun shared =>
        map.set shared ((map.get shared).write pointer change)) >>= rest) where
  atMost := by
    intro shared owned
    have fits (old : V) : (field (change old)).toNat ≤ (field old).toNat + now := by
      rw [adds, BitVec.toNat_add, BitVec.toNat_ofNat, Nat.add_mod_mod]
      exact Nat.mod_le _ _
    have charged := Charged.write (owned key rfl pointer rfl) fits
    refine ⟨some pointer, now, later, rfl, charged, ?_, (holds _).atMost⟩
    intro _ isKey cell isHeld
    exact owned_write (owned _ isKey cell isHeld)
  own cell isKnown := by
    obtain rfl : pointer = cell := by
      rcases isKnown with impossible | same
      · cases impossible
      · exact Looked.found.inj same
    refine .add (fun shared inv => ?_) fun shared _ => (holds _).own pointer (Or.inr rfl)
    obtain ⟨inv', written⟩ := pointed_write change (fun _ => id) inv
    exact ⟨inv', written.trans (adds _)⟩
  other other cell different apart := by
    have elsewhere : pointer ≠ cell := fun same => apart (congrArg some same)
    apply (Owes.absorbs 0).quiet (.single read (kept_write_other elsewhere change))
    exact fun result => (holds result).other other cell different apart

/-- A step that leaves the map alone. -/
theorem Counting.beside {label : BpfOp μ} {next : σ → StepProgram (BpfOp μ) σ α} {update : σ → σ}
    (same : ∀ shared, map.get (update shared) = map.get shared)
    (holds : ∀ shared, Counting map field key looked amount (next shared)) :
    Counting map field key looked amount (.atom label next update) where
  atMost := by
    intro shared owned
    have charged : Charged map field (some key) 0 shared (update shared) := .of_get (same shared)
    refine ⟨looked.held, 0, amount, Nat.zero_add _, charged, ?_, (holds shared).atMost⟩
    intro other isKey cell isHeld
    exact charged.owners other cell (owned other isKey cell isHeld)
  own pointer isKnown :=
    Owes.absorbs amount _ _ _ (kept_of_get same) fun shared _ => (holds shared).own pointer isKnown
  other other pointer different apart :=
    Owes.absorbs 0 _ _ _ (kept_of_get same) fun shared _ =>
      (holds shared).other other pointer different apart

/-- Steps that keep the field come anywhere. -/
theorem Counting.idle {program : StepProgram (BpfOp μ) σ β} {rest : β → StepProgram (BpfOp μ) σ α}
    (idle : map.Idle field looked.held program)
    (holds : ∀ result, Counting map field key looked amount (rest result)) :
    Counting map field key looked amount (program >>= rest) := by
  induction program with
  | ret result => exact holds result
  | atom label next update ih =>
      have counting (shared : σ) := ih shared (idle.2 shared)
      rcases idle.1 with same | ⟨pointer, change, isHeld, keeps, writes⟩
      · exact Counting.beside same counting
      · cases looked with
        | notYet => cases isHeld
        | missed => cases isHeld
        | found cell =>
            obtain rfl := Option.some.inj isHeld
            have unchanged (old : V) : field (change old) = field old + BitVec.ofNat 64 0 :=
              (keeps old).trans (BitVec.add_zero _).symm
            have written : Counting map field key (.found cell) (0 + amount)
                (StepProgram.single label id (fun shared => map.set shared ((map.get shared).write cell change))
                  >>= fun shared => next shared >>= rest) :=
              Counting.write unchanged counting
            rw [Nat.zero_add] at written
            rw [funext writes]
            exact written

/-- A program that only keeps the field adds nothing. -/
theorem Counting.of_idle {program : StepProgram (BpfOp μ) σ α} (idle : map.Idle field looked.held program) :
    Counting map field key looked 0 program := by
  have returned : Counting map field key looked 0 (program >>= .ret) :=
    Counting.idle idle fun result => Counting.ret result
  rwa [StepProgram.bind_ret] at returned

omit [Inhabited V] in
/-- An invocation without a pointer that leaves the map alone has nothing to pay. -/
theorem CountsAtMost.of_idle {program : StepProgram (BpfOp μ) σ α} (idle : map.Idle field none program)
    (credit : Nat) : CountsAtMost map field key? none credit program := by
  induction program with
  | ret result => trivial
  | atom label next update ih =>
      intro shared _
      rcases idle.1 with same | ⟨_, _, impossible, _⟩
      · have charged : Charged map field key? 0 shared (update shared) := .of_get (same shared)
        exact ⟨none, 0, credit, Nat.zero_add _, charged, nofun, ih shared (idle.2 shared)⟩
      · cases impossible

/-- After a miss an invocation may end without an addition. -/
theorem Counting.missed_of_idle {program : StepProgram (BpfOp μ) σ α} (idle : map.Idle field none program) :
    Counting map field key .missed amount program where
  atMost := CountsAtMost.of_idle idle amount
  own pointer isKnown := by
    rcases isKnown with impossible | impossible <;> cases impossible
  other other pointer different apart := by
    have nothing : Counting map field key .missed 0 program := .of_idle idle
    exact nothing.other other pointer different apart

end Rules

/-! ### The helper calls -/

section HelperCalls

variable {key : K} {held : Option Nat}

/-- A step on another map or a ring. -/
theorem idle_single {label : BpfOp μ} {read : σ → α} {update : σ → σ}
    (same : ∀ shared, map.get (update shared) = map.get shared) :
    map.Idle field held (StepProgram.single label read update) :=
  .single _ (Or.inl same)

/-- Reserve, fill in and submit. -/
theorem idle_emitEvent {ring : RingRef σ E}
    (apart : ∀ shared events, map.get (ring.set shared events) = map.get shared) (reserved : Option E)
    (fill : E → E) (verdict : α) :
    map.Idle field held (emitEvent ring reserved fill verdict) := by
  apply StepProgram.AllSteps.bind (idle_single fun _ => rfl)
  intro evt
  cases evt with
  | none => exact .ret verdict
  | some evt => exact StepProgram.AllSteps.bind (idle_single fun _ => apart _ _) fun _ => .ret verdict

/-- Reserve, fill in and submit for 1/100 events. -/
theorem idle_emitSampled {ring : RingRef σ E}
    (apart : ∀ shared events, map.get (ring.set shared events) = map.get shared) (reserved : Option E)
    (fill : U64 → E → E) (verdict : α) (newCount : U64) :
    map.Idle field held (emitSampled ring reserved fill verdict newCount) := by
  rw [emitSampled]
  split
  · exact .ret verdict
  · exact idle_emitEvent apart _ _ _

variable [Inhabited V]

theorem idle_load (pointer : Nat) (read : V → A) : map.Idle field held (load map pointer read) :=
  idle_single fun _ => rfl

omit [Inhabited V] in
/-- A plain store to another field. -/
theorem idle_store {pointer : Nat} {other : Field V A} (ignored : other.Ignored field) (value : A) :
    map.Idle field (some pointer) (store map pointer other value) :=
  .single _ (Or.inr ⟨pointer, _, rfl, fun old => ignored old value, fun _ => rfl⟩)

/-- An addition to another field. -/
theorem idle_fetchAndAdd {pointer : Nat} {other : Field V U64} (ignored : other.Ignored field)
    (amount : U64) :
    map.Idle field (some pointer) (syncFetchAndAdd map pointer other amount) :=
  .single _ (Or.inr ⟨pointer, _, rfl, fun old => ignored old _, fun _ => rfl⟩)

/-- An addition to the field. -/
theorem Counting.fetchAndAdd {pointer now later : Nat} {counted : Field V U64} {amount : U64}
    (adds : ∀ old, field (counted.set old (counted.get old + amount)) = field old + BitVec.ofNat 64 now)
    {rest : U64 → StepProgram (BpfOp μ) σ α}
    (holds : ∀ old, Counting map field key (.found pointer) later (rest old)) :
    Counting map field key (.found pointer) (now + later)
      (syncFetchAndAdd map pointer counted amount >>= rest) :=
  Counting.write adds holds

/-- The counting idiom adds one. -/
theorem countEvent_counting {map : MapRef μ σ K U64 maxEntries} {rest : U64 → StepProgram (BpfOp μ) σ α}
    (idle : ∀ held count, map.Idle id held (rest count)) :
    Counting map id key .notYet 1 (countEvent map key >>= rest) := by
  rw [countEvent, bind_assoc]
  change Counting map id key .notYet (1 + 0) _
  apply Counting.lookup
  · exact Counting.insert (Nat.le_refl 1) fun _ => Counting.of_idle (idle _ _)
  · intro pointer
    simp only [bind_assoc]
    apply Counting.fetchAndAdd
    · intro old
      rfl
    · exact fun old => Counting.of_idle (idle _ _)

end HelperCalls

/-! ### Invocations together -/

section Runs

variable {ι : Type} [Fintype ι] [DecidableEq ι] {key? : ι → Option K} {credit : ι → Nat}

/-- What the callers with the key add in total. -/
def sumUnder (key? : ι → Option K) (amount : ι → Nat) (key : K) : Nat :=
  ∑ i, if key? i = some key then amount i else 0

/-- What caller `i` pays is no longer part of the sum. -/
theorem sumUnder_update {i : ι} {cost left : Nat} (split : cost + left = credit i) (key : K) :
    sumUnder key? credit key =
      (if key? i = some key then cost else 0) + sumUnder key? (Function.update credit i left) key := by
  have pays (j : ι) : (if key? j = some key then credit j else 0) =
      (if j = i then if key? i = some key then cost else 0 else 0) +
        if key? j = some key then Function.update credit i left j else 0 := by
    by_cases own : j = i
    · subst own
      rw [if_pos rfl, Function.update_self, ← split]
      split <;> rfl
    · rw [if_neg own, Function.update_of_ne own, Nat.zero_add]
  rw [sumUnder, sumUnder, Finset.sum_congr rfl fun j _ => pays j, Finset.sum_add_distrib, Finset.sum_ite_eq',
    if_pos (Finset.mem_univ i)]

/-- The callers have `left` to pay of what they had at `start`, and hold pointers of cells of their keys. -/
structure Paying (map : MapRef μ σ K V maxEntries) (field : V → U64) (key? : ι → Option K) (credit : ι → Nat)
    (start : σ) (config : Config (BpfOp μ) σ α ι) (held : ι → Option Nat) (left : ι → Nat) : Prop where
  counts : ∀ i, CountsAtMost map field (key? i) (held i) (left i) (config.threads i)
  owners : ∀ i, ∀ key ∈ key? i, ∀ cell ∈ held i, map.Owned key cell config.shared
  bounded : ∀ key, map.storedCount key field config.shared + sumUnder key? left key ≤
    map.storedCount key field start + sumUnder key? credit key

variable {start : σ} {config : Config (BpfOp μ) σ α ι} {held : ι → Option Nat} {left : ι → Nat}

/-- A step of a caller pays for what it adds. -/
theorem Paying.step (paying : Paying map field key? credit start config held left) (i : ι) :
    ∃ held left, Paying map field key? credit start (config.step i) held left := by
  cases program : config.threads i with
  | ret result =>
      have finished : (config.threads i).Finished := by
        rw [program]
        rfl
      rw [Config.step_of_finished config finished]
      exact ⟨held, left, paying⟩
  | atom label next update =>
      have counts := paying.counts i
      rw [program] at counts
      obtain ⟨found, cost, later, split, charged, owned, counts⟩ := counts config.shared (paying.owners i)
      have shared : (config.step i).shared = update config.shared := by
        rw [Config.step_shared, program]
        rfl
      refine ⟨Function.update held i found, Function.update left i later, ?counts, ?owners, ?bounded⟩
      case counts =>
        intro j
        by_cases own : j = i
        · subst own
          rw [Function.update_self, Function.update_self, Config.step_threads_self, program]
          exact counts
        · rw [Function.update_of_ne own, Function.update_of_ne own, Config.step_threads_ne _ own]
          exact paying.counts j
      case owners =>
        intro j
        rw [shared]
        by_cases own : j = i
        · subst own
          rw [Function.update_self]
          exact owned
        · rw [Function.update_of_ne own]
          intro key isKey cell isHeld
          exact charged.owners key cell (paying.owners j key isKey cell isHeld)
      case bounded =>
        intro key
        have paid : sumUnder key? left key =
            (if key? i = some key then cost else 0) + sumUnder key? (Function.update left i later) key :=
          sumUnder_update split key
        have rises := charged.rises key
        have before := paying.bounded key
        rw [shared]
        omega

theorem Paying.run (paying : Paying map field key? credit start config held left) (schedule : List ι) :
    ∃ held left, Paying map field key? credit start (config.run schedule) held left := by
  induction schedule generalizing config held left with
  | nil => exact ⟨held, left, paying⟩
  | cons i rest ih =>
      obtain ⟨_, _, later⟩ := paying.step i
      exact ih later

/-- **No key counts more than its callers add**, at any moment. -/
theorem storedCount_run_le (counts : ∀ i, CountsAtMost map field (key? i) none (credit i) (config.threads i))
    (schedule : List ι) (key : K) :
    map.storedCount key field (config.run schedule).shared ≤
      map.storedCount key field config.shared + sumUnder key? credit key := by
  have beginning : Paying map field key? credit config.shared config (fun _ => none) credit :=
    ⟨counts, nofun, fun _ => Nat.le_refl _⟩
  obtain ⟨_, _, paying⟩ := beginning.run schedule
  exact Nat.le_of_add_right_le (paying.bounded key)

end Runs

/-! ### Handlers -/

section Handlers

variable {C : Type}

/-- **Concurrent additions under many keys**: `field` of the map sums `amount` over the invocations of each
key. No entry is removed; at any moment no key holds more than its start and what its invocations add; and when
all have returned, the keys that had an entry hold exactly that, in the arithmetic of the field. -/
structure CountsManyKeys (map : MapRef μ σ K V maxEntries) (field : V → U64) (key? : C → Option K)
    (amount : C → Nat) (handler : C → StepProgram (BpfOp μ) σ α) : Prop where
  kept : ∀ (n : Nat) (start : σ) (calls : Fin n → C) (schedule : List (Fin n)),
    (map.get start).keys ⊆ (map.get (Config.run ⟨start, fun i => handler (calls i)⟩ schedule).shared).keys
  bounded : ∀ (n : Nat) (start : σ) (calls : Fin n → C) (schedule : List (Fin n)) (key : K),
    map.storedCount key field (Config.run ⟨start, fun i => handler (calls i)⟩ schedule).shared ≤
      map.storedCount key field start +
        sumUnder (fun i => key? (calls i)) (fun i => amount (calls i)) key
  exact : ∀ (n : Nat) (start : σ) (calls : Fin n → C) (schedule : List (Fin n)),
    (Config.run ⟨start, fun i => handler (calls i)⟩ schedule).Finished → ∀ key ∈ (map.get start).keys,
      map.storedCount key field (Config.run ⟨start, fun i => handler (calls i)⟩ schedule).shared =
        (map.storedCount key field start +
          sumUnder (fun i => key? (calls i)) (fun i => amount (calls i)) key) % 2 ^ 64

variable [Inhabited V] {key : K} {pointer : Nat}

/-- It owes nothing to any entry. -/
theorem owes_of_idle {program : StepProgram (BpfOp μ) σ α} (idle : map.Idle field none program) :
    (map.entryView key pointer field).Owes 0 program := by
  have counting : Counting map field key .notYet 0 program := .of_idle idle
  exact counting.own pointer (Or.inl rfl)

theorem storedCount_of_lookup {shared : σ} (found : (map.get shared).lookup key = some pointer) :
    map.storedCount key field shared = ((map.entryView key pointer field).get shared).toNat := by
  rw [MapRef.storedCount, CellMap.find?_of_lookup found]
  rfl

variable {key? : C → Option K} {amount : C → Nat} {handler : C → StepProgram (BpfOp μ) σ α}

/-- Handlers that add under their keys add up under many keys. -/
theorem countsManyKeys_of_counting
    (counted : ∀ call key, key? call = some key →
      Counting map field key .notYet (amount call) (handler call))
    (rejected : ∀ call, key? call = none → map.Idle field none (handler call)) :
    CountsManyKeys map field key? amount handler := by
  have owes (call : C) (key : K) (pointer : Nat) : (map.entryView key pointer field).Owes
      (if key? call = some key then amount call else 0) (handler call) := by
    cases isKey : key? call with
    | none => exact owes_of_idle (rejected call isKey)
    | some counts =>
        by_cases same : counts = key
        · subst same
          rw [if_pos rfl]
          exact (counted call counts isKey).own pointer (Or.inl rfl)
        · rw [if_neg fun equal => same (Option.some.inj equal)]
          exact (counted call counts isKey).other key pointer same nofun
  have start_inv {start : σ} {key : K} {value : V} (found : (map.get start).find? key = some value) :
      ∃ pointer, (map.entryView key pointer field).Inv start := by
    obtain ⟨pointer, bound, _⟩ := CellMap.exists_lookup_of_find? found
    exact ⟨pointer, bound, trivial⟩
  refine ⟨?kept, ?bounded, ?exact⟩
  case kept =>
    intro n start calls schedule key member
    obtain ⟨value, found⟩ := CellMap.mem_keys.mp member
    obtain ⟨pointer, inv⟩ := start_inv found
    obtain ⟨_, later, _⟩ := Owes.run ⟨start, fun i => handler (calls i)⟩ inv
      (fun i => owes (calls i) key pointer) schedule
    exact CellMap.mem_keys.mpr ⟨_, CellMap.find?_of_lookup later.1⟩
  case bounded =>
    intro n start calls schedule key
    apply storedCount_run_le
    intro i
    cases isKey : key? (calls i) with
    | none => exact CountsAtMost.of_idle (rejected _ isKey) _
    | some counts => exact (counted _ counts isKey).atMost
  case exact =>
    intro n start calls schedule finished key member
    obtain ⟨value, found⟩ := CellMap.mem_keys.mp member
    obtain ⟨pointer, inv⟩ := start_inv found
    obtain ⟨_, later, _⟩ := Owes.run ⟨start, fun i => handler (calls i)⟩ inv
      (fun i => owes (calls i) key pointer) schedule
    have total := Owes.get_run ⟨start, fun i => handler (calls i)⟩ inv
      (fun i => owes (calls i) key pointer) finished
    rw [storedCount_of_lookup later.1, storedCount_of_lookup inv.1, total, BitVec.toNat_add,
      BitVec.toNat_ofNat, Nat.add_mod_mod, sumUnder]

/-- The counting handlers add one under the key of a call. -/
theorem CountingHandler.countsManyKeys (program : CountingHandler μ σ K C E α maxEntries)
    (idle : ∀ call count held, program.counts.Idle id held (program.emit call count)) :
    CountsManyKeys program.counts id program.key? (fun _ => 1) program.handler := by
  apply countsManyKeys_of_counting
  · intro call key counted
    rw [handler_counted counted]
    exact countEvent_counting fun held count => idle call count held
  · intro call rejected
    rw [handler, rejected]
    exact .ret _

end Handlers

end MonsaEbpf
