/-
Module: MonsaEbpf.Bpf.Counting
Layer: Bpf
Purpose: The counter entry of a map as the first-touch library sees it, and how the helper calls move a
  program towards its count. `countEvent` is the lookup, insert-one-or-add idiom that the counting
  programs share.
Imports: MonsaEbpf.Bpf.Helpers, MonsaEbpf.Lib.FirstTouch
Trusted boundary: none
Main exports: countEvent, MapRef.CountsFirst, MapRef.counter, MapRef.storedCount, searches_lookup,
  searches_insertOne, searches_insertZero, adds_fetchAndAdd, countEvent_searches
-/
import MonsaEbpf.Bpf.Helpers
import MonsaEbpf.Lib.FirstTouch

namespace MonsaEbpf

open FirstTouch

variable {μ σ K V A α : Type} [DecidableEq K] [DecidableEq μ] {maxEntries : Nat}

/-- Update the call counter of `key` and return the new count: insert one on a miss, add one on a hit.
The result of the insertion is not looked at. -/
def countEvent (map : MapRef μ σ K U64 maxEntries) (key : K) : StepProgram (BpfOp μ) σ U64 := do
  let val ← bpfMapLookupElem map key
  match val with
  | none => do
      let _ ← bpfMapUpdateElem map key 1
      return 1
  | some val => do
      let old ← syncFetchAndAdd map val .whole 1
      return old + 1

/-- The program first updates the entry of `key`: it looks the key up, on a miss it inserts `first`, and on a
hit it adds one to the field of the value found. -/
def MapRef.CountsFirst [Inhabited V] (map : MapRef μ σ K V maxEntries) (key : K) (first : V)
    (field : Field V U64) (program : StepProgram (BpfOp μ) σ α) : Prop :=
  ∃ (counted : Option Nat → StepProgram (BpfOp μ) σ α) (inserted : S32 → StepProgram (BpfOp μ) σ α)
      (added : Nat → U64 → StepProgram (BpfOp μ) σ α),
    program = bpfMapLookupElem map key >>= counted ∧
      counted none = bpfMapUpdateElem map key first >>= inserted ∧
      ∀ val, counted (some val) = syncFetchAndAdd map val field 1 >>= added val

omit [DecidableEq μ] in
theorem MapRef.CountsFirst.bind {β : Type} [Inhabited V] {map : MapRef μ σ K V maxEntries} {key : K}
    {first : V} {field : Field V U64} {program : StepProgram (BpfOp μ) σ α}
    (counts : map.CountsFirst key first field program) (rest : α → StepProgram (BpfOp μ) σ β) :
    map.CountsFirst key first field (program >>= rest) := by
  rcases counts with ⟨counted, inserted, added, looks, inserts, adds⟩
  refine ⟨fun val => counted val >>= rest, fun result => inserted result >>= rest,
    fun val old => added val old >>= rest, ?_, ?_, ?_⟩
  · rw [looks, bind_assoc]
  · simp only [inserts, bind_assoc]
  · intro val
    simp only [adds, bind_assoc]

omit [DecidableEq μ] in
theorem countEvent_countsFirst (map : MapRef μ σ K U64 maxEntries) (key : K) :
    map.CountsFirst key 1 .whole (countEvent map key) :=
  ⟨_, _, _, rfl, rfl, fun _ => rfl⟩

/-- The sampling test of the programs, as divisibility. -/
theorem hundredth_iff (count : U64) : count % 100 = 0 ↔ 100 ∣ count.toNat := by
  rw [← BitVec.toNat_inj, BitVec.toNat_umod, Nat.dvd_iff_mod_eq_zero]
  rfl

/-- A step on `map` that a caller only takes after it holds the entry or has inserted it; steps on other
maps come before. -/
def BpfOp.beforeEntry (name : μ) : BpfOp μ → Bool
  | .mapLookup _ | .mapUpdate _ => true
  | .mapDelete map | .load map | .store map | .fetchAndAdd map => map ≠ name
  | .ringbufReserve | .ringbufSubmit => false

/-- The entry of `key` in `map`, counting in `field`. Nobody binds another key, so there is room. -/
def MapRef.counter (map : MapRef μ σ K V maxEntries) (key : K) (field : V → U64) :
    Observation (BpfOp μ) σ 64 where
  entry shared := (map.get shared).lookup key
  cells shared := (map.get shared).cells.map field
  Inv shared := (map.get shared).keys ⊆ {key}
  early := BpfOp.beforeEntry map.name
  inserts op := op = .mapUpdate map.name
  inserts_early := by
    intro op inserts
    rw [of_decide_eq_true inserts]
    rfl

/-- The count stored under `key`, zero when the key is absent. -/
def MapRef.storedCount (map : MapRef μ σ K V maxEntries) (key : K) (field : V → U64) (shared : σ) : Nat :=
  (((map.get shared).find? key).map fun value => (field value).toNat).getD 0

variable {map : MapRef μ σ K V maxEntries} {key : K} {field : V → U64}

theorem MapRef.stored_counter (shared : σ) :
    (map.counter key field).stored shared = map.storedCount key field shared := by
  rw [Observation.stored, MapRef.storedCount, CellMap.find?]
  simp only [counter]
  cases found : (map.get shared).lookup key with
  | none => rfl
  | some cell =>
      have allocated : cell < (map.get shared).cells.length := (map.get shared).live found
      simp [List.getElem?_eq_getElem allocated]

/-- **Counting under one key from an empty map**: when all callers have returned, the stored count is their
number exactly if the number fits the counter and every insertion was executed while all callers were
still looking for the entry. -/
theorem MapRef.storedCount_eq_iff {n : Nat} {shared : σ} {threads : Fin n → StepProgram (BpfOp μ) σ α}
    {schedule : List (Fin n)} (start : map.get shared = .empty)
    (searches : ∀ i, (map.counter key field).Searches false (threads i))
    (finished : (Config.run { shared := shared, threads := threads } schedule).Finished) :
    map.storedCount key field (Config.run { shared := shared, threads := threads } schedule).shared = n ↔
      n < 2 ^ 64 ∧
        (map.counter key field).InsertsEarly { shared := shared, threads := threads } schedule := by
  have exact := Observation.stored_eq_card_iff (o := map.counter key field)
    (by simp [counter, start]) (by simp [counter, start]) (by simp [counter, start]) searches finished
  rw [MapRef.stored_counter, Fintype.card_fin] at exact
  exact exact

/-- An update that leaves the map alone does not change the entry. -/
theorem unchanged_of_get {update : σ → σ} (same : ∀ shared, map.get (update shared) = map.get shared) :
    (map.counter key field).Unchanged update := by
  intro shared inv
  simp only [MapRef.counter] at inv ⊢
  rw [same]
  exact ⟨inv, rfl, rfl⟩

/-- A write to another field of the value does not change the count. -/
theorem unchanged_write {pointer : Nat} {change : V → V}
    (keeps : ∀ value, field (change value) = field value) :
    (map.counter key field).Unchanged fun shared =>
      map.set shared ((map.get shared).write pointer change) := by
  intro shared inv
  refine ⟨?_, ?_, ?_⟩
  · simpa [MapRef.counter] using inv
  · simp [MapRef.counter]
  · simp only [MapRef.counter, MapRef.get_set]
    have follows : ∀ value, field (change value) = id (field value) := keeps
    rw [CellMap.map_cells_write _ _ follows, List.modify_id]

/-- Inserting a value that counts `count` inserts a cell with that count. -/
theorem inserts_update (positive : 0 < maxEntries) (value : V) :
    (map.counter key field).Inserts (field value) fun shared =>
      map.set shared ((map.get shared).insert key value) := by
  intro shared inv
  have room : (map.get shared).HasRoom key :=
    CellMap.hasRoom_of_keys_subset inv (Finset.mem_singleton_self key) positive
  refine ⟨?_, ?_, ?_⟩
  · simp only [MapRef.counter, MapRef.get_set, CellMap.keys_insert value room] at inv ⊢
    exact Finset.insert_subset (Finset.mem_singleton_self key) inv
  · simp [MapRef.counter, CellMap.lookup_insert_self value room]
  · simp [MapRef.counter, CellMap.cells_insert value room]

/-! ### Rules for programs -/

theorem searches_lookup {present : Bool} {rest : Option Nat → StepProgram (BpfOp μ) σ α}
    (missed : present = false → (map.counter key field).Searches false (rest none))
    (found : ∀ pointer, (map.counter key field).Adds pointer (rest (some pointer))) :
    (map.counter key field).Searches present (bpfMapLookupElem map key >>= rest) := by
  refine .lookup rfl rfl (unchanged_of_get fun _ => rfl) ?_ ?_
  · intro absent shared unbound
    change (map.counter key field).Searches false (rest ((map.get shared).lookup key))
    rw [show (map.get shared).lookup key = none from unbound]
    exact missed absent
  · intro shared pointer bound
    change (map.counter key field).Adds pointer (rest ((map.get shared).lookup key))
    rw [show (map.get shared).lookup key = some pointer from bound]
    exact found pointer

theorem searches_insertOne (positive : 0 < maxEntries) {present : Bool} (value : V)
    (one : field value = 1) {rest : S32 → StepProgram (BpfOp μ) σ α}
    (settled : ∀ result, (map.counter key field).Settled (rest result)) :
    (map.counter key field).Searches present (bpfMapUpdateElem map key value >>= rest) := by
  refine .insertOne rfl (by simp [MapRef.counter]) ?_ fun _ => settled _
  exact one ▸ inserts_update positive value

theorem searches_insertZero (positive : 0 < maxEntries) {present : Bool} (value : V)
    (zero : field value = 0) {rest : S32 → StepProgram (BpfOp μ) σ α}
    (searches : ∀ result, (map.counter key field).Searches true (rest result)) :
    (map.counter key field).Searches present (bpfMapUpdateElem map key value >>= rest) := by
  refine .insertZero rfl (by simp [MapRef.counter]) ?_ fun _ => searches _
  exact zero ▸ inserts_update positive value

theorem adds_fetchAndAdd [Inhabited V] {pointer : Nat} {counted : Field V U64}
    (counts : ∀ value, field (counted.set value (counted.get value + 1)) = field value + 1)
    {rest : U64 → StepProgram (BpfOp μ) σ α}
    (settled : ∀ old, (map.counter key field).Settled (rest old)) :
    (map.counter key field).Adds pointer (syncFetchAndAdd map pointer counted 1 >>= rest) := by
  refine .add (by simp [MapRef.counter, BpfOp.beforeEntry]) ?_ fun _ => settled _
  intro shared inv
  refine ⟨?_, ?_, ?_⟩
  · simpa [MapRef.counter] using inv
  · simp [MapRef.counter]
  · simp only [MapRef.counter, MapRef.get_set]
    exact CellMap.map_cells_write _ _ counts

section Settled

variable {β E : Type}

theorem settled_ret (value : α) :
    (map.counter key field).Settled (StepProgram.ret value) :=
  StepProgram.AllSteps.ret value

theorem Settled.bind {program : StepProgram (BpfOp μ) σ α} {rest : α → StepProgram (BpfOp μ) σ β}
    (first : (map.counter key field).Settled program)
    (second : ∀ value, (map.counter key field).Settled (rest value)) :
    (map.counter key field).Settled (program >>= rest) :=
  StepProgram.AllSteps.bind first second

theorem settled_reserve (memory : Option E) :
    (map.counter key field).Settled
      (bpfRingbufReserve memory : StepProgram (BpfOp μ) σ (Option E)) :=
  .single _ ⟨rfl, unchanged_of_get fun _ => rfl⟩

theorem settled_submit {ring : RingRef σ E} (event : E)
    (apart : ∀ shared events, map.get (ring.set shared events) = map.get shared) :
    (map.counter key field).Settled (bpfRingbufSubmit ring event : StepProgram (BpfOp μ) σ Unit) :=
  .single _ ⟨rfl, unchanged_of_get fun _ => apart _ _⟩

theorem settled_load [Inhabited V] (pointer : Nat) (read : V → A) :
    (map.counter key field).Settled (load map pointer read) :=
  .single _ ⟨by simp [MapRef.counter, BpfOp.beforeEntry], unchanged_of_get fun _ => rfl⟩

theorem settled_store (pointer : Nat) (other : Field V A) (value : A)
    (keeps : ∀ old, field (other.set old value) = field old) :
    (map.counter key field).Settled (store map pointer other value) :=
  .single _ ⟨by simp [MapRef.counter, BpfOp.beforeEntry], unchanged_write keeps⟩

theorem settled_fetchAndAdd [Inhabited V] (pointer : Nat) (other : Field V U64) (amount : U64)
    (keeps : ∀ old new, field (other.set old new) = field old) :
    (map.counter key field).Settled (syncFetchAndAdd map pointer other amount) :=
  .single _ ⟨by simp [MapRef.counter, BpfOp.beforeEntry], unchanged_write fun _ => keeps _ _⟩

end Settled

/-- The counting idiom followed by a program that is done with counting. -/
theorem countEvent_searches (positive : 0 < maxEntries) {map : MapRef μ σ K U64 maxEntries} {key : K}
    {rest : U64 → StepProgram (BpfOp μ) σ α}
    (settled : ∀ count, (map.counter key id).Settled (rest count)) :
    (map.counter key id).Searches false (countEvent map key >>= rest) := by
  rw [countEvent, bind_assoc]
  refine searches_lookup (fun _ => ?_) fun pointer => ?_
  · exact searches_insertOne positive (1 : U64) rfl fun _ => settled 1
  · exact adds_fetchAndAdd (fun _ => rfl) fun old => settled (old + 1)

end MonsaEbpf
