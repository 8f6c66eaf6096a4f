/-
Module: MonsaEbpf.Bpf.PointedValue
Layer: Bpf
Purpose: A map value behind a pointer that a key stays bound to, as a view of the shared state. The helper
  calls keep the view, add to it or store into it; a lookup of the key yields the pointer; and a field that
  is loaded, tested and stored is a `CheckedStore`.
Imports: MonsaEbpf.Bpf.Helpers, MonsaEbpf.Lib.CheckedStores
Trusted boundary: none
Main exports: MapRef.pointed, Field.Ignored, absorbs_lookup, quiet_load, quiet_store, quiet_fetchAndAdd,
  owes_fetchAndAdd, MapRef.checkedField
-/
import MonsaEbpf.Bpf.Helpers
import MonsaEbpf.Lib.CheckedStores

namespace MonsaEbpf

open SharedView

variable {μ σ K V W A E α β : Type} [DecidableEq K] [Inhabited V] {maxEntries : Nat}

/-- `read` of the value behind `pointer`, as long as `key` is bound to it and the value meets `P`. -/
def MapRef.pointed (map : MapRef μ σ K V maxEntries) (key : K) (pointer : Nat) (P : V → Prop)
    (read : V → W) : SharedView σ W where
  Inv shared := (map.get shared).lookup key = some pointer ∧ P ((map.get shared).read pointer)
  get shared := read ((map.get shared).read pointer)

variable {map : MapRef μ σ K V maxEntries} {key : K} {pointer : Nat} {P : V → Prop} {read : V → W}

/-- An update that leaves the map alone. -/
theorem kept_of_get {update : σ → σ} (same : ∀ shared, map.get (update shared) = map.get shared) :
    (map.pointed key pointer P read).Kept update := by
  intro shared inv
  simp only [MapRef.pointed, same] at inv ⊢
  exact ⟨inv, trivial⟩

/-- What a write through the pointer does. -/
theorem pointed_write (change : V → V) (keeps : ∀ value, P value → P (change value)) {shared : σ}
    (inv : (map.pointed key pointer P read).Inv shared) :
    (map.pointed key pointer P read).Inv
        (map.set shared ((map.get shared).write pointer change)) ∧
      (map.pointed key pointer P read).get (map.set shared ((map.get shared).write pointer change)) =
        read (change ((map.get shared).read pointer)) := by
  have allocated : pointer < (map.get shared).cells.length := (map.get shared).live inv.1
  simp only [MapRef.pointed, MapRef.get_set, CellMap.lookup_write, CellMap.read_write change allocated]
  exact ⟨⟨inv.1, keeps _ inv.2⟩, trivial⟩

theorem kept_write {change : V → V} (keeps : ∀ value, P value → P (change value))
    (same : ∀ value, read (change value) = read value) :
    (map.pointed key pointer P read).Kept fun shared =>
      map.set shared ((map.get shared).write pointer change) := by
  intro shared inv
  obtain ⟨inv', value⟩ := pointed_write change keeps inv
  exact ⟨inv', value.trans (same _)⟩

/-- Setting the field does not change what is read. -/
def Field.Ignored (field : Field V A) (read : V → W) : Prop :=
  ∀ old new, read (field.set old new) = read old

/-! ### Quiet steps -/

/-- A step on another map or a ring. -/
theorem quiet_single {label : BpfOp μ} {value : σ → α} {update : σ → σ}
    (same : ∀ shared, map.get (update shared) = map.get shared) :
    (map.pointed key pointer P read).Quiet (StepProgram.single label value update) :=
  .single _ (kept_of_get same)

theorem quiet_load (other : Nat) (field : V → A) :
    (map.pointed key pointer P read).Quiet (load map other field) :=
  quiet_single fun _ => rfl

theorem quiet_store {field : Field V A} {value : A} (ignored : field.Ignored read)
    (keeps : ∀ old, P old → P (field.set old value)) :
    (map.pointed key pointer P read).Quiet (store map pointer field value) :=
  .single _ (kept_write keeps fun old => ignored old value)

theorem quiet_fetchAndAdd {field : Field V U64} {amount : U64} (ignored : field.Ignored read)
    (keeps : ∀ old new, P old → P (field.set old new)) :
    (map.pointed key pointer P read).Quiet (syncFetchAndAdd map pointer field amount) :=
  .single _ (kept_write (fun old => keeps old _) fun old => ignored old _)

/-! ### Rules for programs -/

/-- A lookup of the key yields the pointer. -/
theorem absorbs_lookup {Q : StepProgram (BpfOp μ) σ β → Prop}
    (absorbs : (map.pointed key pointer P read).Absorbs Q)
    {rest : Option Nat → StepProgram (BpfOp μ) σ β} (holds : Q (rest (some pointer))) :
    Q (bpfMapLookupElem map key >>= rest) := by
  refine absorbs _ _ _ (kept_of_get fun _ => rfl) fun shared inv => ?_
  change Q (rest ((map.get shared).lookup key))
  rw [inv.1]
  exact holds

/-- An addition of one to the counter, and none later. -/
theorem owes_fetchAndAdd {counter : V → U64} {field : Field V U64}
    (keeps : ∀ old new, P old → P (field.set old new))
    (counts : ∀ old, counter (field.set old (field.get old + 1)) = counter old + 1)
    {rest : U64 → StepProgram (BpfOp μ) σ α}
    (owes : ∀ old, (map.pointed key pointer P counter).Owes 0 (rest old)) :
    (map.pointed key pointer P counter).Owes 1 (syncFetchAndAdd map pointer field 1 >>= rest) := by
  change Owes _ (1 + 0) _
  refine .add (fun shared inv => ?_) fun shared _ => owes _
  obtain ⟨inv', value⟩ := pointed_write (fun old => field.set old (field.get old + 1))
    (fun old => keeps old _) inv
  exact ⟨inv', value.trans (counts _)⟩

/-! ### Checked stores -/

/-- A field of the value that is raised by a load with a test and a store. `latest` is the number that an offer
stores, `order` says how high a number is, and `beats` is the test. -/
def MapRef.checkedField [LinearOrder W] (map : MapRef μ σ K V maxEntries) (key : K) (pointer : Nat)
    (P : V → Prop) (field : Field V U64) (order : U64 → W) (beats : U64 → U64 → Prop) [DecidableRel beats]
    (latest : A → U64) (get_set : ∀ old new, field.get (field.set old new) = new)
    (beats_iff : ∀ new old, beats new old ↔ order old < order new)
    (keeps : ∀ offer old, P old → P (field.set old (latest offer)))
    (varies : ∃ one two, order (latest one) ≠ order (latest two)) : CheckedStore (BpfOp μ) σ W A where
  view := map.pointed key pointer P fun value => order (field.get value)
  order offer := order (latest offer)
  look := .load map.name
  put := .store map.name
  higher offer shared := beats (latest offer) (field.get ((map.get shared).read pointer))
  decideHigher _ _ := inferInstance
  write offer shared := map.set shared ((map.get shared).write pointer fun old => field.set old (latest offer))
  higher_iff _ _ _ := beats_iff _ _
  writes offer shared inv := by
    obtain ⟨inv', value⟩ := pointed_write (fun old => field.set old (latest offer)) (keeps offer) inv
    exact ⟨inv', value.trans (congrArg order (get_set _ _))⟩
  varies := varies

/-- The tests of the programs on the numbers; for a minimum, lower is higher. -/
theorem gt_iff_toNat (new old : U64) : new > old ↔ old.toNat < new.toNat := Iff.rfl

theorem lt_iff_toDual (new old : U64) :
    new < old ↔ OrderDual.toDual old.toNat < OrderDual.toDual new.toNat := Iff.rfl

end MonsaEbpf
