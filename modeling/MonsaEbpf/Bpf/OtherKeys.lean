/-
Module: MonsaEbpf.Bpf.OtherKeys
Layer: Bpf
Purpose: The value of one key while handlers work on other keys of the same map. A lookup of another key never
  yields the pointer of this one, so what is done through it, and what is inserted under the other key,
  leaves the value alone. An addition through the pointer of the key itself counts for `Lib.SharedSums`.
Imports: MonsaEbpf.Bpf.PointedValue, MonsaEbpf.Lib.SharedSums
Trusted boundary: none
Main exports: absorbs_lookup_other, quiet_update_other, quiet_fetchAndAdd_other, quiet_store_other,
  sums_fetchAndAdd
-/
import MonsaEbpf.Bpf.PointedValue
import MonsaEbpf.Lib.SharedSums

namespace MonsaEbpf

open SharedView

variable {μ σ K V W A α β : Type} [DecidableEq K] [Inhabited V] {maxEntries : Nat}
  {map : MapRef μ σ K V maxEntries} {key other : K} {pointer : Nat} {P : V → Prop} {read : V → W}

/-! ### Other keys -/

/-- A lookup of another key yields another pointer, or none. -/
theorem absorbs_lookup_other {Q : StepProgram (BpfOp μ) σ β → Prop}
    (absorbs : (map.pointed key pointer P read).Absorbs Q) (different : other ≠ key)
    {rest : Option Nat → StepProgram (BpfOp μ) σ β}
    (holds : ∀ found, found ≠ some pointer → Q (rest found)) :
    Q (bpfMapLookupElem map other >>= rest) := by
  apply absorbs _ _ _ (kept_of_get fun _ => rfl)
  intro shared inv
  apply holds
  intro found
  exact different ((map.get shared).separate found inv.1)

/-- An insertion under another key. -/
theorem quiet_update_other (different : other ≠ key) (value : V) :
    (map.pointed key pointer P read).Quiet (bpfMapUpdateElem map other value) := by
  apply StepProgram.AllSteps.single
  intro shared inv
  have allocated : pointer < (map.get shared).cells.length := (map.get shared).live inv.1
  simp only [MapRef.pointed, MapRef.get_set, CellMap.lookup_insert_ne value (Ne.symm different),
    CellMap.read_insert other value allocated] at inv ⊢
  exact ⟨inv, trivial⟩

section OtherPointers

variable {elsewhere : Nat} (apart : elsewhere ≠ pointer)

include apart

theorem kept_write_other (change : V → V) :
    (map.pointed key pointer P read).Kept fun shared =>
      map.set shared ((map.get shared).write elsewhere change) := by
  intro shared inv
  simp only [MapRef.pointed, MapRef.get_set, CellMap.lookup_write,
    CellMap.read_write_ne _ change (Ne.symm apart)] at inv ⊢
  exact ⟨inv, trivial⟩

theorem quiet_fetchAndAdd_other (field : Field V U64) (amount : U64) :
    (map.pointed key pointer P read).Quiet (syncFetchAndAdd map elsewhere field amount) :=
  .single _ (kept_write_other apart _)

theorem quiet_store_other (field : Field V A) (value : A) :
    (map.pointed key pointer P read).Quiet (store map elsewhere field value) :=
  .single _ (kept_write_other apart _)

end OtherPointers

/-! ### Sums -/

/-- An addition to a field through the pointer of the key adds to what is read, and the rest follows. -/
theorem sums_fetchAndAdd [AddCommGroup W] {amountOf : α → W} {added : W} (now : W) {field : Field V U64}
    {amount : U64} (keeps : ∀ old new, P old → P (field.set old new))
    (counts : ∀ old, read (field.set old (field.get old + amount)) = read old + now)
    {rest : U64 → StepProgram (BpfOp μ) σ α}
    (adds : ∀ old, (map.pointed key pointer P read).Adds amountOf (added + now) (rest old)) :
    (map.pointed key pointer P read).Adds amountOf added
      (syncFetchAndAdd map pointer field amount >>= rest) := by
  intro shared inv
  obtain ⟨inv', value⟩ := pointed_write (fun old => field.set old (field.get old + amount))
    (fun old => keeps old _) inv
  exact ⟨inv', now, value.trans (counts _), adds _⟩

end MonsaEbpf
