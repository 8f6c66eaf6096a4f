/-
Module: MonsaEbpf.Bpf.Helpers
Layer: Bpf
Purpose: The kernel interface the eBPF programs are written against: fixed-width integers, the task
  context, hash maps, ring buffers and the atomic builtins. Each helper call is one indivisible step of a
  `StepProgram`. A pointer returned by a map lookup is a cell of the map (`Lib.CellMap`); a failed
  `bpf_ringbuf_reserve` returns none and a successful one the memory it hands out, with its old contents.
  Clock readings and task identity are inputs of an invocation, so they take no step.
Imports: MonsaEbpf.Lib.StepProgram, MonsaEbpf.Lib.CellMap
Trusted boundary: human-reviewed model of the helpers
Main exports: U64, Task, BpfOp, MapRef, RingRef, PerCpuRef, LruOutcome, bpfMapLookupElem,
  bpfMapUpdateElem, bpfMapDeleteElem, bpfLruUpdateElem, bpfPerCpuLookup, perCpuFetchAndAdd,
  syncFetchAndAdd, load, store, bpfRingbufReserve, bpfRingbufSubmit
-/
import Mathlib.Data.BitVec
import MonsaEbpf.Lib.StepProgram
import MonsaEbpf.Lib.CellMap

namespace MonsaEbpf

abbrev U8 := BitVec 8
abbrev U16 := BitVec 16
abbrev U32 := BitVec 32
abbrev U64 := BitVec 64
/-- Signed fields keep their two's complement bits; `BitVec.toInt` reads them. -/
abbrev S32 := BitVec 32
abbrev S64 := BitVec 64

/-- `char comm[TASK_COMM_LEN]`. -/
abbrev Comm := Vector U8 16

/-- What the `bpf_get_current_*` helpers return during one invocation. -/
structure Task where
  pidTgid : U64
  uidGid : U64
  cgroupId : U64
  comm : Comm
deriving Repr, DecidableEq

/-- `(__u32)(pid_tgid >> 32)`. -/
def pidOf (pidTgid : U64) : U32 := (pidTgid >>> 32).setWidth 32

/-- `(__u32)pid_tgid`. -/
def tidOf (pidTgid : U64) : U32 := pidTgid.setWidth 32

/-- `(__u32)uid_gid`. -/
def Task.uid (task : Task) : U32 := task.uidGid.setWidth 32

/-- `(__u32)(uid_gid >> 32)`. -/
def Task.gid (task : Task) : U32 := (task.uidGid >>> 32).setWidth 32

/-- `__builtin_memcpy` of `source` over the first bytes of an array. -/
def memcpy {n : Nat} (target : Vector U8 n) (source : List U8) : Vector U8 n :=
  Vector.ofFn fun i => source.getD i target[i]

/-- The labels of the indivisible steps; `μ` names the maps of one program. -/
inductive BpfOp (μ : Type) where
  | mapLookup (map : μ)
  | mapUpdate (map : μ)
  | mapDelete (map : μ)
  | load (map : μ)
  | store (map : μ)
  | fetchAndAdd (map : μ)
  | ringbufReserve
  | ringbufSubmit
deriving DecidableEq, Repr

/-- A hash map of a program as a component of its shared state. -/
structure MapRef (μ σ K V : Type) [DecidableEq K] (maxEntries : Nat) where
  name : μ
  get : σ → CellMap K V maxEntries
  set : σ → CellMap K V maxEntries → σ
  get_set : ∀ shared map, get (set shared map) = map
  set_get : ∀ shared, set shared (get shared) = shared
  set_set : ∀ shared first second, set (set shared first) second = set shared second

attribute [simp] MapRef.get_set MapRef.set_get MapRef.set_set

/-- A ring buffer as a component of the shared state: the submitted records, oldest first. -/
structure RingRef (σ E : Type) where
  get : σ → List E
  set : σ → List E → σ

/-- A per-CPU array of a program: the value that each CPU has at each index. -/
structure PerCpuRef (μ σ V : Type) (maxEntries : Nat) where
  name : μ
  get : σ → Nat → Nat → V
  set : σ → (Nat → Nat → V) → σ

/-- What the kernel does when a key is inserted into an LRU hash: it may give up, or drop other keys. -/
inductive LruOutcome (K : Type) where
  | failed
  | evicted (others : List K)
deriving Repr, DecidableEq

/-- A field of a map value. -/
structure Field (V A : Type) where
  get : V → A
  set : V → A → V

/-- The value itself, for maps of plain integers. -/
def Field.whole {V : Type} : Field V V where
  get := id
  set := fun _ value => value

section Helpers

variable {μ σ K V A E : Type} [DecidableEq K] {maxEntries : Nat}

/-- `bpf_map_lookup_elem`: the pointer to the value found, none for NULL. -/
def bpfMapLookupElem (map : MapRef μ σ K V maxEntries) (key : K) :
    StepProgram (BpfOp μ) σ (Option Nat) :=
  .single (.mapLookup map.name) (fun shared => (map.get shared).lookup key) id

/-- `bpf_map_update_elem` with `BPF_ANY`: zero, or `-E2BIG` when the key is new and the map is full. -/
def bpfMapUpdateElem (map : MapRef μ σ K V maxEntries) (key : K) (value : V) :
    StepProgram (BpfOp μ) σ S32 :=
  .single (.mapUpdate map.name)
    (fun shared => if (map.get shared).HasRoom key then 0 else -7)
    fun shared => map.set shared ((map.get shared).insert key value)

/-- `bpf_map_delete_elem`: zero, or `-ENOENT`. -/
def bpfMapDeleteElem (map : MapRef μ σ K V maxEntries) (key : K) :
    StepProgram (BpfOp μ) σ S32 :=
  .single (.mapDelete map.name)
    (fun shared => if key ∈ (map.get shared).keys then 0 else -2)
    fun shared => map.set shared ((map.get shared).erase key)

/-- Read a field through a pointer into the map. -/
def load [Inhabited V] (map : MapRef μ σ K V maxEntries) (pointer : Nat) (field : V → A) :
    StepProgram (BpfOp μ) σ A :=
  .single (.load map.name) (fun shared => field ((map.get shared).read pointer)) id

/-- A plain store through a pointer into the map. -/
def store (map : MapRef μ σ K V maxEntries) (pointer : Nat) (field : Field V A) (value : A) :
    StepProgram (BpfOp μ) σ Unit :=
  .single (.store map.name) (fun _ => ())
    fun shared => map.set shared ((map.get shared).write pointer fun old => field.set old value)

/-- `__sync_fetch_and_add` on a field: returns the value before the addition. -/
def syncFetchAndAdd [Inhabited V] (map : MapRef μ σ K V maxEntries) (pointer : Nat)
    (field : Field V U64) (amount : U64) : StepProgram (BpfOp μ) σ U64 :=
  .single (.fetchAndAdd map.name)
    (fun shared => field.get ((map.get shared).read pointer))
    fun shared => map.set shared ((map.get shared).write pointer fun old =>
      field.set old (field.get old + amount))

/-- `bpf_map_update_elem` with `BPF_ANY` on an LRU hash, with what the kernel does about room as an input. -/
def bpfLruUpdateElem (map : MapRef μ σ K V maxEntries) (key : K) (value : V) (outcome : LruOutcome K) :
    StepProgram (BpfOp μ) σ S32 :=
  match outcome with
  | .failed => .single (.mapUpdate map.name) (fun _ => -12) id
  | .evicted others =>
      .single (.mapUpdate map.name) (fun _ => 0) fun shared =>
        map.set shared (((others.filter (· ≠ key)).foldl CellMap.erase (map.get shared)).insert key value)

/-- `bpf_map_lookup_elem` on a per-CPU array: the entry of the running CPU at an index inside the array. -/
def bpfPerCpuLookup (map : PerCpuRef μ σ V maxEntries) (index : Nat) :
    StepProgram (BpfOp μ) σ (Option Nat) :=
  .single (.mapLookup map.name) (fun _ => if index < maxEntries then some index else none) id

/-- `__sync_fetch_and_add` on a field of a per-CPU entry. -/
def perCpuFetchAndAdd (map : PerCpuRef μ σ V maxEntries) (cpu index : Nat) (field : Field V U64)
    (amount : U64) : StepProgram (BpfOp μ) σ U64 :=
  .single (.fetchAndAdd map.name) (fun shared => field.get (map.get shared cpu index)) fun shared =>
    map.set shared fun other entry =>
      if other = cpu ∧ entry = index then
        field.set (map.get shared cpu index) (field.get (map.get shared cpu index) + amount)
      else map.get shared other entry

/-- `bpf_ringbuf_reserve`, with its outcome as an input: the reserved memory, or none. -/
def bpfRingbufReserve (memory : Option E) : StepProgram (BpfOp μ) σ (Option E) :=
  .single .ringbufReserve (fun _ => memory) id

/-- `bpf_ringbuf_submit`. -/
def bpfRingbufSubmit (ring : RingRef σ E) (event : E) : StepProgram (BpfOp μ) σ Unit :=
  .single .ringbufSubmit (fun _ => ()) fun shared => ring.set shared (ring.get shared ++ [event])

/-! ### The helpers run alone -/

variable (map : MapRef μ σ K V maxEntries) (shared : σ)

@[simp] theorem exec_bpfMapLookupElem (key : K) :
    (bpfMapLookupElem map key).exec shared = ((map.get shared).lookup key, shared) := rfl

@[simp] theorem exec_bpfMapUpdateElem (key : K) (value : V) :
    (bpfMapUpdateElem map key value).exec shared =
      (if (map.get shared).HasRoom key then 0 else -7,
        map.set shared ((map.get shared).insert key value)) := rfl

@[simp] theorem exec_bpfMapDeleteElem (key : K) :
    (bpfMapDeleteElem map key).exec shared =
      (if key ∈ (map.get shared).keys then 0 else -2,
        map.set shared ((map.get shared).erase key)) := rfl

@[simp] theorem exec_load [Inhabited V] (pointer : Nat) (field : V → A) :
    (load map pointer field).exec shared = (field ((map.get shared).read pointer), shared) := rfl

@[simp] theorem exec_store (pointer : Nat) (field : Field V A) (value : A) :
    (store map pointer field value).exec shared =
      ((), map.set shared ((map.get shared).write pointer fun old => field.set old value)) := rfl

@[simp] theorem exec_syncFetchAndAdd [Inhabited V] (pointer : Nat) (field : Field V U64)
    (amount : U64) :
    (syncFetchAndAdd map pointer field amount).exec shared =
      (field.get ((map.get shared).read pointer),
        map.set shared ((map.get shared).write pointer fun old =>
          field.set old (field.get old + amount))) := rfl

omit [DecidableEq K] in
@[simp] theorem exec_bpfRingbufReserve (memory : Option E) :
    (bpfRingbufReserve memory : StepProgram (BpfOp μ) σ (Option E)).exec shared =
      (memory, shared) := rfl

omit [DecidableEq K] in
@[simp] theorem exec_bpfRingbufSubmit (ring : RingRef σ E) (event : E) :
    (bpfRingbufSubmit ring event : StepProgram (BpfOp μ) σ Unit).exec shared =
      ((), ring.set shared (ring.get shared ++ [event])) := rfl

/-- A program that starts with a lookup goes on with what the lookup finds. -/
theorem exec_lookup_bind {α : Type} {shared : σ} {key : K} {pointer : Option Nat}
    (found : (map.get shared).lookup key = pointer) (rest : Option Nat → StepProgram (BpfOp μ) σ α) :
    (bpfMapLookupElem map key >>= rest).exec shared = (rest pointer).exec shared := by
  rw [StepProgram.exec_bind, exec_bpfMapLookupElem, found]

/-! ### Working on one value

A handler that runs alone reads back what it wrote through its pointer, so its effect on the value is a
function of the value it found. -/

/-- The shared state in which the value behind `pointer` is `value`. -/
def MapRef.holding (pointer : Nat) (value : V) : σ :=
  map.set shared ((map.get shared).assign pointer value)

section Holding

variable {map shared} {pointer : Nat} (allocated : pointer < (map.get shared).cells.length)
  (value : V)

include allocated

theorem holding_read [Inhabited V] :
    map.holding shared pointer ((map.get shared).read pointer) = shared := by
  rw [MapRef.holding, CellMap.assign_read allocated, map.set_get]

theorem exec_load_holding [Inhabited V] (field : V → A) :
    (load map pointer field).exec (map.holding shared pointer value) =
      (field value, map.holding shared pointer value) := by
  rw [exec_load, MapRef.holding, map.get_set, CellMap.read_assign value allocated]

omit allocated in
theorem exec_store_holding (field : Field V A) (new : A) :
    (store map pointer field new).exec (map.holding shared pointer value) =
      ((), map.holding shared pointer (field.set value new)) := by
  simp [MapRef.holding]

theorem exec_syncFetchAndAdd_holding [Inhabited V] (field : Field V U64) (amount : U64) :
    (syncFetchAndAdd map pointer field amount).exec (map.holding shared pointer value) =
      (field.get value,
        map.holding shared pointer (field.set value (field.get value + amount))) := by
  simp [MapRef.holding, CellMap.read_assign value allocated]

end Holding

end Helpers

end MonsaEbpf
