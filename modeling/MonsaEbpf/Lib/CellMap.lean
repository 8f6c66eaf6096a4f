/-
Module: MonsaEbpf.Lib.CellMap
Layer: Lib
Purpose: A bounded keyed store whose values live in cells of their own. A lookup returns the cell, and
  writing through a cell reaches the value that was found even when the key has been bound to another cell
  since. Inserting always allocates: it binds the key to a fresh cell, and fails when the key is absent and
  the store is full. `find?` is the abstract reading (a partial function from keys to values), and the
  lemmas below state what every operation does to it. Along a run whose events touch few keys every event
  finds room (`before_of_few_keys`). `wordsBelow` supplies distinct keys to fill a store.
Imports: MonsaEbpf.Lib.Runs
Trusted boundary: none
Main exports: CellMap, CellMap.lookup, CellMap.find?, CellMap.HasRoom, CellMap.insert, CellMap.write,
  CellMap.erase, CellMap.find?_insert, CellMap.find?_write, CellMap.find?_erase,
  CellMap.hasRoom_of_keys_subset, CellMap.before_of_few_keys, wordsBelow, nodup_wordsBelow
-/
import Mathlib.Data.Finmap
import MonsaEbpf.Lib.Runs

/-- A store of at most `capacity` keys. Bound keys name allocated cells, and two keys never share one. -/
@[ext]
structure CellMap (K V : Type) [DecidableEq K] (capacity : Nat) where
  cells : List V
  table : Finmap fun _ : K => Nat
  live : ∀ {key cell}, table.lookup key = some cell → cell < cells.length
  separate : ∀ {key other cell},
    table.lookup key = some cell → table.lookup other = some cell → key = other
  bounded : table.keys.card ≤ capacity

namespace CellMap

variable {K V : Type} [DecidableEq K] {capacity : Nat}

/-- The cell bound to `key`. -/
def lookup (map : CellMap K V capacity) (key : K) : Option Nat :=
  map.table.lookup key

/-- The value stored under `key`. -/
def find? (map : CellMap K V capacity) (key : K) : Option V :=
  (map.lookup key).bind fun cell => map.cells[cell]?

/-- The value in a cell; a cell that was never allocated reads as `default`. -/
def read [Inhabited V] (map : CellMap K V capacity) (cell : Nat) : V :=
  map.cells[cell]?.getD default

/-- The bound keys. -/
def keys (map : CellMap K V capacity) : Finset K :=
  map.table.keys

/-- Inserting `key` would succeed: it is bound already, or there is a free entry. -/
def HasRoom (map : CellMap K V capacity) (key : K) : Prop :=
  key ∈ map.keys ∨ map.keys.card < capacity

instance (map : CellMap K V capacity) (key : K) : Decidable (map.HasRoom key) :=
  inferInstanceAs (Decidable (_ ∨ _))

/-- The store without keys. -/
def empty : CellMap K V capacity where
  cells := []
  table := ∅
  live := by simp
  separate := by simp
  bounded := by simp

theorem keys_insert_table (table : Finmap fun _ : K => Nat) (key : K) (cell : Nat) :
    (table.insert key cell).keys = insert key table.keys := by
  ext other
  simp [Finmap.mem_keys, Finmap.mem_insert]

theorem lookup_insert_table (table : Finmap fun _ : K => Nat) (key other : K) (cell : Nat) :
    (table.insert key cell).lookup other = if other = key then some cell else table.lookup other := by
  by_cases same : other = key
  · rw [if_pos same, same, Finmap.lookup_insert]
  · rw [if_neg same, Finmap.lookup_insert_of_ne _ same]

/-- Bind `key` to a fresh cell that holds `value`; without room nothing changes. -/
def insert (map : CellMap K V capacity) (key : K) (value : V) : CellMap K V capacity :=
  if room : map.HasRoom key then
    { cells := map.cells ++ [value]
      table := map.table.insert key map.cells.length
      live := by
        intro other cell found
        rw [lookup_insert_table] at found
        rw [List.length_append, List.length_singleton]
        split at found
        · rw [← Option.some.inj found]
          exact Nat.lt_succ_self _
        · exact Nat.lt_succ_of_lt (map.live found)
      separate := by
        intro first second cell one two
        rw [lookup_insert_table] at one two
        -- a cell that was bound before lies below the fresh one
        split at one <;> split at two
        · simp_all
        · cases one
          exact absurd (map.live two) (Nat.lt_irrefl _)
        · cases two
          exact absurd (map.live one) (Nat.lt_irrefl _)
        · exact map.separate one two
      bounded := by
        rw [keys_insert_table]
        rcases room with bound | free
        · rw [Finset.insert_eq_of_mem (show key ∈ map.table.keys from bound)]
          exact map.bounded
        · exact Nat.le_trans (Finset.card_insert_le _ _) free }
  else map

/-- Change the value in a cell. -/
def write (map : CellMap K V capacity) (cell : Nat) (change : V → V) : CellMap K V capacity where
  cells := map.cells.modify cell change
  table := map.table
  live := by
    intro key other found
    rw [List.length_modify]
    exact map.live found
  separate := map.separate
  bounded := map.bounded

/-- Unbind `key`. Its cell stays reachable for those who looked it up. -/
def erase (map : CellMap K V capacity) (key : K) : CellMap K V capacity where
  cells := map.cells
  table := map.table.erase key
  live := by
    intro other cell found
    by_cases same : other = key
    · rw [same, Finmap.lookup_erase] at found
      cases found
    · rw [Finmap.lookup_erase_ne same] at found
      exact map.live found
  separate := by
    intro first second cell one two
    by_cases firstSame : first = key
    · rw [firstSame, Finmap.lookup_erase] at one
      cases one
    · by_cases secondSame : second = key
      · rw [secondSame, Finmap.lookup_erase] at two
        cases two
      · rw [Finmap.lookup_erase_ne firstSame] at one
        rw [Finmap.lookup_erase_ne secondSame] at two
        exact map.separate one two
  bounded := by
    rw [Finmap.keys_erase]
    exact Nat.le_trans (Finset.card_erase_le) map.bounded

/-! ### The abstract reading -/

@[simp] theorem lookup_empty (key : K) : (empty : CellMap K V capacity).lookup key = none := rfl

@[simp] theorem cells_empty : (empty : CellMap K V capacity).cells = [] := rfl

@[simp] theorem keys_empty : (empty : CellMap K V capacity).keys = ∅ := rfl

@[simp] theorem find?_empty (key : K) : (empty : CellMap K V capacity).find? key = none := rfl

/-- A bound key reads the value of its cell. -/
theorem find?_of_lookup [Inhabited V] {map : CellMap K V capacity} {key : K} {cell : Nat}
    (found : map.lookup key = some cell) : map.find? key = some (map.read cell) := by
  have allocated : cell < map.cells.length := map.live found
  rw [find?, found, Option.bind_some, read, List.getElem?_eq_getElem allocated]
  rfl

/-- A key with a value is bound to the cell that holds it. -/
theorem exists_lookup_of_find? [Inhabited V] {map : CellMap K V capacity} {key : K} {value : V}
    (found : map.find? key = some value) : ∃ cell, map.lookup key = some cell ∧ map.read cell = value := by
  cases bound : map.lookup key with
  | none =>
      rw [find?, bound] at found
      cases found
  | some cell =>
      rw [find?_of_lookup bound] at found
      exact ⟨cell, rfl, Option.some.inj found⟩

theorem find?_eq_none {map : CellMap K V capacity} {key : K} :
    map.find? key = none ↔ map.lookup key = none := by
  cases found : map.lookup key with
  | none => simp [find?, found]
  | some cell => simpa [find?, found] using map.live found

theorem mem_keys {map : CellMap K V capacity} {key : K} :
    key ∈ map.keys ↔ ∃ value, map.find? key = some value := by
  rw [← Option.isSome_iff_exists, Option.isSome_iff_ne_none, ne_eq, find?_eq_none, lookup,
    Finmap.lookup_eq_none, not_not, keys, Finmap.mem_keys]

theorem lookup_eq_none {map : CellMap K V capacity} {key : K} :
    map.lookup key = none ↔ key ∉ map.keys := by
  rw [lookup, Finmap.lookup_eq_none, keys, Finmap.mem_keys]

theorem lookup_insert_self {map : CellMap K V capacity} {key : K} (value : V)
    (room : map.HasRoom key) : (map.insert key value).lookup key = some map.cells.length := by
  rw [insert, dif_pos room]
  exact Finmap.lookup_insert _

theorem cells_insert {map : CellMap K V capacity} {key : K} (value : V)
    (room : map.HasRoom key) : (map.insert key value).cells = map.cells ++ [value] := by
  rw [insert, dif_pos room]

theorem insert_full {map : CellMap K V capacity} {key : K} (value : V)
    (full : ¬ map.HasRoom key) : map.insert key value = map := by
  rw [insert, dif_neg full]

/-- Inserting an absent key leaves the bound keys at their cells. -/
theorem lookup_insert_bound {map : CellMap K V capacity} {key other : K} {cell : Nat} (value : V)
    (absent : map.lookup key = none) (found : map.lookup other = some cell) :
    (map.insert key value).lookup other = some cell := by
  by_cases room : map.HasRoom key
  · have different : other ≠ key := by
      rintro rfl
      rw [absent] at found
      cases found
    rw [insert, dif_pos room]
    exact (lookup_insert_table _ _ _ _).trans ((if_neg different).trans found)
  · rwa [insert_full value room]

theorem keys_insert {map : CellMap K V capacity} {key : K} (value : V)
    (room : map.HasRoom key) : (map.insert key value).keys = Insert.insert key map.keys := by
  rw [insert, dif_pos room]
  exact keys_insert_table _ _ _

/-- Changing the value that was just inserted. -/
theorem write_insert {map : CellMap K V capacity} {key : K} (value : V) (room : map.HasRoom key)
    (change : V → V) :
    (map.insert key value).write map.cells.length change = map.insert key (change value) := by
  rw [insert, dif_pos room, insert, dif_pos room]
  apply CellMap.ext
  · change (map.cells ++ [value]).modify map.cells.length change = map.cells ++ [change value]
    rw [List.modify_eq_take_drop, List.take_left, List.drop_left]
    rfl
  · rfl

/-- Inserting changes the value of its own key only. -/
theorem find?_insert {map : CellMap K V capacity} {key : K} (value : V)
    (room : map.HasRoom key) (other : K) :
    (map.insert key value).find? other = if other = key then some value else map.find? other := by
  have bound : (map.insert key value).lookup other =
      if other = key then some map.cells.length else map.lookup other := by
    rw [insert, dif_pos room]
    exact lookup_insert_table _ _ _ _
  rw [find?, bound, cells_insert value room]
  by_cases same : other = key
  · simp [same]
  · rw [if_neg same, if_neg same, find?]
    cases found : map.lookup other with
    | none => rfl
    | some cell => exact List.getElem?_append_left (map.live found)

theorem find?_insert_ne {map : CellMap K V capacity} {key other : K} (value : V)
    (different : other ≠ key) : (map.insert key value).find? other = map.find? other := by
  by_cases room : map.HasRoom key
  · rw [find?_insert value room, if_neg different]
  · rw [insert_full value room]

/-- Inserting leaves the other keys at their cells. -/
theorem lookup_insert_ne {map : CellMap K V capacity} {key other : K} (value : V)
    (different : other ≠ key) : (map.insert key value).lookup other = map.lookup other := by
  by_cases room : map.HasRoom key
  · rw [insert, dif_pos room]
    exact (lookup_insert_table _ _ _ _).trans (if_neg different)
  · rw [insert_full value room]

/-- Inserting changes no cell that was there. -/
theorem read_insert [Inhabited V] {map : CellMap K V capacity} {cell : Nat} (key : K) (value : V)
    (allocated : cell < map.cells.length) : (map.insert key value).read cell = map.read cell := by
  by_cases room : map.HasRoom key
  · rw [read, cells_insert value room, List.getElem?_append_left allocated, read]
  · rw [insert_full value room]

@[simp] theorem lookup_write (map : CellMap K V capacity) (cell : Nat) (change : V → V) (key : K) :
    (map.write cell change).lookup key = map.lookup key := rfl

@[simp] theorem keys_write (map : CellMap K V capacity) (cell : Nat) (change : V → V) :
    (map.write cell change).keys = map.keys := rfl

@[simp] theorem cells_write (map : CellMap K V capacity) (cell : Nat) (change : V → V) :
    (map.write cell change).cells = map.cells.modify cell change := rfl

/-- A projection of all cells follows a write it commutes with. -/
theorem map_cells_write {A : Type} (map : CellMap K V capacity) (cell : Nat) {change : V → V}
    {project : V → A} {change' : A → A} (commutes : ∀ v, project (change v) = change' (project v)) :
    (map.write cell change).cells.map project = (map.cells.map project).modify cell change' := by
  rw [cells_write]
  induction map.cells generalizing cell with
  | nil => simp
  | cons value rest ih => cases cell <;> simp [commutes, ih]

/-- Reading back a cell that was written through. -/
theorem read_write [Inhabited V] {map : CellMap K V capacity} {cell : Nat} (change : V → V)
    (allocated : cell < map.cells.length) :
    (map.write cell change).read cell = change (map.read cell) := by
  simp [read, List.getElem?_modify_eq, List.getElem?_eq_getElem allocated]

/-- Writing through a cell leaves the others alone. -/
theorem read_write_ne [Inhabited V] (map : CellMap K V capacity) {cell other : Nat} (change : V → V)
    (apart : other ≠ cell) : (map.write cell change).read other = map.read other := by
  simp [read, Ne.symm apart]

/-- Writing through the cell of `key` changes the value of `key` only. -/
theorem find?_write {map : CellMap K V capacity} {key : K} {cell : Nat}
    (found : map.lookup key = some cell) (change : V → V) (other : K) :
    (map.write cell change).find? other =
      if other = key then (map.find? key).map change else map.find? other := by
  by_cases same : other = key
  · rw [if_pos same, same, find?, find?, lookup_write, found, cells_write]
    simp [List.getElem?_modify_eq]
  · rw [if_neg same, find?, find?, lookup_write, cells_write]
    cases otherFound : map.lookup other with
    | none => rfl
    | some otherCell =>
        have apart : cell ≠ otherCell := by
          rintro rfl
          exact same (map.separate otherFound found)
        simp [List.getElem?_modify, apart]

@[simp] theorem keys_erase (map : CellMap K V capacity) (key : K) :
    (map.erase key).keys = map.keys.erase key :=
  Finmap.keys_erase ..

theorem lookup_erase (map : CellMap K V capacity) (key other : K) :
    (map.erase key).lookup other = if other = key then none else map.lookup other := by
  by_cases same : other = key
  · rw [if_pos same, same]
    exact Finmap.lookup_erase ..
  · rw [if_neg same]
    exact Finmap.lookup_erase_ne same

/-- Erasing unbinds its own key only. -/
theorem find?_erase (map : CellMap K V capacity) (key other : K) :
    (map.erase key).find? other = if other = key then none else map.find? other := by
  rw [find?, lookup_erase]
  split <;> rfl

/-- Erasing a key that is not bound changes nothing. -/
theorem erase_of_absent {map : CellMap K V capacity} {key : K} (absent : map.lookup key = none) :
    map.erase key = map := by
  apply CellMap.ext
  · rfl
  · apply Finmap.ext_lookup
    intro other
    by_cases same : other = key
    · subst same
      exact (Finmap.lookup_erase ..).trans absent.symm
    · exact Finmap.lookup_erase_ne same

/-! ### Overwriting a cell -/

/-- Replace the value in a cell. -/
def assign (map : CellMap K V capacity) (cell : Nat) (value : V) : CellMap K V capacity :=
  map.write cell fun _ => value

@[simp] theorem write_assign (map : CellMap K V capacity) (cell : Nat) (value : V) (change : V → V) :
    (map.assign cell value).write cell change = map.assign cell (change value) := by
  apply CellMap.ext
  · exact List.modify_modify_eq ..
  · rfl

theorem assign_read [Inhabited V] {map : CellMap K V capacity} {cell : Nat}
    (allocated : cell < map.cells.length) : map.assign cell (map.read cell) = map := by
  apply CellMap.ext
  · apply List.ext_getElem?
    intro i
    rw [assign, cells_write, List.getElem?_modify]
    by_cases same : cell = i
    · simp [← same, read, List.getElem?_eq_getElem allocated]
    · simp [same]
  · rfl

theorem read_assign [Inhabited V] {map : CellMap K V capacity} {cell : Nat} (value : V)
    (allocated : cell < map.cells.length) : (map.assign cell value).read cell = value :=
  read_write _ allocated

/-- Overwriting the cell of `key` changes the value of `key` only. -/
theorem find?_assign {map : CellMap K V capacity} {key : K} {cell : Nat}
    (found : map.lookup key = some cell) (value : V) (other : K) :
    (map.assign cell value).find? other = if other = key then some value else map.find? other := by
  rw [assign, find?_write found, find?, found, Option.bind_some,
    List.getElem?_eq_getElem (map.live found)]
  rfl

section Update

variable {map : CellMap K V capacity} {key : K} (next : Option V → V)

/-- Inserting a value for an absent key, as an update of what the key reads. -/
theorem find?_insert_next (absent : map.lookup key = none) (room : map.HasRoom key) (other : K) :
    (map.insert key (next none)).find? other =
      if key = other then some (next (map.find? other)) else map.find? other := by
  rw [find?_insert _ room]
  by_cases same : key = other
  · rw [if_pos same, if_pos same.symm, ← same, find?_eq_none.mpr absent]
  · rw [if_neg same, if_neg (Ne.symm same)]

/-- Overwriting the cell of a key, as an update of what the key reads. -/
theorem find?_assign_next [Inhabited V] {cell : Nat} (found : map.lookup key = some cell) (other : K) :
    (map.assign cell (next (some (map.read cell)))).find? other =
      if key = other then some (next (map.find? other)) else map.find? other := by
  rw [find?_assign found]
  by_cases same : key = other
  · rw [if_pos same, if_pos same.symm, ← same, find?_of_lookup found]
  · rw [if_neg same, if_neg (Ne.symm same)]

end Update

/-- While all bound keys lie in a set of at most `capacity` keys, every key of the set has room. -/
theorem hasRoom_of_keys_subset {map : CellMap K V capacity} {key : K} {seen : Finset K}
    (within : map.keys ⊆ seen) (member : key ∈ seen) (small : seen.card ≤ capacity) :
    map.HasRoom key := by
  by_cases bound : key ∈ map.keys
  · exact Or.inl bound
  · refine Or.inr (Nat.lt_of_lt_of_le (Finset.card_lt_card ⟨within, ?_⟩) small)
    exact fun back => bound (back member)

/-- Along a run that starts with an empty store, when each event binds at most the key it touches and few
keys are touched, every event finds room for its key. -/
theorem before_of_few_keys {σ E X : Type} {step : σ → E → σ} {map : σ → CellMap K V capacity}
    {out : σ → E → Option (K × X)} {next : Option V → X → V} {touched : E → Option K}
    (touches : ∀ state event, (∀ key ∈ touched event, (map state).HasRoom key) →
      Runs.Touches step (fun state => (map state).find?) out next state event)
    (keyed : ∀ {state event record}, out state event = some record → touched event = some record.1)
    {state : σ} (start : map state = .empty) {events : List E}
    (few : (events.filterMap touched).toFinset.card ≤ capacity) :
    Runs.Before step (fun state event => ∀ key ∈ touched event, (map state).HasRoom key) state
      events := by
  have member {event : E} (known : event ∈ events) {key : K} (isKey : touched event = some key) :
      key ∈ (events.filterMap touched).toFinset := by
    rw [List.mem_toFinset, List.mem_filterMap]
    exact ⟨event, known, isKey⟩
  refine Runs.Before.of_invariant
    (I := fun state => (map state).keys ⊆ (events.filterMap touched).toFinset) ?start ?keeps ?room
  case start =>
    rw [start]
    exact Finset.empty_subset _
  case keeps =>
    intro state event known within room key bound
    obtain ⟨value, found⟩ := mem_keys.mp bound
    have touch := touches state event room key
    simp only [found] at touch
    cases emits : out state event with
    | none =>
        simp only [emits] at touch
        exact within (mem_keys.mpr ⟨value, touch.symm⟩)
    | some record =>
        simp only [emits] at touch
        split at touch
        · rename_i same
          exact same ▸ member known (keyed emits)
        · exact within (mem_keys.mpr ⟨value, touch.symm⟩)
  case room =>
    intro state event known within key isKey
    exact hasRoom_of_keys_subset within (member known isKey) few

end CellMap

/-! ### A supply of distinct keys -/

/-- The words that stand for the numbers below `n`. -/
def wordsBelow (width n : Nat) : List (BitVec width) :=
  (List.range n).map (BitVec.ofNat width)

section WordsBelow

variable {width n : Nat}

theorem length_wordsBelow (width n : Nat) : (wordsBelow width n).length = n := by
  rw [wordsBelow, List.length_map, List.length_range]

theorem wordsBelow_succ (width n : Nat) :
    wordsBelow width (n + 1) = wordsBelow width n ++ [BitVec.ofNat width n] := by
  rw [wordsBelow, List.range_succ, List.map_append]
  rfl

theorem nodup_wordsBelow (small : n ≤ 2 ^ width) : (wordsBelow width n).Nodup := by
  refine List.Nodup.map_on ?_ List.nodup_range
  intro first firstMember second secondMember same
  have firstSmall := (List.mem_range.mp firstMember).trans_le small
  have secondSmall := (List.mem_range.mp secondMember).trans_le small
  have numbers := congrArg BitVec.toNat same
  rwa [BitVec.toNat_ofNat, BitVec.toNat_ofNat, Nat.mod_eq_of_lt firstSmall,
    Nat.mod_eq_of_lt secondSmall] at numbers

theorem notMem_wordsBelow (small : n < 2 ^ width) : BitVec.ofNat width n ∉ wordsBelow width n := by
  have distinct : (wordsBelow width (n + 1)).Nodup := nodup_wordsBelow small
  rw [wordsBelow_succ] at distinct
  exact fun member => (List.nodup_append.mp distinct).2.2 _ member _ (List.mem_singleton_self _) rfl

end WordsBelow
