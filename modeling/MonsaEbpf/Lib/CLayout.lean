/-
Module: MonsaEbpf.Lib.CLayout
Layer: Lib
Purpose: Structures of C as they lie in memory on a little-endian machine with natural alignment. Every member
  starts at the next multiple of its alignment, and the size of a structure is rounded up to its largest
  alignment. The members of a layout do not overlap, so what a writer stores in the members is what a reader
  with the same layout loads from them, whatever is in the padding and behind the structure.
Imports: MonsaEbpf.Lib.Wire
Trusted boundary: the layout rules of the ABI
Main exports: CLayout.CType, CLayout.Declaration, CLayout.layout, CLayout.sizeof, CLayout.write,
  CLayout.slice_write, CLayout.Record, CLayout.consume, CLayout.consume_produce, CLayout.consume_inside
-/
import MonsaEbpf.Lib.Wire

namespace CLayout

open Wire

/-! ### Types and layouts -/

/-- Integers of one, two, four and eight bytes, and arrays. -/
inductive CType where
  | int8
  | int16
  | int32
  | int64
  | array (element : CType) (length : Nat)
deriving DecidableEq, Repr

namespace CType

def size : CType → Nat
  | .int8 => 1
  | .int16 => 2
  | .int32 => 4
  | .int64 => 8
  | .array element length => length * element.size

/-- An integer is aligned to its size, an array as its elements are. -/
def align : CType → Nat
  | .int8 => 1
  | .int16 => 2
  | .int32 => 4
  | .int64 => 8
  | .array element _ => element.align

theorem align_pos (type : CType) : 0 < type.align := by
  induction type with
  | int8 => decide
  | int16 => decide
  | int32 => decide
  | int64 => decide
  | array element length ih => exact ih

end CType

/-- The members of a structure in the order in which they are declared; `F` names them. -/
abbrev Declaration (F : Type) := List (F × CType)

/-- The first multiple of an alignment from an offset on. -/
def alignUp (offset alignment : Nat) : Nat :=
  (offset + (alignment - 1)) / alignment * alignment

theorem le_alignUp (offset : Nat) {alignment : Nat} (positive : 0 < alignment) :
    offset ≤ alignUp offset alignment := by
  have division := Nat.div_add_mod (offset + (alignment - 1)) alignment
  have remainder := Nat.mod_lt (offset + (alignment - 1)) positive
  rw [Nat.mul_comm] at division
  rw [alignUp]
  omega

/-- A member with its place. -/
structure Member (F : Type) where
  field : F
  type : CType
  offset : Nat
deriving DecidableEq, Repr

variable {F : Type}

/-- The members from an offset on. -/
def layoutFrom : Declaration F → Nat → List (Member F)
  | [], _ => []
  | (field, type) :: rest, next =>
      ⟨field, type, alignUp next type.align⟩ :: layoutFrom rest (alignUp next type.align + type.size)

/-- The offset behind the last member. -/
def endFrom : Declaration F → Nat → Nat
  | [], next => next
  | (_, type) :: rest, next => endFrom rest (alignUp next type.align + type.size)

/-- The members of a structure with their offsets. -/
def layout (declaration : Declaration F) : List (Member F) :=
  layoutFrom declaration 0

/-- The alignment of a structure, the largest of its members. -/
def alignment (declaration : Declaration F) : Nat :=
  declaration.foldr (fun member largest => max member.2.align largest) 1

/-- `sizeof`. -/
def sizeof (declaration : Declaration F) : Nat :=
  alignUp (endFrom declaration 0) (alignment declaration)

theorem alignment_pos (declaration : Declaration F) : 0 < alignment declaration := by
  induction declaration with
  | nil => exact Nat.one_pos
  | cons member rest ih => exact Nat.lt_of_lt_of_le ih (Nat.le_max_right _ _)

theorem next_le (next : Nat) (type : CType) : next ≤ alignUp next type.align + type.size :=
  (le_alignUp next type.align_pos).trans (Nat.le_add_right _ _)

theorem le_endFrom (declaration : Declaration F) (next : Nat) : next ≤ endFrom declaration next := by
  induction declaration generalizing next with
  | nil => exact Nat.le_refl next
  | cons member rest ih => exact (next_le next member.2).trans (ih _)

/-- Members lie between the offset they start from and the end. -/
theorem offset_bounds {declaration : Declaration F} {next : Nat} {member : Member F}
    (found : member ∈ layoutFrom declaration next) :
    next ≤ member.offset ∧ member.offset + member.type.size ≤ endFrom declaration next := by
  induction declaration generalizing next with
  | nil => cases found
  | cons first rest ih =>
      rcases List.mem_cons.mp found with rfl | later
      · exact ⟨le_alignUp next first.2.align_pos, le_endFrom rest _⟩
      · obtain ⟨lower, upper⟩ := ih later
        exact ⟨(next_le next first.2).trans lower, upper⟩

/-- **Every member lies inside the structure.** -/
theorem member_inside {declaration : Declaration F} {member : Member F}
    (found : member ∈ layout declaration) : member.offset + member.type.size ≤ sizeof declaration :=
  (offset_bounds found).2.trans (le_alignUp _ (alignment_pos declaration))

/-! ### Memory -/

/-- Memory from the start of a structure on, without an end. -/
abbrev Memory := Nat → Byte

/-- Store bytes at an offset. -/
def store (memory : Memory) (offset : Nat) (bytes : List Byte) : Memory :=
  fun i => if offset ≤ i then (bytes[i - offset]?).getD (memory i) else memory i

/-- The bytes at an offset. -/
def slice (memory : Memory) (offset size : Nat) : List Byte :=
  (List.range size).map fun i => memory (offset + i)

/-- Store the value of every member. -/
def write (memory : Memory) (members : List (Member F)) (value : F → List Byte) : Memory :=
  members.foldl (fun memory member => store memory member.offset (value member.field)) memory

theorem store_below (memory : Memory) {offset i : Nat} (bytes : List Byte) (below : i < offset) :
    store memory offset bytes i = memory i :=
  if_neg (Nat.not_le_of_lt below)

theorem slice_store (memory : Memory) (offset : Nat) (bytes : List Byte) :
    slice (store memory offset bytes) offset bytes.length = bytes := by
  refine List.ext_getElem (by simp [slice]) fun i _ inside => ?_
  simp only [slice, List.getElem_map, List.getElem_range]
  rw [store, if_pos (Nat.le_add_right offset i), Nat.add_sub_cancel_left, List.getElem?_eq_getElem inside]
  rfl

theorem slice_congr {first second : Memory} {offset size : Nat}
    (same : ∀ i, i < offset + size → first i = second i) :
    slice first offset size = slice second offset size :=
  List.map_congr_left fun _ member => same _ (Nat.add_lt_add_left (List.mem_range.mp member) offset)

/-- Writing members leaves what is below them. -/
theorem write_below (declaration : Declaration F) (value : F → List Byte) (memory : Memory) {next i : Nat}
    (below : i < next) : write memory (layoutFrom declaration next) value i = memory i := by
  induction declaration generalizing memory next with
  | nil => rfl
  | cons member rest ih =>
      have first : i < alignUp next member.2.align :=
        Nat.lt_of_lt_of_le below (le_alignUp next member.2.align_pos)
      have later := ih (store memory (alignUp next member.2.align) (value member.1))
        (Nat.lt_of_lt_of_le below (next_le next member.2))
      exact later.trans (store_below memory _ first)

/-- **Every member holds its value after all have been written.** -/
theorem slice_write {declaration : Declaration F} {value : F → List Byte}
    (sizes : ∀ member ∈ declaration, (value member.1).length = member.2.size) (memory : Memory) {next : Nat}
    {member : Member F} (found : member ∈ layoutFrom declaration next) :
    slice (write memory (layoutFrom declaration next) value) member.offset member.type.size =
      value member.field := by
  induction declaration generalizing memory next with
  | nil => cases found
  | cons first rest ih =>
      rcases List.mem_cons.mp found with rfl | later
      · have stored := slice_store memory (alignUp next first.2.align) (value first.1)
        rw [sizes first (by simp)] at stored
        refine (slice_congr fun i below => ?_).trans stored
        exact write_below rest value _ below
      · exact ih (fun other member => sizes other (by simp [member])) _ later

/-! ### Numbers -/

/-- The bytes of a number, the least significant one first. -/
def lowBytes : Nat → Nat → List Byte
  | 0, _ => []
  | count + 1, number => BitVec.ofNat 8 number :: lowBytes count (number / 256)

/-- The number whose bytes these are. -/
def numberOf : List Byte → Nat
  | [] => 0
  | byte :: rest => byte.toNat + 256 * numberOf rest

/-- A number in memory. -/
def encode (count : Nat) {width : Nat} (number : BitVec width) : List Byte :=
  lowBytes count number.toNat

/-- A number from memory. -/
def decode (width : Nat) (bytes : List Byte) : BitVec width :=
  BitVec.ofNat width (numberOf bytes)

theorem length_lowBytes (count number : Nat) : (lowBytes count number).length = count := by
  induction count generalizing number with
  | zero => rfl
  | succ count ih => rw [lowBytes, List.length_cons, ih]

@[simp] theorem length_encode (count : Nat) {width : Nat} (number : BitVec width) :
    (encode count number).length = count :=
  length_lowBytes count number.toNat

theorem numberOf_lowBytes (count number : Nat) : numberOf (lowBytes count number) = number % 256 ^ count := by
  induction count generalizing number with
  | zero => exact (Nat.mod_one number).symm
  | succ count ih =>
      have split : 256 ^ (count + 1) = 256 * 256 ^ count := by rw [Nat.pow_succ, Nat.mul_comm]
      rw [lowBytes, numberOf, ih, BitVec.toNat_ofNat, split, Nat.mod_mul]

/-- Numbers of so many bytes survive. -/
theorem decode_encode {count width : Nat} (wide : 2 ^ width = 256 ^ count) (number : BitVec width) :
    decode width (encode count number) = number := by
  rw [decode, encode, numberOf_lowBytes, ← wide, Nat.mod_eq_of_lt number.isLt, BitVec.ofNat_toNat,
    BitVec.setWidth_eq]

@[simp] theorem decode_encode_8 (number : BitVec 8) : decode 8 (encode 1 number) = number :=
  decode_encode (by decide) number

@[simp] theorem decode_encode_16 (number : BitVec 16) : decode 16 (encode 2 number) = number :=
  decode_encode (by decide) number

@[simp] theorem decode_encode_32 (number : BitVec 32) : decode 32 (encode 4 number) = number :=
  decode_encode (by decide) number

@[simp] theorem decode_encode_64 (number : BitVec 64) : decode 64 (encode 8 number) = number :=
  decode_encode (by decide) number

/-- An array of bytes from memory. -/
def decodeArray (length : Nat) (bytes : List Byte) : Vector Byte length :=
  Vector.ofFn fun i => bytes.getD i 0

@[simp] theorem decodeArray_toList {length : Nat} (array : Vector Byte length) :
    decodeArray length array.toList = array := by
  apply Vector.ext
  intro i inside
  simp [decodeArray, List.getD]

/-! ### Records -/

/-- The values of a structure: the types of its members, and its members as bytes. -/
structure Record (F E : Type) where
  type : F → CType
  bytesOf : E → F → List Byte
  ofBytes : (F → List Byte) → E
  length_bytesOf : ∀ value field, (bytesOf value field).length = (type field).size
  ofBytes_bytesOf : ∀ value, ofBytes (bytesOf value) = value

/-- A declaration of the members of a record: each with its type, and none left out. -/
structure Declares {E : Type} (record : Record F E) (declaration : Declaration F) : Prop where
  types : ∀ member ∈ declaration, member.2 = record.type member.1
  complete : ∀ field, field ∈ declaration.map Prod.fst

/-- Load bytes from the first `dataSz` bytes. -/
def loadBytes (memory : Memory) (dataSz offset size : Nat) : Access (List Byte) :=
  if offset + size ≤ dataSz then .ok (slice memory offset size) else .error (.outOfBounds dataSz)

/-- Load every member. -/
def loadMembers (memory : Memory) (dataSz : Nat) : List (Member F) → Access (List (F × List Byte))
  | [] => .ok []
  | member :: rest => do
      let bytes ← loadBytes memory dataSz member.offset member.type.size
      let loaded ← loadMembers memory dataSz rest
      return (member.field, bytes) :: loaded

section Records

variable {E : Type} [DecidableEq F] (record : Record F E)

/-- Fill in a record where a declaration puts its members; the other bytes stay what they were. -/
def produce (declaration : Declaration F) (memory : Memory) (value : E) : Memory :=
  write memory (layout declaration) (record.bytesOf value)

/-- Read a record of `dataSz` bytes: none when it is shorter than the structure. -/
def consume (declaration : Declaration F) (memory : Memory) (dataSz : Nat) : Option (Access E) :=
  if dataSz < sizeof declaration then none
  else some do
    let loaded ← loadMembers memory dataSz (layout declaration)
    return record.ofBytes fun field => (loaded.lookup field).getD []

omit [DecidableEq F] in
theorem loadMembers_inside {memory : Memory} {dataSz : Nat} {members : List (Member F)}
    (inside : ∀ member ∈ members, member.offset + member.type.size ≤ dataSz) :
    loadMembers memory dataSz members =
      .ok (members.map fun member => (member.field, slice memory member.offset member.type.size)) := by
  induction members with
  | nil => rfl
  | cons member rest ih =>
      rw [loadMembers, loadBytes, if_pos (inside member (by simp)),
        ih fun other later => inside other (by simp [later])]
      rfl

/-- What a reader that accepts a record makes of it. -/
theorem consume_accepted {declaration : Declaration F} {dataSz : Nat}
    (accepted : sizeof declaration ≤ dataSz) (memory : Memory) :
    consume record declaration memory dataSz =
      some (.ok (record.ofBytes fun field => (((layout declaration).map fun member =>
        (member.field, slice memory member.offset member.type.size)).lookup field).getD [])) := by
  rw [consume, if_neg (Nat.not_lt_of_le accepted),
    loadMembers_inside fun member found => (member_inside found).trans accepted]
  rfl

/-- **No accepted read goes past the end of the data.** -/
theorem consume_inside {declaration : Declaration F} {dataSz : Nat}
    (accepted : sizeof declaration ≤ dataSz) (memory : Memory) :
    ∃ value, consume record declaration memory dataSz = some (.ok value) :=
  ⟨_, consume_accepted record accepted memory⟩

theorem consume_short {declaration : Declaration F} {dataSz : Nat} (short : dataSz < sizeof declaration)
    (memory : Memory) : consume record declaration memory dataSz = none :=
  if_pos short

theorem lookup_map_members {members : List (Member F)} {field : F} (value : F → List Byte)
    (present : field ∈ members.map Member.field) :
    (members.map fun member => (member.field, value member.field)).lookup field = some (value field) := by
  induction members with
  | nil => cases present
  | cons member rest ih =>
      rw [List.map_cons, List.lookup_cons]
      by_cases same : field = member.field
      · subst same
        simp
      · have later : field ∈ rest.map Member.field :=
          (List.mem_cons.mp present).resolve_left same
        rw [beq_eq_false_iff_ne.mpr same]
        exact ih later

omit [DecidableEq F] in
theorem fields_layoutFrom (declaration : Declaration F) (next : Nat) :
    (layoutFrom declaration next).map Member.field = declaration.map Prod.fst := by
  induction declaration generalizing next with
  | nil => rfl
  | cons member rest ih => rw [layoutFrom, List.map_cons, List.map_cons, ih]

/-- **A record that was filled in is read back**, whatever the memory held before. -/
theorem consume_produce {declaration : Declaration F} (declares : Declares record declaration) {dataSz : Nat}
    (accepted : sizeof declaration ≤ dataSz) (memory : Memory) (value : E) :
    consume record declaration (produce record declaration memory value) dataSz = some (.ok value) := by
  have sizes : ∀ member ∈ declaration, (record.bytesOf value member.1).length = member.2.size := by
    intro member found
    rw [record.length_bytesOf, declares.types member found]
  have members : ((layout declaration).map fun member => (member.field,
      slice (produce record declaration memory value) member.offset member.type.size)) =
      (layout declaration).map fun member => (member.field, record.bytesOf value member.field) :=
    List.map_congr_left fun member found => congrArg (Prod.mk member.field) (slice_write sizes memory found)
  have fields : (fun field => (((layout declaration).map fun member =>
      (member.field, record.bytesOf value member.field)).lookup field).getD []) = record.bytesOf value := by
    funext field
    have present : field ∈ (layout declaration).map Member.field := by
      rw [layout, fields_layoutFrom]
      exact declares.complete field
    rw [lookup_map_members _ present]
    rfl
  rw [consume_accepted record accepted, members, fields, record.ofBytes_bytesOf]

end Records

end CLayout
