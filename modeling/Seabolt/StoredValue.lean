import Seabolt.Values
import Seabolt.Lib.Blocks

/-!
# Values in memory

`struct BoltValue` as `values.c` lays it out: a header and a union that holds the payload
itself or a pointer to a block outside, which has characters or child values in it.

The functions return blocks with the sizes that they have in the header, and a block that
is returned with another size, or through a union that holds no pointer, has no result.
The invariant `Wf` ties the union and the child values to the header; under it
`_recycle` and `BoltValue_format_as_Null` return the blocks of all child values
(`Wf.clears`).

Sizes are below `2 ^ 25`, so that no computation with them overflows
(`Header.dataSize_lt`).  Allocations succeed.
-/

namespace Seabolt

/-- `sizeof(struct BoltValue)`. -/
def SIZE_OF_VALUE : Nat := 32

/-- The size of the union. -/
def SIZE_OF_DATA : Nat := 16

/-- The fields of a value before the union. -/
structure Header where
  type : BoltType
  subtype : Int16
  size : Nat
  data_size : Nat
  deriving DecidableEq, Repr

namespace Header

/-- The number of child values. -/
def childCount (header : Header) : Nat :=
  match header.type with
  | .list | .struct => header.size
  | .dictionary => 2 * header.size
  | _ => 0

/-- The physical size of a value, by its type and its logical size. -/
def dataSize (type : BoltType) (size : Nat) : Nat :=
  match type with
  | .null | .boolean | .integer | .float => 0
  | .string | .bytes => if size ≤ SIZE_OF_DATA then 0 else size
  | .list | .struct => SIZE_OF_VALUE * size
  | .dictionary => 2 * SIZE_OF_VALUE * size

/-- The header of a value of its type. -/
structure Wf (header : Header) : Prop where
  data_size : header.data_size = dataSize header.type header.size
  null : header.type = .null → header.size = 0
  scalar : header.type = .boolean ∨ header.type = .integer ∨ header.type = .float →
    header.size = 1
  subtype : header.type ≠ .struct → header.subtype = 0

/-- The header of Null. -/
def ofNull : Header := ⟨.null, 0, 0, 0⟩

/-- Only a value with children or with many characters has a block. -/
theorem Wf.data_size_cases {header : Header} (h : header.Wf) :
    header.data_size = 0 ∧ header.childCount = 0 ∨
    0 < header.data_size ∧ header.childCount = 0 ∧ header.data_size = header.size ∧
      SIZE_OF_DATA < header.size ∧ (header.type = .string ∨ header.type = .bytes) ∨
    0 < header.data_size ∧ 0 < header.childCount ∧
      header.data_size = SIZE_OF_VALUE * header.childCount := by
  have hsize := h.data_size
  unfold dataSize at hsize
  unfold childCount
  cases htype : header.type with
  | null | boolean | integer | float =>
    simp only [htype] at hsize ⊢
    exact .inl ⟨hsize, trivial⟩
  | string | bytes =>
    simp only [htype] at hsize ⊢
    by_cases hsmall : header.size ≤ SIZE_OF_DATA
    · rw [if_pos hsmall] at hsize
      exact .inl ⟨hsize, trivial⟩
    · rw [if_neg hsmall] at hsize
      refine .inr (.inl ⟨?_, trivial, hsize, Nat.lt_of_not_le hsmall, by simp⟩)
      omega
  | list | struct =>
    simp only [htype] at hsize ⊢
    rcases Nat.eq_zero_or_pos header.size with hzero | hpos
    · exact .inl ⟨by rw [hsize, hzero]; rfl, hzero⟩
    · refine .inr (.inr ⟨?_, hpos, hsize⟩)
      rw [hsize]
      exact Nat.mul_pos (by decide) hpos
  | dictionary =>
    simp only [htype] at hsize ⊢
    rcases Nat.eq_zero_or_pos header.size with hzero | hpos
    · exact .inl ⟨by rw [hsize, hzero, Nat.mul_zero], by rw [hzero]⟩
    · refine .inr (.inr ⟨?_, by omega, ?_⟩)
      · rw [hsize]
        exact Nat.mul_pos (by decide) hpos
      · rw [hsize]
        unfold SIZE_OF_VALUE
        omega

end Header

/-- `struct BoltValue`: with the payload in the union, with a pointer to characters, or
with a pointer to child values. -/
inductive StoredValue where
  | inline (header : Header) (data : List UInt8)
  | chars (header : Header) (pointer : Nat) (data : List UInt8)
  | values (header : Header) (pointer : Nat) (children : List StoredValue)
  deriving Repr

namespace StoredValue

/-- The header. -/
def header : StoredValue → Header
  | inline header _ => header
  | chars header _ _ => header
  | values header _ _ => header

@[simp] theorem header_inline (h : Header) (data : List UInt8) : (inline h data).header = h := rfl

@[simp] theorem header_chars (h : Header) (pointer : Nat) (data : List UInt8) :
    (chars h pointer data).header = h := rfl

@[simp] theorem header_values (h : Header) (pointer : Nat) (children : List StoredValue) :
    (values h pointer children).header = h := rfl

/-- Write the header. -/
def setHeader (header : Header) : StoredValue → StoredValue
  | inline _ data => inline header data
  | chars _ pointer data => chars header pointer data
  | values _ pointer children => values header pointer children

/-- A Null value, which is a value whose bytes are zero. -/
def zeroed : StoredValue := inline .ofNull (List.replicate SIZE_OF_DATA 0)

/-! ## Memory -/

/-- `BoltMem_adjust` of the block of a value to another size.  A new block has no contents
yet; one that changes its size keeps what is in it. -/
def adjust (value : StoredValue) (newSize : Nat) (blocks : Blocks) :
    Option (StoredValue × Blocks) :=
  let oldSize := value.header.data_size
  if newSize = oldSize then some (value, blocks)
  else if oldSize = 0 then
    let (pointer, blocks) := blocks.allocate newSize
    some (chars value.header pointer [], blocks)
  else
    match value with
    | inline _ _ => none
    | chars header pointer data =>
      if newSize = 0 then
        (blocks.deallocate pointer oldSize).map fun blocks =>
          (inline header (List.replicate SIZE_OF_DATA 0), blocks)
      else
        (blocks.reallocate pointer oldSize newSize).map fun (pointer, blocks) =>
          (chars header pointer (data.take newSize), blocks)
    | values header pointer children =>
      if newSize = 0 then
        (blocks.deallocate pointer oldSize).map fun blocks =>
          (inline header (List.replicate SIZE_OF_DATA 0), blocks)
      else
        (blocks.reallocate pointer oldSize newSize).map fun (pointer, blocks) =>
          (values header pointer (children.take (newSize / SIZE_OF_VALUE)), blocks)

/-- Write characters into the union. -/
def writeInline (data : List UInt8) : StoredValue → Option StoredValue
  | inline header old => some (inline header (memcpy old 0 data))
  | _ => none

/-- Write characters into the whole block. -/
def writeChars (data : List UInt8) : StoredValue → Option StoredValue
  | inline _ _ => none
  | chars header pointer _ => some (chars header pointer data)
  | values header pointer _ => some (chars header pointer data)

/-- `memset` with zero from a child value on, over the rest of the block. -/
def zeroFrom (index count : Nat) : StoredValue → Option StoredValue
  | inline header data => if count = 0 then some (inline header data) else none
  | chars header pointer _ =>
    if index = 0 then some (values header pointer (List.replicate count zeroed)) else none
  | values header pointer children =>
    some (values header pointer (children.take index ++ List.replicate count zeroed))

/-! ## Recycling -/

/-- The end of `_format` to Null, after `_recycle`. -/
def clear (value : StoredValue) (blocks : Blocks) : Option (StoredValue × Blocks) := do
  let (value, blocks) ← value.adjust 0 blocks
  some (value.setHeader .ofNull, blocks)

mutual

/-- `BoltValue_format_as_Null`. -/
def formatAsNull : StoredValue → Blocks → Option (StoredValue × Blocks)
  | inline header data, blocks =>
    if header.type = .null then some (inline header data, blocks)
    else if header.childCount = 0 then clear (inline header data) blocks
    else none
  | chars header pointer data, blocks =>
    if header.type = .null then some (chars header pointer data, blocks)
    else if header.childCount = 0 then clear (chars header pointer data) blocks
    else none
  | values header pointer children, blocks =>
    if header.type = .null then some (values header pointer children, blocks)
    else do
      let (children, blocks) ← formatFirst (header.childCount) children blocks
      clear (values header pointer children) blocks

/-- `BoltValue_format_as_Null` for the first child values. -/
def formatFirst : Nat → List StoredValue → Blocks → Option (List StoredValue × Blocks)
  | 0, children, blocks => some (children, blocks)
  | _ + 1, [], _ => none
  | n + 1, child :: children, blocks => do
    let (child, blocks) ← formatAsNull child blocks
    let (children, blocks) ← formatFirst n children blocks
    some (child :: children, blocks)

end

/-- `_recycle`. -/
def recycle (value : StoredValue) (blocks : Blocks) : Option (StoredValue × Blocks) :=
  match value with
  | values header pointer children => do
    let (children, blocks) ← formatFirst (header.childCount) children blocks
    some (values header pointer children, blocks)
  | _ => if value.header.childCount = 0 then some (value, blocks) else none

/-! ## Formatting -/

/-- `_format` without data. -/
def format (value : StoredValue) (type : BoltType) (size : Nat) (blocks : Blocks) :
    Option (StoredValue × Blocks) := do
  let (value, blocks) ← value.recycle blocks
  let (value, blocks) ← value.adjust 0 blocks
  some (value.setHeader ⟨type, 0, size, 0⟩, blocks)

/-- `_format` without data, and the payload written into the union. -/
def formatInline (value : StoredValue) (type : BoltType) (size : Nat) (data : List UInt8)
    (blocks : Blocks) : Option (StoredValue × Blocks) := do
  let (value, blocks) ← value.format type size blocks
  let value ← value.writeInline data
  some (value, blocks)

/-- `_format` with data that does not fit into the union.  If the data is NULL, `data` is
what the block happens to hold. -/
def formatData (value : StoredValue) (type : BoltType) (data : List UInt8) (blocks : Blocks) :
    Option (StoredValue × Blocks) := do
  let (value, blocks) ← value.recycle blocks
  let (value, blocks) ← value.adjust data.length blocks
  let value ← value.writeChars data
  some (value.setHeader ⟨type, 0, data.length, data.length⟩, blocks)

/-- `_format_as_structure`, and what the functions for lists and dictionaries do with a
value of another type. -/
def formatValues (value : StoredValue) (type : BoltType) (subtype : Int16) (size multiplier : Nat)
    (blocks : Blocks) : Option (StoredValue × Blocks) := do
  let (value, blocks) ← value.recycle blocks
  let (value, blocks) ← value.adjust (multiplier * SIZE_OF_VALUE * size) blocks
  let value ← value.zeroFrom 0 (multiplier * size)
  some (value.setHeader ⟨type, subtype, size, multiplier * SIZE_OF_VALUE * size⟩, blocks)

/-- `_resize`. -/
def resize (value : StoredValue) (size multiplier : Nat) (blocks : Blocks) :
    Option (StoredValue × Blocks) :=
  let newSize := multiplier * SIZE_OF_VALUE * size
  if size > value.header.size then do
    let oldSize := value.header.data_size
    let (value, blocks) ← value.adjust newSize blocks
    let value ← value.zeroFrom (oldSize / SIZE_OF_VALUE) ((newSize - oldSize) / SIZE_OF_VALUE)
    some (value.setHeader { value.header with size := size, data_size := newSize }, blocks)
  else if size < value.header.size then
    match value with
    | values header pointer children => do
      let (last, blocks) ← formatFirst (multiplier * header.size - multiplier * size)
        (children.drop (multiplier * size)) blocks
      let value := values header pointer (children.take (multiplier * size) ++ last)
      let (value, blocks) ← value.adjust newSize blocks
      some (value.setHeader { value.header with size := size, data_size := newSize }, blocks)
    | _ => none
  else some (value, blocks)

/-- `BoltValue_format_as_Boolean`. -/
def formatAsBoolean (data : UInt8) (value : StoredValue) (blocks : Blocks) :
    Option (StoredValue × Blocks) :=
  value.formatInline .boolean 1 [data] blocks

/-- `BoltValue_format_as_Integer`. -/
def formatAsInteger (data : Int64) (value : StoredValue) (blocks : Blocks) :
    Option (StoredValue × Blocks) :=
  value.formatInline .integer 1 (ByteOrder.leBytes 8 (ByteOrder.unsigned 8 data.toInt)) blocks

/-- `BoltValue_format_as_Float`, on the bit pattern of the double. -/
def formatAsFloat (data : UInt64) (value : StoredValue) (blocks : Blocks) :
    Option (StoredValue × Blocks) :=
  value.formatInline .float 1 (ByteOrder.leBytes 8 data.toNat) blocks

/-- `BoltValue_format_as_String`.  If the data is NULL, `data` is what the characters
happen to be. -/
def formatAsString (data : List UInt8) (value : StoredValue) (blocks : Blocks) :
    Option (StoredValue × Blocks) :=
  if data.length ≤ SIZE_OF_DATA then value.formatInline .string data.length data blocks
  else if value.header.type = .string then do
    let (value, blocks) ← value.adjust data.length blocks
    let value ← value.writeChars data
    let header := { value.header with size := data.length, data_size := data.length }
    some (value.setHeader header, blocks)
  else value.formatData .string data blocks

/-- `BoltValue_format_as_Bytes`, with the same for the data. -/
def formatAsBytes (data : List UInt8) (value : StoredValue) (blocks : Blocks) :
    Option (StoredValue × Blocks) :=
  if data.length ≤ SIZE_OF_DATA then value.formatInline .bytes data.length data blocks
  else value.formatData .bytes data blocks

/-- `BoltList_resize`. -/
def listResize (size : Nat) (value : StoredValue) (blocks : Blocks) :
    Option (StoredValue × Blocks) :=
  value.resize size 1 blocks

/-- `BoltValue_format_as_List`. -/
def formatAsList (length : Nat) (value : StoredValue) (blocks : Blocks) :
    Option (StoredValue × Blocks) :=
  if value.header.type = .list then value.listResize length blocks
  else value.formatValues .list 0 length 1 blocks

/-- `BoltValue_format_as_Dictionary`. -/
def formatAsDictionary (length : Nat) (value : StoredValue) (blocks : Blocks) :
    Option (StoredValue × Blocks) :=
  if value.header.type = .dictionary then value.resize length 2 blocks
  else value.formatValues .dictionary 0 length 2 blocks

/-- `BoltValue_format_as_Structure`. -/
def formatAsStructure (code : Int16) (length : Nat) (value : StoredValue) (blocks : Blocks) :
    Option (StoredValue × Blocks) :=
  value.formatValues .struct code length 1 blocks

/-! ## Accessors -/

/-- The bytes that are read through the union, of a value that holds its payload
itself. -/
def inlineData : StoredValue → List UInt8
  | inline _ data => data
  | _ => []

/-- `BoltBoolean_get`. -/
def booleanGet (value : StoredValue) : UInt8 := BoltValue.toBit (value.inlineData.headD 0)

/-- `BoltInteger_get`. -/
def integerGet (value : StoredValue) : Int64 :=
  .ofInt (ByteOrder.signed 8 (ByteOrder.leValue (value.inlineData.take 8)))

/-- `BoltFloat_get`, the bit pattern of the double. -/
def floatGet (value : StoredValue) : UInt64 :=
  .ofNat (ByteOrder.leValue (value.inlineData.take 8))

/-- The characters behind `BoltString_get` or `BoltBytes_get_all`, as many as the size
says. -/
def charsGet (value : StoredValue) : List UInt8 :=
  if value.header.size ≤ SIZE_OF_DATA then value.inlineData.take value.header.size
  else
    match value with
    | chars header _ data => data.take header.size
    | _ => []

/-- The child values behind `BoltList_value`, `BoltStructure_value`, `BoltDictionary_key` and
`BoltDictionary_value`. -/
def children : StoredValue → List StoredValue
  | values _ _ children => children
  | _ => []

/-- Put other child values into the block. -/
def setChildren (children : List StoredValue) : StoredValue → StoredValue
  | values header pointer _ => values header pointer children
  | value => value

/-! ## Copying -/

/-- The `switch` of `BoltValue_copy`, without its loops over child values. -/
def formatLike (src dest : StoredValue) (blocks : Blocks) : Option (StoredValue × Blocks) :=
  match src.header.type with
  | .null => dest.formatAsNull blocks
  | .boolean => dest.formatAsBoolean src.booleanGet blocks
  | .integer => dest.formatAsInteger src.integerGet blocks
  | .float => dest.formatAsFloat src.floatGet blocks
  | .string => dest.formatAsString src.charsGet blocks
  | .dictionary => dest.formatAsDictionary src.header.size blocks
  | .list => dest.formatAsList src.header.size blocks
  | .bytes => dest.formatAsBytes src.charsGet blocks
  | .struct => dest.formatAsStructure src.header.subtype src.header.size blocks

mutual

/-- `BoltValue_copy`. -/
def copy : StoredValue → StoredValue → Blocks → Option (StoredValue × Blocks)
  | inline header data, dest, blocks => do
    let (dest, blocks) ← dest.recycle blocks
    let (dest, blocks) ← formatLike (inline header data) dest blocks
    if header.childCount = 0 then some (dest, blocks) else none
  | chars header pointer data, dest, blocks => do
    let (dest, blocks) ← dest.recycle blocks
    let (dest, blocks) ← formatLike (chars header pointer data) dest blocks
    if header.childCount = 0 then some (dest, blocks) else none
  | values header pointer srcs, dest, blocks => do
    let (dest, blocks) ← dest.recycle blocks
    let (dest, blocks) ← formatLike (values header pointer srcs) dest blocks
    let (dests, blocks) ← copyFirst (header.childCount) srcs dest.children blocks
    some (dest.setChildren dests, blocks)

/-- The loops of `BoltValue_copy`, over the first child values. -/
def copyFirst : Nat → List StoredValue → List StoredValue → Blocks →
    Option (List StoredValue × Blocks)
  | 0, _, dests, blocks => some (dests, blocks)
  | n + 1, src :: srcs, dest :: dests, blocks => do
    let (dest, blocks) ← copy src dest blocks
    let (dests, blocks) ← copyFirst n srcs dests blocks
    some (dest :: dests, blocks)
  | _ + 1, _, _, _ => none

end

/-! ## The invariant -/

/-- The union fits the header. -/
def Fits : StoredValue → Prop
  | inline header data => header.data_size = 0 ∧ data.length = SIZE_OF_DATA
  | chars header _ data => 0 < header.data_size ∧ header.childCount = 0 ∧
      data.length = header.data_size
  | values header _ children => 0 < header.data_size ∧ 0 < header.childCount ∧
      children.length = header.childCount

/-- The invariant of a value and of its child values. -/
inductive Wf : StoredValue → Prop where
  | intro (value : StoredValue) (header : value.header.Wf) (fits : value.Fits)
      (children : ∀ child ∈ value.children, Wf child) : Wf value

mutual

/-- The blocks of a value and its child values, with the sizes in the headers. -/
def owned : StoredValue → List (Nat × Nat)
  | inline _ _ => []
  | chars header pointer _ => [(pointer, header.data_size)]
  | values header pointer children => (pointer, header.data_size) :: ownedBy children

/-- The blocks of child values. -/
def ownedBy : List StoredValue → List (Nat × Nat)
  | [] => []
  | child :: children => owned child ++ ownedBy children

end

/-- The block of a value itself, as one of a given size. -/
def block (size : Nat) : StoredValue → List (Nat × Nat)
  | inline _ _ => []
  | chars _ pointer _ => [(pointer, size)]
  | values _ pointer _ => [(pointer, size)]

theorem owned_eq (value : StoredValue) :
    value.owned = value.block value.header.data_size ++ ownedBy value.children := by
  cases value with
  | inline header data => rfl
  | chars header pointer data => rfl
  | values header pointer children => rfl

@[simp] theorem ownedBy_append (first second : List StoredValue) :
    ownedBy (first ++ second) = ownedBy first ++ ownedBy second := by
  induction first with
  | nil => rfl
  | cons child first ih => rw [List.cons_append, ownedBy, ownedBy, ih, List.append_assoc]

variable {value dest : StoredValue} {header : Header} {blocks : Blocks} {frame : List (Nat × Nat)}

@[simp] theorem header_setHeader : (value.setHeader header).header = header := by
  cases value <;> rfl

@[simp] theorem children_setHeader : (value.setHeader header).children = value.children := by
  cases value <;> rfl

@[simp] theorem block_setHeader (size : Nat) :
    (value.setHeader header).block size = value.block size := by
  cases value <;> rfl

/-- A Null value. -/
def IsNull (value : StoredValue) : Prop :=
  ∃ data, value = inline .ofNull data ∧ data.length = SIZE_OF_DATA

theorem isNull_zeroed : zeroed.IsNull := ⟨_, rfl, by simp⟩

theorem IsNull.owned (h : value.IsNull) : value.owned = [] := by
  obtain ⟨data, rfl, -⟩ := h
  rfl

theorem ownedBy_null {children : List StoredValue} (h : ∀ child ∈ children, child.IsNull) :
    ownedBy children = [] := by
  induction children with
  | nil => rfl
  | cons child children ih =>
    obtain ⟨hchild, hrest⟩ := List.forall_mem_cons.mp h
    rw [ownedBy, hchild.owned, ih hrest]
    rfl

theorem IsNull.wf (h : value.IsNull) : value.Wf := by
  obtain ⟨data, rfl, hlength⟩ := h
  refine .intro _ ⟨rfl, fun _ => rfl, fun hscalar => ?_, fun _ => rfl⟩ ⟨rfl, hlength⟩
    fun _ hmem => absurd hmem List.not_mem_nil
  rcases hscalar with h | h | h <;> cases h

/-- A value of type Null is Null. -/
theorem Wf.isNull (h : value.Wf) (htype : value.header.type = .null) : value.IsNull := by
  obtain ⟨_, hheader, hfits, -⟩ := h
  have hsize := hheader.null htype
  have hsubtype := hheader.subtype (by rw [htype]; decide)
  have hdata := hheader.data_size
  rw [htype] at hdata
  have hnull : value.header = .ofNull := by
    cases hvalue : value.header
    rw [hvalue] at htype hsize hsubtype hdata
    simp only at htype hsize hsubtype hdata
    subst htype hsize hsubtype
    rw [hdata]
    rfl
  cases value with
  | inline header data => exact ⟨data, by rw [show header = .ofNull from hnull], hfits.2⟩
  | chars header pointer data =>
    have hpos := hfits.1
    rw [show header.data_size = 0 from hdata] at hpos
    exact absurd hpos (Nat.lt_irrefl 0)
  | values header pointer children =>
    have hpos := hfits.1
    rw [show header.data_size = 0 from hdata] at hpos
    exact absurd hpos (Nat.lt_irrefl 0)

/-! ## Blocks -/

open Blocks

/-- The payload is in the union exactly if the header says that there is no block, and a
block of child values has their size. -/
def Backed : StoredValue → Prop
  | inline header data => header.data_size = 0 ∧ data.length = SIZE_OF_DATA
  | chars header _ _ => 0 < header.data_size
  | values header _ children => 0 < header.data_size ∧
      SIZE_OF_VALUE * children.length = header.data_size

theorem Fits.backed (h : value.Fits) (hheader : value.header.Wf) : value.Backed := by
  cases value with
  | inline header data => exact h
  | chars header pointer data => exact h.1
  | values header pointer children =>
    refine ⟨h.1, ?_⟩
    have hcount : 0 < header.childCount := h.2.1
    rcases hheader.data_size_cases with ⟨-, hnone⟩ | ⟨-, hnone, -⟩ | ⟨-, -, hsize⟩
    · exact absurd hcount (Nat.not_lt.mpr (Nat.le_of_eq hnone))
    · exact absurd hcount (Nat.not_lt.mpr (Nat.le_of_eq hnone))
    · rw [h.2.2]
      exact hsize.symm

/-- What `BoltMem_adjust` makes of the union. -/
def Adjusted (value : StoredValue) (newSize : Nat) (value' : StoredValue) : Prop :=
  newSize = 0 ∧ (∃ data, value' = inline value.header data ∧ data.length = SIZE_OF_DATA) ∨
  0 < newSize ∧ value.children = [] ∧ (∃ pointer data, value' = chars value.header pointer data) ∨
  0 < newSize ∧
    ∃ pointer, value' = values value.header pointer (value.children.take (newSize / SIZE_OF_VALUE))

/-- `BoltMem_adjust` returns the block with its size. -/
theorem adjust_spec (h : value.Backed) (newSize : Nat)
    (haccount : Account blocks (value.block value.header.data_size ++ frame)) :
    ∃ value' blocks', value.adjust newSize blocks = some (value', blocks') ∧
      value.Adjusted newSize value' ∧ Account blocks' (value'.block newSize ++ frame) := by
  unfold adjust
  dsimp only
  by_cases hsame : newSize = value.header.data_size
  · rw [if_pos hsame]
    refine ⟨value, blocks, rfl, ?_, hsame ▸ haccount⟩
    cases value with
    | inline header data => exact .inl ⟨hsame.trans h.1, data, rfl, h.2⟩
    | chars header pointer data =>
      have hpos : 0 < newSize := hsame ▸ h
      exact .inr (.inl ⟨hpos, rfl, pointer, data, rfl⟩)
    | values header pointer children =>
      have hpos : 0 < newSize := hsame ▸ h.1
      have hsize : newSize = SIZE_OF_VALUE * children.length := hsame.trans h.2.symm
      have hlength : newSize / SIZE_OF_VALUE = children.length := by
        rw [hsize]
        exact Nat.mul_div_cancel_left _ (by decide)
      refine .inr (.inr ⟨hpos, pointer, ?_⟩)
      rw [hlength]
      exact (congrArg (values header pointer) (List.take_length (l := children))).symm
  rw [if_neg hsame]
  by_cases hnone : value.header.data_size = 0
  · have hpos : 0 < newSize := by omega
    rw [if_pos hnone]
    cases value with
    | inline header data =>
      exact ⟨_, _, rfl, .inr (.inl ⟨hpos, rfl, _, _, rfl⟩), haccount.allocate newSize⟩
    | chars header pointer data => exact absurd hnone (Nat.pos_iff_ne_zero.mp h)
    | values header pointer children => exact absurd hnone (Nat.pos_iff_ne_zero.mp h.1)
  rw [if_neg hnone]
  cases value with
  | inline header data => exact absurd h.1 hnone
  | chars header pointer data =>
    by_cases hzero : newSize = 0
    · obtain ⟨freed, hfree, hfreed⟩ := Account.deallocate haccount
      refine ⟨inline header (List.replicate SIZE_OF_DATA 0), freed, ?_, ?_, hfreed⟩
      · dsimp only
        rw [if_pos hzero, hfree, Option.map_some]
      · exact .inl ⟨hzero, _, rfl, by simp⟩
    · obtain ⟨pointer', moved, hmove, hmoved⟩ := Account.reallocate haccount newSize
      refine ⟨chars header pointer' (data.take newSize), moved, ?_, ?_, hmoved⟩
      · dsimp only
        rw [if_neg hzero, hmove, Option.map_some]
      · exact .inr (.inl ⟨Nat.pos_of_ne_zero hzero, rfl, _, _, rfl⟩)
  | values header pointer children =>
    by_cases hzero : newSize = 0
    · obtain ⟨freed, hfree, hfreed⟩ := Account.deallocate haccount
      refine ⟨inline header (List.replicate SIZE_OF_DATA 0), freed, ?_, ?_, hfreed⟩
      · dsimp only
        rw [if_pos hzero, hfree, Option.map_some]
      · exact .inl ⟨hzero, _, rfl, by simp⟩
    · obtain ⟨pointer', moved, hmove, hmoved⟩ := Account.reallocate haccount newSize
      refine ⟨values header pointer' (children.take (newSize / SIZE_OF_VALUE)), moved, ?_, ?_,
        hmoved⟩
      · dsimp only
        rw [if_neg hzero, hmove, Option.map_some]
      · exact .inr (.inr ⟨Nat.pos_of_ne_zero hzero, _, rfl⟩)

/-! ## Recycling gives every block of the children back -/

/-- `BoltValue_format_as_Null` of the value gives all its blocks back. -/
def Clears (value : StoredValue) : Prop :=
  ∀ blocks frame, Account blocks (value.owned ++ frame) →
    ∃ value' blocks', value.formatAsNull blocks = some (value', blocks') ∧ value'.IsNull ∧
      Account blocks' frame

theorem formatFirst_spec {children : List StoredValue} (h : ∀ child ∈ children, child.Clears) :
    ∀ {blocks frame}, Account blocks (ownedBy children ++ frame) →
      ∃ children' blocks', formatFirst children.length children blocks = some (children', blocks') ∧
        children'.length = children.length ∧ (∀ child ∈ children', child.IsNull) ∧
        Account blocks' frame := by
  induction children with
  | nil =>
    intro blocks frame haccount
    exact ⟨[], blocks, rfl, rfl, fun _ hmem => absurd hmem List.not_mem_nil, haccount⟩
  | cons child children ih =>
    intro blocks frame haccount
    obtain ⟨hchild, hchildren⟩ := List.forall_mem_cons.mp h
    rw [ownedBy, List.append_assoc] at haccount
    obtain ⟨child', blocks1, hformat, hnull, haccount1⟩ := hchild blocks _ haccount
    obtain ⟨children', blocks2, hrest, hlength, hnulls, haccount2⟩ := ih hchildren haccount1
    refine ⟨child' :: children', blocks2, ?_, by simp [hlength], ?_, haccount2⟩
    · simp only [List.length_cons, formatFirst, Option.bind_eq_bind, hformat, hrest,
        Option.bind_some]
    · exact List.forall_mem_cons.mpr ⟨hnull, hnulls⟩

/-- A value whose child values are Null. -/
structure Recycled (value value' : StoredValue) : Prop where
  header : value'.header = value.header
  fits : value'.Fits
  nulls : ∀ child ∈ value'.children, child.IsNull

theorem recycle_spec (hheader : value.header.Wf) (hfits : value.Fits)
    (h : ∀ child ∈ value.children, child.Clears)
    (haccount : Account blocks (value.owned ++ frame)) :
    ∃ value' blocks', value.recycle blocks = some (value', blocks') ∧ value.Recycled value' ∧
      Account blocks' (value'.block value.header.data_size ++ frame) := by
  cases value with
  | inline header data =>
    have hcount : header.childCount = 0 := by
      have hzero : header.data_size = 0 := hfits.1
      rcases hheader.data_size_cases with ⟨-, hnone⟩ | ⟨hpos, -⟩ | ⟨hpos, -⟩
      · exact hnone
      · exact absurd hzero (Nat.pos_iff_ne_zero.mp hpos)
      · exact absurd hzero (Nat.pos_iff_ne_zero.mp hpos)
    exact ⟨_, _, if_pos hcount, ⟨rfl, hfits, fun _ hmem => absurd hmem List.not_mem_nil⟩, haccount⟩
  | chars header pointer data =>
    exact ⟨_, _, if_pos hfits.2.1, ⟨rfl, hfits, fun _ hmem => absurd hmem List.not_mem_nil⟩,
      haccount⟩
  | values header pointer children =>
    have hreorder : (owned (values header pointer children) ++ frame).Perm
        (ownedBy children ++ ((pointer, header.data_size) :: frame)) := by
      rw [owned, List.cons_append]
      exact List.perm_middle.symm
    have hclears : ∀ child ∈ children, child.Clears := h
    obtain ⟨children', blocks', hformat, hlength, hnulls, haccount'⟩ :=
      formatFirst_spec hclears (haccount.perm hreorder)
    have hcount : children.length = header.childCount := hfits.2.2
    rw [hcount] at hformat hlength
    refine ⟨values header pointer children', blocks', ?_,
      ⟨rfl, ⟨hfits.1, hfits.2.1, hlength⟩, hnulls⟩,
      haccount'⟩
    simp only [recycle, Option.bind_eq_bind, hformat, Option.bind_some]

theorem formatAsNull_eq (value : StoredValue) (blocks : Blocks) :
    value.formatAsNull blocks =
      if value.header.type = .null then some (value, blocks) else value.format .null 0 blocks := by
  by_cases htype : value.header.type = .null
  · rw [if_pos htype]
    cases value <;> exact if_pos htype
  rw [if_neg htype]
  cases value with
  | inline header data =>
    have hnot : ¬header.type = .null := htype
    by_cases hcount : header.childCount = 0
    · have hrecycle : recycle (inline header data) blocks = some (inline header data, blocks) :=
        if_pos hcount
      simp only [formatAsNull, format, clear, if_neg hnot, if_pos hcount, hrecycle,
        Option.bind_eq_bind, Option.bind_some, Header.ofNull]
    · have hrecycle : recycle (inline header data) blocks = none := if_neg hcount
      simp only [formatAsNull, format, if_neg hnot, if_neg hcount, hrecycle, Option.bind_eq_bind,
        Option.bind_none]
  | chars header pointer data =>
    have hnot : ¬header.type = .null := htype
    by_cases hcount : header.childCount = 0
    · have hrecycle : recycle (chars header pointer data) blocks =
          some (chars header pointer data, blocks) := if_pos hcount
      simp only [formatAsNull, format, clear, if_neg hnot, if_pos hcount, hrecycle,
        Option.bind_eq_bind, Option.bind_some, Header.ofNull]
    · have hrecycle : recycle (chars header pointer data) blocks = none := if_neg hcount
      simp only [formatAsNull, format, if_neg hnot, if_neg hcount, hrecycle, Option.bind_eq_bind,
        Option.bind_none]
  | values header pointer children =>
    have hnot : ¬header.type = .null := htype
    simp only [formatAsNull, format, recycle, clear, if_neg hnot, Option.bind_eq_bind,
      Option.bind_assoc, Option.bind_some, Header.ofNull]

/-- `_format` without data gives every block back. -/
theorem format_of_recycle {value' : StoredValue} {blocks' : Blocks} (hheader : value.header.Wf)
    (hrecycle : value.recycle blocks = some (value', blocks')) (h : value.Recycled value')
    (haccount : Account blocks' (value'.block value.header.data_size ++ frame))
    (type : BoltType) (size : Nat) :
    ∃ data blocks'',
      value.format type size blocks = some (inline ⟨type, 0, size, 0⟩ data, blocks'') ∧
      data.length = SIZE_OF_DATA ∧ Account blocks'' frame := by
  rw [← h.header] at haccount
  obtain ⟨adjusted, blocks'', hadjust, hcases, haccount'⟩ :=
    adjust_spec (h.fits.backed (h.header ▸ hheader)) 0 haccount
  rcases hcases with ⟨-, data, rfl, hlength⟩ | ⟨hpos, -⟩ | ⟨hpos, -⟩
  · refine ⟨data, blocks'', ?_, hlength, haccount'⟩
    simp only [format, Option.bind_eq_bind, hrecycle, Option.bind_some, hadjust, setHeader]
  · exact absurd hpos (Nat.lt_irrefl 0)
  · exact absurd hpos (Nat.lt_irrefl 0)

theorem Wf.clears (h : value.Wf) : value.Clears := by
  induction h with
  | intro value hheader hfits hchildren ih =>
    intro blocks frame haccount
    rw [formatAsNull_eq]
    by_cases htype : value.header.type = .null
    · have hnull := (Wf.intro value hheader hfits hchildren).isNull htype
      rw [if_pos htype]
      rw [hnull.owned] at haccount
      exact ⟨value, blocks, rfl, hnull, haccount⟩
    · obtain ⟨value', blocks1, hrecycle, hrecycled, haccount1⟩ :=
        recycle_spec hheader hfits ih haccount
      obtain ⟨data, blocks2, hformat, hlength, haccount2⟩ :=
        format_of_recycle hheader hrecycle hrecycled haccount1 .null 0
      rw [if_neg htype]
      exact ⟨_, blocks2, hformat, ⟨data, rfl, hlength⟩, haccount2⟩

theorem Wf.header_wf (h : value.Wf) : value.header.Wf := by
  cases h
  assumption

theorem Wf.fits (h : value.Wf) : value.Fits := by
  cases h
  assumption

theorem Wf.children (h : value.Wf) : ∀ child ∈ value.children, child.Wf := by
  cases h
  assumption

/-- `_recycle`. -/
theorem Wf.recycle (h : value.Wf) (haccount : Account blocks (value.owned ++ frame)) :
    ∃ value' blocks', value.recycle blocks = some (value', blocks') ∧ value.Recycled value' ∧
      Account blocks' (value'.block value.header.data_size ++ frame) :=
  recycle_spec h.header_wf h.fits (fun child hchild => (h.children child hchild).clears) haccount

/-- A recycled value is a value with Null children. -/
theorem Recycled.wf {value' : StoredValue} (h : value.Recycled value') (hheader : value.header.Wf) :
    value'.Wf :=
  .intro value' (h.header ▸ hheader) h.fits fun child hchild => (h.nulls child hchild).wf

/-- `_format` without data. -/
theorem Wf.format (h : value.Wf) (haccount : Account blocks (value.owned ++ frame))
    (type : BoltType) (size : Nat) :
    ∃ data blocks', value.format type size blocks = some (inline ⟨type, 0, size, 0⟩ data, blocks') ∧
      data.length = SIZE_OF_DATA ∧ Account blocks' frame := by
  obtain ⟨value', blocks', hrecycle, hrecycled, haccount'⟩ := h.recycle haccount
  exact format_of_recycle h.header_wf hrecycle hrecycled haccount' type size

end StoredValue

end Seabolt
