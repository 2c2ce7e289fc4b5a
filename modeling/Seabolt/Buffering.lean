import Seabolt.Memory

/-!
# `BoltBuffer`

The growable byte buffer of `buffering.c`: a block of `size` bytes, of which
those between `cursor` and `extent` are loaded and not yet unloaded.

`BoltBuffer.content` is the queue of bytes that the buffer stands for and
`BoltBuffer.Wf` the invariant of its three indexes.  Every operation has one
lemma that says what it does to the content, and the modules above use these
lemmas only.  The `int` fields are natural numbers: a buffer stays below
`2 ^ 31` bytes.
-/

namespace Seabolt

/-- `struct BoltBuffer`. -/
structure BoltBuffer where
  size : Nat
  extent : Nat
  cursor : Nat
  data : List UInt8
  deriving DecidableEq, Repr

namespace BoltBuffer

/-- The bytes that are loaded and not yet unloaded, in order. -/
def content (b : BoltBuffer) : List UInt8 := (b.data.take b.extent).drop b.cursor

/-- `0 ≤ cursor ≤ extent ≤ size`, and the block has `size` bytes. -/
structure Wf (b : BoltBuffer) : Prop where
  cursor_le : b.cursor ≤ b.extent
  extent_le : b.extent ≤ b.size
  length_data : b.data.length = b.size

/-! ## Operations -/

/-- `BoltBuffer_create`.  The fresh block is indeterminate; the model fills it
with zeros, as it does with the bytes that a larger block gains. -/
def create (size : Nat) : BoltBuffer :=
  { size := size, extent := 0, cursor := 0, data := List.replicate size 0 }

/-- `BoltBuffer_compact`. -/
def compact (b : BoltBuffer) : BoltBuffer :=
  if 0 < b.cursor then
    if b.extent - b.cursor < b.cursor then
      { b with
        data := memcpy b.data 0 ((b.data.drop b.cursor).take (b.extent - b.cursor))
        cursor := 0
        extent := b.extent - b.cursor }
    else b
  else b

/-- `BoltBuffer_loadable`. -/
def loadable (b : BoltBuffer) : Nat := b.size - b.extent

/-- `BoltBuffer_load_pointer`: reserve `size` bytes and return their index in
the block. -/
def loadPointer (b : BoltBuffer) (size : Nat) : Nat × BoltBuffer :=
  let available := b.loadable
  let grown :=
    if size > available then
      let newSize := b.size + (size - available)
      { b with data := b.data ++ List.replicate (newSize - b.size) 0, size := newSize }
    else b
  (grown.extent, { grown with extent := grown.extent + size })

/-- Write through a pointer that `loadPointer` returned. -/
def write (b : BoltBuffer) (target : Nat) (bytes : List UInt8) : BoltBuffer :=
  { b with data := memcpy b.data target bytes }

/-- `BoltBuffer_load`. -/
def load (b : BoltBuffer) (bytes : List UInt8) : BoltBuffer :=
  let (target, b) := b.loadPointer bytes.length
  b.write target bytes

/-- The typed loads: the object representation, copied with `memcpy_be`. -/
def loadBe (n : Nat) (b : BoltBuffer) (x : Int) : BoltBuffer :=
  b.load (beBytes n (ByteOrder.unsigned n x))

/-- `BoltBuffer_load_u8`. -/
def loadU8 (b : BoltBuffer) (x : UInt8) : BoltBuffer := b.load [x]

/-- `BoltBuffer_load_i8`. -/
def loadI8 : BoltBuffer → Int → BoltBuffer := loadBe 1

/-- `BoltBuffer_load_u16be`. -/
def loadU16be : BoltBuffer → Int → BoltBuffer := loadBe 2

/-- `BoltBuffer_load_i16be`. -/
def loadI16be : BoltBuffer → Int → BoltBuffer := loadBe 2

/-- `BoltBuffer_load_i32be`. -/
def loadI32be : BoltBuffer → Int → BoltBuffer := loadBe 4

/-- `BoltBuffer_load_i64be`. -/
def loadI64be : BoltBuffer → Int → BoltBuffer := loadBe 8

/-- `BoltBuffer_load_f64be`, on the bit pattern of the double. -/
def loadF64be (b : BoltBuffer) (x : UInt64) : BoltBuffer := loadBe 8 b x.toNat

/-- `BoltBuffer_unloadable`. -/
def unloadable (b : BoltBuffer) : Nat := b.extent - b.cursor

/-- `BoltBuffer_unload_pointer`: the index of the bytes in the block, or
`none` when fewer than `size` are loaded. -/
def unloadPointer (b : BoltBuffer) (size : Nat) : Option Nat × BoltBuffer :=
  if size > b.unloadable then (none, b)
  else
    let cursor := b.cursor + size
    if cursor = b.extent then (some b.cursor, { b with extent := 0, cursor := 0 })
    else (some b.cursor, { b with cursor := cursor })

/-- `BoltBuffer_unload` of a non-negative size; `none` stands for the result
`-1`, which leaves the buffer alone. -/
def unload (b : BoltBuffer) (size : Nat) : Option (List UInt8 × BoltBuffer) :=
  if size > b.unloadable then none
  else
    let bytes := (b.data.drop b.cursor).take size
    let b := { b with cursor := b.cursor + size }
    some (bytes, if b.cursor = b.extent then b.compact else b)

/-- `BoltBuffer_peek_u8`. -/
def peekU8 (b : BoltBuffer) : Option UInt8 :=
  if b.unloadable < 1 then none else some (b.data.getD b.cursor 0)

/-- The typed unloads: `n` bytes, copied with `memcpy_be` and read as an
unsigned integer.  Unlike `unload` they never compact. -/
def unloadBe (n : Nat) (b : BoltBuffer) : Option (Nat × BoltBuffer) :=
  if b.unloadable < n then none
  else some (beValue ((b.data.drop b.cursor).take n), { b with cursor := b.cursor + n })

/-- `BoltBuffer_unload_u8`. -/
def unloadU8 : BoltBuffer → Option (Nat × BoltBuffer) := unloadBe 1

/-! ## The invariant -/

theorem wf_create (size : Nat) : (create size).Wf where
  cursor_le := Nat.le_refl 0
  extent_le := Nat.zero_le size
  length_data := by simp [create]

@[simp] theorem content_create (size : Nat) : (create size).content = [] := by
  simp [content, create]

theorem Wf.length_content {b : BoltBuffer} (h : b.Wf) : b.content.length = b.unloadable := by
  have h1 := h.extent_le
  have h2 := h.length_data
  simp only [content, unloadable, List.length_drop, List.length_take]
  omega

/-- The loaded bytes, read where they start in the block. -/
theorem content_eq_take_drop (b : BoltBuffer) :
    b.content = (b.data.drop b.cursor).take b.unloadable := by
  rw [content, unloadable, List.drop_take]

/-! ## Compaction -/

theorem Wf.compact {b : BoltBuffer} (h : b.Wf) : b.compact.Wf := by
  have h1 := h.cursor_le
  have h2 := h.extent_le
  have h3 := h.length_data
  unfold BoltBuffer.compact
  split_ifs with hpos hlt
  · refine ⟨Nat.zero_le _, ?_, ?_⟩
    · show b.extent - b.cursor ≤ b.size
      omega
    · show (memcpy _ _ _).length = b.size
      rw [length_memcpy, h3]
      simp only [List.length_take, List.length_drop]
      omega
  · exact h
  · exact h

/-- Compaction keeps the loaded bytes. -/
@[simp] theorem content_compact {b : BoltBuffer} (h : b.Wf) :
    b.compact.content = b.content := by
  have h1 := h.cursor_le
  have h2 := h.extent_le
  have h3 := h.length_data
  unfold BoltBuffer.compact
  split_ifs with hpos hlt
  · have hlen : ((b.data.drop b.cursor).take (b.extent - b.cursor)).length
        = b.extent - b.cursor := by
      simp only [List.length_take, List.length_drop]
      omega
    rw [content_eq_take_drop b, unloadable]
    simp only [content, List.drop_zero]
    have := take_memcpy b.data ((b.data.drop b.cursor).take (b.extent - b.cursor)) (Nat.zero_le _)
    rwa [hlen, Nat.zero_add, List.take_zero, List.nil_append] at this
  · rfl
  · rfl

/-! ## Loads -/

/-- What a reservation does: the loaded bytes stay where they are, and the
block reaches past the reserved bytes. -/
theorem Wf.loadPointer {b : BoltBuffer} (h : b.Wf) (n : Nat) :
    (b.loadPointer n).1 = b.extent ∧ (b.loadPointer n).2.cursor = b.cursor ∧
      (b.loadPointer n).2.extent = b.extent + n ∧ (b.loadPointer n).2.Wf ∧
      (b.loadPointer n).2.data.take b.extent = b.data.take b.extent := by
  have h1 := h.cursor_le
  have h2 := h.extent_le
  have h3 := h.length_data
  unfold BoltBuffer.loadPointer loadable
  by_cases hn : n > b.size - b.extent
  · simp only [hn, if_true, true_and]
    refine ⟨⟨?_, ?_, ?_⟩, ?_⟩
    · show b.cursor ≤ b.extent + n
      omega
    · show b.extent + n ≤ b.size + (n - (b.size - b.extent))
      omega
    · simp only [List.length_append, List.length_replicate]
      omega
    · exact List.take_append_of_le_length (by omega)
  · simp only [hn, if_false, true_and]
    refine ⟨⟨?_, ?_, h3⟩, trivial⟩
    · show b.cursor ≤ b.extent + n
      omega
    · show b.extent + n ≤ b.size
      omega

/-- Filling a reservation of `n` bytes with `bytes` and moving the extent to
their end appends `bytes`. -/
theorem Wf.fill {b : BoltBuffer} (h : b.Wf) {n : Nat} {bytes : List UInt8}
    (hn : bytes.length ≤ n) :
    let filled := { (b.loadPointer n).2.write (b.loadPointer n).1 bytes with
      extent := b.extent + bytes.length }
    filled.Wf ∧ filled.content = b.content ++ bytes := by
  obtain ⟨htarget, hcursor, hextent, hwf, hdata⟩ := h.loadPointer n
  have h1 := h.cursor_le
  have h2 := h.extent_le
  have h3 := h.length_data
  have hle := hwf.extent_le
  have hlen := hwf.length_data
  rw [hextent] at hle
  have hroom : b.extent + bytes.length ≤ (b.loadPointer n).2.data.length := by omega
  simp only [BoltBuffer.write, htarget]
  constructor
  · refine ⟨?_, ?_, ?_⟩
    · show (b.loadPointer n).2.cursor ≤ b.extent + bytes.length
      omega
    · show b.extent + bytes.length ≤ (b.loadPointer n).2.size
      omega
    · show (memcpy _ _ _).length = (b.loadPointer n).2.size
      rw [length_memcpy hroom, hlen]
  · simp only [content, hcursor]
    rw [take_memcpy _ _ (by omega), hdata, List.drop_append_of_le_length]
    simp only [List.length_take]
    omega

theorem load_eq_fill {b : BoltBuffer} (h : b.Wf) (bytes : List UInt8) :
    b.load bytes = { (b.loadPointer bytes.length).2.write (b.loadPointer bytes.length).1 bytes with
      extent := b.extent + bytes.length } := by
  obtain ⟨-, -, hextent, -, -⟩ := h.loadPointer bytes.length
  simp only [load, BoltBuffer.write, ← hextent]

theorem Wf.load {b : BoltBuffer} (h : b.Wf) (bytes : List UInt8) : (b.load bytes).Wf := by
  rw [load_eq_fill h]
  exact (h.fill (Nat.le_refl _)).1

/-- A load appends its bytes. -/
@[simp] theorem content_load {b : BoltBuffer} (h : b.Wf) (bytes : List UInt8) :
    (b.load bytes).content = b.content ++ bytes := by
  rw [load_eq_fill h]
  exact (h.fill (Nat.le_refl _)).2

/-! ## Unloads -/

/-- The loaded bytes at the front of the queue are in the block at the
cursor. -/
theorem Wf.take_drop_of_content {b : BoltBuffer} (h : b.Wf) {bytes rest : List UInt8}
    (hc : b.content = bytes ++ rest) :
    (b.data.drop b.cursor).take bytes.length = bytes := by
  have hlen := h.length_content
  rw [hc, List.length_append] at hlen
  rw [content_eq_take_drop, ← hlen] at hc
  have := congrArg (List.take bytes.length) hc
  rwa [List.take_take, List.take_left, Nat.min_eq_left (Nat.le_add_right _ _)] at this

/-- Moving the cursor over the front of the queue leaves the rest. -/
theorem Wf.advance {b : BoltBuffer} (h : b.Wf) {bytes rest : List UInt8}
    (hc : b.content = bytes ++ rest) :
    ({ b with cursor := b.cursor + bytes.length } : BoltBuffer).Wf ∧
      ({ b with cursor := b.cursor + bytes.length } : BoltBuffer).content = rest := by
  have hlen := h.length_content
  rw [hc, List.length_append, unloadable] at hlen
  have h1 := h.cursor_le
  refine ⟨⟨?_, h.extent_le, h.length_data⟩, ?_⟩
  · show b.cursor + bytes.length ≤ b.extent
    omega
  · have : (b.content).drop bytes.length = rest := by rw [hc, List.drop_left]
    rwa [content, List.drop_drop] at this

/-- A typed unload reads the front of the queue. -/
theorem unloadBe_of_content {b : BoltBuffer} (h : b.Wf) {bytes rest : List UInt8}
    (hc : b.content = bytes ++ rest) :
    unloadBe bytes.length b =
      some (beValue bytes, { b with cursor := b.cursor + bytes.length }) := by
  have hlen := h.length_content
  rw [hc, List.length_append] at hlen
  rw [unloadBe, if_neg (by omega), h.take_drop_of_content hc]

/-- A typed unload of more bytes than are loaded fails. -/
theorem unloadBe_eq_none {b : BoltBuffer} (h : b.Wf) {n : Nat}
    (hn : b.content.length < n) : unloadBe n b = none := by
  rw [h.length_content] at hn
  rw [unloadBe, if_pos hn]

/-- `BoltBuffer_unload_u8` reads the first byte of the queue. -/
theorem unloadU8_of_content {b : BoltBuffer} (h : b.Wf) {x : UInt8} {rest : List UInt8}
    (hc : b.content = x :: rest) :
    ∃ b', b.unloadU8 = some (x.toNat, b') ∧ b'.Wf ∧ b'.content = rest := by
  have hfront : b.content = [x] ++ rest := hc
  obtain ⟨hwf, hrest⟩ := h.advance hfront
  refine ⟨_, ?_, hwf, hrest⟩
  have hread := unloadBe_of_content h hfront
  simpa [unloadU8, beValue, memcpyBe, ByteOrder.leValue] using hread

/-- Reading a byte keeps the buffer intact. -/
theorem Wf.unloadU8 {b b' : BoltBuffer} {x : Nat} (h : b.Wf) (hread : b.unloadU8 = some (x, b')) :
    b'.Wf := by
  rw [BoltBuffer.unloadU8, unloadBe] at hread
  split_ifs at hread with hshort
  obtain ⟨-, rfl⟩ := Prod.mk.inj (Option.some.inj hread)
  refine ⟨?_, h.extent_le, h.length_data⟩
  have hcursor := h.cursor_le
  simp only [unloadable] at hshort ⊢
  omega

/-- There is no byte to unload from an empty queue. -/
theorem unloadU8_eq_none {b : BoltBuffer} (h : b.Wf) (hc : b.content = []) :
    b.unloadU8 = none :=
  unloadBe_eq_none h (by simp [hc])

/-- `BoltBuffer_unload` takes the front of the queue. -/
theorem unload_of_content {b : BoltBuffer} (h : b.Wf) {bytes rest : List UInt8}
    (hc : b.content = bytes ++ rest) :
    ∃ b', b.unload bytes.length = some (bytes, b') ∧ b'.Wf ∧ b'.content = rest := by
  have hlen := h.length_content
  rw [hc, List.length_append] at hlen
  obtain ⟨hwf, hrest⟩ := h.advance hc
  rw [unload, if_neg (by omega)]
  simp only [h.take_drop_of_content hc]
  refine ⟨_, rfl, ?_, ?_⟩
  · split_ifs
    · exact hwf.compact
    · exact hwf
  · split_ifs
    · rw [content_compact hwf, hrest]
    · exact hrest

/-- `BoltBuffer_unload` of more bytes than are loaded fails. -/
theorem unload_eq_none {b : BoltBuffer} (h : b.Wf) {n : Nat}
    (hn : b.content.length < n) : b.unload n = none := by
  rw [h.length_content] at hn
  rw [unload, if_pos hn]

/-- `BoltBuffer_peek_u8` reads the first byte of the queue. -/
theorem peekU8_of_content {b : BoltBuffer} (h : b.Wf) {x : UInt8} {rest : List UInt8}
    (hc : b.content = x :: rest) : b.peekU8 = some x := by
  have hlen := h.length_content
  rw [hc, List.length_cons] at hlen
  have hfront : (b.data.drop b.cursor).take [x].length = [x] := h.take_drop_of_content hc
  rw [peekU8, if_neg (by omega)]
  congr 1
  have hget := congrArg (fun l => l[0]?) hfront
  simp only [List.length_singleton, List.getElem?_take, List.getElem?_drop] at hget
  simpa [List.getD_eq_getElem?_getD] using congrArg (fun o => o.getD 0) hget

/-- There is nothing to peek at in an empty queue. -/
theorem peekU8_eq_none {b : BoltBuffer} (h : b.Wf) (hc : b.content = []) :
    b.peekU8 = none := by
  have hlen := h.length_content
  rw [hc, List.length_nil] at hlen
  rw [peekU8, if_pos (by omega)]

/-- `BoltBuffer_unload_pointer` over the front of the queue: the pointer is
to those bytes, and the rest stays loaded. -/
theorem unloadPointer_of_content {b : BoltBuffer} (h : b.Wf) {bytes rest : List UInt8}
    (hc : b.content = bytes ++ rest) :
    ∃ b', b.unloadPointer bytes.length = (some b.cursor, b') ∧ b'.Wf ∧
      b'.content = rest ∧ b'.data = b.data := by
  have hlen := h.length_content
  rw [hc, List.length_append] at hlen
  obtain ⟨hwf, hrest⟩ := h.advance hc
  rw [unloadPointer, if_neg (by omega)]
  by_cases hend : b.cursor + bytes.length = b.extent
  · simp only [hend, if_true]
    refine ⟨_, rfl, ⟨Nat.le_refl _, Nat.zero_le _, h.length_data⟩, ?_, rfl⟩
    have : rest.length = 0 := by
      rw [unloadable] at hlen
      omega
    simp [content, List.eq_nil_of_length_eq_zero this]
  · simp only [hend, if_false]
    exact ⟨_, rfl, hwf, hrest, rfl⟩

end BoltBuffer

end Seabolt
