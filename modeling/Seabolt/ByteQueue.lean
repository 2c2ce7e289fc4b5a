import Seabolt.Buffering
import Seabolt.Requests
import Seabolt.Lib.Fifo

/-!
# The buffer is a queue

A `BoltBuffer` from its creation on, under any sequence of calls.

`BoltBuffer.call` is one call, `BoltBuffer.Call.op` what the call asks of a queue of
bytes.  Every call does to the bytes between `cursor` and `extent` what a queue does
(`call_spec`), whatever the three rules that move the two indexes do to the block;
`isQueue` is this for all runs.
-/

namespace Seabolt

/-! ## Typed values -/

/-- A value of one of the types that are loaded with a function of their own.  A
double is its bit pattern. -/
inductive Scalar where
  | i8 (x : Int8)
  | u8 (x : UInt8)
  | u16be (x : UInt16)
  | i16be (x : Int16)
  | i32be (x : Int32)
  | i64be (x : Int64)
  | f64be (x : UInt64)
  deriving DecidableEq

/-- The types of these values. -/
inductive Scalar.Kind where
  | i8 | u8 | u16be | i16be | i32be | i64be | f64be
  deriving DecidableEq, Repr

namespace Scalar

/-- The type of a value. -/
def kind : Scalar → Kind
  | i8 _ => .i8
  | u8 _ => .u8
  | u16be _ => .u16be
  | i16be _ => .i16be
  | i32be _ => .i32be
  | i64be _ => .i64be
  | f64be _ => .f64be

/-- `sizeof`. -/
def Kind.size : Kind → Nat
  | .i8 | .u8 => 1
  | .u16be | .i16be => 2
  | .i32be => 4
  | .i64be | .f64be => 8

/-- The number that a value stands for. -/
def toInt : Scalar → Int
  | i8 x => x.toInt
  | u8 x => x.toNat
  | u16be x => x.toNat
  | i16be x => x.toInt
  | i32be x => x.toInt
  | i64be x => x.toInt
  | f64be x => x.toNat

/-- The value of a type whose bytes represent an unsigned number. -/
def ofUnsigned : Kind → Nat → Scalar
  | .i8, u => i8 (.ofInt (ByteOrder.signed 1 u))
  | .u8, u => u8 (.ofNat u)
  | .u16be, u => u16be (.ofNat u)
  | .i16be, u => i16be (.ofInt (ByteOrder.signed 2 u))
  | .i32be, u => i32be (.ofInt (ByteOrder.signed 4 u))
  | .i64be, u => i64be (.ofInt (ByteOrder.signed 8 u))
  | .f64be, u => f64be (.ofNat u)

/-- The bytes of a value, most significant first. -/
def bytes (x : Scalar) : List UInt8 := beBytes x.kind.size (ByteOrder.unsigned x.kind.size x.toInt)

@[simp] theorem length_bytes (x : Scalar) : x.bytes.length = x.kind.size := length_beBytes _ _

/-- The residue of a value tells the value. -/
theorem ofUnsigned_unsigned (x : Scalar) :
    ofUnsigned x.kind (ByteOrder.unsigned x.kind.size x.toInt) = x := by
  cases x with
  | i8 x =>
    have hlow := x.le_toInt
    have hhigh := x.toInt_lt
    simp only [ofUnsigned, kind, Kind.size, toInt]
    rw [ByteOrder.signed_unsigned (by norm_num; omega) (by norm_num; omega), Int8.ofInt_toInt]
  | u8 x =>
    have hlt : x.toNat < 256 ^ 1 := x.toNat_lt
    simp only [ofUnsigned, kind, Kind.size, toInt]
    rw [ByteOrder.unsigned_natCast hlt, UInt8.ofNat_toNat]
  | u16be x =>
    have hlt : x.toNat < 256 ^ 2 := x.toNat_lt
    simp only [ofUnsigned, kind, Kind.size, toInt]
    rw [ByteOrder.unsigned_natCast hlt, UInt16.ofNat_toNat]
  | i16be x =>
    have hlow := x.le_toInt
    have hhigh := x.toInt_lt
    simp only [ofUnsigned, kind, Kind.size, toInt]
    rw [ByteOrder.signed_unsigned (by norm_num; omega) (by norm_num; omega), Int16.ofInt_toInt]
  | i32be x =>
    have hlow := x.le_toInt
    have hhigh := x.toInt_lt
    simp only [ofUnsigned, kind, Kind.size, toInt]
    rw [ByteOrder.signed_unsigned (by norm_num; omega) (by norm_num; omega), Int32.ofInt_toInt]
  | i64be x =>
    have hlow := x.le_toInt
    have hhigh := x.toInt_lt
    simp only [ofUnsigned, kind, Kind.size, toInt]
    rw [ByteOrder.signed_unsigned (by norm_num; omega) (by norm_num; omega), Int64.ofInt_toInt]
  | f64be x =>
    have hlt : x.toNat < 256 ^ 8 := x.toNat_lt
    simp only [ofUnsigned, kind, Kind.size, toInt]
    rw [ByteOrder.unsigned_natCast hlt, UInt64.ofNat_toNat]

/-- What a value is read from tells its residue. -/
theorem unsigned_ofUnsigned (kind : Kind) {u : Nat} (h : u < 256 ^ kind.size) :
    ByteOrder.unsigned kind.size (ofUnsigned kind u).toInt = u := by
  cases kind with
  | i8 =>
    simp only [ofUnsigned, toInt, Int8.toInt_ofInt]
    exact ByteOrder.unsigned_bmod_signed h
  | u8 =>
    have hlt : u < 2 ^ 8 := h
    simp only [ofUnsigned, toInt, UInt8.toNat_ofNat']
    rw [Nat.mod_eq_of_lt hlt, ByteOrder.unsigned_natCast h]
  | u16be =>
    have hlt : u < 2 ^ 16 := h
    simp only [ofUnsigned, toInt, UInt16.toNat_ofNat']
    rw [Nat.mod_eq_of_lt hlt, ByteOrder.unsigned_natCast h]
  | i16be =>
    simp only [ofUnsigned, toInt, Int16.toInt_ofInt]
    exact ByteOrder.unsigned_bmod_signed h
  | i32be =>
    simp only [ofUnsigned, toInt, Int32.toInt_ofInt]
    exact ByteOrder.unsigned_bmod_signed h
  | i64be =>
    simp only [ofUnsigned, toInt, Int64.toInt_ofInt]
    exact ByteOrder.unsigned_bmod_signed h
  | f64be =>
    have hlt : u < 2 ^ 64 := h
    simp only [ofUnsigned, toInt, UInt64.toNat_ofNat']
    rw [Nat.mod_eq_of_lt hlt, ByteOrder.unsigned_natCast h]

@[simp] theorem kind_ofUnsigned (kind : Kind) (u : Nat) : (ofUnsigned kind u).kind = kind := by
  cases kind <;> rfl

/-- Any bytes of the size of a type are those of a value of it. -/
theorem bytes_ofUnsigned (kind : Kind) {bs : List UInt8} (h : bs.length = kind.size) :
    (ofUnsigned kind (beValue bs)).bytes = bs := by
  have hlt : beValue bs < 256 ^ kind.size := by
    rw [← h]
    exact beValue_lt bs
  rw [bytes, kind_ofUnsigned, unsigned_ofUnsigned kind hlt, ← h, beBytes_beValue]

/-- The bytes of a value tell the value. -/
theorem ofUnsigned_bytes (x : Scalar) : ofUnsigned x.kind (beValue x.bytes) = x := by
  rw [bytes, beValue_beBytes (ByteOrder.unsigned_lt _ _), ofUnsigned_unsigned]

end Scalar

namespace BoltBuffer

/-- The typed load of a value. -/
def loadScalar (b : BoltBuffer) : Scalar → BoltBuffer
  | .i8 x => b.loadI8 x.toInt
  | .u8 x => b.loadU8 x
  | .u16be x => b.loadU16be x.toNat
  | .i16be x => b.loadI16be x.toInt
  | .i32be x => b.loadI32be x.toInt
  | .i64be x => b.loadI64be x.toInt
  | .f64be x => b.loadF64be x

/-- A typed unload, which differs from the others in its type only. -/
def unloadTyped (kind : Scalar.Kind) (b : BoltBuffer) : Option (Scalar × BoltBuffer) :=
  (unloadBe kind.size b).map fun (u, b) => (Scalar.ofUnsigned kind u, b)

/-- `BoltBuffer_unload_i8`. -/
def unloadI8 : BoltBuffer → Option (Scalar × BoltBuffer) := unloadTyped .i8

/-- `BoltBuffer_unload_u16be`. -/
def unloadU16be : BoltBuffer → Option (Scalar × BoltBuffer) := unloadTyped .u16be

/-- `BoltBuffer_unload_i16be`. -/
def unloadI16be : BoltBuffer → Option (Scalar × BoltBuffer) := unloadTyped .i16be

/-- `BoltBuffer_unload_i32be`. -/
def unloadI32be : BoltBuffer → Option (Scalar × BoltBuffer) := unloadTyped .i32be

/-- `BoltBuffer_unload_i64be`. -/
def unloadI64be : BoltBuffer → Option (Scalar × BoltBuffer) := unloadTyped .i64be

/-- `BoltBuffer_unload_f64be`. -/
def unloadF64be : BoltBuffer → Option (Scalar × BoltBuffer) := unloadTyped .f64be

/-- The typed unload of a value of a type. -/
def unloadScalar (b : BoltBuffer) : Scalar.Kind → Option (Scalar × BoltBuffer)
  | .i8 => b.unloadI8
  | .u8 => b.unloadU8.map fun (u, b) => (.u8 (.ofNat u), b)
  | .u16be => b.unloadU16be
  | .i16be => b.unloadI16be
  | .i32be => b.unloadI32be
  | .i64be => b.unloadI64be
  | .f64be => b.unloadF64be

/-- A typed load copies the bytes of the value. -/
theorem loadScalar_eq (b : BoltBuffer) (x : Scalar) : b.loadScalar x = b.load x.bytes := by
  cases x with
  | u8 x =>
    have hlt : x.toNat < 256 ^ 1 := x.toNat_lt
    have hbytes : (Scalar.u8 x).bytes = [x] := by
      simp only [Scalar.bytes, Scalar.kind, Scalar.Kind.size, Scalar.toInt]
      rw [ByteOrder.unsigned_natCast hlt, beBytes_one, UInt8.ofNat_toNat]
    rw [hbytes]
    rfl
  | i8 x => rfl
  | u16be x => rfl
  | i16be x => rfl
  | i32be x => rfl
  | i64be x => rfl
  | f64be x => rfl

theorem unloadScalar_eq (b : BoltBuffer) (kind : Scalar.Kind) :
    b.unloadScalar kind = unloadTyped kind b := by
  cases kind <;> rfl

/-- A typed unload reads a value whose bytes come next. -/
theorem unloadScalar_of_content {b : BoltBuffer} (h : b.Wf) {x : Scalar} {rest : List UInt8}
    (hc : b.content = x.bytes ++ rest) :
    ∃ b', b.unloadScalar x.kind = some (x, b') ∧ b'.Wf ∧ b'.size = b.size ∧
      b'.extent = b.extent ∧ b'.content = rest := by
  obtain ⟨hwf, hrest⟩ := h.advance hc
  refine ⟨_, ?_, hwf, rfl, rfl, hrest⟩
  have hread := unloadBe_of_content h hc
  rw [Scalar.length_bytes] at hread
  rw [unloadScalar_eq, unloadTyped, hread, Option.map_some, Scalar.length_bytes]
  dsimp only
  rw [Scalar.ofUnsigned_bytes]

/-- A typed unload of more bytes than are loaded fails. -/
theorem unloadScalar_eq_none {b : BoltBuffer} (h : b.Wf) {kind : Scalar.Kind}
    (hn : b.content.length < kind.size) : b.unloadScalar kind = none := by
  rw [unloadScalar_eq, unloadTyped, unloadBe_eq_none h hn, Option.map_none]

/-! ## Calls -/

/-- The calls on a buffer.  The region that `BoltBuffer_load_pointer` reserves is filled
piece by piece. -/
inductive Call where
  | load (bytes : List UInt8)
  | loadPointer (pieces : List (List UInt8))
  | loadScalar (x : Scalar)
  | unload (size : Nat)
  | unloadPointer (size : Nat)
  | unloadScalar (kind : Scalar.Kind)
  | peekU8
  | compact
  deriving DecidableEq

/-- What a call returns. -/
inductive Reply where
  | done
  | failed
  | bytes (bytes : List UInt8)
  | scalar (x : Scalar)
  deriving DecidableEq

/-- Fill a region from its start on. -/
def fill (b : BoltBuffer) (target : Nat) : List (List UInt8) → BoltBuffer
  | [] => b
  | piece :: pieces => (b.write target piece).fill (target + piece.length) pieces

/-- One call.  The bytes behind the pointer that `BoltBuffer_unload_pointer` returns are
read before the next call. -/
def call : Runs.Step Call BoltBuffer Reply
  | .load bytes, b => some (.done, b.load bytes)
  | .loadPointer pieces, b =>
    let (target, b) := b.loadPointer pieces.flatten.length
    some (.done, b.fill target pieces)
  | .loadScalar x, b => some (.done, b.loadScalar x)
  | .unload size, b =>
    match b.unload size with
    | none => some (.failed, b)
    | some (bytes, b) => some (.bytes bytes, b)
  | .unloadPointer size, b =>
    match b.unloadPointer size with
    | (none, b) => some (.failed, b)
    | (some source, b) => some (.bytes ((b.data.drop source).take size), b)
  | .unloadScalar kind, b =>
    match b.unloadScalar kind with
    | none => some (.failed, b)
    | some (x, b) => some (.scalar x, b)
  | .peekU8, b =>
    match b.peekU8 with
    | none => some (.failed, b)
    | some x => some (.bytes [x], b)
  | .compact, b => some (.done, b.compact)

/-- What a call asks of a queue of bytes. -/
def Call.op : Call → Fifo.Op UInt8
  | .load bytes => .put bytes
  | .loadPointer pieces => .put pieces.flatten
  | .loadScalar x => .put x.bytes
  | .unload size => .take size
  | .unloadPointer size => .take size
  | .unloadScalar kind => .take kind.size
  | .peekU8 => .look 1
  | .compact => .rest

/-- The bytes that a call gives out. -/
def Reply.items : Reply → Option (List UInt8)
  | .done => some []
  | .failed => none
  | .bytes data => some data
  | .scalar x => some x.bytes

/-- The block does not have to grow past what an `int` holds. -/
def Fits (c : Call) (b : BoltBuffer) : Prop := b.extent + c.op.given.length ≤ INT32_MAX

/-- What a call does: the indexes stay in order and in range, the bytes between them
are those of a queue, a failure changes nothing, and a value whose bytes come next is
what the typed unload of its type returns. -/
structure Spec (c : Call) (b : BoltBuffer) (reply : Reply) (b' : BoltBuffer) : Prop where
  wf : b'.Wf
  size_le : b'.size ≤ INT32_MAX
  extent_le : b'.extent ≤ b.extent + c.op.given.length
  queue : Fifo.step c.op b.content = some (reply.items, b'.content)
  unchanged : reply = .failed → b' = b
  value : ∀ x rest, c = .unloadScalar x.kind → b.content = x.bytes ++ rest → reply = .scalar x

/-! ## The block -/

@[simp] theorem size_compact (b : BoltBuffer) : b.compact.size = b.size := by
  unfold compact
  split_ifs <;> rfl

theorem extent_compact_le (b : BoltBuffer) : b.compact.extent ≤ b.extent := by
  unfold compact
  split_ifs
  · exact Nat.sub_le _ _
  · exact Nat.le_refl _
  · exact Nat.le_refl _

/-- A reservation that fits leaves a block that fits. -/
theorem Wf.size_loadPointer {b : BoltBuffer} (h : b.Wf) {n limit : Nat} (hsize : b.size ≤ limit)
    (hfits : b.extent + n ≤ limit) : (b.loadPointer n).2.size ≤ limit := by
  have hextent := h.extent_le
  unfold BoltBuffer.loadPointer loadable
  by_cases hn : n > b.size - b.extent
  · simp only [hn, if_true]
    omega
  · simp only [hn, if_false]
    exact hsize

theorem Wf.size_load {b : BoltBuffer} (h : b.Wf) {bytes : List UInt8} {limit : Nat}
    (hsize : b.size ≤ limit) (hfits : b.extent + bytes.length ≤ limit) :
    (b.load bytes).size ≤ limit :=
  h.size_loadPointer hsize hfits

theorem unload_block {b b' : BoltBuffer} {n : Nat} {bytes : List UInt8}
    (h : b.unload n = some (bytes, b')) : b'.size = b.size ∧ b'.extent ≤ b.extent := by
  rw [unload] at h
  by_cases hn : n > b.unloadable
  · rw [if_pos hn] at h
    cases h
  · rw [if_neg hn] at h
    obtain ⟨-, rfl⟩ := Prod.mk.inj (Option.some.inj h)
    split_ifs
    · exact ⟨size_compact _, extent_compact_le _⟩
    · exact ⟨rfl, Nat.le_refl _⟩

theorem unloadPointer_block (b : BoltBuffer) (n : Nat) :
    (b.unloadPointer n).2.size = b.size ∧ (b.unloadPointer n).2.extent ≤ b.extent := by
  unfold unloadPointer
  split_ifs
  · exact ⟨rfl, Nat.le_refl _⟩
  · dsimp only
    split_ifs
    · exact ⟨rfl, Nat.zero_le _⟩
    · exact ⟨rfl, Nat.le_refl _⟩

/-- Pieces that are written one after the other are written at once. -/
theorem fill_eq_write (pieces : List (List UInt8)) : ∀ {b : BoltBuffer} {target : Nat},
    target + pieces.flatten.length ≤ b.data.length →
    b.fill target pieces = b.write target pieces.flatten := by
  induction pieces with
  | nil =>
    intro b target _
    simp [fill, write, memcpy]
  | cons piece pieces ih =>
    intro b target hle
    rw [List.flatten_cons, List.length_append] at hle
    have hlen : (b.write target piece).data.length = b.data.length := length_memcpy (by omega)
    have hpiece : target + piece.length ≤ b.data.length := by omega
    rw [fill, ih (by omega)]
    simp only [write, List.flatten_cons, memcpy_memcpy hpiece]

/-- The bytes behind a pointer that `BoltBuffer_unload_pointer` returned. -/
theorem unloadPointer_read {b : BoltBuffer} (h : b.Wf) {bytes rest : List UInt8}
    (hc : b.content = bytes ++ rest) :
    ∃ b', b.unloadPointer bytes.length = (some b.cursor, b') ∧
      (b'.data.drop b.cursor).take bytes.length = bytes ∧ b'.Wf ∧ b'.content = rest := by
  obtain ⟨b', hunload, hwf, hrest, hdata⟩ := unloadPointer_of_content h hc
  refine ⟨b', hunload, ?_, hwf, hrest⟩
  rw [hdata, h.take_drop_of_content hc]

theorem unloadPointer_eq_none {b : BoltBuffer} (h : b.Wf) {n : Nat}
    (hn : b.content.length < n) : b.unloadPointer n = (none, b) := by
  rw [h.length_content] at hn
  rw [unloadPointer, if_pos hn]

/-! ## One call -/

variable {b : BoltBuffer} {c : Call}

/-- A call that loads bytes. -/
theorem spec_of_load {bytes : List UInt8} (hwf : b.Wf) (hsize : b.size ≤ INT32_MAX)
    (hop : c.op = .put bytes) (hfits : Fits c b) : Spec c b .done (b.load bytes) where
  wf := hwf.load bytes
  size_le := by
    rw [Fits, hop] at hfits
    exact hwf.size_load hsize hfits
  extent_le := by
    rw [hop]
    exact Nat.le_of_eq (hwf.loadPointer bytes.length).2.2.1
  queue := by rw [hop, content_load hwf]; rfl
  unchanged h := by cases h
  value x rest h := by rw [h] at hop; cases hop

/-- A call that asks for more bytes than are loaded. -/
theorem spec_of_failed (hwf : b.Wf) (hsize : b.size ≤ INT32_MAX)
    (hqueue : Fifo.step c.op b.content = some (none, b.content)) : Spec c b .failed b where
  wf := hwf
  size_le := hsize
  extent_le := Nat.le_add_right _ _
  queue := hqueue
  unchanged _ := rfl
  value x rest h hcontent := by
    have htake : Fifo.step c.op b.content = some (some x.bytes, rest) := by
      rw [h, hcontent, Call.op, ← Scalar.length_bytes, Fifo.step_take_append]
    rw [htake] at hqueue
    cases hqueue

/-- Either fewer bytes are loaded than are asked for, or they come first. -/
theorem front_cases (b : BoltBuffer) (n : Nat) :
    b.content.length < n ∨
      ∃ front rest : List UInt8, front.length = n ∧ b.content = front ++ rest := by
  rcases Nat.lt_or_ge b.content.length n with hlt | hge
  · exact .inl hlt
  · refine .inr ⟨b.content.take n, b.content.drop n, ?_, (List.take_append_drop n _).symm⟩
    rw [List.length_take, Nat.min_eq_left hge]

/-- What every call does. -/
theorem call_spec (c : Call) (hwf : b.Wf) (hsize : b.size ≤ INT32_MAX) (hfits : Fits c b) :
    ∃ reply b', call c b = some (reply, b') ∧ Spec c b reply b' := by
  cases c with
  | load bytes => exact ⟨_, _, rfl, spec_of_load hwf hsize rfl hfits⟩
  | loadPointer pieces =>
    obtain ⟨htarget, -, hextent, hwf', -⟩ := hwf.loadPointer pieces.flatten.length
    have hroom : (b.loadPointer pieces.flatten.length).1 + pieces.flatten.length
        ≤ (b.loadPointer pieces.flatten.length).2.data.length := by
      have hle := hwf'.extent_le
      rw [hwf'.length_data, htarget]
      omega
    have hload : call (.loadPointer pieces) b = some (.done, b.load pieces.flatten) := by
      simp only [call, load, fill_eq_write pieces hroom]
    exact ⟨_, _, hload, spec_of_load hwf hsize rfl hfits⟩
  | loadScalar x =>
    have hload : call (.loadScalar x) b = some (.done, b.load x.bytes) := by
      simp only [call, loadScalar_eq]
    exact ⟨_, _, hload, spec_of_load hwf hsize rfl hfits⟩
  | unload n =>
    rcases front_cases b n with hlt | ⟨front, rest, rfl, hcontent⟩
    · refine ⟨.failed, b, ?_, spec_of_failed hwf hsize (if_pos hlt)⟩
      simp only [call, unload_eq_none hwf hlt]
    · obtain ⟨b', hunload, hwf', hrest⟩ := unload_of_content hwf hcontent
      obtain ⟨hsize', hextent⟩ := unload_block hunload
      refine ⟨.bytes front, b', by simp only [call, hunload], hwf', ?_, ?_, ?_, (by simp), by simp⟩
      · rw [hsize']
        exact hsize
      · exact Nat.le_trans hextent (Nat.le_add_right _ _)
      · rw [hcontent, hrest]
        exact Fifo.step_take_append front rest
  | unloadPointer n =>
    rcases front_cases b n with hlt | ⟨front, rest, rfl, hcontent⟩
    · refine ⟨.failed, b, ?_, spec_of_failed hwf hsize (if_pos hlt)⟩
      simp only [call, unloadPointer_eq_none hwf hlt]
    · obtain ⟨b', hunload, hread, hwf', hrest⟩ := unloadPointer_read hwf hcontent
      obtain ⟨hsize', hextent⟩ := unloadPointer_block b front.length
      rw [hunload] at hsize' hextent
      refine ⟨.bytes front, b', by simp only [call, hunload, hread], hwf', ?_, ?_, ?_, (by simp), by simp⟩
      · rw [hsize']
        exact hsize
      · exact Nat.le_trans hextent (Nat.le_add_right _ _)
      · rw [hcontent, hrest]
        exact Fifo.step_take_append front rest
  | unloadScalar kind =>
    rcases front_cases b kind.size with hlt | ⟨front, rest, hfront, hcontent⟩
    · refine ⟨.failed, b, ?_, spec_of_failed hwf hsize (if_pos hlt)⟩
      simp only [call, unloadScalar_eq_none hwf hlt]
    · obtain ⟨x, rfl, rfl⟩ : ∃ x : Scalar, x.kind = kind ∧ x.bytes = front :=
        ⟨_, Scalar.kind_ofUnsigned kind _, Scalar.bytes_ofUnsigned kind hfront⟩
      obtain ⟨b', hunload, hwf', hsize', hextent, hrest⟩ := unloadScalar_of_content hwf hcontent
      refine ⟨.scalar x, b', by simp only [call, hunload], hwf', ?_, ?_, ?_, (by simp), ?_⟩
      · rw [hsize']
        exact hsize
      · rw [hextent]
        exact Nat.le_add_right _ _
      · rw [hcontent, hrest, Call.op, ← Scalar.length_bytes, Fifo.step_take_append]
        rfl
      · intro y rest' hkind hcontent'
        have hbytes : x.bytes = y.bytes := by
          refine (List.append_inj (hcontent.symm.trans hcontent') ?_).1
          rw [Scalar.length_bytes, Scalar.length_bytes, (Call.unloadScalar.inj hkind)]
        rw [← Scalar.ofUnsigned_bytes x, ← Scalar.ofUnsigned_bytes y, hbytes,
          Call.unloadScalar.inj hkind]
  | peekU8 =>
    rcases front_cases b 1 with hlt | ⟨front, rest, hfront, hcontent⟩
    · have hempty : b.content = [] := List.eq_nil_of_length_eq_zero (by omega)
      refine ⟨.failed, b, ?_, spec_of_failed hwf hsize (if_pos hlt)⟩
      simp only [call, peekU8_eq_none hwf hempty]
    · obtain ⟨x, rfl⟩ := List.length_eq_one_iff.mp hfront
      refine ⟨.bytes [x], b, ?_, hwf, hsize, Nat.le_add_right _ _, ?_, (by simp), by simp⟩
      · simp only [call, peekU8_of_content hwf hcontent]
      · rw [hcontent]
        exact Fifo.step_look_append [x] rest
  | compact =>
    refine ⟨.done, b.compact, rfl, hwf.compact, ?_, ?_, ?_, (by simp), by simp⟩
    · rw [size_compact]
      exact hsize
    · exact Nat.le_trans (extent_compact_le b) (Nat.le_add_right _ _)
    · rw [content_compact hwf]
      rfl

/-! ## Runs -/

/-- The bytes that calls load. -/
def loaded (calls : List Call) : List UInt8 := Fifo.puts (calls.map Call.op)

/-- The bytes that calls have unloaded, by their replies. -/
def unloaded (calls : List Call) (replies : List Reply) : List UInt8 :=
  Fifo.takes (calls.map Call.op) (replies.map Reply.items)

/-- Calls that load less than `2 ^ 31` bytes in all fit. -/
theorem admissible_of_loaded (calls : List Call) : ∀ {b : BoltBuffer}, b.Wf →
    b.size ≤ INT32_MAX → b.extent + (loaded calls).length ≤ INT32_MAX →
    Runs.Admissible call Fits calls b := by
  induction calls with
  | nil => exact fun _ _ _ => trivial
  | cons c calls ih =>
    intro b hwf hsize htotal
    have hloaded : loaded (c :: calls) = c.op.given ++ loaded calls := rfl
    rw [hloaded, List.length_append] at htotal
    have hfits : Fits c b := by
      unfold Fits
      omega
    refine ⟨hfits, fun reply b' hcall => ?_⟩
    obtain ⟨reply', b'', hcall', hspec⟩ := call_spec c hwf hsize hfits
    obtain ⟨rfl, rfl⟩ := Prod.mk.inj (Option.some.inj (hcall.symm.trans hcall'))
    have hextent := hspec.extent_le
    exact ih hspec.wf hspec.size_le (by omega)

/-- A run of calls is a run of the queue. -/
theorem queue_run (calls : List Call) : ∀ {b b' : BoltBuffer} {replies : List Reply},
    Runs.Meets call Spec calls b → Runs.run call calls b = some (replies, b') →
    Runs.run Fifo.step (calls.map Call.op) b.content
      = some (replies.map Reply.items, b'.content) := by
  induction calls with
  | nil =>
    intro b b' replies _ hrun
    obtain ⟨rfl, rfl⟩ := Prod.mk.inj (Option.some.inj hrun)
    rfl
  | cons c calls ih =>
    intro b b' replies hmeets hrun
    obtain ⟨reply, mid, hcall, hspec, hrest⟩ := hmeets
    obtain ⟨reply', mid', replies, hcall', hrun, rfl⟩ := Runs.run_uncons hrun
    obtain ⟨rfl, rfl⟩ := Prod.mk.inj (Option.some.inj (hcall.symm.trans hcall'))
    exact Runs.run_cons hspec.queue (ih hrest hrun)

/-- From its creation on a buffer is a queue of bytes: each call does what `Spec` says,
and the bytes that were loaded are those that were unloaded and those that are still
loaded, in this order. -/
theorem isQueue (size : Nat) (calls : List Call) (hsize : size ≤ INT32_MAX)
    (hfits : Runs.Admissible call Fits calls (create size)) :
    ∃ replies b', Runs.run call calls (create size) = some (replies, b') ∧
      Runs.Meets call Spec calls (create size) ∧ b'.Wf ∧
      loaded calls = unloaded calls replies ++ b'.content := by
  have hstep : ∀ c (b : BoltBuffer), b.Wf ∧ b.size ≤ INT32_MAX → Fits c b →
      ∃ reply b', call c b = some (reply, b') ∧ Spec c b reply b' ∧
        (b'.Wf ∧ b'.size ≤ INT32_MAX) := by
    intro c b hb hok
    obtain ⟨reply, b', hcall, hspec⟩ := call_spec c hb.1 hb.2 hok
    exact ⟨reply, b', hcall, hspec, hspec.wf, hspec.size_le⟩
  have hmeets : Runs.Meets call Spec calls (create size) :=
    Runs.meets_of_invariant hstep calls _ ⟨wf_create size, hsize⟩ hfits
  obtain ⟨replies, b', hrun⟩ := Runs.run_of_meets hmeets
  refine ⟨replies, b', hrun, hmeets, ?_, ?_⟩
  · exact Runs.keeps_of_meets Wf (fun c b reply b' _ hspec => hspec.wf) calls (wf_create size)
      hmeets hrun
  · have hqueue := Fifo.conservation _ (queue_run calls hmeets hrun)
    rw [content_create, List.nil_append] at hqueue
    exact hqueue

/-- The calls of a round trip: a value is loaded, peeked at and unloaded. -/
def roundTrip : List Call :=
  [.loadScalar (.i32be (-2)), .peekU8, .unload 5, .unloadScalar .i32be]

/-- The round trip in a buffer that has to grow for it. -/
theorem isQueue_value : ∃ replies b', Runs.run call roundTrip (create 3) = some (replies, b') ∧
    replies = [.done, .bytes [0xFF], .failed, .scalar (.i32be (-2))] := by
  have hfits : Runs.Admissible call Fits roundTrip (create 3) :=
    admissible_of_loaded _ (wf_create 3) (by decide) (by decide)
  obtain ⟨replies, b', hrun, -⟩ := isQueue 3 roundTrip (by decide) hfits
  refine ⟨replies, b', hrun, ?_⟩
  have hcomputed : (Runs.run call roundTrip (create 3)).map Prod.fst =
      some [.done, .bytes [0xFF], .failed, .scalar (.i32be (-2))] := by
    decide +kernel
  rw [hrun] at hcomputed
  exact Option.some.inj hcomputed

end BoltBuffer

end Seabolt
