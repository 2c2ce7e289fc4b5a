import Seabolt.StoredValue

/-!
# The trees of values in memory

The accessors show a tree of a value (`StoredValue.tree`), one of the values that the rest
of the model is about.  Each function that formats, resizes or copies a value does to this
tree what the function of the same name does there: `StoredValue.Sound`.
-/

namespace Seabolt

namespace StoredValue

open Blocks

variable {value dest : StoredValue} {header : Header} {blocks : Blocks} {frame : List (Nat × Nat)}

/-! ## The tree -/

/-- The consecutive pairs of a list. -/
def pairs {α : Type} : List α → List (α × α)
  | first :: second :: rest => (first, second) :: pairs rest
  | _ => []

/-- What the accessors show of a value, with the trees of its child values. -/
def shape (value : StoredValue) (trees : List BoltValue) : BoltValue :=
  match value.header.type with
  | .null => .null
  | .boolean => .boolean value.booleanGet
  | .integer => .integer value.integerGet
  | .float => .float value.floatGet
  | .string => .string value.charsGet
  | .dictionary => .dictionary (pairs trees)
  | .list => .list trees
  | .bytes => .bytes value.charsGet
  | .struct => .struct value.header.subtype trees

mutual

/-- The tree that a value stands for. -/
def tree : StoredValue → BoltValue
  | inline header data => shape (inline header data) []
  | chars header pointer data => shape (chars header pointer data) []
  | values header pointer children => shape (values header pointer children) (trees children)

/-- The trees of child values. -/
def trees : List StoredValue → List BoltValue
  | [] => []
  | child :: children => tree child :: trees children

end

theorem trees_eq_map (children : List StoredValue) : trees children = children.map tree := by
  induction children with
  | nil => rfl
  | cons child children ih => rw [trees, ih, List.map_cons]

theorem tree_eq (value : StoredValue) : value.tree = value.shape (value.children.map tree) := by
  cases value with
  | inline header data => rfl
  | chars header pointer data => rfl
  | values header pointer children => rw [tree, trees_eq_map]; rfl

@[simp] theorem type_tree (value : StoredValue) : value.tree.type = value.header.type := by
  rw [tree_eq, shape]
  cases value.header.type <;> rfl

theorem IsNull.tree (h : value.IsNull) : value.tree = .null := by
  obtain ⟨data, rfl, -⟩ := h
  rfl

@[simp] theorem tree_zeroed : zeroed.tree = .null := isNull_zeroed.tree

theorem tree_list (h : value.header.type = .list) :
    value.tree = .list (value.children.map tree) := by
  rw [tree_eq, shape, h]

theorem tree_dictionary (h : value.header.type = .dictionary) :
    value.tree = .dictionary (pairs (value.children.map tree)) := by
  rw [tree_eq, shape, h]

theorem tree_struct (h : value.header.type = .struct) :
    value.tree = .struct value.header.subtype (value.children.map tree) := by
  rw [tree_eq, shape, h]

/-! ## Functions on values and on trees -/

/-- A function on values does what one on trees does, keeps the invariant, and every block
that it does not own any more has been returned. -/
def Sound (f : StoredValue → Blocks → Option (StoredValue × Blocks))
    (g : BoltValue → Option BoltValue) : Prop :=
  ∀ ⦃value : StoredValue⦄ ⦃tree : BoltValue⦄ ⦃blocks : Blocks⦄ ⦃frame : List (Nat × Nat)⦄,
    value.Wf → g value.tree = some tree → Account blocks (value.owned ++ frame) →
    ∃ value' blocks', f value blocks = some (value', blocks') ∧ value'.Wf ∧ value'.tree = tree ∧
      Account blocks' (value'.owned ++ frame)

theorem sound_formatAsNull : Sound formatAsNull fun _ => some .null := by
  intro value tree blocks frame h htree haccount
  obtain ⟨value', blocks', hformat, hnull, haccount'⟩ := h.clears blocks frame haccount
  refine ⟨value', blocks', hformat, hnull.wf, hnull.tree.trans (Option.some.inj htree), ?_⟩
  rw [hnull.owned]
  exact haccount'

/-- A value in the union. -/
theorem wf_inline {data : List UInt8} {type : BoltType} {size : Nat}
    (hheader : Header.Wf ⟨type, 0, size, 0⟩) (hdata : data.length = SIZE_OF_DATA) :
    (inline ⟨type, 0, size, 0⟩ data).Wf :=
  .intro _ hheader ⟨rfl, hdata⟩ fun _ hmem => absurd hmem List.not_mem_nil

theorem header_wf_scalar {type : BoltType}
    (h : type = .boolean ∨ type = .integer ∨ type = .float) : Header.Wf ⟨type, 0, 1, 0⟩ := by
  refine ⟨?_, fun hnull => ?_, fun _ => rfl, fun _ => rfl⟩
  · rcases h with rfl | rfl | rfl <;> rfl
  · rcases h with rfl | rfl | rfl <;> cases hnull

theorem header_wf_chars {type : BoltType} (h : type = .string ∨ type = .bytes) (size : Nat) :
    Header.Wf ⟨type, 0, size, if size ≤ SIZE_OF_DATA then 0 else size⟩ := by
  refine ⟨?_, fun hnull => ?_, fun hscalar => ?_, fun _ => rfl⟩
  · rcases h with rfl | rfl <;> rfl
  · rcases h with rfl | rfl <;> cases hnull
  · rcases h with rfl | rfl <;> rcases hscalar with h | h | h <;> cases h

/-- What is written into the union can be read back. -/
theorem take_writeInline {old data : List UInt8} {n : Nat} (h : data.length = n) :
    (memcpy old 0 data).take n = data := by
  have htake := take_memcpy old data (Nat.zero_le _)
  rwa [Nat.zero_add, List.take_zero, List.nil_append, h] at htake

/-- Formatting to a value that is written into the union. -/
theorem sound_inline {type : BoltType} {size : Nat} {data : List UInt8} {t : BoltValue}
    (hheader : Header.Wf ⟨type, 0, size, 0⟩) (hdata : data.length ≤ SIZE_OF_DATA)
    (htree : ∀ old : List UInt8, tree (inline ⟨type, 0, size, 0⟩ (memcpy old 0 data)) = t) :
    Sound (fun value => value.formatInline type size data) fun _ => some t := by
  intro value tree blocks frame h hsome haccount
  obtain ⟨old, blocks', hformat, hlength, haccount'⟩ := h.format haccount type size
  refine ⟨inline ⟨type, 0, size, 0⟩ (memcpy old 0 data), blocks', ?_, ?_, ?_, haccount'⟩
  · simp only [formatInline, Option.bind_eq_bind, hformat, Option.bind_some, writeInline]
  · refine wf_inline hheader ?_
    rw [length_memcpy (by omega), hlength]
  · rw [htree, Option.some.inj hsome]

theorem sound_formatAsBoolean (data : UInt8) :
    Sound (formatAsBoolean data) fun _ => some (.boolean (BoltValue.toBit data)) :=
  sound_inline (header_wf_scalar (.inl rfl)) (by simp [SIZE_OF_DATA]) fun _ => rfl

theorem sound_formatAsInteger (data : Int64) :
    Sound (formatAsInteger data) fun _ => some (.integer data) := by
  refine sound_inline (header_wf_scalar (.inr (.inl rfl))) (by simp [SIZE_OF_DATA]) fun old => ?_
  have hlow := data.le_toInt
  have hhigh := data.toInt_lt
  have hread : integerGet (inline ⟨.integer, 0, 1, 0⟩ (memcpy old 0
      (ByteOrder.leBytes 8 (ByteOrder.unsigned 8 data.toInt)))) = data := by
    rw [integerGet, inlineData, take_writeInline (ByteOrder.length_leBytes _ _),
      ByteOrder.leValue_leBytes_of_lt (ByteOrder.unsigned_lt 8 _),
      ByteOrder.signed_unsigned (by norm_num; omega) (by norm_num; omega), Int64.ofInt_toInt]
  exact congrArg BoltValue.integer hread

theorem sound_formatAsFloat (data : UInt64) :
    Sound (formatAsFloat data) fun _ => some (.float data) := by
  refine sound_inline (header_wf_scalar (.inr (.inr rfl))) (by simp [SIZE_OF_DATA]) fun old => ?_
  have hlt : data.toNat < 256 ^ 8 := data.toNat_lt
  have hread : floatGet (inline ⟨.float, 0, 1, 0⟩ (memcpy old 0
      (ByteOrder.leBytes 8 data.toNat))) = data := by
    rw [floatGet, inlineData, take_writeInline (ByteOrder.length_leBytes _ _),
      ByteOrder.leValue_leBytes_of_lt hlt, UInt64.ofNat_toNat]
  exact congrArg BoltValue.float hread

/-! ### Characters -/

theorem charsGet_inline {type : BoltType} {old data : List UInt8} (h : data.length ≤ SIZE_OF_DATA) :
    charsGet (inline ⟨type, 0, data.length, 0⟩ (memcpy old 0 data)) = data := by
  unfold charsGet
  rw [header_inline, if_pos h]
  exact take_writeInline rfl

/-- Characters in a block. -/
theorem wf_chars {type : BoltType} (htype : type = .string ∨ type = .bytes) {data : List UInt8}
    (h : ¬data.length ≤ SIZE_OF_DATA) (pointer : Nat) :
    (chars ⟨type, 0, data.length, data.length⟩ pointer data).Wf := by
  have hheader := header_wf_chars htype data.length
  rw [if_neg h] at hheader
  refine .intro _ hheader ⟨?_, ?_, rfl⟩ fun _ hmem => absurd hmem List.not_mem_nil
  · show 0 < data.length
    omega
  · rcases htype with rfl | rfl <;> rfl

theorem charsGet_chars {type : BoltType} {data : List UInt8} (h : ¬data.length ≤ SIZE_OF_DATA)
    (pointer : Nat) : charsGet (chars ⟨type, 0, data.length, data.length⟩ pointer data) = data := by
  rw [charsGet]
  simp only [header, if_neg h, List.take_length]

/-- A block that has been adjusted takes the characters. -/
theorem writeChars_of_adjusted {value' : StoredValue} {data : List UInt8} (hpos : 0 < data.length)
    (h : value.Adjusted data.length value') :
    ∃ pointer, value'.writeChars data = some (chars value.header pointer data) ∧
      value'.block data.length = [(pointer, data.length)] := by
  rcases h with ⟨hzero, -⟩ | ⟨-, -, pointer, old, rfl⟩ | ⟨-, pointer, rfl⟩
  · omega
  · exact ⟨pointer, rfl, rfl⟩
  · exact ⟨pointer, rfl, rfl⟩

/-- `_format` with data. -/
theorem sound_formatData {type : BoltType} (htype : type = .string ∨ type = .bytes)
    {data : List UInt8} (hlong : ¬data.length ≤ SIZE_OF_DATA) {t : BoltValue}
    (htree : ∀ pointer, tree (chars ⟨type, 0, data.length, data.length⟩ pointer data) = t) :
    Sound (fun value => value.formatData type data) fun _ => some t := by
  intro value tree blocks frame h hsome haccount
  obtain ⟨value1, blocks1, hrecycle, hrecycled, haccount1⟩ := h.recycle haccount
  rw [← hrecycled.header] at haccount1
  obtain ⟨value2, blocks2, hadjust, hadjusted, haccount2⟩ :=
    adjust_spec (hrecycled.fits.backed (hrecycled.header ▸ h.header_wf)) data.length haccount1
  obtain ⟨pointer, hwrite, hblock⟩ := writeChars_of_adjusted (by omega) hadjusted
  rw [hblock] at haccount2
  refine ⟨chars ⟨type, 0, data.length, data.length⟩ pointer data, blocks2, ?_,
    wf_chars htype hlong pointer, ?_, haccount2⟩
  · simp only [formatData, Option.bind_eq_bind, hrecycle, hadjust, hwrite, Option.bind_some,
      setHeader]
  · rw [htree, Option.some.inj hsome]

theorem header_wf_short {type : BoltType} (h : type = .string ∨ type = .bytes) {size : Nat}
    (hshort : size ≤ SIZE_OF_DATA) : Header.Wf ⟨type, 0, size, 0⟩ := by
  have hheader := header_wf_chars h size
  rwa [if_pos hshort] at hheader

theorem sound_formatAsString (data : List UInt8) :
    Sound (formatAsString data) fun _ => some (.string data) := by
  by_cases hshort : data.length ≤ SIZE_OF_DATA
  · have hbody : formatAsString data = fun value =>
        value.formatInline .string data.length data := by
      funext value blocks
      exact if_pos hshort
    rw [hbody]
    exact sound_inline (header_wf_short (.inl rfl) hshort) hshort fun _ =>
      congrArg BoltValue.string (charsGet_inline hshort)
  · have hlong := sound_formatData (.inl rfl) hshort fun pointer =>
      congrArg BoltValue.string (charsGet_chars hshort pointer)
    intro value tree blocks frame h hsome haccount
    by_cases htype : value.header.type = .string
    · rw [owned_eq, List.append_assoc] at haccount
      obtain ⟨value1, blocks1, hadjust, hadjusted, haccount1⟩ :=
        adjust_spec (h.fits.backed h.header_wf) data.length haccount
      obtain ⟨pointer, hwrite, hblock⟩ := writeChars_of_adjusted (by omega) hadjusted
      have hsubtype := h.header_wf.subtype (by rw [htype]; decide)
      have hchildren : ownedBy value.children = [] := by
        cases value with
        | inline header data => rfl
        | chars header pointer data => rfl
        | values header pointer children =>
          have hcount : 0 < header.childCount := h.fits.2.1
          rw [Header.childCount, show header.type = .string from htype] at hcount
          exact absurd hcount (Nat.lt_irrefl 0)
      rw [hblock, hchildren] at haccount1
      refine ⟨chars ⟨.string, 0, data.length, data.length⟩ pointer data, blocks1, ?_,
        wf_chars (.inl rfl) hshort pointer, ?_, haccount1⟩
      · unfold formatAsString
        rw [if_neg hshort, if_pos htype]
        simp only [Option.bind_eq_bind, hadjust, hwrite, Option.bind_some, setHeader, header_chars,
          htype, hsubtype]
      · rw [← Option.some.inj hsome]
        exact congrArg BoltValue.string (charsGet_chars hshort pointer)
    · obtain ⟨value', blocks', hformat, hrest⟩ := hlong h hsome haccount
      refine ⟨value', blocks', ?_, hrest⟩
      unfold formatAsString
      rw [if_neg hshort, if_neg htype]
      exact hformat

theorem sound_formatAsBytes (data : List UInt8) :
    Sound (formatAsBytes data) fun _ => some (.bytes data) := by
  by_cases hshort : data.length ≤ SIZE_OF_DATA
  · have hbody : formatAsBytes data = fun value =>
        value.formatInline .bytes data.length data := by
      funext value blocks
      exact if_pos hshort
    rw [hbody]
    exact sound_inline (header_wf_short (.inr rfl) hshort) hshort fun _ =>
      congrArg BoltValue.bytes (charsGet_inline hshort)
  · have hbody : formatAsBytes data = fun value => value.formatData .bytes data := by
      funext value blocks
      exact if_neg hshort
    rw [hbody]
    exact sound_formatData (.inr rfl) hshort fun pointer =>
      congrArg BoltValue.bytes (charsGet_chars hshort pointer)

/-! ### Child values -/

/-- The types that have child values, and how many for each unit of the size. -/
def Container (type : BoltType) (multiplier : Nat) : Prop :=
  type = .list ∧ multiplier = 1 ∨ type = .struct ∧ multiplier = 1 ∨
    type = .dictionary ∧ multiplier = 2

theorem Container.header_wf {type : BoltType} {multiplier : Nat} (h : Container type multiplier)
    (subtype : Int16) (hsubtype : type ≠ .struct → subtype = 0) (size : Nat) :
    Header.Wf ⟨type, subtype, size, multiplier * SIZE_OF_VALUE * size⟩ := by
  refine ⟨?_, fun hnull => ?_, fun hscalar => ?_, hsubtype⟩
  · rcases h with ⟨rfl, rfl⟩ | ⟨rfl, rfl⟩ | ⟨rfl, rfl⟩ <;> simp [Header.dataSize]
  · rcases h with ⟨rfl, -⟩ | ⟨rfl, -⟩ | ⟨rfl, -⟩ <;> cases hnull
  · rcases h with ⟨rfl, -⟩ | ⟨rfl, -⟩ | ⟨rfl, -⟩ <;> rcases hscalar with h | h | h <;> cases h

theorem Container.childCount {header : Header} {multiplier : Nat}
    (h : Container header.type multiplier) : header.childCount = multiplier * header.size := by
  unfold Header.childCount
  rcases h with ⟨htype, rfl⟩ | ⟨htype, rfl⟩ | ⟨htype, rfl⟩ <;> simp [htype]

theorem Container.data_size {multiplier : Nat} (h : Container value.header.type multiplier)
    (hheader : value.header.Wf) :
    value.header.data_size = multiplier * SIZE_OF_VALUE * value.header.size := by
  rw [hheader.data_size]
  rcases h with ⟨htype, rfl⟩ | ⟨htype, rfl⟩ | ⟨htype, rfl⟩ <;> simp [htype, Header.dataSize]

/-- A value with as many child values as its size says has as many in its block. -/
theorem Wf.length_children (h : value.Wf) : value.children.length = value.header.childCount := by
  have hfits := h.fits
  cases value with
  | inline header data =>
    rcases h.header_wf.data_size_cases with ⟨-, hnone⟩ | ⟨hpos, -⟩ | ⟨hpos, -⟩
    · exact hnone.symm
    · exact absurd hfits.1 (Nat.pos_iff_ne_zero.mp hpos)
    · exact absurd hfits.1 (Nat.pos_iff_ne_zero.mp hpos)
  | chars header pointer data => exact hfits.2.1.symm
  | values header pointer children => exact hfits.2.2

/-- A block with the right number of child values, which then get their header. -/
theorem wf_setHeader {header : Header} {multiplier : Nat} (h : Container header.type multiplier)
    (hheader : header.Wf) (hchildren : ∀ child ∈ value.children, child.Wf)
    (hlength : value.children.length = multiplier * header.size)
    (hvalue : (multiplier * header.size = 0 ∧ ∃ data, value = inline value.header data ∧
        data.length = SIZE_OF_DATA) ∨
      0 < multiplier * header.size ∧
        ∃ pointer, value = values value.header pointer value.children) :
    (value.setHeader header).Wf := by
  refine .intro _ (by rwa [header_setHeader]) ?_ (by rwa [children_setHeader])
  have hcount := h.childCount
  have hcases := hheader.data_size_cases
  rw [hcount] at hcases
  rcases hvalue with ⟨hzero, data, hvalue, hdata⟩ | ⟨hpos, pointer, hvalue⟩
  · rw [hvalue]
    refine ⟨?_, hdata⟩
    show header.data_size = 0
    rcases hcases with ⟨hnone, -⟩ | ⟨-, -, -, -, hchars⟩ | ⟨-, hpos, -⟩
    · exact hnone
    · rcases h with ⟨htype, -⟩ | ⟨htype, -⟩ | ⟨htype, -⟩ <;> rw [htype] at hchars <;>
        rcases hchars with h | h <;> cases h
    · omega
  · rw [hvalue]
    refine ⟨?_, ?_, ?_⟩
    · show 0 < header.data_size
      rcases hcases with ⟨-, hzero⟩ | ⟨-, hzero, -⟩ | ⟨hdata, -⟩
      · omega
      · omega
      · exact hdata
    · show 0 < header.childCount
      omega
    · show value.children.length = header.childCount
      omega

/-- The child values of a block that has been adjusted to the size for them, with those
from the index on set to zero. -/
theorem zeroFrom_of_adjusted {value' : StoredValue} {index count : Nat}
    (h : value.Adjusted (SIZE_OF_VALUE * (index + count)) value')
    (hindex : index ≤ value.children.length) :
    ∃ cleared, value'.zeroFrom index count = some cleared ∧ cleared.header = value.header ∧
      cleared.children = value.children.take index ++ List.replicate count zeroed ∧
      (∀ size, cleared.block size = value'.block size) ∧
      ((index + count = 0 ∧ ∃ data, cleared = inline cleared.header data ∧
          data.length = SIZE_OF_DATA) ∨
        0 < index + count ∧
          ∃ pointer, cleared = values cleared.header pointer cleared.children) := by
  rcases h with ⟨hzero, data, rfl, hdata⟩ | ⟨hpos, hnone, pointer, data, rfl⟩ | ⟨hpos, pointer, rfl⟩
  · have hboth : index + count = 0 := (Nat.mul_eq_zero.mp hzero).resolve_left (by decide)
    have hcount : count = 0 := by omega
    have hfirst : index = 0 := by omega
    refine ⟨_, if_pos hcount, rfl, ?_, fun _ => rfl, .inl ⟨hboth, data, rfl, hdata⟩⟩
    rw [hcount, hfirst]
    rfl
  · rw [hnone, List.length_nil] at hindex
    have hfirst : index = 0 := Nat.le_zero.mp hindex
    have hboth : 0 < index + count := Nat.pos_of_mul_pos_left hpos
    refine ⟨_, if_pos hfirst, rfl, ?_, fun _ => rfl, .inr ⟨hboth, pointer, rfl⟩⟩
    rw [hfirst]
    rfl
  · have hboth : 0 < index + count := Nat.pos_of_mul_pos_left hpos
    refine ⟨_, rfl, rfl, ?_, fun _ => rfl, .inr ⟨hboth, pointer, rfl⟩⟩
    show (value.children.take _).take index ++ _ = _
    rw [Nat.mul_div_cancel_left _ (by decide), List.take_take,
      Nat.min_eq_left (Nat.le_add_right index count)]

/-- The child values of a block that has been adjusted to the size of the first ones. -/
theorem take_of_adjusted {value' : StoredValue} {n : Nat}
    (h : value.Adjusted (SIZE_OF_VALUE * n) value') (hn : n < value.children.length) :
    value'.header = value.header ∧ value'.children = value.children.take n ∧
      ((n = 0 ∧ ∃ data, value' = inline value'.header data ∧ data.length = SIZE_OF_DATA) ∨
        0 < n ∧ ∃ pointer, value' = values value'.header pointer value'.children) := by
  rcases h with ⟨hzero, data, rfl, hdata⟩ | ⟨-, hnone, -⟩ | ⟨hpos, pointer, rfl⟩
  · have hn0 : n = 0 := (Nat.mul_eq_zero.mp hzero).resolve_left (by decide)
    refine ⟨rfl, ?_, .inl ⟨hn0, data, rfl, hdata⟩⟩
    rw [hn0, List.take_zero]
    rfl
  · rw [hnone] at hn
    exact absurd hn (Nat.not_lt_zero n)
  · refine ⟨rfl, ?_, .inr ⟨Nat.pos_of_mul_pos_left hpos, pointer, rfl⟩⟩
    show value.children.take _ = _
    rw [Nat.mul_div_cancel_left _ (by decide)]

theorem owned_setHeader (value : StoredValue) (header : Header) :
    (value.setHeader header).owned = value.block header.data_size ++ ownedBy value.children := by
  rw [owned_eq, block_setHeader, header_setHeader, children_setHeader]

theorem isNull_of_mem_replicate {count : Nat} {child : StoredValue}
    (h : child ∈ List.replicate count zeroed) : child.IsNull := by
  rw [List.eq_of_mem_replicate h]
  exact isNull_zeroed

/-- `_format_as_structure` and what is like it. -/
theorem formatValues_spec {type : BoltType} {multiplier : Nat}
    (hcontainer : Container type multiplier)
    {subtype : Int16} (hsubtype : type ≠ .struct → subtype = 0) (size : Nat) (h : value.Wf)
    (haccount : Account blocks (value.owned ++ frame)) :
    ∃ value' blocks', value.formatValues type subtype size multiplier blocks =
        some (value', blocks') ∧ value'.Wf ∧
      value'.header = ⟨type, subtype, size, multiplier * SIZE_OF_VALUE * size⟩ ∧
      value'.children = List.replicate (multiplier * size) zeroed ∧
      Account blocks' (value'.owned ++ frame) := by
  obtain ⟨value1, blocks1, hrecycle, hrecycled, haccount1⟩ := h.recycle haccount
  rw [← hrecycled.header] at haccount1
  have hsize : multiplier * SIZE_OF_VALUE * size = SIZE_OF_VALUE * (0 + multiplier * size) := by
    ring
  obtain ⟨value2, blocks2, hadjust, hadjusted, haccount2⟩ := adjust_spec
    (hrecycled.fits.backed (hrecycled.header ▸ h.header_wf))
    (SIZE_OF_VALUE * (0 + multiplier * size))
    haccount1
  obtain ⟨value3, hzero, -, hchildren, hblock, hshape⟩ :=
    zeroFrom_of_adjusted hadjusted (Nat.zero_le _)
  rw [List.take_zero, List.nil_append] at hchildren
  rw [Nat.zero_add] at hshape
  have hnulls : ∀ child ∈ value3.children, child.IsNull := fun child hmem =>
    isNull_of_mem_replicate (hchildren ▸ hmem)
  refine ⟨value3.setHeader ⟨type, subtype, size, multiplier * SIZE_OF_VALUE * size⟩, blocks2,
    ?_, ?_,
    header_setHeader, ?_, ?_⟩
  · rw [← hsize] at hadjust
    simp only [formatValues, Option.bind_eq_bind, hrecycle, hadjust, hzero, Option.bind_some]
  · exact wf_setHeader hcontainer (hcontainer.header_wf subtype hsubtype size)
      (fun child hmem => (hnulls child hmem).wf) (by rw [hchildren, List.length_replicate]) hshape
  · rw [children_setHeader, hchildren]
  · rw [owned_setHeader, hblock, ownedBy_null hnulls, List.append_nil, hsize]
    exact haccount2

/-- `_resize`: the child values up to the new size stay, and those that are added are
zero. -/
theorem resize_spec {multiplier : Nat} (hcontainer : Container value.header.type multiplier)
    (size : Nat) (h : value.Wf) (haccount : Account blocks (value.owned ++ frame)) :
    ∃ value' blocks', value.resize size multiplier blocks = some (value', blocks') ∧ value'.Wf ∧
      value'.header = { value.header with
        size := size, data_size := multiplier * SIZE_OF_VALUE * size } ∧
      value'.children = value.children.take (multiplier * size) ++
        List.replicate (multiplier * size - value.children.length) zeroed ∧
      Account blocks' (value'.owned ++ frame) := by
  have hdata := hcontainer.data_size h.header_wf
  have hlength := h.length_children
  rw [hcontainer.childCount] at hlength
  have hsubtype := h.header_wf.subtype
  have hheader := hcontainer.header_wf value.header.subtype hsubtype size
  unfold resize
  dsimp only
  by_cases hgrow : size > value.header.size
  · rw [if_pos hgrow]
    have hle : value.children.length ≤ multiplier * size := by
      rw [hlength]
      exact Nat.mul_le_mul_left _ (Nat.le_of_lt hgrow)
    have hold : value.header.data_size = SIZE_OF_VALUE * value.children.length := by
      rw [hdata, hlength]
      ring
    have hnew : multiplier * SIZE_OF_VALUE * size =
        SIZE_OF_VALUE * (value.children.length + (multiplier * size - value.children.length)) := by
      rw [Nat.add_sub_cancel' hle]
      ring
    have hindex : value.header.data_size / SIZE_OF_VALUE = value.children.length := by
      rw [hold, Nat.mul_div_cancel_left _ (by decide)]
    have hcount : (multiplier * SIZE_OF_VALUE * size - value.header.data_size) / SIZE_OF_VALUE =
        multiplier * size - value.children.length := by
      rw [hnew, hold, ← Nat.mul_sub, Nat.mul_div_cancel_left _ (by decide), Nat.add_sub_cancel_left]
    rw [owned_eq, List.append_assoc] at haccount
    obtain ⟨value1, blocks1, hadjust, hadjusted, haccount1⟩ :=
      adjust_spec (h.fits.backed h.header_wf) (multiplier * SIZE_OF_VALUE * size) haccount
    rw [hnew] at hadjusted
    obtain ⟨value2, hzero, hheader2, hchildren, hblock, hshape⟩ :=
      zeroFrom_of_adjusted hadjusted (Nat.le_refl _)
    rw [List.take_length] at hchildren
    rw [Nat.add_sub_cancel' hle] at hshape
    have hblocks : ownedBy value2.children = ownedBy value.children := by
      rw [hchildren, ownedBy_append, ownedBy_null fun child => isNull_of_mem_replicate,
        List.append_nil]
    refine ⟨value2.setHeader { value.header with
        size := size, data_size := multiplier * SIZE_OF_VALUE * size },
      blocks1, ?_, ?_, header_setHeader, ?_, ?_⟩
    · simp only [Option.bind_eq_bind, hadjust, hindex, hcount, hzero, Option.bind_some, hheader2]
    · refine wf_setHeader hcontainer hheader (fun child hmem => ?_) ?_ hshape
      · rw [hchildren] at hmem
        rcases List.mem_append.mp hmem with hchild | hnew
        · exact h.children child hchild
        · exact (isNull_of_mem_replicate hnew).wf
      · rw [hchildren, List.length_append, List.length_replicate]
        exact Nat.add_sub_cancel' hle
    · rw [children_setHeader, hchildren, List.take_of_length_le hle]
    · rw [owned_setHeader, hblock, hblocks, List.append_assoc]
      exact haccount1
  rw [if_neg hgrow]
  by_cases hshrink : size < value.header.size
  · rw [if_pos hshrink]
    have hpos : 0 < multiplier := by
      rcases hcontainer with ⟨-, rfl⟩ | ⟨-, rfl⟩ | ⟨-, rfl⟩ <;> decide
    have hlt : multiplier * size < value.children.length := by
      rw [hlength]
      exact Nat.mul_lt_mul_of_pos_left hshrink hpos
    cases value with
    | inline header data => exact absurd hlt (Nat.not_lt_zero _)
    | chars header pointer data => exact absurd hlt (Nat.not_lt_zero _)
    | values header pointer children =>
      have hlast : ∀ child ∈ children.drop (multiplier * size), child.Clears := fun child hmem =>
        (h.children child (List.mem_of_mem_drop hmem)).clears
      have hcount : (children.drop (multiplier * size)).length =
          multiplier * header.size - multiplier * size := by
        rw [List.length_drop, show children.length = multiplier * header.size from hlength]
      have hreorder : (owned (values header pointer children) ++ frame).Perm
          (ownedBy (children.drop (multiplier * size)) ++
            ((pointer, header.data_size) ::
              (ownedBy (children.take (multiplier * size)) ++ frame))) := by
        have hsplit : ownedBy children = ownedBy (children.take (multiplier * size)) ++
            ownedBy (children.drop (multiplier * size)) := by
          rw [← ownedBy_append, List.take_append_drop]
        rw [owned, hsplit]
        refine List.Perm.trans ?_ List.perm_middle.symm
        rw [List.cons_append]
        refine List.Perm.cons _ ?_
        rw [← List.append_assoc]
        exact List.Perm.append_right frame List.perm_append_comm
      obtain ⟨last, blocks1, hformat, hlength1, hnulls, haccount1⟩ :=
        formatFirst_spec hlast (haccount.perm hreorder)
      rw [hcount] at hformat hlength1
      have htake : (children.take (multiplier * size)).length = multiplier * size :=
        List.length_take_of_le (Nat.le_of_lt hlt)
      have hbacked :
          (values header pointer (children.take (multiplier * size) ++ last)).Backed := by
        refine ⟨h.fits.1, ?_⟩
        have hle : multiplier * size ≤ multiplier * header.size :=
          Nat.mul_le_mul_left _ (Nat.le_of_lt hshrink)
        rw [List.length_append, htake, hlength1, Nat.add_sub_cancel' hle,
          show header.data_size = multiplier * SIZE_OF_VALUE * header.size from hdata]
        ring
      obtain ⟨value2, blocks2, hadjust, hadjusted, haccount2⟩ :=
        adjust_spec hbacked (multiplier * SIZE_OF_VALUE * size) haccount1
      have hnew : multiplier * SIZE_OF_VALUE * size = SIZE_OF_VALUE * (multiplier * size) := by ring
      have hmore : multiplier * size < (children.take (multiplier * size) ++ last).length := by
        rw [List.length_append, htake, hlength1]
        have hlt' : multiplier * size < multiplier * header.size :=
          Nat.mul_lt_mul_of_pos_left hshrink hpos
        omega
      rw [hnew] at hadjusted
      obtain ⟨hheader2, hchildren2, hshape⟩ := take_of_adjusted hadjusted hmore
      have hfirst : (children.take (multiplier * size) ++ last).take (multiplier * size) =
          children.take (multiplier * size) := List.take_left' htake
      replace hchildren2 : value2.children = children.take (multiplier * size) :=
        hchildren2.trans hfirst
      refine ⟨value2.setHeader { header with
          size := size, data_size := multiplier * SIZE_OF_VALUE * size },
        blocks2, ?_, ?_, header_setHeader, ?_, ?_⟩
      · simp only [Option.bind_eq_bind, header_values, hformat, hadjust, Option.bind_some, hheader2]
      · refine wf_setHeader hcontainer hheader (fun child hmem => ?_) ?_ hshape
        · rw [hchildren2] at hmem
          exact h.children child (List.mem_of_mem_take hmem)
        · rw [hchildren2]
          exact htake
      · rw [children_setHeader, hchildren2]
        show _ = children.take _ ++ List.replicate (_ - children.length) _
        have hnone : multiplier * size - children.length = 0 := by
          have hlt' : multiplier * size < children.length := hlt
          omega
        rw [hnone, List.replicate_zero, List.append_nil]
      · rw [owned_setHeader, hchildren2, List.append_assoc]
        exact haccount2
  · rw [if_neg hshrink]
    have hsame : size = value.header.size := by omega
    refine ⟨value, blocks, rfl, h, ?_, ?_, haccount⟩
    · rw [hsame, ← hdata]
    · rw [hsame, ← hlength, List.take_length, Nat.sub_self, List.replicate_zero, List.append_nil]

/-! ### Lists, dictionaries and structures -/

@[simp] theorem map_tree_replicate (count : Nat) :
    (List.replicate count zeroed).map tree = List.replicate count .null := by
  rw [List.map_replicate, tree_zeroed]

theorem listElements_of_type {v : BoltValue} (h : v.type ≠ .list) (length : Nat) :
    v.listElements length = List.replicate length .null := by
  cases v with
  | list elements => exact absurd rfl h
  | _ => rfl

theorem dictionaryEntries_of_type {v : BoltValue} (h : v.type ≠ .dictionary) (length : Nat) :
    v.dictionaryEntries length = List.replicate length (.null, .null) := by
  cases v with
  | dictionary entries => exact absurd rfl h
  | _ => rfl

theorem pairs_replicate {α : Type} (count : Nat) (x : α) :
    pairs (List.replicate (2 * count) x) = List.replicate count (x, x) := by
  induction count with
  | zero => rfl
  | succ count ih =>
    rw [Nat.mul_succ, List.replicate_succ, List.replicate_succ, pairs, ih, List.replicate_succ]

theorem pairs_append {α : Type} {n : Nat} :
    ∀ {first : List α} (second : List α), first.length = 2 * n →
      pairs (first ++ second) = pairs first ++ pairs second := by
  induction n with
  | zero =>
    intro first second hlength
    rw [List.eq_nil_of_length_eq_zero hlength]
    rfl
  | succ n ih =>
    intro first second hlength
    match first with
    | [] => simp at hlength
    | [_] => simp at hlength; omega
    | x :: y :: first =>
      have hrest : first.length = 2 * n := by
        simp only [List.length_cons] at hlength
        omega
      show (x, y) :: pairs (first ++ second) = (x, y) :: (pairs first ++ pairs second)
      rw [ih second hrest]

theorem length_pairs {α : Type} {n : Nat} : ∀ {list : List α}, list.length = 2 * n →
    (pairs list).length = n := by
  induction n with
  | zero =>
    intro list hlength
    rw [List.eq_nil_of_length_eq_zero hlength]
    rfl
  | succ n ih =>
    intro list hlength
    match list with
    | [] => simp at hlength
    | [_] => simp at hlength; omega
    | x :: y :: list =>
      have hrest : list.length = 2 * n := by
        simp only [List.length_cons] at hlength
        omega
      show (pairs list).length + 1 = n + 1
      rw [ih hrest]

theorem pairs_take {α : Type} {list : List α} {n : Nat} (hlength : list.length = 2 * n)
    (size : Nat) :
    pairs (list.take (2 * size)) = (pairs list).take size := by
  by_cases hle : size ≤ n
  · have hfirst : (list.take (2 * size)).length = 2 * size := List.length_take_of_le (by omega)
    have hsplit := pairs_append (list.drop (2 * size)) hfirst
    rw [List.take_append_drop] at hsplit
    rw [hsplit, List.take_left' (length_pairs hfirst)]
  · rw [List.take_of_length_le (by omega),
      List.take_of_length_le (by rw [length_pairs hlength]; omega)]

/-- `_resize` of entries that lie one after the other. -/
theorem pairs_resize {α : Type} {list : List α} {n : Nat} (hlength : list.length = 2 * n)
    (size : Nat)
    (pad : α) :
    pairs (list.take (2 * size) ++ List.replicate (2 * size - list.length) pad) =
      BoltValue.resize (pairs list) size (pad, pad) := by
  have hrest : 2 * size - list.length = 2 * (size - n) := by omega
  have hfirst : (list.take (2 * size)).length = 2 * min size n := by
    rw [List.length_take, hlength]
    omega
  rw [pairs_append _ hfirst, pairs_take hlength, hrest, pairs_replicate, BoltValue.resize,
    length_pairs hlength]

theorem Wf.length_dictionary (h : value.Wf) (htype : value.header.type = .dictionary) :
    value.children.length = 2 * value.header.size := by
  rw [h.length_children, Header.childCount, htype]

theorem Wf.length_list (h : value.Wf) (htype : value.header.type = .list) :
    value.children.length = value.header.size := by
  rw [h.length_children, Header.childCount, htype]

theorem sound_listResize (size : Nat) : Sound (listResize size) fun t =>
    if t.type = .list then some (t.formatAsList size) else none := by
  intro value tree blocks frame h hsome haccount
  dsimp only at hsome
  rw [type_tree] at hsome
  by_cases htype : value.header.type = .list
  · rw [if_pos htype] at hsome
    obtain ⟨value', blocks', hresize, hwf, hheader, hchildren, haccount'⟩ :=
      resize_spec (.inl ⟨htype, rfl⟩) size h haccount
    refine ⟨value', blocks', hresize, hwf, ?_, haccount'⟩
    rw [tree_list (by rw [hheader]; exact htype), hchildren, ← Option.some.inj hsome,
      tree_list htype, BoltValue.formatAsList, BoltValue.listElements, BoltValue.resize,
      List.map_append, map_tree_replicate, Nat.one_mul, List.map_take, List.length_map]
  · rw [if_neg htype] at hsome
    cases hsome

theorem sound_formatAsList (length : Nat) :
    Sound (formatAsList length) fun t => some (t.formatAsList length) := by
  intro value tree blocks frame h hsome haccount
  unfold formatAsList
  by_cases htype : value.header.type = .list
  · rw [if_pos htype]
    refine sound_listResize length h ?_ haccount
    dsimp only
    rw [type_tree, if_pos htype]
    exact hsome
  · rw [if_neg htype]
    obtain ⟨value', blocks', hformat, hwf, hheader, hchildren, haccount'⟩ :=
      formatValues_spec (.inl ⟨rfl, rfl⟩) (fun _ => rfl) length h haccount
    refine ⟨value', blocks', hformat, hwf, ?_, haccount'⟩
    rw [tree_list (by rw [hheader]), hchildren, map_tree_replicate, Nat.one_mul,
      ← Option.some.inj hsome, BoltValue.formatAsList,
      listElements_of_type (by rw [type_tree]; exact htype)]

theorem sound_formatAsDictionary (length : Nat) :
    Sound (formatAsDictionary length) fun t => some (t.formatAsDictionary length) := by
  intro value tree blocks frame h hsome haccount
  unfold formatAsDictionary
  rw [← Option.some.inj hsome]
  by_cases htype : value.header.type = .dictionary
  · rw [if_pos htype]
    obtain ⟨value', blocks', hresize, hwf, hheader, hchildren, haccount'⟩ :=
      resize_spec (.inr (.inr ⟨htype, rfl⟩)) length h haccount
    refine ⟨value', blocks', hresize, hwf, ?_, haccount'⟩
    have hlength : (value.children.map StoredValue.tree).length = 2 * value.header.size := by
      rw [List.length_map, h.length_dictionary htype]
    rw [tree_dictionary (by rw [hheader]; exact htype), hchildren, tree_dictionary htype,
      BoltValue.formatAsDictionary, BoltValue.dictionaryEntries, List.map_append,
      map_tree_replicate, List.map_take, ← pairs_resize hlength, List.length_map]
  · rw [if_neg htype]
    obtain ⟨value', blocks', hformat, hwf, hheader, hchildren, haccount'⟩ :=
      formatValues_spec (.inr (.inr ⟨rfl, rfl⟩)) (fun _ => rfl) length h haccount
    refine ⟨value', blocks', hformat, hwf, ?_, haccount'⟩
    rw [tree_dictionary (by rw [hheader]), hchildren, map_tree_replicate, pairs_replicate,
      BoltValue.formatAsDictionary, dictionaryEntries_of_type (by rw [type_tree]; exact htype)]

theorem sound_formatAsStructure (code : Int16) (length : Nat) :
    Sound (formatAsStructure code length) fun _ => some (.formatAsStructure code length) := by
  intro value tree blocks frame h hsome haccount
  obtain ⟨value', blocks', hformat, hwf, hheader, hchildren, haccount'⟩ :=
    formatValues_spec (.inr (.inl ⟨rfl, rfl⟩)) (fun hne => absurd rfl hne) length h haccount
  refine ⟨value', blocks', hformat, hwf, ?_, haccount'⟩
  rw [tree_struct (by rw [hheader]), hchildren, map_tree_replicate, Nat.one_mul, hheader,
    ← Option.some.inj hsome, BoltValue.formatAsStructure]

/-! ## Copying -/

@[simp] theorem header_setChildren (children : List StoredValue) :
    (value.setChildren children).header = value.header := by
  cases value <;> rfl

@[simp] theorem block_setChildren (children : List StoredValue) (size : Nat) :
    (value.setChildren children).block size = value.block size := by
  cases value <;> rfl

@[simp] theorem setChildren_children (value : StoredValue) :
    value.setChildren value.children = value := by
  cases value <;> rfl

/-- The accessors of a value itself do not depend on its child values. -/
theorem shape_setChildren (children : List StoredValue) (trees : List BoltValue) :
    (value.setChildren children).shape trees = value.shape trees := by
  cases value <;> rfl

theorem children_setChildren {children : List StoredValue}
    (h : children.length = value.children.length) :
    (value.setChildren children).children = children := by
  cases value with
  | inline header data => exact (List.eq_nil_of_length_eq_zero h).symm
  | chars header pointer data => exact (List.eq_nil_of_length_eq_zero h).symm
  | values header pointer old => rfl

/-- Other child values of the same number. -/
theorem Wf.setChildren (h : value.Wf) {children : List StoredValue}
    (hlength : children.length = value.children.length) (hchildren : ∀ child ∈ children, child.Wf) :
    (value.setChildren children).Wf := by
  refine .intro _ (by rw [header_setChildren]; exact h.header_wf) ?_
    (by rw [children_setChildren hlength]; exact hchildren)
  have hfits := h.fits
  cases value with
  | inline header data => exact hfits
  | chars header pointer data => exact hfits
  | values header pointer old => exact ⟨hfits.1, hfits.2.1, hlength.trans hfits.2.2⟩

theorem owned_setChildren {children : List StoredValue}
    (h : children.length = value.children.length) :
    (value.setChildren children).owned =
      value.block value.header.data_size ++ ownedBy children := by
  rw [owned_eq, header_setChildren, block_setChildren, children_setChildren h]

theorem tree_setChildren {children : List StoredValue}
    (h : children.length = value.children.length) :
    (value.setChildren children).tree = value.shape (children.map tree) := by
  rw [tree_eq, shape_setChildren, children_setChildren h]

/-- `BoltValue_copy` in one piece. -/
theorem copy_eq (src dest : StoredValue) (blocks : Blocks) :
    copy src dest blocks = (do
      let (dest, blocks) ← dest.recycle blocks
      let (dest, blocks) ← formatLike src dest blocks
      let (dests, blocks) ← copyFirst src.header.childCount src.children dest.children blocks
      some (dest.setChildren dests, blocks)) := by
  have hnone : ∀ (n : Nat) (dest : StoredValue) (blocks : Blocks),
      (if n = 0 then some (dest, blocks) else none) =
        (copyFirst n [] dest.children blocks).bind fun copied =>
          some (dest.setChildren copied.1, copied.2) := by
    intro n dest blocks
    cases n with
    | zero => simp [copyFirst]
    | succ n => simp [copyFirst]
  cases src with
  | inline header data => simp only [copy, hnone]; rfl
  | chars header pointer data => simp only [copy, hnone]; rfl
  | values header pointer srcs => rw [copy]; rfl

/-- The logical size of a value is that of its tree. -/
theorem Wf.size_tree (h : value.Wf) : value.tree.size = value.header.size := by
  have hchars : (value.header.type = .string ∨ value.header.type = .bytes) →
      value.charsGet.length = value.header.size := by
    intro htype
    have hfits := h.fits
    have hcases := h.header_wf.data_size_cases
    have hdata := h.header_wf.data_size
    have hsize : value.header.data_size =
        if value.header.size ≤ SIZE_OF_DATA then 0 else value.header.size := by
      rcases htype with htype | htype <;> rw [hdata, htype] <;> rfl
    have hcount : value.header.childCount = 0 := by
      rcases htype with htype | htype <;> rw [Header.childCount, htype]
    unfold charsGet
    by_cases hshort : value.header.size ≤ SIZE_OF_DATA
    · rw [if_pos hshort] at hsize ⊢
      cases value with
      | inline header data =>
        show (data.take header.size).length = header.size
        rw [List.length_take, hfits.2]
        exact Nat.min_eq_left hshort
      | chars header pointer data => exact absurd hsize (Nat.pos_iff_ne_zero.mp hfits.1)
      | values header pointer children => exact absurd hcount (Nat.pos_iff_ne_zero.mp hfits.2.1)
    · rw [if_neg hshort] at hsize ⊢
      cases value with
      | inline header data =>
        have hzero : header.data_size = 0 := hfits.1
        have hlong : ¬header.size ≤ SIZE_OF_DATA := hshort
        have hsize' : header.data_size = header.size := hsize
        omega
      | chars header pointer data =>
        show (data.take header.size).length = header.size
        rw [List.length_take, hfits.2.2, show header.data_size = header.size from hsize,
          Nat.min_self]
      | values header pointer children => exact absurd hcount (Nat.pos_iff_ne_zero.mp hfits.2.1)
  rw [tree_eq, shape]
  cases htype : value.header.type with
  | null => rw [h.header_wf.null htype]; rfl
  | boolean => rw [h.header_wf.scalar (.inl htype)]; rfl
  | integer => rw [h.header_wf.scalar (.inr (.inl htype))]; rfl
  | float => rw [h.header_wf.scalar (.inr (.inr htype))]; rfl
  | string => exact congrArg Nat.cast (hchars (.inl htype))
  | bytes => exact congrArg Nat.cast (hchars (.inr htype))
  | dictionary =>
    have hlength : (value.children.map tree).length = 2 * value.header.size := by
      rw [List.length_map, h.length_dictionary htype]
    exact congrArg Nat.cast (length_pairs hlength)
  | list =>
    have hlength : (value.children.map tree).length = value.header.size := by
      rw [List.length_map, h.length_list htype]
    exact congrArg Nat.cast hlength
  | struct =>
    have hlength : (value.children.map tree).length = value.header.size := by
      rw [List.length_map, h.length_children, Header.childCount, htype]
    exact congrArg Nat.cast hlength

/-- The accessors of a value without child values. -/
theorem shape_eq_tree (hlist : value.header.type ≠ .list) (hstruct : value.header.type ≠ .struct)
    (hdictionary : value.header.type ≠ .dictionary) (ts : List BoltValue) :
    value.shape ts = value.tree := by
  rw [tree_eq, shape, shape]
  cases htype : value.header.type with
  | list => exact absurd htype hlist
  | struct => exact absurd htype hstruct
  | dictionary => exact absurd htype hdictionary
  | _ => rfl

/-- The value has the type, the size and the payload of the source. -/
structure Like (src dest : StoredValue) : Prop where
  type : dest.header.type = src.header.type
  size : dest.header.size = src.header.size
  shape : ∀ ts : List BoltValue, dest.shape ts = src.shape ts

theorem Like.childCount {src : StoredValue} (h : Like src dest) :
    dest.header.childCount = src.header.childCount := by
  rw [Header.childCount, Header.childCount, h.type, h.size]

/-- A function that makes a value without child values, with the tree of the source. -/
theorem like_of_sound {src : StoredValue} {f : StoredValue → Blocks → Option (StoredValue × Blocks)}
    {g : BoltValue → Option BoltValue} (hf : Sound f g) (hg : g dest.tree = some src.tree)
    (hsrc : src.Wf) (h : dest.Wf) (haccount : Account blocks (dest.owned ++ frame))
    (hlist : src.header.type ≠ .list) (hstruct : src.header.type ≠ .struct)
    (hdictionary : src.header.type ≠ .dictionary) :
    ∃ dest' blocks', f dest blocks = some (dest', blocks') ∧ dest'.Wf ∧ Like src dest' ∧
      Account blocks' (dest'.owned ++ frame) := by
  obtain ⟨dest', blocks', hformat, hwf, htree, haccount'⟩ := hf h hg haccount
  have htype : dest'.header.type = src.header.type := by
    rw [← type_tree, htree, type_tree]
  refine ⟨dest', blocks', hformat, hwf, ⟨htype, ?_, fun ts => ?_⟩, haccount'⟩
  · have hsize : (dest'.header.size : Int) = src.header.size := by
      rw [← hwf.size_tree, htree, hsrc.size_tree]
    exact Int.ofNat_inj.mp hsize
  · rw [shape_eq_tree (htype ▸ hlist) (htype ▸ hstruct) (htype ▸ hdictionary), htree,
      shape_eq_tree hlist hstruct hdictionary]

/-- The `switch` of `BoltValue_copy`. -/
theorem formatLike_spec {src : StoredValue} (hsrc : src.Wf) (h : dest.Wf)
    (haccount : Account blocks (dest.owned ++ frame)) :
    ∃ dest' blocks', formatLike src dest blocks = some (dest', blocks') ∧ dest'.Wf ∧
      Like src dest' ∧ Account blocks' (dest'.owned ++ frame) := by
  have htree := tree_eq src
  unfold shape at htree
  unfold formatLike
  cases htype : src.header.type with
  | null =>
    rw [htype] at htree
    exact like_of_sound sound_formatAsNull (by rw [htree]) hsrc h haccount
      (by simp [htype]) (by simp [htype]) (by simp [htype])
  | boolean =>
    rw [htype] at htree
    have hbit : BoltValue.toBit src.booleanGet = src.booleanGet := BoltValue.toBit_toBit _
    exact like_of_sound (sound_formatAsBoolean src.booleanGet) (by rw [htree, hbit]) hsrc h haccount
      (by simp [htype]) (by simp [htype]) (by simp [htype])
  | integer =>
    rw [htype] at htree
    exact like_of_sound (sound_formatAsInteger src.integerGet) (by rw [htree]) hsrc h haccount
      (by simp [htype]) (by simp [htype]) (by simp [htype])
  | float =>
    rw [htype] at htree
    exact like_of_sound (sound_formatAsFloat src.floatGet) (by rw [htree]) hsrc h haccount
      (by simp [htype]) (by simp [htype]) (by simp [htype])
  | string =>
    rw [htype] at htree
    exact like_of_sound (sound_formatAsString src.charsGet) (by rw [htree]) hsrc h haccount
      (by simp [htype]) (by simp [htype]) (by simp [htype])
  | bytes =>
    rw [htype] at htree
    exact like_of_sound (sound_formatAsBytes src.charsGet) (by rw [htree]) hsrc h haccount
      (by simp [htype]) (by simp [htype]) (by simp [htype])
  | dictionary =>
    obtain ⟨dest', blocks', hformat, hwf, hdest, haccount'⟩ :=
      sound_formatAsDictionary src.header.size h rfl haccount
    have htype' : dest'.header.type = .dictionary := by
      rw [← type_tree, hdest]
      rfl
    have hsize : (dest'.header.size : Int) = src.header.size := by
      rw [← hwf.size_tree, hdest]
      exact congrArg Nat.cast (BoltValue.length_dictionaryEntries _ _)
    refine ⟨dest', blocks', hformat, hwf, ⟨htype'.trans htype.symm, Int.ofNat_inj.mp hsize,
      fun ts => ?_⟩, haccount'⟩
    rw [shape, shape, htype', htype]
  | list =>
    obtain ⟨dest', blocks', hformat, hwf, hdest, haccount'⟩ :=
      sound_formatAsList src.header.size h rfl haccount
    have htype' : dest'.header.type = .list := by
      rw [← type_tree, hdest]
      rfl
    have hsize : (dest'.header.size : Int) = src.header.size := by
      rw [← hwf.size_tree, hdest]
      exact congrArg Nat.cast (BoltValue.length_listElements _ _)
    refine ⟨dest', blocks', hformat, hwf, ⟨htype'.trans htype.symm, Int.ofNat_inj.mp hsize,
      fun ts => ?_⟩, haccount'⟩
    rw [shape, shape, htype', htype]
  | struct =>
    obtain ⟨dest', blocks', hformat, hwf, hdest, haccount'⟩ :=
      sound_formatAsStructure src.header.subtype src.header.size h rfl haccount
    have htype' : dest'.header.type = .struct := by
      rw [← type_tree, hdest]
      rfl
    have hsize : (dest'.header.size : Int) = src.header.size := by
      rw [← hwf.size_tree, hdest]
      exact congrArg Nat.cast List.length_replicate
    have hcode : dest'.header.subtype = src.header.subtype := by
      have hstruct := tree_struct htype'
      rw [hdest] at hstruct
      exact (BoltValue.struct.inj hstruct).1.symm
    refine ⟨dest', blocks', hformat, hwf, ⟨htype'.trans htype.symm, Int.ofNat_inj.mp hsize,
      fun ts => ?_⟩, haccount'⟩
    rw [shape, shape, htype', htype, hcode]

/-- `BoltValue_copy` from the value makes any value equal to it. -/
def Copies (src : StoredValue) : Prop := Sound (copy src) fun _ => some src.tree

theorem copyFirst_spec {srcs : List StoredValue} (h : ∀ src ∈ srcs, src.Copies) :
    ∀ {dests : List StoredValue} {blocks frame}, (∀ dest ∈ dests, dest.Wf) →
      dests.length = srcs.length → Account blocks (ownedBy dests ++ frame) →
      ∃ dests' blocks', copyFirst srcs.length srcs dests blocks = some (dests', blocks') ∧
        dests'.length = dests.length ∧ (∀ dest ∈ dests', dest.Wf) ∧
        dests'.map tree = srcs.map tree ∧
        Account blocks' (ownedBy dests' ++ frame) := by
  induction srcs with
  | nil =>
    intro dests blocks frame hdests hlength haccount
    rw [List.eq_nil_of_length_eq_zero hlength] at haccount ⊢
    exact ⟨[], blocks, rfl, rfl, fun _ hmem => absurd hmem List.not_mem_nil, rfl, haccount⟩
  | cons src srcs ih =>
    intro dests blocks frame hdests hlength haccount
    obtain ⟨hsrc, hsrcs⟩ := List.forall_mem_cons.mp h
    obtain ⟨dest, dests, rfl⟩ := List.exists_cons_of_length_eq_add_one hlength
    obtain ⟨hdest, hrest⟩ := List.forall_mem_cons.mp hdests
    rw [ownedBy, List.append_assoc] at haccount
    obtain ⟨dest', blocks1, hcopy, hwf, htree, haccount1⟩ := hsrc hdest rfl haccount
    obtain ⟨dests', blocks2, hcopies, hlength', hwfs, htrees, haccount2⟩ :=
      ih hsrcs hrest (Nat.succ.inj hlength) (haccount1.perm (List.perm_append_comm_assoc _ _ _))
    refine ⟨dest' :: dests', blocks2, ?_, by simp [hlength'], ?_, ?_, ?_⟩
    · simp only [List.length_cons, copyFirst, Option.bind_eq_bind, hcopy, hcopies, Option.bind_some]
    · exact List.forall_mem_cons.mpr ⟨hwf, hwfs⟩
    · rw [List.map_cons, htree, htrees, List.map_cons]
    · rw [ownedBy, List.append_assoc]
      exact haccount2.perm (List.perm_append_comm_assoc _ _ _)

/-- Every value can be copied. -/
theorem Wf.copies {src : StoredValue} (hsrc : src.Wf) : src.Copies := by
  induction hsrc with
  | intro src hheader hfits hchildren ih =>
    intro dest tree blocks frame h htree haccount
    have hwf : src.Wf := .intro src hheader hfits hchildren
    obtain ⟨dest1, blocks1, hrecycle, hrecycled, haccount1⟩ := h.recycle haccount
    have hwf1 := hrecycled.wf h.header_wf
    have howned : dest1.owned = dest1.block dest.header.data_size := by
      rw [owned_eq, ownedBy_null hrecycled.nulls, List.append_nil, hrecycled.header]
    rw [← howned] at haccount1
    obtain ⟨dest2, blocks2, hformat, hwf2, hlike, haccount2⟩ := formatLike_spec hwf hwf1 haccount1
    have hcount : src.children.length = src.header.childCount := hwf.length_children
    have hlength : dest2.children.length = src.children.length := by
      rw [hwf2.length_children, hlike.childCount, hcount]
    rw [owned_eq, List.append_assoc] at haccount2
    obtain ⟨dests, blocks3, hcopies, hlength3, hwfs, htrees, haccount3⟩ :=
      copyFirst_spec ih hwf2.children hlength
        (haccount2.perm (List.perm_append_comm_assoc _ _ _))
    rw [hcount] at hcopies
    refine ⟨dest2.setChildren dests, blocks3, ?_, hwf2.setChildren hlength3 hwfs, ?_, ?_⟩
    · rw [copy_eq]
      simp only [Option.bind_eq_bind, hrecycle, hformat, hcopies, Option.bind_some]
    · rw [tree_setChildren hlength3, htrees, hlike.shape, ← tree_eq, ← Option.some.inj htree]
    · rw [owned_setChildren hlength3, List.append_assoc]
      exact haccount3.perm (List.perm_append_comm_assoc _ _ _)

end StoredValue

end Seabolt
