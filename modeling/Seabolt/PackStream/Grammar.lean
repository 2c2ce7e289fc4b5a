import Seabolt.PackStream.Unload

/-!
# The PackStream grammar

Which bytes are an encoding of which value, stated without reference to the
encoder or the decoder.  The grammar admits every size class that can hold a
size and every width that can hold an integer, not only the shortest, so it
covers what a server may send and not only what `load` produces.

`Encodable` is the set of values that have an encoding.
-/

namespace Seabolt

namespace PackStream

/-! ## Headers -/

/-- The bytes that announce the size `n` of a String, Bytes, List or Map. -/
inductive SizeHeader (markers : SizeMarkers) (n : Nat) : List UInt8 → Prop where
  | tiny {first : Nat} (hfirst : markers.tiny = some first) (hn : n < 0x10) :
      SizeHeader markers n [UInt8.ofNat (first + n)]
  | one (hn : n < 0x100) : SizeHeader markers n (UInt8.ofNat markers.one :: beBytes 1 n)
  | two (hn : n < 0x10000) : SizeHeader markers n (UInt8.ofNat markers.two :: beBytes 2 n)
  | four (hn : n < 0x80000000) :
      SizeHeader markers n (UInt8.ofNat markers.four :: beBytes 4 n)

/-- A marker of an integer, and the number of bytes that follow it. -/
inductive IntegerMarker : UInt8 → Nat → Prop where
  | one : IntegerMarker 0xC8 1
  | two : IntegerMarker 0xC9 2
  | four : IntegerMarker 0xCA 4
  | eight : IntegerMarker 0xCB 8

/-- The two bytes in front of the fields of a structure. -/
def structureHeader (code : Int16) (size : Nat) : List UInt8 :=
  [UInt8.ofNat (0xB0 + size), UInt8.ofNat code.toInt.toNat]

/-- An entry of an encoded Map. -/
structure EncodedEntry where
  key : List UInt8
  keyHeader : List UInt8
  value : BoltValue
  valueBytes : List UInt8

/-- The entry of the dictionary. -/
def EncodedEntry.entry (e : EncodedEntry) : BoltValue × BoltValue := (.string e.key, e.value)

/-- The bytes of the entry. -/
def EncodedEntry.bytes (e : EncodedEntry) : List UInt8 := e.keyHeader ++ e.key ++ e.valueBytes

/-! ## Values -/

/-- `bytes` is an encoding of the value. -/
inductive Encodes (check : CheckStructSignature) : BoltValue → List UInt8 → Prop where
  | null : Encodes check .null [0xC0]
  | no : Encodes check (.boolean 0) [0xC2]
  | yes : Encodes check (.boolean 1) [0xC3]
  | tinyInteger (x : Int64) (hlow : -0x10 ≤ x.toInt) (hhigh : x.toInt < 0x80) :
      Encodes check (.integer x) (beBytes 1 (ByteOrder.unsigned 1 x.toInt))
  | integer {marker : UInt8} {n : Nat} (hmarker : IntegerMarker marker n) (x : Int64)
      (hlow : -((256 ^ n : Nat) / 2 : Int) ≤ x.toInt)
      (hhigh : x.toInt < ((256 ^ n : Nat) / 2 : Int)) :
      Encodes check (.integer x) (marker :: beBytes n (ByteOrder.unsigned n x.toInt))
  | float (x : UInt64) : Encodes check (.float x) (0xC1 :: beBytes 8 x.toNat)
  | string {header : List UInt8} (data : List UInt8)
      (hheader : SizeHeader stringMarkers data.length header) :
      Encodes check (.string data) (header ++ data)
  | bytes {header : List UInt8} (data : List UInt8)
      (hheader : SizeHeader bytesMarkers data.length header) :
      Encodes check (.bytes data) (header ++ data)
  | list {header : List UInt8} (parts : List (BoltValue × List UInt8))
      (hheader : SizeHeader listMarkers parts.length header)
      (hparts : ∀ p ∈ parts, Encodes check p.1 p.2) :
      Encodes check (.list (parts.map Prod.fst)) (header ++ (parts.map Prod.snd).flatten)
  | map {header : List UInt8} (parts : List EncodedEntry)
      (hheader : SizeHeader mapMarkers parts.length header)
      (hkeys : ∀ p ∈ parts, SizeHeader stringMarkers p.key.length p.keyHeader)
      (hvalues : ∀ p ∈ parts, Encodes check p.value p.valueBytes) :
      Encodes check (.dictionary (parts.map EncodedEntry.entry))
        (header ++ (parts.map EncodedEntry.bytes).flatten)
  | struct (code : Int16) (parts : List (BoltValue × List UInt8))
      (hcode : 0 ≤ code.toInt ∧ code.toInt < 0x80) (hcheck : check code)
      (hsize : parts.length < 0x10) (hparts : ∀ p ∈ parts, Encodes check p.1 p.2) :
      Encodes check (.struct code (parts.map Prod.fst))
        (structureHeader code parts.length ++ (parts.map Prod.snd).flatten)

/-- `bytes` is the encodings of the values, one after the other. -/
def EncodesAll (check : CheckStructSignature) (vs : List BoltValue) (bytes : List UInt8) : Prop :=
  ∃ parts : List (BoltValue × List UInt8), parts.map Prod.fst = vs ∧
    (parts.map Prod.snd).flatten = bytes ∧ ∀ p ∈ parts, Encodes check p.1 p.2

/-- The values that have an encoding.  Sizes are `int32_t` fields. -/
inductive Encodable (check : CheckStructSignature) : BoltValue → Prop where
  | null : Encodable check .null
  | boolean (data : UInt8) : Encodable check (.boolean data)
  | integer (data : Int64) : Encodable check (.integer data)
  | float (data : UInt64) : Encodable check (.float data)
  | string (data : List UInt8) (hsize : data.length < 0x80000000) :
      Encodable check (.string data)
  | bytes (data : List UInt8) (hsize : data.length < 0x80000000) :
      Encodable check (.bytes data)
  | list (elements : List BoltValue) (hsize : elements.length < 0x80000000)
      (helements : ∀ v ∈ elements, Encodable check v) : Encodable check (.list elements)
  | dictionary (entries : List (BoltValue × BoltValue)) (hsize : entries.length < 0x80000000)
      (hkeys : ∀ e ∈ entries, ∃ key, e.1 = .string key ∧ key.length < 0x80000000)
      (hvalues : ∀ e ∈ entries, Encodable check e.2) : Encodable check (.dictionary entries)
  | struct (code : Int16) (fields : List BoltValue)
      (hcode : 0 ≤ code.toInt ∧ code.toInt < 0x80) (hcheck : check code)
      (hsize : fields.length < 0x10) (hfields : ∀ v ∈ fields, Encodable check v) :
      Encodable check (.struct code fields)

/-! ## Lists of encodings -/

variable {check : CheckStructSignature}

@[simp] theorem encodesAll_nil : EncodesAll check [] [] := ⟨[], rfl, rfl, by simp⟩

/-- Encodings concatenate. -/
theorem EncodesAll.cons {v : BoltValue} {vs : List BoltValue} {bytes rest : List UInt8}
    (hv : Encodes check v bytes) (hvs : EncodesAll check vs rest) :
    EncodesAll check (v :: vs) (bytes ++ rest) := by
  obtain ⟨parts, rfl, rfl, hparts⟩ := hvs
  exact ⟨(v, bytes) :: parts, rfl, rfl, List.forall_mem_cons.mpr ⟨hv, hparts⟩⟩

theorem Encodes.list_of_all {elements : List BoltValue} {header body : List UInt8}
    (hheader : SizeHeader listMarkers elements.length header)
    (hall : EncodesAll check elements body) :
    Encodes check (.list elements) (header ++ body) := by
  obtain ⟨parts, rfl, rfl, hparts⟩ := hall
  exact .list parts (by simpa using hheader) hparts

theorem Encodes.struct_of_all {code : Int16} {fields : List BoltValue} {body : List UInt8}
    (hcode : 0 ≤ code.toInt ∧ code.toInt < 0x80) (hcheck : check code)
    (hsize : fields.length < 0x10) (hall : EncodesAll check fields body) :
    Encodes check (.struct code fields) (structureHeader code fields.length ++ body) := by
  obtain ⟨parts, rfl, rfl, hparts⟩ := hall
  simpa using Encodes.struct code parts hcode hcheck (by simpa using hsize) hparts

theorem SizeHeader.length_pos {markers : SizeMarkers} {n : Nat} {header : List UInt8}
    (h : SizeHeader markers n header) : 0 < header.length := by
  cases h <;> simp

/-- No encoding is empty. -/
theorem Encodes.length_pos {v : BoltValue} {bytes : List UInt8} (h : Encodes check v bytes) :
    0 < bytes.length := by
  cases h with
  | null | no | yes | tinyInteger | integer | float => simp
  | string _ hheader | bytes _ hheader | list _ hheader _ | map _ hheader _ _ =>
    have := hheader.length_pos
    rw [List.length_append]
    omega
  | struct => simp [structureHeader]

/-- A value that has an encoding has every Boolean as 0 or 1. -/
theorem Encodes.canon_eq {v : BoltValue} {bytes : List UInt8} (h : Encodes check v bytes) :
    v.canon = v := by
  induction h with
  | null | no | yes | tinyInteger | integer | float | string | bytes => rfl
  | list parts _ _ ih | struct _ parts _ _ _ _ ih =>
    simp only [BoltValue.canon, BoltValue.canonElements_eq_map, List.map_map]
    congr 1
    exact List.map_congr_left ih
  | map parts _ _ _ ih =>
    simp only [BoltValue.canon, BoltValue.canonEntries_eq_map, List.map_map]
    congr 1
    refine List.map_congr_left fun p hp => ?_
    simp only [Function.comp_apply, EncodedEntry.entry, BoltValue.canon, ih p hp]

/-- A value that has an encoding can be copied. -/
theorem Encodes.copyable {v : BoltValue} {bytes : List UInt8} (h : Encodes check v bytes) :
    v.Copyable := by
  induction h with
  | null | no | yes | tinyInteger | integer | float | string | bytes => trivial
  | list parts _ _ ih | struct _ parts _ _ _ _ ih =>
    simp only [BoltValue.Copyable, BoltValue.copyableElements_iff, List.forall_mem_map]
    exact ih
  | map parts _ _ _ ih =>
    simp only [BoltValue.Copyable, BoltValue.copyableEntries_iff, List.forall_mem_map]
    exact fun p hp => ⟨trivial, ih p hp⟩

end PackStream

end Seabolt
