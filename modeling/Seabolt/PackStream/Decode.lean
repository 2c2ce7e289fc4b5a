import Seabolt.PackStream.Encode

/-!
# The decoder accepts the grammar

Unloading an encoding of a value succeeds, gives the value whatever the
destination held before, and takes exactly the bytes of the encoding.  No
read fails on the way, so the garbage is not touched.
-/

namespace Seabolt

/-! ## Reads that succeed -/

/-- The state of a decoder whose buffer is intact: what is left to decode,
and the garbage. -/
structure Decoder.Holds (d : Decoder) (garbage bytes : List UInt8) : Prop where
  wf : d.buffer.Wf
  content_eq : d.buffer.content = bytes
  garbage_eq : d.garbage = garbage

namespace Decoder

variable {d : Decoder} {garbage bytes rest : List UInt8}

/-- A read of bytes that are there does not depend on the garbage. -/
theorem unsigned_of_holds (h : d.Holds garbage (bytes ++ rest)) :
    ∃ d', d.unsigned bytes.length = (beValue bytes, d') ∧ d'.Holds garbage rest := by
  have hread := BoltBuffer.unloadBe_of_content h.wf h.content_eq
  obtain ⟨hwf, hrest⟩ := h.wf.advance h.content_eq
  refine ⟨⟨_, d.garbage⟩, ?_, hwf, hrest, h.garbage_eq⟩
  rw [unsigned, hread]

/-- Reading a byte. -/
theorem unsigned_byte {marker : UInt8} (h : d.Holds garbage (marker :: rest)) :
    ∃ d', d.unsigned 1 = (marker.toNat, d') ∧ d'.Holds garbage rest := by
  have hfront : d.Holds garbage ([marker] ++ rest) := h
  obtain ⟨d', hread, hd'⟩ := unsigned_of_holds hfront
  exact ⟨d', by simpa [beValue, memcpyBe, ByteOrder.leValue] using hread, hd'⟩

/-- Reading a number that the encoder wrote. -/
theorem unsigned_beBytes {n x : Nat} (hx : x < 256 ^ n)
    (h : d.Holds garbage (beBytes n x ++ rest)) :
    ∃ d', d.unsigned n = (x, d') ∧ d'.Holds garbage rest := by
  obtain ⟨d', hread, hd'⟩ := unsigned_of_holds h
  rw [length_beBytes, beValue_beBytes hx] at hread
  exact ⟨d', hread, hd'⟩

/-- Reading a signed number that the encoder wrote. -/
theorem signed_beBytes {n : Nat} {x : Int} (hlow : -((256 ^ n : Nat) / 2 : Int) ≤ x)
    (hhigh : x < ((256 ^ n : Nat) / 2 : Int))
    (h : d.Holds garbage (beBytes n (ByteOrder.unsigned n x) ++ rest)) :
    ∃ d', d.signed n = (x, d') ∧ d'.Holds garbage rest := by
  obtain ⟨d', hread, hd'⟩ := unsigned_beBytes (ByteOrder.unsigned_lt n x) h
  refine ⟨d', ?_, hd'⟩
  simp only [signed, hread]
  rw [ByteOrder.signed_unsigned hlow (by omega)]

/-- Peeking at a byte that is there. -/
theorem peek_of_holds {marker : UInt8} (h : d.Holds garbage (marker :: rest)) :
    d.peek = (marker.toNat, d) := by
  rw [peek, BoltBuffer.peekU8_of_content h.wf h.content_eq]

/-- The fuel of the decoder covers every encoding in its buffer. -/
theorem Holds.length_le_fuel (h : d.Holds garbage (bytes ++ rest)) : bytes.length ≤ d.fuel := by
  have hlen := h.wf.length_content
  rw [h.content_eq, List.length_append] at hlen
  rw [fuel]
  omega

end Decoder

namespace PackStream

/-- The unloader turns `bytes` into `v`, whatever the destination held, and
leaves what follows. -/
def Unloads (unloader : Decoder → BoltValue → Unloaded) (v : BoltValue) (bytes : List UInt8) :
    Prop :=
  ∀ (d : Decoder) (dest : BoltValue) (garbage rest : List UInt8),
    d.Holds garbage (bytes ++ rest) →
      ∃ d', unloader d dest = some (BOLT_SUCCESS, d', v) ∧ d'.Holds garbage rest

/-! ## Size headers -/

/-- The markers of a sized type lead to its branch of the decoder, and the
branches of its header do not overlap. -/
structure Marks (markers : SizeMarkers) (type : PackStreamType) : Prop where
  tiny : ∀ first, markers.tiny = some first → ∀ n < 0x10, markerType (first + n) = type ∧
    first + n < 0x100 ∧ (first + n) &&& 0x0F = n
  one : markerType markers.one = type ∧ markers.one < 0x100 ∧
    ∀ first, markers.tiny = some first → first + 0x0F < markers.one
  two : markerType markers.two = type ∧ markers.two < 0x100 ∧ markers.one < markers.two
  four : markerType markers.four = type ∧ markers.four < 0x100 ∧ markers.two < markers.four

theorem stringMarkers_marks : Marks stringMarkers .string := by
  refine ⟨?_, ⟨rfl, by decide, ?_⟩, by decide, by decide⟩
  · rintro _ ⟨⟩
    decide
  · rintro _ ⟨⟩
    decide

theorem listMarkers_marks : Marks listMarkers .list := by
  refine ⟨?_, ⟨rfl, by decide, ?_⟩, by decide, by decide⟩
  · rintro _ ⟨⟩
    decide
  · rintro _ ⟨⟩
    decide

theorem mapMarkers_marks : Marks mapMarkers .map := by
  refine ⟨?_, ⟨rfl, by decide, ?_⟩, by decide, by decide⟩
  · rintro _ ⟨⟩
    decide
  · rintro _ ⟨⟩
    decide

theorem bytesMarkers_marks : Marks bytesMarkers .bytes :=
  ⟨nofun, ⟨rfl, by decide, nofun⟩, by decide, by decide⟩

variable {markers : SizeMarkers} {type : PackStreamType} {n : Nat} {header : List UInt8}

/-- The first byte of a size header is a marker of its type. -/
theorem SizeHeader.head (hmarks : Marks markers type) (h : SizeHeader markers n header) :
    ∃ marker tail, header = marker :: tail ∧ markerType marker.toNat = type := by
  cases h with
  | @tiny first hfirst hn =>
    obtain ⟨htype, hlt, -⟩ := hmarks.tiny first hfirst n hn
    refine ⟨_, _, rfl, ?_⟩
    rwa [UInt8.toNat_ofNat', Nat.mod_eq_of_lt hlt]
  | one hn =>
    refine ⟨_, _, rfl, ?_⟩
    rw [UInt8.toNat_ofNat', Nat.mod_eq_of_lt hmarks.one.2.1, hmarks.one.1]
  | two hn =>
    refine ⟨_, _, rfl, ?_⟩
    rw [UInt8.toNat_ofNat', Nat.mod_eq_of_lt hmarks.two.2.1, hmarks.two.1]
  | four hn =>
    refine ⟨_, _, rfl, ?_⟩
    rw [UInt8.toNat_ofNat', Nat.mod_eq_of_lt hmarks.four.2.1, hmarks.four.1]

/-- No marker from `markers.one` on is a tiny one. -/
theorem Marks.not_tiny (hmarks : Marks markers type) {marker : Nat} (h : markers.one ≤ marker) :
    ¬∃ tiny ∈ markers.tiny, tiny ≤ marker ∧ marker ≤ tiny + 0x0F := by
  rintro ⟨tiny, htiny, -, hmarker⟩
  have := hmarks.one.2.2 tiny htiny
  omega

/-- A size of four bytes is read as a signed number. -/
theorem unloadSize_four {d : Decoder} {garbage rest : List UInt8} (hmarks : Marks markers type)
    {size : Int} (hlow : -0x80000000 ≤ size) (hhigh : size < 0x80000000)
    (h : d.Holds garbage
      (UInt8.ofNat markers.four :: (beBytes 4 (ByteOrder.unsigned 4 size) ++ rest))) :
    ∃ d', unloadSize markers d = (some size, d') ∧ d'.Holds garbage rest := by
  obtain ⟨-, -, hlttwo⟩ := hmarks.two
  obtain ⟨-, hfour, hltfour⟩ := hmarks.four
  obtain ⟨d', hread, hd'⟩ := Decoder.unsigned_byte h
  rw [UInt8.toNat_ofNat', Nat.mod_eq_of_lt hfour] at hread
  obtain ⟨d'', hread', hd''⟩ :=
    Decoder.signed_beBytes (by norm_num; omega) (by norm_num; omega) hd'
  refine ⟨d'', ?_, hd''⟩
  have hbig := hmarks.not_tiny (by omega : markers.one ≤ markers.four)
  have h1 : markers.four ≠ markers.one := by omega
  have h2 : markers.four ≠ markers.two := by omega
  simp only [unloadSize, hread, hbig, if_false, h1, h2, if_true, hread']

/-- The decoder reads every size header of the grammar. -/
theorem unloadSize_of_header {d : Decoder} {garbage rest : List UInt8}
    (hmarks : Marks markers type) (hheader : SizeHeader markers n header)
    (h : d.Holds garbage (header ++ rest)) :
    ∃ d', unloadSize markers d = (some (n : Int), d') ∧ d'.Holds garbage rest := by
  obtain ⟨-, hone, -⟩ := hmarks.one
  obtain ⟨-, htwo, hlttwo⟩ := hmarks.two
  cases hheader with
  | @tiny first hfirst hn =>
    obtain ⟨-, hlt, hand⟩ := hmarks.tiny first hfirst n hn
    obtain ⟨d', hread, hd'⟩ := Decoder.unsigned_byte h
    refine ⟨d', ?_, hd'⟩
    rw [UInt8.toNat_ofNat', Nat.mod_eq_of_lt hlt] at hread
    have htiny : ∃ tiny ∈ markers.tiny, tiny ≤ first + n ∧ first + n ≤ tiny + 0x0F :=
      ⟨first, hfirst, by omega, by omega⟩
    simp only [unloadSize, hread, htiny, if_true, hand]
  | one hn =>
    obtain ⟨d', hread, hd'⟩ := Decoder.unsigned_byte h
    rw [UInt8.toNat_ofNat', Nat.mod_eq_of_lt hone] at hread
    obtain ⟨d'', hread', hd''⟩ := Decoder.unsigned_beBytes (by omega) hd'
    refine ⟨d'', ?_, hd''⟩
    simp only [unloadSize, hread, hmarks.not_tiny (Nat.le_refl _), if_false, if_true, hread']
  | two hn =>
    obtain ⟨d', hread, hd'⟩ := Decoder.unsigned_byte h
    rw [UInt8.toNat_ofNat', Nat.mod_eq_of_lt htwo] at hread
    obtain ⟨d'', hread', hd''⟩ := Decoder.unsigned_beBytes (by omega) hd'
    refine ⟨d'', ?_, hd''⟩
    have h1 : markers.two ≠ markers.one := by omega
    simp only [unloadSize, hread, hmarks.not_tiny (Nat.le_of_lt hlttwo), if_false, h1, if_true,
      hread']
  | four hn =>
    have hunsigned : ByteOrder.unsigned 4 n = n := ByteOrder.unsigned_natCast (by norm_num; omega)
    rw [← hunsigned] at h
    exact unloadSize_four hmarks (by omega) (by omega) h

/-- The bytes that a size header announces. -/
theorem unloadChars_of_holds {d : Decoder} {garbage rest : List UInt8}
    (format : List UInt8 → BoltValue) (data : List UInt8) (h : d.Holds garbage (data ++ rest)) :
    ∃ d', unloadChars format data.length d = some (BOLT_SUCCESS, d', format data) ∧
      d'.Holds garbage rest := by
  obtain ⟨buffer, hread, hwf, hrest⟩ := BoltBuffer.unload_of_content h.wf h.content_eq
  refine ⟨⟨buffer, d.garbage⟩, ?_, hwf, hrest, h.garbage_eq⟩
  have hneg : ¬((data.length : Int) < 0) := by omega
  simp only [unloadChars, hneg, if_false, Int.toNat_natCast, hread]

/-! ## Containers -/

section Containers

variable {unloadValue : Decoder → BoltValue → Unloaded}

/-- The loop over list elements unloads one encoding after the other. -/
theorem unloadElements_of_holds (parts : List (BoltValue × List UInt8))
    (ih : ∀ p ∈ parts, Unloads unloadValue p.1 p.2) :
    ∀ (d : Decoder) (dests : List BoltValue) (garbage rest : List UInt8),
      dests.length = parts.length → d.Holds garbage ((parts.map Prod.snd).flatten ++ rest) →
      ∃ d', unloadElements unloadValue d dests =
        some (BOLT_SUCCESS, d', parts.map Prod.fst) ∧ d'.Holds garbage rest := by
  induction parts with
  | nil =>
    intro d dests garbage rest hlen h
    obtain rfl := List.eq_nil_of_length_eq_zero hlen
    exact ⟨d, rfl, h⟩
  | cons p parts ihparts =>
    rintro d (_ | ⟨dest, dests⟩) garbage rest hlen h
    · simp at hlen
    · simp only [List.map_cons, List.flatten_cons, List.append_assoc] at h
      obtain ⟨d', hfirst, hd'⟩ := ih p List.mem_cons_self d dest garbage _ h
      obtain ⟨d'', hrest, hd''⟩ :=
        ihparts (fun q hq => ih q (List.mem_cons_of_mem p hq)) d' dests garbage rest
          (Nat.succ.inj hlen) hd'
      refine ⟨d'', ?_, hd''⟩
      simp only [unloadElements, hfirst, if_true, hrest, Option.map_some, List.map_cons]

/-- The loop over structure fields does the same. -/
theorem unloadFields_of_holds (parts : List (BoltValue × List UInt8))
    (ih : ∀ p ∈ parts, Unloads unloadValue p.1 p.2) :
    ∀ (d : Decoder) (dests : List BoltValue) (garbage rest : List UInt8),
      dests.length = parts.length → d.Holds garbage ((parts.map Prod.snd).flatten ++ rest) →
      ∃ d', unloadFields unloadValue d dests = some (d', parts.map Prod.fst) ∧
        d'.Holds garbage rest := by
  induction parts with
  | nil =>
    intro d dests garbage rest hlen h
    obtain rfl := List.eq_nil_of_length_eq_zero hlen
    exact ⟨d, rfl, h⟩
  | cons p parts ihparts =>
    rintro d (_ | ⟨dest, dests⟩) garbage rest hlen h
    · simp at hlen
    · simp only [List.map_cons, List.flatten_cons, List.append_assoc] at h
      obtain ⟨d', hfirst, hd'⟩ := ih p List.mem_cons_self d dest garbage _ h
      obtain ⟨d'', hrest, hd''⟩ :=
        ihparts (fun q hq => ih q (List.mem_cons_of_mem p hq)) d' dests garbage rest
          (Nat.succ.inj hlen) hd'
      refine ⟨d'', ?_, hd''⟩
      simp only [unloadFields, hfirst, hrest, Option.map_some, List.map_cons]

/-- The loop over map entries unloads one entry after the other. -/
theorem unloadEntries_of_holds (parts : List EncodedEntry)
    (ihkey : ∀ p ∈ parts, Unloads unloadValue (.string p.key) (p.keyHeader ++ p.key))
    (ihvalue : ∀ p ∈ parts, Unloads unloadValue p.value p.valueBytes) :
    ∀ (d : Decoder) (dests : List (BoltValue × BoltValue)) (garbage rest : List UInt8),
      dests.length = parts.length →
      d.Holds garbage ((parts.map EncodedEntry.bytes).flatten ++ rest) →
      ∃ d', unloadEntries unloadValue d dests =
        some (BOLT_SUCCESS, d', parts.map EncodedEntry.entry) ∧ d'.Holds garbage rest := by
  induction parts with
  | nil =>
    intro d dests garbage rest hlen h
    obtain rfl := List.eq_nil_of_length_eq_zero hlen
    exact ⟨d, rfl, h⟩
  | cons p parts ihparts =>
    rintro d (_ | ⟨dest, dests⟩) garbage rest hlen h
    · simp at hlen
    · simp only [List.map_cons, List.flatten_cons, EncodedEntry.bytes,
        List.append_assoc (p.keyHeader ++ p.key)] at h
      obtain ⟨d1, hkey, hd1⟩ := ihkey p List.mem_cons_self d dest.1 garbage _ h
      rw [List.append_assoc] at hd1
      obtain ⟨d2, hvalue, hd2⟩ := ihvalue p List.mem_cons_self d1 dest.2 garbage _ hd1
      obtain ⟨d3, hrest, hd3⟩ :=
        ihparts (fun q hq => ihkey q (List.mem_cons_of_mem p hq))
          (fun q hq => ihvalue q (List.mem_cons_of_mem p hq)) d2 dests garbage rest
          (Nat.succ.inj hlen) hd2
      refine ⟨d3, ?_, hd3⟩
      simp only [unloadEntries, hkey, if_true, hvalue, hrest, Option.map_some, List.map_cons,
        EncodedEntry.entry]

end Containers

/-! ## Values -/

variable {check : CheckStructSignature}

theorem unloads_null : Unloads unloadNull .null [0xC0] := by
  intro d dest garbage rest h
  obtain ⟨d', hread, hd'⟩ := Decoder.unsigned_byte h
  exact ⟨d', by simp [unloadNull, hread], hd'⟩

theorem unloads_no : Unloads unloadBoolean (.boolean 0) [0xC2] := by
  intro d dest garbage rest h
  obtain ⟨d', hread, hd'⟩ := Decoder.unsigned_byte h
  exact ⟨d', by simp [unloadBoolean, hread], hd'⟩

theorem unloads_yes : Unloads unloadBoolean (.boolean 1) [0xC3] := by
  intro d dest garbage rest h
  obtain ⟨d', hread, hd'⟩ := Decoder.unsigned_byte h
  exact ⟨d', by simp [unloadBoolean, hread], hd'⟩

theorem unloads_float (x : UInt64) : Unloads unloadFloat (.float x) (0xC1 :: beBytes 8 x.toNat) := by
  intro d dest garbage rest h
  obtain ⟨d1, hread, hd1⟩ := Decoder.unsigned_byte h
  obtain ⟨d2, hvalue, hd2⟩ := Decoder.unsigned_beBytes x.toNat_lt hd1
  exact ⟨d2, by simp [unloadFloat, hread, hvalue], hd2⟩

theorem unloads_string (data : List UInt8)
    (hheader : SizeHeader stringMarkers data.length header) :
    Unloads unloadString (.string data) (header ++ data) := by
  intro d dest garbage rest h
  rw [List.append_assoc] at h
  obtain ⟨d1, hsize, hd1⟩ := unloadSize_of_header stringMarkers_marks hheader h
  obtain ⟨d2, hchars, hd2⟩ := unloadChars_of_holds .string data hd1
  exact ⟨d2, by simp only [unloadString, hsize, hchars], hd2⟩

theorem unloads_bytes (data : List UInt8)
    (hheader : SizeHeader bytesMarkers data.length header) :
    Unloads unloadBytes (.bytes data) (header ++ data) := by
  intro d dest garbage rest h
  rw [List.append_assoc] at h
  obtain ⟨d1, hsize, hd1⟩ := unloadSize_of_header bytesMarkers_marks hheader h
  obtain ⟨d2, hchars, hd2⟩ := unloadChars_of_holds .bytes data hd1
  exact ⟨d2, by simp only [unloadBytes, hsize, hchars], hd2⟩

/-- The integers that fit into their marker. -/
theorem unloads_tinyInteger (x : Int64) (hlow : -0x10 ≤ x.toInt) (hhigh : x.toInt < 0x80) :
    Unloads unloadInteger (.integer x) (beBytes 1 (ByteOrder.unsigned 1 x.toInt)) := by
  intro d dest garbage rest h
  obtain ⟨d', hread, hd'⟩ := Decoder.unsigned_beBytes (ByteOrder.unsigned_lt 1 x.toInt) h
  refine ⟨d', ?_, hd'⟩
  have hx : Int64.ofInt x.toInt = x := Int64.ofInt_toInt x
  have hvalue : ByteOrder.unsigned 1 x.toInt = (x.toInt % 256).toNat := rfl
  by_cases hneg : x.toInt < 0
  · have hmarker : ByteOrder.unsigned 1 x.toInt = (x.toInt + 0x100).toNat := by omega
    have hsmall : ¬((x.toInt + 0x100).toNat < 0x80) := by omega
    have hlarge : 0xF0 ≤ (x.toInt + 0x100).toNat := by omega
    have hback : (((x.toInt + 0x100).toNat : Nat) : Int) - 0x100 = x.toInt := by omega
    simp only [unloadInteger, hread, hmarker, hsmall, if_false, hlarge, if_true, hback, hx]
  · have hmarker : ByteOrder.unsigned 1 x.toInt = x.toInt.toNat := by omega
    have hsmall : x.toInt.toNat < 0x80 := by omega
    have hback : ((x.toInt.toNat : Nat) : Int) = x.toInt := by omega
    simp only [unloadInteger, hread, hmarker, hsmall, if_true, hback, hx]

/-- The integers behind a marker. -/
theorem unloads_integer {marker : UInt8} (hmarker : IntegerMarker marker n) (x : Int64)
    (hlow : -((256 ^ n : Nat) / 2 : Int) ≤ x.toInt)
    (hhigh : x.toInt < ((256 ^ n : Nat) / 2 : Int)) :
    Unloads unloadInteger (.integer x)
      (marker :: beBytes n (ByteOrder.unsigned n x.toInt)) := by
  intro d dest garbage rest h
  obtain ⟨d1, hread, hd1⟩ := Decoder.unsigned_byte h
  obtain ⟨d2, hvalue, hd2⟩ := Decoder.signed_beBytes hlow hhigh hd1
  refine ⟨d2, ?_, hd2⟩
  have hx : Int64.ofInt x.toInt = x := Int64.ofInt_toInt x
  have hformat : unloadIntegerBe n d1 = some (BOLT_SUCCESS, d2, .integer x) := by
    simp only [unloadIntegerBe, hvalue, hx]
  cases hmarker <;> simpa [unloadInteger, hread] using hformat

theorem IntegerMarker.markerType_eq {marker : UInt8} (h : IntegerMarker marker n) :
    markerType marker.toNat = .integer := by
  cases h <;> rfl

/-- The marker in front of an integer that fits into it. -/
theorem markerType_tinyInteger (x : Int64) (hlow : -0x10 ≤ x.toInt) (hhigh : x.toInt < 0x80) :
    ∃ marker, beBytes 1 (ByteOrder.unsigned 1 x.toInt) = [marker] ∧
      markerType marker.toNat = .integer := by
  refine ⟨_, beBytes_one _, ?_⟩
  have hvalue : ByteOrder.unsigned 1 x.toInt = (x.toInt % 256).toNat := rfl
  rw [UInt8.toNat_ofNat', hvalue, markerType, if_pos (by omega)]

section Containers

variable {unloadValue : Decoder → BoltValue → Unloaded}

theorem unloads_list (parts : List (BoltValue × List UInt8))
    (hheader : SizeHeader listMarkers parts.length header)
    (ih : ∀ p ∈ parts, Unloads unloadValue p.1 p.2) :
    Unloads (unloadList unloadValue) (.list (parts.map Prod.fst))
      (header ++ (parts.map Prod.snd).flatten) := by
  intro d dest garbage rest h
  rw [List.append_assoc] at h
  obtain ⟨d1, hsize, hd1⟩ := unloadSize_of_header listMarkers_marks hheader h
  obtain ⟨d2, helements, hd2⟩ := unloadElements_of_holds parts ih d1
    (dest.listElements parts.length) garbage rest (by simp) hd1
  refine ⟨d2, ?_, hd2⟩
  have hneg : ¬((parts.length : Int) < 0) := by omega
  simp only [unloadList, hsize, hneg, if_false, Int.toNat_natCast, helements, Option.map_some]

theorem unloads_map (parts : List EncodedEntry)
    (hheader : SizeHeader mapMarkers parts.length header)
    (ihkey : ∀ p ∈ parts, Unloads unloadValue (.string p.key) (p.keyHeader ++ p.key))
    (ihvalue : ∀ p ∈ parts, Unloads unloadValue p.value p.valueBytes) :
    Unloads (unloadMap unloadValue) (.dictionary (parts.map EncodedEntry.entry))
      (header ++ (parts.map EncodedEntry.bytes).flatten) := by
  intro d dest garbage rest h
  rw [List.append_assoc] at h
  obtain ⟨d1, hsize, hd1⟩ := unloadSize_of_header mapMarkers_marks hheader h
  obtain ⟨d2, hentries, hd2⟩ := unloadEntries_of_holds parts ihkey ihvalue d1
    (dest.dictionaryEntries parts.length) garbage rest (by simp) hd1
  refine ⟨d2, ?_, hd2⟩
  have hneg : ¬((parts.length : Int) < 0) := by omega
  simp only [unloadMap, hsize, hneg, if_false, Int.toNat_natCast, hentries, Option.map_some]

/-- The marker of a structure and the number of its fields. -/
private theorem structure_marker {n : Nat} (hn : n < 0x10) :
    (UInt8.ofNat (0xB0 + n)).toNat = 0xB0 + n ∧ (0xB0 + n) &&& 0x0F = n ∧
      markerType (0xB0 + n) = .struct := by
  refine ⟨?_, ?_⟩
  · rw [UInt8.toNat_ofNat', Nat.mod_eq_of_lt (by omega)]
  · revert n
    decide

/-- The signature byte of a structure, read as a signed number. -/
private theorem signed_code {d : Decoder} {code : Int16} {garbage rest : List UInt8}
    (hcode : 0 ≤ code.toInt ∧ code.toInt < 0x80)
    (h : d.Holds garbage (UInt8.ofNat code.toInt.toNat :: rest)) :
    ∃ d', d.signed 1 = (code.toInt, d') ∧ d'.Holds garbage rest := by
  have hunsigned : ByteOrder.unsigned 1 code.toInt = code.toInt.toNat := by
    show (code.toInt % 256).toNat = code.toInt.toNat
    rw [Int.emod_eq_of_lt hcode.1 (by omega)]
  have hbytes : UInt8.ofNat code.toInt.toNat :: rest =
      beBytes 1 (ByteOrder.unsigned 1 code.toInt) ++ rest := by
    rw [hunsigned, beBytes_one, List.singleton_append]
  rw [hbytes] at h
  exact Decoder.signed_beBytes (by norm_num; omega) (by norm_num; omega) h

theorem unloads_structure {check : CheckStructSignature} (code : Int16)
    (parts : List (BoltValue × List UInt8)) (hcode : 0 ≤ code.toInt ∧ code.toInt < 0x80)
    (hcheck : check code) (hsize : parts.length < 0x10)
    (ih : ∀ p ∈ parts, Unloads unloadValue p.1 p.2) :
    Unloads (unloadStructure unloadValue check) (.struct code (parts.map Prod.fst))
      (structureHeader code parts.length ++ (parts.map Prod.snd).flatten) := by
  intro d dest garbage rest h
  obtain ⟨hmarker, hand, -⟩ := structure_marker hsize
  obtain ⟨d1, hread, hd1⟩ := Decoder.unsigned_byte h
  obtain ⟨d2, hsign, hd2⟩ := signed_code hcode hd1
  obtain ⟨d3, hfields, hd3⟩ := unloadFields_of_holds parts ih d2
    (List.replicate parts.length .null) garbage rest (by simp) hd2
  refine ⟨d3, ?_, hd3⟩
  rw [hmarker] at hread
  have hrange : 0xB0 ≤ 0xB0 + parts.length ∧ 0xB0 + parts.length ≤ 0xBF := by omega
  have hback : Int16.ofInt code.toInt = code := Int16.ofInt_toInt code
  simp only [unloadStructure, hread, hrange, and_self, if_true, hand, hsign, hback, hcheck,
    hfields, Option.map_some]

end Containers

/-! ## The recursion -/

/-- The decoder goes by the first byte. -/
theorem unloads_of_marker {unloader : Decoder → BoltValue → Unloaded} {v : BoltValue}
    {bytes tail : List UInt8} {marker : UInt8} {fuel : Nat} (h : Unloads unloader v bytes)
    (hbytes : bytes = marker :: tail) (htype : markerType marker.toNat = type)
    (hbranch : unloadType (unloadAux check fuel) check type = unloader) :
    Unloads (unloadAux check (fuel + 1)) v bytes := by
  intro d dest garbage rest hd
  have hpeek : d.peek = (marker.toNat, d) := by
    rw [hbytes] at hd
    exact Decoder.peek_of_holds hd
  obtain ⟨d', hunload, hd'⟩ := h d dest garbage rest hd
  exact ⟨d', by simp only [unloadAux, hpeek, htype, hbranch, hunload], hd'⟩

private theorem unloads_lift {v : BoltValue} {bytes : List UInt8} (h : Encodes check v bytes)
    (ih : ∀ fuel, bytes.length ≤ fuel + 1 → Unloads (unloadAux check (fuel + 1)) v bytes)
    {fuel : Nat} (hfuel : bytes.length ≤ fuel) : Unloads (unloadAux check fuel) v bytes := by
  have hpos := h.length_pos
  obtain ⟨fuel, rfl⟩ : ∃ n, fuel = n + 1 := ⟨fuel - 1, by omega⟩
  exact ih fuel hfuel

theorem length_le_of_mem {α : Type} (f : α → List UInt8) {p : α} {parts : List α}
    (h : p ∈ parts) : (f p).length ≤ (parts.map f).flatten.length :=
  (List.sublist_flatten_of_mem (List.mem_map_of_mem h)).length_le

/-- The induction of `unloads_of_encodes`: the nested encodings are shorter
by the marker in front of them. -/
private theorem unloads_of_encodes_aux {v : BoltValue} {bytes : List UInt8}
    (h : Encodes check v bytes) :
    ∀ fuel, bytes.length ≤ fuel + 1 → Unloads (unloadAux check (fuel + 1)) v bytes := by
  induction h with
  | null => exact fun fuel _ => unloads_of_marker unloads_null rfl rfl rfl
  | no => exact fun fuel _ => unloads_of_marker unloads_no rfl rfl rfl
  | yes => exact fun fuel _ => unloads_of_marker unloads_yes rfl rfl rfl
  | tinyInteger x hlow hhigh =>
    intro fuel _
    obtain ⟨marker, hbytes, htype⟩ := markerType_tinyInteger x hlow hhigh
    exact unloads_of_marker (unloads_tinyInteger x hlow hhigh) hbytes htype rfl
  | integer hmarker x hlow hhigh =>
    intro fuel _
    have htype := hmarker.markerType_eq
    exact unloads_of_marker (unloads_integer hmarker x hlow hhigh) rfl htype rfl
  | float x => exact fun fuel _ => unloads_of_marker (unloads_float x) rfl rfl rfl
  | string data hheader =>
    intro fuel _
    obtain ⟨marker, tail, hbytes, htype⟩ := hheader.head stringMarkers_marks
    exact unloads_of_marker (unloads_string data hheader) (by rw [hbytes, List.cons_append])
      htype rfl
  | bytes data hheader =>
    intro fuel _
    obtain ⟨marker, tail, hbytes, htype⟩ := hheader.head bytesMarkers_marks
    exact unloads_of_marker (unloads_bytes data hheader) (by rw [hbytes, List.cons_append])
      htype rfl
  | list parts hheader hparts ih =>
    intro fuel hfuel
    have hpos := hheader.length_pos
    rw [List.length_append] at hfuel
    obtain ⟨marker, tail, hbytes, htype⟩ := hheader.head listMarkers_marks
    refine unloads_of_marker (unloads_list parts hheader fun p hp => ?_)
      (by rw [hbytes, List.cons_append]) htype rfl
    have := length_le_of_mem Prod.snd hp
    exact unloads_lift (hparts p hp) (ih p hp) (by omega)
  | map parts hheader hkeys hvalues ih =>
    intro fuel hfuel
    have hpos := hheader.length_pos
    rw [List.length_append] at hfuel
    obtain ⟨marker, tail, hbytes, htype⟩ := hheader.head mapMarkers_marks
    refine unloads_of_marker (unloads_map parts hheader (fun p hp => ?_) fun p hp => ?_)
      (by rw [hbytes, List.cons_append]) htype rfl
    · have hentry := length_le_of_mem EncodedEntry.bytes hp
      have hkey := (hkeys p hp).length_pos
      simp only [EncodedEntry.bytes, List.length_append] at hentry
      obtain ⟨fuel, rfl⟩ : ∃ n, fuel = n + 1 := ⟨fuel - 1, by omega⟩
      obtain ⟨marker, tail, hbytes, htype⟩ := (hkeys p hp).head stringMarkers_marks
      exact unloads_of_marker (unloads_string p.key (hkeys p hp))
        (by rw [hbytes, List.cons_append]) htype rfl
    · have hentry := length_le_of_mem EncodedEntry.bytes hp
      simp only [EncodedEntry.bytes, List.length_append] at hentry
      exact unloads_lift (hvalues p hp) (ih p hp) (by omega)
  | struct code parts hcode hcheck hsize hparts ih =>
    intro fuel hfuel
    simp only [structureHeader, List.length_append, List.length_cons, List.length_nil] at hfuel
    obtain ⟨hmarker, -, htype⟩ := structure_marker hsize
    refine unloads_of_marker (unloads_structure code parts hcode hcheck hsize fun p hp => ?_)
      rfl (hmarker ▸ htype) rfl
    have := length_le_of_mem Prod.snd hp
    exact unloads_lift (hparts p hp) (ih p hp) (by omega)

/-- Unloading an encoding gives the value, at every nesting depth. -/
theorem unloads_of_encodes {v : BoltValue} {bytes : List UInt8} (h : Encodes check v bytes)
    {fuel : Nat} (hfuel : bytes.length ≤ fuel) : Unloads (unloadAux check fuel) v bytes :=
  unloads_lift h (unloads_of_encodes_aux h) hfuel

/-- `unload` on a buffer that starts with an encoding. -/
theorem unload_of_encodes {v : BoltValue} {bytes : List UInt8} (h : Encodes check v bytes) :
    Unloads (unload check) v bytes :=
  fun d dest garbage rest hd =>
    unloads_of_encodes h hd.length_le_fuel d dest garbage rest hd

/-! ## The round trip -/

/-- Decoding undoes encoding: loading a value appends some bytes, and
unloading these bytes, with anything behind them and into any destination,
gives the value back and leaves exactly what was behind them. -/
theorem unload_load (v : BoltValue) (hv : Encodable check v) (tx : BoltBuffer) (htx : tx.Wf) :
    ∃ e tx', load check v tx = some (BOLT_SUCCESS, tx') ∧ tx'.Wf ∧
      tx'.content = tx.content ++ e ∧
      ∀ (d : Decoder) (dest : BoltValue) (s : List UInt8),
        d.buffer.Wf → d.buffer.content = e ++ s →
          ∃ d', unload check d dest = some (BOLT_SUCCESS, d', v.canon) ∧ d'.buffer.Wf ∧
            d'.buffer.content = s := by
  obtain ⟨e, hencodes, hloads⟩ := loads_of_encodable hv
  obtain ⟨tx', hload, hwf, hcontent⟩ := hloads tx htx
  refine ⟨e, tx', hload, hwf, hcontent, fun d dest s hd hs => ?_⟩
  obtain ⟨d', hunload, hd'⟩ := unload_of_encodes hencodes d dest d.garbage s ⟨hd, hs, rfl⟩
  exact ⟨d', hunload, hd'.wf, hd'.content_eq⟩

/-- A nested value, loaded behind other bytes. -/
theorem unload_load_nested :
    let v := BoltValue.list [.integer (-200), .dictionary [(.string [0x6B], .boolean 7)],
      .struct 0x4E [.float 1, .bytes [1, 2]]]
    let tx := (BoltBuffer.create 4).load [9]
    ∃ e tx', load (fun code => code == 0x4E) v tx = some (BOLT_SUCCESS, tx') ∧ tx'.Wf ∧
      tx'.content = tx.content ++ e ∧
      ∀ (d : Decoder) (dest : BoltValue) (s : List UInt8),
        d.buffer.Wf → d.buffer.content = e ++ s →
          ∃ d', unload (fun code => code == 0x4E) d dest = some (BOLT_SUCCESS, d', v.canon) ∧
            d'.buffer.Wf ∧ d'.buffer.content = s := by
  refine unload_load _ (.list _ (by decide) ?_) _ ((BoltBuffer.wf_create 4).load [9])
  simp only [List.forall_mem_cons, List.not_mem_nil, false_imp_iff, implies_true, and_true]
  refine ⟨.integer _, .dictionary _ (by decide) ?_ ?_,
    .struct _ _ (by decide) rfl (by decide) ?_⟩
  · simp
  · simp [Encodable.boolean]
  · simpa using ⟨Encodable.float 1, Encodable.bytes [1, 2] (by decide)⟩

end PackStream

end Seabolt
