import Seabolt.PackStream.Extent

/-!
# Truncated input

A read that finds too few bytes leaves its local as it was, and none of the
decoders looks at its status.  So where the bytes end in the middle of a value
the decoder goes on with garbage.

`Cut` is the grammar of the bytes that end in the middle of a value, and
`cut_of_proper` says that every proper prefix of an encoding is one of them.
When the cut falls between two reads, there is garbage with which `unload`
succeeds; that is so for the empty prefix of every encoding.
-/

namespace Seabolt

/-! ## Reads that fail -/

namespace Decoder

variable {d : Decoder} {garbage rest : List UInt8}

/-- Uninitialised memory holds the first of the garbage. -/
theorem uninitialised_of_holds {raw : List UInt8} (h : d.Holds (raw ++ garbage) rest) :
    ∃ d', d.uninitialised raw.length = (raw, d') ∧ d'.Holds garbage rest := by
  refine ⟨{ d with garbage := garbage }, ?_, h.wf, h.content_eq, rfl⟩
  simp [uninitialised, indeterminate, h.garbage_eq]

/-- A read that finds too few bytes gives the garbage in its local. -/
theorem unsigned_starved {raw : List UInt8} (h : d.Holds (raw ++ garbage) rest)
    (hrest : rest.length < raw.length) :
    ∃ d', d.unsigned raw.length = (beValue raw, d') ∧ d'.Holds garbage rest := by
  have hnone : d.buffer.unloadBe raw.length = none :=
    BoltBuffer.unloadBe_eq_none h.wf (by rwa [h.content_eq])
  obtain ⟨d', hraw, hd'⟩ := uninitialised_of_holds h
  refine ⟨d', ?_, hd'⟩
  rw [unsigned, hnone]
  simp only [hraw]

/-- A local of zeros reads as zero. -/
theorem unsigned_zeros {n : Nat} (h : d.Holds (List.replicate n 0 ++ garbage) rest)
    (hrest : rest.length < n) : ∃ d', d.unsigned n = (0, d') ∧ d'.Holds garbage rest := by
  obtain ⟨d', hread, hd'⟩ := unsigned_starved h (by simpa using hrest)
  refine ⟨d', ?_, hd'⟩
  have hzero : beValue (List.replicate n 0) = 0 := by
    rw [beValue, memcpyBe, List.reverse_replicate]
    clear hread hd' h hrest
    induction n with
    | zero => rfl
    | succ n ih => simp [List.replicate_succ, ByteOrder.leValue, ih]
  rw [List.length_replicate, hzero] at hread
  exact hread

theorem signed_zeros {n : Nat} (h : d.Holds (List.replicate n 0 ++ garbage) rest)
    (hrest : rest.length < n) : ∃ d', d.signed n = (0, d') ∧ d'.Holds garbage rest := by
  obtain ⟨d', hread, hd'⟩ := unsigned_zeros h hrest
  refine ⟨d', ?_, hd'⟩
  have hzero : ByteOrder.signed n 0 = 0 := by simp [ByteOrder.signed]
  simp only [signed, hread, hzero]

/-- A byte that is not there is the first of the garbage. -/
theorem unsigned_missing {marker : UInt8} (h : d.Holds (marker :: garbage) []) :
    ∃ d', d.unsigned 1 = (marker.toNat, d') ∧ d'.Holds garbage [] := by
  have hfront : d.Holds ([marker] ++ garbage) [] := h
  obtain ⟨d', hread, hd'⟩ := unsigned_starved hfront (by simp)
  exact ⟨d', by simpa [beValue, memcpyBe, ByteOrder.leValue] using hread, hd'⟩

theorem peek_missing {marker : UInt8} (h : d.Holds (marker :: garbage) []) :
    ∃ d', d.peek = (marker.toNat, d') ∧ d'.Holds garbage [] := by
  have hfront : d.Holds ([marker] ++ garbage) [] := h
  have hnone : d.buffer.peekU8 = none := BoltBuffer.peekU8_eq_none h.wf h.content_eq
  obtain ⟨d', hraw, hd'⟩ := uninitialised_of_holds hfront
  refine ⟨d', ?_, hd'⟩
  have hraw' : d.uninitialised 1 = ([marker], d') := hraw
  rw [peek, hnone]
  simp only [hraw']
  simp [beValue, memcpyBe, ByteOrder.leValue]

end Decoder

namespace PackStream

/-! ## Cuts -/

/-- A proper prefix. -/
def Proper (p bytes : List UInt8) : Prop := p <+: bytes ∧ p ≠ bytes

theorem proper_nil {bytes : List UInt8} (h : bytes ≠ []) : Proper [] bytes :=
  ⟨List.nil_prefix, Ne.symm h⟩

theorem Proper.length_lt {p bytes : List UInt8} (h : Proper p bytes) : p.length < bytes.length := by
  obtain ⟨hfront, hne⟩ := h
  refine lt_of_le_of_ne hfront.length_le fun hlength => hne ?_
  exact hfront.eq_of_length hlength

/-- A cut in the second of two parts, or in the first. -/
theorem Proper.append {p a b : List UInt8} (h : Proper p (a ++ b)) :
    Proper p a ∨ ∃ q, p = a ++ q ∧ Proper q b := by
  obtain ⟨hfront, hne⟩ := h
  by_cases heq : p = a
  · refine .inr ⟨[], by rw [heq, List.append_nil], List.nil_prefix, fun hb => hne ?_⟩
    rw [heq, ← hb, List.append_nil]
  · rcases List.prefix_or_prefix_of_prefix hfront (List.prefix_append a b) with hp | ⟨q, rfl⟩
    · exact .inl ⟨hp, heq⟩
    · exact .inr ⟨q, rfl, (List.prefix_append_right_inj a).mp hfront, fun hq => hne (by rw [hq])⟩

/-- A cut behind the first byte, or in front of it. -/
theorem Proper.cons {p bytes : List UInt8} {marker : UInt8} (h : Proper p (marker :: bytes)) :
    p = [] ∨ ∃ q, p = marker :: q ∧ Proper q bytes := by
  have happend : Proper p ([marker] ++ bytes) := h
  rcases happend.append with hp | ⟨q, rfl, hq⟩
  · have hlength := hp.length_lt
    exact .inl (List.eq_nil_of_length_eq_zero (by simpa using hlength))
  · exact .inr ⟨q, rfl, hq⟩

/-- A cut in a sequence of parts is a cut in one of them. -/
theorem Proper.flatten {p : List UInt8} (parts : List (List UInt8)) :
    Proper p parts.flatten → ∃ before part after q, parts = before ++ part :: after ∧
      p = before.flatten ++ q ∧ Proper q part := by
  induction parts generalizing p with
  | nil =>
    intro h
    simpa using h.length_lt
  | cons part parts ih =>
    intro h
    rw [List.flatten_cons] at h
    rcases h.append with hp | ⟨q, rfl, hq⟩
    · exact ⟨[], part, parts, p, rfl, rfl, hp⟩
    · obtain ⟨before, other, after, r, rfl, rfl, hr⟩ := ih hq
      exact ⟨part :: before, other, after, r, rfl, by simp, hr⟩

/-- The markers of the types that have a size. -/
inductive Sized : SizeMarkers → Prop where
  | string : Sized stringMarkers
  | bytes : Sized bytesMarkers
  | list : Sized listMarkers
  | map : Sized mapMarkers

/-- A marker that announces a size of that many bytes. -/
inductive SizeWidth (markers : SizeMarkers) : UInt8 → Nat → Prop where
  | one : SizeWidth markers (UInt8.ofNat markers.one) 1
  | two : SizeWidth markers (UInt8.ofNat markers.two) 2
  | four : SizeWidth markers (UInt8.ofNat markers.four) 4

/-- Bytes that end in the middle of a value: the decoder takes all of them but
`rest`, and the read that comes next wants more than `rest`. -/
inductive Cut (check : CheckStructSignature) : List UInt8 → List UInt8 → Prop where
  | nothing : Cut check [] []
  | integer {marker : UInt8} {n : Nat} (hmarker : IntegerMarker marker n) {rest : List UInt8}
      (hrest : rest.length < n) : Cut check (marker :: rest) rest
  | float {rest : List UInt8} (hrest : rest.length < 8) : Cut check (0xC1 :: rest) rest
  | size {markers : SizeMarkers} (hsized : Sized markers) {marker : UInt8} {width : Nat}
      (hmarker : SizeWidth markers marker width) {rest : List UInt8}
      (hrest : rest.length < width) : Cut check (marker :: rest) rest
  | string {n : Nat} {header : List UInt8} (hheader : SizeHeader stringMarkers n header)
      {rest : List UInt8} (hrest : rest.length < n) : Cut check (header ++ rest) rest
  | bytes {n : Nat} {header : List UInt8} (hheader : SizeHeader bytesMarkers n header)
      {rest : List UInt8} (hrest : rest.length < n) : Cut check (header ++ rest) rest
  | container {n : Nat} {header : List UInt8} (hheader : Announces n header)
      (parts : List (List UInt8)) {last rest : List UInt8} (hlength : parts.length < n)
      (hparts : ∀ p ∈ parts, Takes check p true) (hlast : Cut check last rest) :
      Cut check (header ++ (parts.flatten ++ last)) rest
  | code {marker : UInt8} (hmarker : 0xB0 ≤ marker.toNat ∧ marker.toNat ≤ 0xBF) {code : UInt8}
      (hcheck : check (structureCode code)) : Cut check [marker] []
  | struct {marker : UInt8} (hmarker : 0xB0 ≤ marker.toNat ∧ marker.toNat ≤ 0xBF) {code : UInt8}
      (hcheck : check (structureCode code)) (parts : List (List UInt8)) {last rest : List UInt8}
      (hlength : parts.length < marker.toNat &&& 0x0F)
      (hparts : ∀ p ∈ parts, Takes check p true) (hlast : Cut check last rest) :
      Cut check (marker :: code :: (parts.flatten ++ last)) rest

variable {check : CheckStructSignature} {p : List UInt8}

/-- A cut in a size header. -/
theorem SizeHeader.cut {markers : SizeMarkers} (hsized : Sized markers) {n : Nat}
    {header : List UInt8} (hheader : SizeHeader markers n header) (hp : Proper p header) :
    ∃ rest, Cut check p rest := by
  cases hheader with
  | tiny _ _ =>
    rcases hp.cons with rfl | ⟨q, rfl, hq⟩
    · exact ⟨[], .nothing⟩
    · simpa using hq.length_lt
  | one _ =>
    rcases hp.cons with rfl | ⟨q, rfl, hq⟩
    · exact ⟨[], .nothing⟩
    · exact ⟨q, .size hsized .one (by simpa using hq.length_lt)⟩
  | two _ =>
    rcases hp.cons with rfl | ⟨q, rfl, hq⟩
    · exact ⟨[], .nothing⟩
    · exact ⟨q, .size hsized .two (by simpa using hq.length_lt)⟩
  | four _ =>
    rcases hp.cons with rfl | ⟨q, rfl, hq⟩
    · exact ⟨[], .nothing⟩
    · exact ⟨q, .size hsized .four (by simpa using hq.length_lt)⟩

/-- A cut in a sequence of values. -/
theorem cut_of_flatten {parts : List (List UInt8)} (hparts : ∀ part ∈ parts, Takes check part true)
    (ih : ∀ part ∈ parts, ∀ q, Proper q part → ∃ rest, Cut check q rest)
    (hp : Proper p parts.flatten) :
    ∃ before last rest, p = List.flatten before ++ last ∧ before.length < parts.length ∧
      (∀ part ∈ before, Takes check part true) ∧ Cut check last rest := by
  obtain ⟨before, part, after, q, rfl, rfl, hq⟩ := hp.flatten
  obtain ⟨rest, hrest⟩ := ih part (by simp) q hq
  refine ⟨before, q, rest, rfl, by simp, fun other hother => hparts other ?_, hrest⟩
  exact List.mem_append_left _ hother

/-- The encodings of the keys and the values, in the order in which they are
decoded. -/
def entryParts (entries : List EncodedEntry) : List (List UInt8) :=
  entries.flatMap fun e => [e.keyHeader ++ e.key, e.valueBytes]

theorem mem_entryParts {entries : List EncodedEntry} {part : List UInt8} :
    part ∈ entryParts entries ↔
      ∃ e ∈ entries, part = e.keyHeader ++ e.key ∨ part = e.valueBytes := by
  simp [entryParts]

theorem length_entryParts (entries : List EncodedEntry) :
    (entryParts entries).length = 2 * entries.length := by
  simp [entryParts, List.length_flatMap]
  omega

theorem flatten_entryParts (entries : List EncodedEntry) :
    (entryParts entries).flatten = (entries.map EncodedEntry.bytes).flatten := by
  induction entries with
  | nil => rfl
  | cons e entries ih =>
    simp only [entryParts] at ih
    simp [entryParts, EncodedEntry.bytes, ih]

/-- The code of an encodable structure is the one that the decoder reads. -/
theorem structureCode_ofNat {code : Int16} (hcode : 0 ≤ code.toInt ∧ code.toInt < 0x80) :
    structureCode (UInt8.ofNat code.toInt.toNat) = code := by
  have hbyte : (UInt8.ofNat code.toInt.toNat).toNat = code.toInt.toNat := by
    rw [UInt8.toNat_ofNat']
    omega
  have hsigned : ByteOrder.signed 1 code.toInt.toNat = code.toInt := by
    show Int.bmod code.toInt.toNat (256 ^ 1) = code.toInt
    rw [Int.toNat_of_nonneg hcode.1]
    exact Int.bmod_eq_of_le (by norm_num; omega) (by norm_num; omega)
  rw [structureCode, hbyte, hsigned, Int16.ofInt_toInt]

/-- The marker of an encodable structure. -/
theorem structure_marker_range {n : Nat} (hn : n < 0x10) :
    (0xB0 ≤ (UInt8.ofNat (0xB0 + n)).toNat ∧ (UInt8.ofNat (0xB0 + n)).toNat ≤ 0xBF) ∧
      (UInt8.ofNat (0xB0 + n)).toNat &&& 0x0F = n := by
  revert n
  decide

/-- Every proper prefix of an encoding ends in the middle of a value. -/
theorem cut_of_proper {v : BoltValue} {bytes : List UInt8} (h : Encodes check v bytes) :
    ∀ p, Proper p bytes → ∃ rest, Cut check p rest := by
  induction h with
  | null | no | yes =>
    intro p hp
    obtain rfl : p = [] := List.eq_nil_of_length_eq_zero (by simpa using hp.length_lt)
    exact ⟨[], .nothing⟩
  | tinyInteger x _ _ =>
    intro p hp
    obtain rfl : p = [] := List.eq_nil_of_length_eq_zero (by simpa using hp.length_lt)
    exact ⟨[], .nothing⟩
  | integer hmarker x _ _ =>
    intro p hp
    rcases hp.cons with rfl | ⟨q, rfl, hq⟩
    · exact ⟨[], .nothing⟩
    · exact ⟨q, .integer hmarker (by simpa using hq.length_lt)⟩
  | float x =>
    intro p hp
    rcases hp.cons with rfl | ⟨q, rfl, hq⟩
    · exact ⟨[], .nothing⟩
    · exact ⟨q, .float (by simpa using hq.length_lt)⟩
  | string data hheader =>
    intro p hp
    rcases hp.append with hcut | ⟨q, rfl, hq⟩
    · exact hheader.cut .string hcut
    · exact ⟨q, .string hheader hq.length_lt⟩
  | bytes data hheader =>
    intro p hp
    rcases hp.append with hcut | ⟨q, rfl, hq⟩
    · exact hheader.cut .bytes hcut
    · exact ⟨q, .bytes hheader hq.length_lt⟩
  | @list header parts hheader hparts ih =>
    intro p hp
    rcases hp.append with hcut | ⟨q, rfl, hq⟩
    · exact hheader.cut .list hcut
    · have htakes : ∀ part ∈ parts.map Prod.snd, Takes check part true :=
        List.forall_mem_map.mpr fun part hpart => .value (hparts part hpart)
      obtain ⟨before, last, rest, rfl, hlength, hbefore, hlast⟩ :=
        cut_of_flatten htakes (List.forall_mem_map.mpr ih) hq
      rw [List.length_map] at hlength
      exact ⟨rest, .container (.list hheader) before hlength hbefore hlast⟩
  | @map header parts hheader hkeys hvalues ih =>
    intro p hp
    rcases hp.append with hcut | ⟨q, rfl, hq⟩
    · exact hheader.cut .map hcut
    · have htakes : ∀ part ∈ entryParts parts, Takes check part true := by
        intro part hpart
        obtain ⟨e, he, rfl | rfl⟩ := mem_entryParts.mp hpart
        · exact .value (.string e.key (hkeys e he))
        · exact .value (hvalues e he)
      have hcuts : ∀ part ∈ entryParts parts, ∀ q, Proper q part → ∃ rest, Cut check q rest := by
        intro part hpart q hq
        obtain ⟨e, he, rfl | rfl⟩ := mem_entryParts.mp hpart
        · rcases hq.append with hcut | ⟨r, rfl, hr⟩
          · exact (hkeys e he).cut .string hcut
          · exact ⟨r, .string (hkeys e he) hr.length_lt⟩
        · exact ih e he q hq
      rw [← flatten_entryParts] at hq
      obtain ⟨before, last, rest, rfl, hlength, hbefore, hlast⟩ := cut_of_flatten htakes hcuts hq
      rw [length_entryParts] at hlength
      exact ⟨rest, .container (.map hheader) before hlength hbefore hlast⟩
  | struct code parts hcode hcheck hsize hparts ih =>
    intro p hp
    have haccepted : check (structureCode (UInt8.ofNat code.toInt.toNat)) := by
      rwa [structureCode_ofNat hcode]
    obtain ⟨hmarker, hand⟩ := structure_marker_range hsize
    rcases hp.append with hcut | ⟨q, rfl, hq⟩
    · rcases hcut.cons with rfl | ⟨q, rfl, hq⟩
      · exact ⟨[], .nothing⟩
      · obtain rfl : q = [] := List.eq_nil_of_length_eq_zero (by simpa using hq.length_lt)
        exact ⟨[], .code hmarker haccepted⟩
    · have htakes : ∀ part ∈ parts.map Prod.snd, Takes check part true :=
        List.forall_mem_map.mpr fun part hpart => .value (hparts part hpart)
      obtain ⟨before, last, rest, rfl, hlength, hbefore, hlast⟩ :=
        cut_of_flatten htakes (List.forall_mem_map.mpr ih) hq
      rw [List.length_map] at hlength
      exact ⟨rest, .struct hmarker haccepted before (by rw [hand]; exact hlength) hbefore hlast⟩

/-! ## Decoding what is cut -/

/-- With the garbage in its locals the unloader succeeds on the bytes, and
leaves none of them. -/
def Accepts (unloader : Decoder → BoltValue → Unloaded) (bytes garbage : List UInt8) : Prop :=
  ∀ (d : Decoder) (dest : BoltValue) (extra : List UInt8), d.Holds (garbage ++ extra) bytes →
    ∃ d' v, unloader d dest = some (BOLT_SUCCESS, d', v) ∧ d'.Holds extra []

/-- Where nothing is left, two bytes of garbage make a Null: one to look at and
one to read. -/
def missingNull : List UInt8 := [0xC0, 0xC0]

theorem accepts_missingNull (fuel : Nat) : Accepts (unloadAux check (fuel + 1)) [] missingNull := by
  intro d dest extra h
  obtain ⟨d1, hpeek, hd1⟩ := Decoder.peek_missing h
  obtain ⟨d2, hread, hd2⟩ := Decoder.unsigned_missing hd1
  refine ⟨d2, .null, ?_, hd2⟩
  have htype : markerType (0xC0 : UInt8).toNat = .null := rfl
  simp only [unloadAux, hpeek, htype, unloadType, unloadNull, hread]
  rfl

/-- The decoder goes by the first byte. -/
theorem accepts_of_marker {marker : UInt8} {tail garbage : List UInt8} {fuel : Nat}
    {type : PackStreamType} (htype : markerType marker.toNat = type)
    (h : Accepts (unloadType (unloadAux check fuel) check type) (marker :: tail) garbage) :
    Accepts (unloadAux check (fuel + 1)) (marker :: tail) garbage := by
  intro d dest extra hd
  obtain ⟨d', v, hbranch, hd'⟩ := h d dest extra hd
  have hpeek : d.peek = (marker.toNat, d) := Decoder.peek_of_holds hd
  exact ⟨d', v, by simp only [unloadAux, hpeek, htype, hbranch], hd'⟩

section Sequences

variable {unloadValue : Decoder → BoltValue → Unloaded}

/-- The loop over elements, where nothing is left. -/
theorem unloadElements_missing (hmissing : Accepts unloadValue [] missingNull) :
    ∀ (dests : List BoltValue) (d : Decoder) (extra : List UInt8),
      d.Holds ((List.replicate dests.length missingNull).flatten ++ extra) [] →
      ∃ d' vs, unloadElements unloadValue d dests = some (BOLT_SUCCESS, d', vs) ∧
        d'.Holds extra [] := by
  intro dests
  induction dests with
  | nil => exact fun d extra h => ⟨d, [], rfl, h⟩
  | cons dest dests ih =>
    intro d extra h
    rw [List.length_cons, List.replicate_succ, List.flatten_cons, List.append_assoc] at h
    obtain ⟨d1, v, hfirst, hd1⟩ := hmissing d dest _ h
    obtain ⟨d2, vs, hrest, hd2⟩ := ih d1 extra hd1
    refine ⟨d2, v :: vs, ?_, hd2⟩
    simp only [unloadElements, hfirst, if_true, hrest, Option.map_some]

/-- The garbage for a sequence of that many values which is cut in the value
behind the parts. -/
def sequenceGarbage (parts : List (List UInt8)) (n : Nat) (garbage : List UInt8) : List UInt8 :=
  garbage ++ (List.replicate (n - parts.length - 1) missingNull).flatten

/-- The loop over elements, where the bytes end in the middle of one. -/
theorem unloadElements_cut (parts : List (List UInt8))
    (hparts : ∀ p ∈ parts, Yields unloadValue p true) {last garbage : List UInt8}
    (hlast : Accepts unloadValue last garbage) (hmissing : Accepts unloadValue [] missingNull)
    (dests : List BoltValue) (hlength : parts.length < dests.length) (d : Decoder)
    (extra : List UInt8)
    (h : d.Holds (sequenceGarbage parts dests.length garbage ++ extra) (parts.flatten ++ last)) :
    ∃ d' vs, unloadElements unloadValue d dests = some (BOLT_SUCCESS, d', vs) ∧
      d'.Holds extra [] := by
  obtain ⟨vs, hall⟩ := unloadElements_all parts hparts
  have htake : (dests.take parts.length).length = parts.length := by
    rw [List.length_take]
    omega
  obtain ⟨d1, hd1, hloop⟩ := hall d (dests.take parts.length) (dests.drop parts.length) _ _ htake h
  rw [List.take_append_drop] at hloop
  rcases hdrop : dests.drop parts.length with _ | ⟨dest, more⟩
  · have := List.drop_eq_nil_iff.mp hdrop
    omega
  have hmore : more.length = dests.length - parts.length - 1 := by
    have hlengths := congrArg List.length hdrop
    rw [List.length_drop, List.length_cons] at hlengths
    omega
  rw [sequenceGarbage, ← hmore, List.append_assoc] at hd1
  obtain ⟨d2, v, hfirst, hd2⟩ := hlast d1 dest _ hd1
  obtain ⟨d3, us, hrest, hd3⟩ := unloadElements_missing hmissing more d2 extra hd2
  refine ⟨d3, vs ++ v :: us, ?_, hd3⟩
  simp only [hloop, hdrop, unloadElements, hfirst, if_true, hrest, Option.map_some]

/-- The loop over fields goes the same way where every field succeeds. -/
theorem unloadFields_of_elements (dests : List BoltValue) :
    ∀ {d d' : Decoder} {vs : List BoltValue},
      unloadElements unloadValue d dests = some (BOLT_SUCCESS, d', vs) →
      unloadFields unloadValue d dests = some (d', vs) := by
  induction dests with
  | nil =>
    intro d d' vs h
    cases h
    rfl
  | cons dest dests ih =>
    intro d d' vs h
    rcases hfirst : unloadValue d dest with _ | ⟨status, d1, v⟩
    · simp only [unloadElements, hfirst] at h
      cases h
    · simp only [unloadElements, hfirst] at h
      by_cases hstatus : status = BOLT_SUCCESS
      · simp only [hstatus, if_true, Option.map_eq_some_iff] at h
        obtain ⟨⟨status', d2, us⟩, hrest, hresult⟩ := h
        cases hresult
        simp only [unloadFields, hfirst, ih hrest, Option.map_some]
      · simp only [hstatus, if_false] at h
        cases h
        exact absurd rfl hstatus

end Sequences

/-! ## The branches of the decoder -/

theorem Sized.marks {markers : SizeMarkers} (h : Sized markers) : ∃ type, Marks markers type := by
  cases h with
  | string => exact ⟨_, stringMarkers_marks⟩
  | bytes => exact ⟨_, bytesMarkers_marks⟩
  | list => exact ⟨_, listMarkers_marks⟩
  | map => exact ⟨_, mapMarkers_marks⟩

theorem SizeWidth.markerType_eq {markers : SizeMarkers} {type : PackStreamType} {marker : UInt8}
    {width : Nat} (hmarks : Marks markers type) (h : SizeWidth markers marker width) :
    markerType marker.toNat = type := by
  cases h with
  | one => rw [UInt8.toNat_ofNat', Nat.mod_eq_of_lt hmarks.one.2.1, hmarks.one.1]
  | two => rw [UInt8.toNat_ofNat', Nat.mod_eq_of_lt hmarks.two.2.1, hmarks.two.1]
  | four => rw [UInt8.toNat_ofNat', Nat.mod_eq_of_lt hmarks.four.2.1, hmarks.four.1]

/-- A size that is not there is read as zero from a local of zeros. -/
theorem unloadSize_zeros {markers : SizeMarkers} {type : PackStreamType}
    (hmarks : Marks markers type) {marker : UInt8} {width : Nat}
    (hmarker : SizeWidth markers marker width) {d : Decoder} {garbage rest : List UInt8}
    (hrest : rest.length < width)
    (h : d.Holds (List.replicate width 0 ++ garbage) (marker :: rest)) :
    ∃ d', unloadSize markers d = (some 0, d') ∧ d'.Holds garbage rest := by
  obtain ⟨-, hone, -⟩ := hmarks.one
  obtain ⟨-, htwo, hlttwo⟩ := hmarks.two
  obtain ⟨-, hfour, hltfour⟩ := hmarks.four
  obtain ⟨d1, hread, hd1⟩ := Decoder.unsigned_byte h
  cases hmarker with
  | one =>
    obtain ⟨d2, hsize, hd2⟩ := Decoder.unsigned_zeros hd1 hrest
    rw [UInt8.toNat_ofNat', Nat.mod_eq_of_lt hone] at hread
    refine ⟨d2, ?_, hd2⟩
    simp only [unloadSize, hread, hmarks.not_tiny (Nat.le_refl _), if_false, if_true, hsize,
      Nat.cast_zero]
  | two =>
    obtain ⟨d2, hsize, hd2⟩ := Decoder.unsigned_zeros hd1 hrest
    rw [UInt8.toNat_ofNat', Nat.mod_eq_of_lt htwo] at hread
    refine ⟨d2, ?_, hd2⟩
    have h1 : markers.two ≠ markers.one := by omega
    simp only [unloadSize, hread, hmarks.not_tiny (Nat.le_of_lt hlttwo), if_false, h1, if_true,
      hsize, Nat.cast_zero]
  | four =>
    obtain ⟨d2, hsize, hd2⟩ := Decoder.signed_zeros hd1 hrest
    rw [UInt8.toNat_ofNat', Nat.mod_eq_of_lt hfour] at hread
    refine ⟨d2, ?_, hd2⟩
    have hbig := hmarks.not_tiny (by omega : markers.one ≤ markers.four)
    have h1 : markers.four ≠ markers.one := by omega
    have h2 : markers.four ≠ markers.two := by omega
    simp only [unloadSize, hread, hbig, if_false, h1, h2, if_true, hsize]

/-- No byte is missing for a size of zero. -/
theorem unloadChars_zero (format : List UInt8 → BoltValue) {d : Decoder}
    {garbage rest : List UInt8} (h : d.Holds garbage rest) :
    ∃ d', unloadChars format 0 d = some (BOLT_SUCCESS, d', format []) ∧ d'.Holds garbage rest :=
  unloadChars_of_holds format [] h

/-- Characters that are not there are the garbage of the formatted value. -/
theorem unloadChars_starved (format : List UInt8 → BoltValue) {d : Decoder} {n : Nat}
    {garbage rest : List UInt8} (hrest : rest.length < n)
    (h : d.Holds (List.replicate n 0 ++ garbage) rest) :
    ∃ d' v, unloadChars format n d = some (BOLT_SUCCESS, d', v) ∧ d'.Holds garbage rest := by
  have hneg : ¬((n : Int) < 0) := by omega
  have hnone : d.buffer.unload n = none :=
    BoltBuffer.unload_eq_none h.wf (by rwa [h.content_eq])
  obtain ⟨d', hraw, hd'⟩ := Decoder.uninitialised_of_holds h
  rw [List.length_replicate] at hraw
  refine ⟨d', format (List.replicate n 0), ?_, hd'⟩
  simp only [unloadChars, hneg, if_false, Int.toNat_natCast, hnone, hraw]

variable {unloadValue : Decoder → BoltValue → Unloaded}

/-- Every type with a size succeeds where its size is missing. -/
theorem accepts_size {markers : SizeMarkers} (hsized : Sized markers) {marker : UInt8} {width : Nat}
    (hmarker : SizeWidth markers marker width) (hwidth : 0 < width) :
    Accepts (unloadType unloadValue check (markerType marker.toNat)) [marker]
      (List.replicate width 0) := by
  intro d dest extra h
  obtain ⟨type, hmarks⟩ := hsized.marks
  have hrest : ([] : List UInt8).length < width := hwidth
  obtain ⟨d1, hsize, hd1⟩ := unloadSize_zeros hmarks hmarker hrest h
  cases hsized with
  | string =>
    rw [hmarker.markerType_eq stringMarkers_marks]
    obtain ⟨d2, hchars, hd2⟩ := unloadChars_zero .string hd1
    exact ⟨d2, .string [], by simp only [unloadType, unloadString, hsize, hchars], hd2⟩
  | bytes =>
    rw [hmarker.markerType_eq bytesMarkers_marks]
    obtain ⟨d2, hchars, hd2⟩ := unloadChars_zero .bytes hd1
    exact ⟨d2, .bytes [], by simp only [unloadType, unloadBytes, hsize, hchars], hd2⟩
  | list =>
    rw [hmarker.markerType_eq listMarkers_marks]
    refine ⟨d1, .list [], ?_, hd1⟩
    have hnone : dest.listElements 0 = [] :=
      List.eq_nil_of_length_eq_zero (BoltValue.length_listElements ..)
    simp [unloadType, unloadList, hsize, hnone, unloadElements]
  | map =>
    rw [hmarker.markerType_eq mapMarkers_marks]
    refine ⟨d1, .dictionary [], ?_, hd1⟩
    have hnone : dest.dictionaryEntries 0 = [] :=
      List.eq_nil_of_length_eq_zero (BoltValue.length_dictionaryEntries ..)
    simp [unloadType, unloadMap, hsize, hnone, unloadEntries]

/-- A String and a Bytes value succeed where their characters are missing. -/
theorem accepts_string {n : Nat} {header : List UInt8}
    (hheader : SizeHeader stringMarkers n header) (hn : 0 < n) :
    Accepts (unloadType unloadValue check .string) header (List.replicate n 0) := by
  intro d dest extra h
  rw [← List.append_nil header] at h
  obtain ⟨d1, hsize, hd1⟩ := unloadSize_of_header stringMarkers_marks hheader h
  obtain ⟨d2, v, hchars, hd2⟩ := unloadChars_starved .string hn hd1
  exact ⟨d2, v, by simp only [unloadType, unloadString, hsize, hchars], hd2⟩

theorem accepts_bytes {n : Nat} {header : List UInt8}
    (hheader : SizeHeader bytesMarkers n header) (hn : 0 < n) :
    Accepts (unloadType unloadValue check .bytes) header (List.replicate n 0) := by
  intro d dest extra h
  rw [← List.append_nil header] at h
  obtain ⟨d1, hsize, hd1⟩ := unloadSize_of_header bytesMarkers_marks hheader h
  obtain ⟨d2, v, hchars, hd2⟩ := unloadChars_starved .bytes hn hd1
  exact ⟨d2, v, by simp only [unloadType, unloadBytes, hsize, hchars], hd2⟩

/-- An Integer succeeds where the bytes behind its marker are missing. -/
theorem accepts_integer {marker : UInt8} {n : Nat} (hmarker : IntegerMarker marker n) (hn : 0 < n) :
    Accepts (unloadType unloadValue check .integer) [marker] (List.replicate n 0) := by
  intro d dest extra h
  obtain ⟨d1, hread, hd1⟩ := Decoder.unsigned_byte h
  obtain ⟨d2, hvalue, hd2⟩ := Decoder.signed_zeros hd1 hn
  refine ⟨d2, .integer (Int64.ofInt 0), ?_, hd2⟩
  have hformat : unloadIntegerBe n d1 = some (BOLT_SUCCESS, d2, .integer (Int64.ofInt 0)) := by
    simp only [unloadIntegerBe, hvalue]
  cases hmarker <;> simpa [unloadType, unloadInteger, hread] using hformat

theorem accepts_float : Accepts (unloadType unloadValue check .float) [0xC1] (List.replicate 8 0) := by
  intro d dest extra h
  obtain ⟨d1, hread, hd1⟩ := Decoder.unsigned_byte h
  obtain ⟨d2, hvalue, hd2⟩ := Decoder.unsigned_zeros hd1 (by decide)
  exact ⟨d2, .float (UInt64.ofNat 0), by simp [unloadType, unloadFloat, hread, hvalue], hd2⟩

/-- A List and a Map succeed where the bytes end in one of their values. -/
theorem accepts_container {n : Nat} {header : List UInt8} (hheader : Announces n header)
    (parts : List (List UInt8)) {last garbage : List UInt8} (hlength : parts.length < n)
    (hparts : ∀ p ∈ parts, Yields unloadValue p true) (hlast : Accepts unloadValue last garbage)
    (hmissing : Accepts unloadValue [] missingNull) :
    ∃ marker tail, header = marker :: tail ∧
      Accepts (unloadType unloadValue check (markerType marker.toNat))
        (header ++ (parts.flatten ++ last)) (sequenceGarbage parts n garbage) := by
  obtain ⟨marker, tail, dests, build, hbytes, hdests, hunload⟩ :=
    hheader.unloads unloadValue check
  refine ⟨marker, tail, hbytes, fun d dest extra h => ?_⟩
  obtain ⟨d1, hd1, hbranch⟩ := hunload d dest _ _ h
  rw [← hdests dest] at hlength hd1
  obtain ⟨d2, vs, hloop, hd2⟩ :=
    unloadElements_cut parts hparts hlast hmissing (dests dest) hlength d1 extra hd1
  exact ⟨d2, build vs, by rw [hbranch, hloop, Option.map_some], hd2⟩

/-- A Structure succeeds where its code is missing, and with it all its
fields. -/
theorem accepts_code {marker code : UInt8} (hmarker : 0xB0 ≤ marker.toNat ∧ marker.toNat ≤ 0xBF)
    (hcheck : check (structureCode code)) (hmissing : Accepts unloadValue [] missingNull) :
    Accepts (unloadType unloadValue check .struct) [marker]
      (code :: (List.replicate (marker.toNat &&& 0x0F) missingNull).flatten) := by
  intro d dest extra h
  obtain ⟨d1, hread, hd1⟩ := Decoder.unsigned_byte h
  obtain ⟨d2, hcode, hd2⟩ := Decoder.unsigned_missing hd1
  have hsigned : d1.signed 1 = (ByteOrder.signed 1 code.toNat, d2) := by
    rw [Decoder.signed, hcode]
  have hfields := unloadElements_missing hmissing
    (List.replicate (marker.toNat &&& 0x0F) .null) d2 extra
  rw [List.length_replicate] at hfields
  obtain ⟨d3, vs, hloop, hd3⟩ := hfields hd2
  refine ⟨d3, .struct (structureCode code) vs, ?_, hd3⟩
  rw [structureCode] at hcheck
  simp only [unloadType, unloadStructure, hread, hmarker, and_self, if_true, hsigned, hcheck,
    unloadFields_of_elements _ hloop, Option.map_some, structureCode]

/-- A Structure succeeds where the bytes end in one of its fields. -/
theorem accepts_struct {marker code : UInt8}
    (hmarker : 0xB0 ≤ marker.toNat ∧ marker.toNat ≤ 0xBF) (hcheck : check (structureCode code))
    (parts : List (List UInt8)) {last garbage : List UInt8}
    (hlength : parts.length < marker.toNat &&& 0x0F)
    (hparts : ∀ p ∈ parts, Yields unloadValue p true) (hlast : Accepts unloadValue last garbage)
    (hmissing : Accepts unloadValue [] missingNull) :
    Accepts (unloadType unloadValue check .struct) (marker :: code :: (parts.flatten ++ last))
      (sequenceGarbage parts (marker.toNat &&& 0x0F) garbage) := by
  intro d dest extra h
  obtain ⟨d1, d2, hread, hcode, hd2⟩ := signed_structureCode h
  have hfields := unloadElements_cut parts hparts hlast hmissing
    (List.replicate (marker.toNat &&& 0x0F) .null) (by rwa [List.length_replicate]) d2 extra
  rw [List.length_replicate] at hfields
  obtain ⟨d3, vs, hloop, hd3⟩ := hfields hd2
  refine ⟨d3, .struct (structureCode code) vs, ?_, hd3⟩
  rw [structureCode] at hcheck
  simp only [unloadType, unloadStructure, hread, hmarker, and_self, if_true, hcode, hcheck,
    unloadFields_of_elements _ hloop, Option.map_some, structureCode]

/-! ## Truncated values -/

theorem Announces.head {n : Nat} {header : List UInt8} (h : Announces n header) :
    ∃ marker tail, header = marker :: tail := by
  rcases h with hheader | hheader
  · obtain ⟨marker, tail, hbytes, -⟩ := hheader.head listMarkers_marks
    exact ⟨marker, tail, hbytes⟩
  · obtain ⟨marker, tail, hbytes, -⟩ := hheader.head mapMarkers_marks
    exact ⟨marker, tail, hbytes⟩

/-- A branch that accepts what begins with its marker. -/
private theorem accepts_branch {marker : UInt8} {tail garbage : List UInt8} {fuel : Nat}
    {type : PackStreamType} (htype : markerType marker.toNat = type)
    (hfuel : (marker :: tail).length + garbage.length < fuel)
    (h : ∀ fuel, fuel ≠ 0 → tail.length + garbage.length < fuel →
      Accepts (unloadType (unloadAux check fuel) check type) (marker :: tail) garbage) :
    Accepts (unloadAux check fuel) (marker :: tail) garbage := by
  rw [List.length_cons] at hfuel
  obtain ⟨fuel, rfl⟩ : ∃ n, fuel = n + 1 := ⟨fuel - 1, by omega⟩
  exact accepts_of_marker htype (h fuel (by omega) (by omega))

/-- Where the cut falls between two reads, there is garbage with which the
decoder succeeds. -/
theorem accepts_of_cut {bytes rest : List UInt8} (h : Cut check bytes rest) :
    rest = [] → ∃ garbage, ∀ fuel, bytes.length + garbage.length < fuel →
      Accepts (unloadAux check fuel) bytes garbage := by
  have hmissing : ∀ fuel, fuel ≠ 0 → Accepts (unloadAux check fuel) [] missingNull := by
    intro fuel hfuel
    obtain ⟨fuel, rfl⟩ := Nat.exists_eq_succ_of_ne_zero hfuel
    exact accepts_missingNull fuel
  induction h with
  | nothing =>
    exact fun _ => ⟨missingNull, fun fuel hfuel => hmissing fuel (by omega)⟩
  | @integer marker n hmarker rest hrest =>
    rintro rfl
    exact ⟨List.replicate n 0, fun fuel hfuel => accepts_branch hmarker.markerType_eq hfuel
      fun _ _ _ => accepts_integer hmarker hrest⟩
  | float hrest =>
    rintro rfl
    exact ⟨List.replicate 8 0, fun fuel hfuel => accepts_branch rfl hfuel
      fun _ _ _ => accepts_float⟩
  | @size markers hsized marker width hmarker rest hrest =>
    rintro rfl
    exact ⟨List.replicate width 0, fun fuel hfuel => accepts_branch rfl hfuel
      fun _ _ _ => accepts_size hsized hmarker hrest⟩
  | @string n header hheader rest hrest =>
    rintro rfl
    obtain ⟨marker, tail, rfl, htype⟩ := hheader.head stringMarkers_marks
    rw [List.append_nil]
    exact ⟨List.replicate n 0, fun fuel hfuel => accepts_branch htype hfuel
      fun _ _ _ => accepts_string hheader hrest⟩
  | @bytes n header hheader rest hrest =>
    rintro rfl
    obtain ⟨marker, tail, rfl, htype⟩ := hheader.head bytesMarkers_marks
    rw [List.append_nil]
    exact ⟨List.replicate n 0, fun fuel hfuel => accepts_branch htype hfuel
      fun _ _ _ => accepts_bytes hheader hrest⟩
  | @container n header hheader parts last rest hlength hparts hlast ih =>
    intro hrest
    obtain ⟨garbage, hgarbage⟩ := ih hrest
    obtain ⟨marker, tail, rfl⟩ := hheader.head
    rw [List.cons_append]
    refine ⟨sequenceGarbage parts n garbage, fun fuel hfuel => ?_⟩
    refine accepts_branch rfl hfuel fun fuel hpos hfuel => ?_
    simp only [List.length_append, sequenceGarbage] at hfuel
    have hyields : ∀ p ∈ parts, Yields (unloadAux check fuel) p true := by
      intro p hp
      have := (List.sublist_flatten_of_mem hp).length_le
      exact unloadAux_yields (hparts p hp) (by omega)
    obtain ⟨_, _, hhead, haccepts⟩ := accepts_container hheader parts hlength hyields
      (hgarbage fuel (by omega)) (hmissing fuel hpos)
    cases hhead
    exact haccepts
  | @code marker hmarker code hcheck =>
    intro _
    exact ⟨_, fun fuel hfuel => accepts_branch (markerType_struct hmarker) hfuel
      fun fuel hpos _ => accepts_code hmarker hcheck (hmissing fuel hpos)⟩
  | @struct marker hmarker code hcheck parts last rest hlength hparts hlast ih =>
    intro hrest
    obtain ⟨garbage, hgarbage⟩ := ih hrest
    refine ⟨sequenceGarbage parts (marker.toNat &&& 0x0F) garbage, fun fuel hfuel => ?_⟩
    refine accepts_branch (markerType_struct hmarker) hfuel fun fuel hpos hfuel => ?_
    simp only [List.length_cons, List.length_append, sequenceGarbage] at hfuel
    have hyields : ∀ p ∈ parts, Yields (unloadAux check fuel) p true := by
      intro p hp
      have := (List.sublist_flatten_of_mem hp).length_le
      exact unloadAux_yields (hparts p hp) (by omega)
    exact accepts_struct hmarker hcheck parts hlength hyields (hgarbage fuel (by omega))
      (hmissing fuel hpos)

/-- `unload` succeeds on bytes that are cut between two reads. -/
theorem unload_accepts_of_cut {bytes : List UInt8} (h : Cut check bytes []) :
    ∃ garbage, Accepts (unload check) bytes garbage := by
  obtain ⟨garbage, hgarbage⟩ := accepts_of_cut h rfl
  refine ⟨garbage, fun d dest extra hd => ?_⟩
  refine hgarbage d.fuel ?_ d dest extra hd
  have hlength := hd.wf.length_content
  rw [hd.content_eq] at hlength
  rw [Decoder.fuel, hd.garbage_eq, List.length_append]
  omega

/-- A loader appends one list of bytes only. -/
theorem Loads.unique {loader : BoltBuffer → Outcome BoltBuffer} {bytes bytes' : List UInt8}
    (h : Loads loader bytes) (h' : Loads loader bytes') : bytes = bytes' := by
  obtain ⟨buffer, hload, -, hcontent⟩ := h _ (BoltBuffer.wf_create 0)
  obtain ⟨buffer', hload', -, hcontent'⟩ := h' _ (BoltBuffer.wf_create 0)
  rw [hload] at hload'
  obtain rfl : buffer = buffer' := congrArg Prod.snd (Option.some.inj hload')
  exact List.append_cancel_left (hcontent.symm.trans hcontent')

/-- No proper prefix of the encoding of the value is unloaded successfully,
whatever the destination and the uninitialised locals hold. -/
def RefusesTruncated (check : CheckStructSignature) (v : BoltValue) : Prop :=
  ∀ bytes, Loads (load check v) bytes → ∀ p, Proper p bytes →
    ∀ (d : Decoder) (dest : BoltValue), d.buffer.Wf → d.buffer.content = p →
      ∀ d' v', unload check d dest ≠ some (BOLT_SUCCESS, d', v')

/-- The decoder notices truncation for no value at all.  Every proper prefix of
an encoding is cut in the middle of a value, and where that leaves no byte
behind, as in the empty prefix, there is garbage with which it decodes. -/
theorem not_refusesTruncated (v : BoltValue) (hv : Encodable check v) :
    ¬RefusesTruncated check v ∧
      ∀ bytes, Loads (load check v) bytes → ∀ p, Proper p bytes → ∃ rest, Cut check p rest ∧
        (rest = [] → ∃ garbage, Accepts (unload check) p garbage) := by
  obtain ⟨bytes, hencodes, hloads⟩ := loads_of_encodable hv
  refine ⟨fun hrefuses => ?_, fun bytes' hloads' p hp => ?_⟩
  · have hcut : Cut check [] [] := .nothing
    obtain ⟨garbage, haccepts⟩ := unload_accepts_of_cut hcut
    have hempty : Proper [] bytes := by
      refine proper_nil fun hnil => ?_
      have := hencodes.length_pos
      simp [hnil] at this
    let d : Decoder := ⟨BoltBuffer.create 0, garbage⟩
    obtain ⟨d', v', hunload, -⟩ := haccepts d .null []
      ⟨BoltBuffer.wf_create 0, rfl, (List.append_nil garbage).symm⟩
    exact hrefuses bytes hloads [] hempty d .null (BoltBuffer.wf_create 0) rfl d' v' hunload
  · obtain rfl := hloads.unique hloads'
    obtain ⟨rest, hcut⟩ := cut_of_proper hencodes p hp
    refine ⟨rest, hcut, fun hrest => ?_⟩
    subst hrest
    exact unload_accepts_of_cut hcut

/-- A decoder whose buffer holds the marker of a String of one byte, and no
byte of the String. -/
def markerOnly : Decoder := ⟨(BoltBuffer.create 4).load [0x81], [0x7A]⟩

/-- The String `a`, cut behind its marker, decodes to a String of one byte that
was never received. -/
theorem not_refusesTruncated_string :
    Loads (load (fun _ => false) (.string [0x61])) [0x81, 0x61] ∧ Proper [0x81] [0x81, 0x61] ∧
      markerOnly.buffer.content = [0x81] ∧
      (unload (fun _ => false) markerOnly .null).map (fun r => (r.1, r.2.2)) =
        some (BOLT_SUCCESS, .string [0x7A]) ∧
      ¬RefusesTruncated (fun _ => false) (.string [0x61]) := by
  have hloads : Loads (load (fun _ => false) (.string [0x61])) [0x81, 0x61] :=
    Loads.load_load [0x81] [0x61]
  have hproper : Proper [0x81] [0x81, 0x61] := ⟨by decide, by decide⟩
  have hunload : (unload (fun _ => false) markerOnly .null).map (fun r => (r.1, r.2.2)) =
      some (BOLT_SUCCESS, .string [0x7A]) := rfl
  refine ⟨hloads, hproper, by decide, hunload, fun hrefuses => ?_⟩
  obtain ⟨⟨status, d', v'⟩, hresult, hpair⟩ := Option.map_eq_some_iff.mp hunload
  cases hpair
  exact hrefuses _ hloads _ hproper markerOnly .null ((BoltBuffer.wf_create 4).load _) (by decide)
    _ _ hresult

/-- An integer with its marker, a List, and a Structure in it. -/
theorem not_refusesTruncated_nested :
    let check : CheckStructSignature := fun code => code == 0x4E
    let v := BoltValue.list [.integer 200, .struct 0x4E [.float 1, .bytes [1, 2]]]
    ¬RefusesTruncated check v ∧
      ∀ bytes, Loads (load check v) bytes → ∀ p, Proper p bytes → ∃ rest, Cut check p rest ∧
        (rest = [] → ∃ garbage, Accepts (unload check) p garbage) := by
  refine not_refusesTruncated _ (.list _ (by decide) ?_)
  simp only [List.forall_mem_cons, List.not_mem_nil, false_imp_iff, implies_true, and_true]
  refine ⟨.integer _, .struct _ _ (by decide) rfl (by decide) ?_⟩
  simpa using ⟨Encodable.float 1, Encodable.bytes [1, 2] (by decide)⟩

end PackStream

end Seabolt
