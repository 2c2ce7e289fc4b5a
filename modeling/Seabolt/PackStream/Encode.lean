import Seabolt.PackStream.Grammar

/-!
# The encoder produces the grammar

Loading an encodable value succeeds, and what it appends is an encoding of
the value.  The bytes depend on the value only and not on the buffer.
-/

namespace Seabolt

namespace PackStream

/-- The loader always succeeds and appends `bytes`. -/
def Loads (loader : BoltBuffer → Outcome BoltBuffer) (bytes : List UInt8) : Prop :=
  ∀ buffer : BoltBuffer, buffer.Wf → ∃ buffer', loader buffer = some (BOLT_SUCCESS, buffer') ∧
    buffer'.Wf ∧ buffer'.content = buffer.content ++ bytes

namespace Loads

theorem nil : Loads (fun buffer => some (BOLT_SUCCESS, buffer)) [] :=
  fun buffer h => ⟨buffer, rfl, h, by simp⟩

theorem load (bytes : List UInt8) :
    Loads (fun buffer => some (BOLT_SUCCESS, buffer.load bytes)) bytes :=
  fun _ h => ⟨_, rfl, h.load bytes, BoltBuffer.content_load h bytes⟩

/-- Two loads in a row. -/
theorem load_load (first second : List UInt8) :
    Loads (fun buffer => some (BOLT_SUCCESS, (buffer.load first).load second))
      (first ++ second) := by
  intro buffer h
  refine ⟨_, rfl, (h.load first).load second, ?_⟩
  rw [BoltBuffer.content_load (h.load first), BoltBuffer.content_load h, List.append_assoc]

/-- A marker byte and an integer of `n` bytes behind it. -/
theorem loadU8_loadBe (marker : UInt8) (n : Nat) (x : Int) :
    Loads (fun buffer => some (BOLT_SUCCESS, BoltBuffer.loadBe n (buffer.loadU8 marker) x))
      (marker :: beBytes n (ByteOrder.unsigned n x)) :=
  load_load [marker] _

/-- The `TRY` of a successful load goes on behind what the load appended. -/
theorem TRY {loader next : BoltBuffer → Outcome BoltBuffer} {first second : List UInt8}
    (h : Loads loader first) (hnext : Loads next second) :
    Loads (fun buffer => Outcome.TRY (loader buffer) next) (first ++ second) := by
  intro buffer hwf
  obtain ⟨middle, hload, hmiddle, hcontent⟩ := h buffer hwf
  obtain ⟨buffer', hresult, hwf', hcontent'⟩ := hnext middle hmiddle
  refine ⟨buffer', ?_, hwf', ?_⟩
  · simp only [hload, Outcome.TRY_success, hresult]
  · rw [hcontent', hcontent, List.append_assoc]

end Loads

/-! ## Headers and scalars -/

variable {check : CheckStructSignature}

/-- A size header is loaded in one of the classes of the grammar. -/
theorem loads_sizeHeader (markers : SizeMarkers) {n : Nat} (hn : n < 0x80000000) :
    ∃ header, SizeHeader markers n header ∧
      Loads (fun buffer => loadSizeHeader markers buffer n) header := by
  unfold loadSizeHeader
  have hneg : ¬((n : Int) < 0) := by omega
  simp only [hneg, if_false, Int.toNat_natCast]
  split_ifs with htiny hone htwo
  · obtain ⟨first, hfirst⟩ := Option.isSome_iff_exists.mp htiny.1
    refine ⟨_, .tiny hfirst (by omega), ?_⟩
    rw [hfirst, Option.getD_some]
    exact .load _
  · refine ⟨_, .one (by omega), ?_⟩
    rw [beBytes_one]
    exact .load_load [_] [_]
  · refine ⟨_, .two (by omega), ?_⟩
    have hsize := ByteOrder.unsigned_natCast (n := 2) (x := n) (by norm_num; omega)
    have := Loads.loadU8_loadBe (UInt8.ofNat markers.two) 2 n
    rwa [hsize] at this
  · refine ⟨_, .four hn, ?_⟩
    have hsize := ByteOrder.unsigned_natCast (n := 4) (x := n) (by norm_num; omega)
    have := Loads.loadU8_loadBe (UInt8.ofNat markers.four) 4 n
    rwa [hsize] at this

/-- A size header followed by the bytes it announces. -/
theorem loads_chars (markers : SizeMarkers) (data : List UInt8)
    (hn : data.length < 0x80000000) :
    ∃ header, SizeHeader markers data.length header ∧
      Loads (fun buffer => Outcome.TRY (loadSizeHeader markers buffer data.length)
        fun buffer => some (BOLT_SUCCESS, buffer.load data)) (header ++ data) := by
  obtain ⟨header, hheader, hloads⟩ := loads_sizeHeader markers hn
  exact ⟨header, hheader, hloads.TRY (.load data)⟩

/-- An integer is loaded in a width of the grammar that holds it. -/
theorem loads_integer (x : Int64) :
    ∃ bytes, Encodes check (.integer x) bytes ∧
      Loads (fun buffer => loadInteger buffer x.toInt) bytes := by
  have hlow := x.le_toInt
  have hhigh := x.toInt_lt
  unfold loadInteger
  split_ifs with htiny hone htwo hfour
  · exact ⟨_, .tinyInteger x htiny.1 htiny.2, .load _⟩
  · exact ⟨_, .integer .one x (by norm_num; omega) (by norm_num; omega), .loadU8_loadBe _ 1 _⟩
  · exact ⟨_, .integer .two x (by norm_num; omega) (by norm_num; omega), .loadU8_loadBe _ 2 _⟩
  · exact ⟨_, .integer .four x (by norm_num; omega) (by norm_num; omega), .loadU8_loadBe _ 4 _⟩
  · exact ⟨_, .integer .eight x (by norm_num; omega) (by norm_num; omega), .loadU8_loadBe _ 8 _⟩

/-- A size below 16 survives the cast to `int8_t`. -/
theorem toInt8_of_lt {n : Nat} (hn : n < 0x10) : toInt8 n = n := by
  unfold toInt8
  exact Int.bmod_eq_of_le (by omega) (by omega)

theorem loads_structureHeader {code : Int16} (hcode : 0 ≤ code.toInt ∧ code.toInt < 0x80)
    {n : Nat} (hn : n < 0x10) :
    Loads (fun buffer => loadStructureHeader buffer code (toInt8 n))
      (structureHeader code n) := by
  have hnonneg : ¬(code < 0) := by
    rw [Int16.lt_iff_toInt_lt]
    simp only [Int16.toInt_zero]
    omega
  have hneg : ¬((n : Int) < 0) := by omega
  have hbig : ¬(0x10 ≤ (n : Int)) := by omega
  have hunsigned : ByteOrder.unsigned 1 code.toInt = code.toInt.toNat := by
    show (code.toInt % 256).toNat = code.toInt.toNat
    rw [Int.emod_eq_of_lt hcode.1 (by omega)]
  have hload := Loads.loadU8_loadBe (UInt8.ofNat (0xB0 + n)) 1 code.toInt
  rw [hunsigned, beBytes_one] at hload
  rw [toInt8_of_lt hn]
  simp only [loadStructureHeader, hnonneg, hneg, hbig, or_self, if_false, Int.toNat_natCast]
  exact hload

/-! ## Containers -/

/-- The loop over list elements or structure fields appends one encoding
after the other. -/
theorem loads_elements (vs : List BoltValue)
    (ih : ∀ v ∈ vs, ∃ bytes, Encodes check v.canon bytes ∧ Loads (load check v) bytes) :
    ∃ bytes, EncodesAll check (BoltValue.canonElements vs) bytes ∧
      Loads (loadElements check vs) bytes := by
  induction vs with
  | nil => exact ⟨[], encodesAll_nil, .nil⟩
  | cons v vs ihvs =>
    obtain ⟨first, hfirst, hload⟩ := ih v List.mem_cons_self
    obtain ⟨rest, hrest, hloads⟩ := ihvs fun w hw => ih w (List.mem_cons_of_mem v hw)
    exact ⟨first ++ rest, .cons hfirst hrest, hload.TRY hloads⟩

/-- The loop over dictionary entries appends one encoded entry after the
other. -/
theorem loads_entries (es : List (BoltValue × BoltValue))
    (hkeys : ∀ e ∈ es, ∃ key, e.1 = .string key ∧ key.length < 0x80000000)
    (ih : ∀ e ∈ es, ∃ bytes, Encodes check e.2.canon bytes ∧ Loads (load check e.2) bytes) :
    ∃ parts : List EncodedEntry, parts.map EncodedEntry.entry = BoltValue.canonEntries es ∧
      (∀ p ∈ parts, SizeHeader stringMarkers p.key.length p.keyHeader) ∧
      (∀ p ∈ parts, Encodes check p.value p.valueBytes) ∧
      Loads (loadEntries check es) (parts.map EncodedEntry.bytes).flatten := by
  induction es with
  | nil => exact ⟨[], rfl, by simp, by simp, .nil⟩
  | cons e es ihes =>
    obtain ⟨k, v⟩ := e
    obtain ⟨key, rfl, hkey⟩ := hkeys (k, v) List.mem_cons_self
    obtain ⟨bytes, hbytes, hload⟩ := ih (_, v) List.mem_cons_self
    obtain ⟨header, hheader, hloadkey⟩ := loads_chars stringMarkers key hkey
    obtain ⟨parts, hparts, hheaders, hvalues, hloads⟩ :=
      ihes (fun e he => hkeys e (List.mem_cons_of_mem _ he))
        (fun e he => ih e (List.mem_cons_of_mem _ he))
    refine ⟨⟨key, header, v.canon, bytes⟩ :: parts, ?_, ?_, ?_, ?_⟩
    · simp only [List.map_cons, hparts, EncodedEntry.entry, BoltValue.canonEntries,
        BoltValue.canon]
    · exact List.forall_mem_cons.mpr ⟨hheader, hheaders⟩
    · exact List.forall_mem_cons.mpr ⟨hbytes, hvalues⟩
    · rw [List.map_cons, List.flatten_cons, EncodedEntry.bytes, List.append_assoc (header ++ key)]
      exact hloadkey.TRY (hload.TRY hloads)

/-- Loading an encodable value succeeds and appends an encoding of it. -/
theorem loads_of_encodable {v : BoltValue} (h : Encodable check v) :
    ∃ bytes, Encodes check v.canon bytes ∧ Loads (load check v) bytes := by
  induction h with
  | null => exact ⟨_, .null, .load _⟩
  | boolean data =>
    simp only [load, loadBoolean, BoltValue.canon, BoltValue.toBit]
    by_cases hdata : data = 0
    · simp only [hdata, if_true]
      exact ⟨_, .no, .load _⟩
    · simp only [hdata, if_false]
      exact ⟨_, .yes, .load _⟩
  | integer data => exact loads_integer data
  | float data =>
    have hsize := ByteOrder.unsigned_natCast (n := 8) (x := data.toNat) data.toNat_lt
    have hload := Loads.loadU8_loadBe 0xC1 8 data.toNat
    rw [hsize] at hload
    exact ⟨_, .float data, hload⟩
  | string data hsize =>
    obtain ⟨header, hheader, hloads⟩ := loads_chars stringMarkers data hsize
    exact ⟨_, .string data hheader, hloads⟩
  | bytes data hsize =>
    obtain ⟨header, hheader, hloads⟩ := loads_chars bytesMarkers data hsize
    exact ⟨_, .bytes data hheader, hloads⟩
  | list elements hsize _ ih =>
    obtain ⟨header, hheader, hload⟩ := loads_sizeHeader listMarkers hsize
    obtain ⟨body, hbody, hloads⟩ := loads_elements elements ih
    exact ⟨_, .list_of_all (by simpa [BoltValue.canonElements_eq_map] using hheader) hbody,
      hload.TRY hloads⟩
  | dictionary entries hsize hkeys _ ih =>
    obtain ⟨header, hheader, hload⟩ := loads_sizeHeader mapMarkers hsize
    obtain ⟨parts, hparts, hheaders, hvalues, hloads⟩ := loads_entries entries hkeys ih
    have hlength : parts.length = entries.length := by
      have := congrArg List.length hparts
      simpa [BoltValue.canonEntries_eq_map] using this
    refine ⟨_, ?_, hload.TRY hloads⟩
    rw [BoltValue.canon, ← hparts]
    exact .map parts (hlength ▸ hheader) hheaders hvalues
  | struct code fields hcode hcheck hsize _ ih =>
    obtain ⟨body, hbody, hloads⟩ := loads_elements fields ih
    have hlength : (BoltValue.canonElements fields).length = fields.length := by
      simp [BoltValue.canonElements_eq_map]
    have hencodes := Encodes.struct_of_all hcode hcheck (hlength ▸ hsize) hbody
    rw [hlength] at hencodes
    refine ⟨_, hencodes, ?_⟩
    have hload := (loads_structureHeader hcode hsize).TRY hloads
    intro buffer hwf
    simpa only [load, hcheck, if_true] using hload buffer hwf

/-! ## The encoding of a value -/

/-- What loading the value appends to an empty buffer. -/
def encoding (check : CheckStructSignature) (v : BoltValue) : List UInt8 :=
  match load check v (.create 0) with
  | some (_, buffer) => buffer.content
  | none => []

theorem encoding_of_loads {v : BoltValue} {bytes : List UInt8} (h : Loads (load check v) bytes) :
    encoding check v = bytes := by
  obtain ⟨buffer, hload, -, hcontent⟩ := h (.create 0) (BoltBuffer.wf_create 0)
  rw [encoding, hload]
  exact hcontent.trans (by rw [BoltBuffer.content_create, List.nil_append])

/-- Loading an encodable value appends its encoding to every buffer. -/
theorem loads_encoding {v : BoltValue} (h : Encodable check v) :
    Loads (load check v) (encoding check v) := by
  obtain ⟨bytes, -, hloads⟩ := loads_of_encodable h
  rwa [encoding_of_loads hloads]

theorem loads_encodings {vs : List BoltValue} (h : ∀ v ∈ vs, Encodable check v) :
    Loads (loadElements check vs) (vs.map (encoding check)).flatten := by
  induction vs with
  | nil => exact .nil
  | cons v vs ih =>
    obtain ⟨hv, hvs⟩ := List.forall_mem_cons.mp h
    exact (loads_encoding hv).TRY (ih hvs)

/-- A structure is its two bytes of header, and its fields one after the other. -/
theorem encoding_struct {code : Int16} {fields : List BoltValue}
    (h : Encodable check (.struct code fields)) :
    encoding check (.struct code fields) =
      structureHeader code fields.length ++ (fields.map (encoding check)).flatten := by
  cases h with
  | struct _ _ hcode hcheck hsize hfields =>
    refine encoding_of_loads fun buffer hwf => ?_
    have hload := (loads_structureHeader hcode hsize).TRY (loads_encodings hfields)
    simpa only [load, hcheck, if_true] using hload buffer hwf

/-- The entries of a Map, without their number. -/
def entriesEncoding (check : CheckStructSignature) (es : List (BoltValue × BoltValue)) : List UInt8 :=
  (es.map fun e => encoding check e.1 ++ encoding check e.2).flatten

theorem loads_entriesEncoding {es : List (BoltValue × BoltValue)}
    (hkeys : ∀ e ∈ es, ∃ key, e.1 = .string key ∧ key.length < 0x80000000)
    (hvalues : ∀ e ∈ es, Encodable check e.2) :
    Loads (loadEntries check es) (entriesEncoding check es) := by
  induction es with
  | nil => exact .nil
  | cons e es ih =>
    obtain ⟨k, v⟩ := e
    obtain ⟨⟨key, hk, hkey⟩, hrest⟩ := List.forall_mem_cons.mp hkeys
    obtain ⟨hv, hvs⟩ := List.forall_mem_cons.mp hvalues
    obtain rfl : k = .string key := hk
    have hload : Loads (fun buffer => loadKey buffer (.string key)) (encoding check (.string key)) :=
      loads_encoding (.string key hkey)
    have hentry := hload.TRY ((loads_encoding hv).TRY (ih hrest hvs))
    rwa [← List.append_assoc] at hentry

/-- A Map is a header that depends on the number of its entries, and its entries
one after the other. -/
theorem encoding_dictionary (check : CheckStructSignature) {n : Nat} (hn : n < 0x80000000) :
    ∃ header, ∀ es, es.length = n → Encodable check (.dictionary es) →
      encoding check (.dictionary es) = header ++ entriesEncoding check es := by
  obtain ⟨header, -, hheader⟩ := loads_sizeHeader mapMarkers hn
  refine ⟨header, fun es hlength h => ?_⟩
  cases h with
  | dictionary _ _ hkeys hvalues =>
    subst hlength
    exact encoding_of_loads (hheader.TRY (loads_entriesEncoding hkeys hvalues))

theorem loadElements_canon (vs : List BoltValue)
    (ih : ∀ v ∈ vs, ∀ buffer, load check v.canon buffer = load check v buffer) :
    ∀ buffer, loadElements check (BoltValue.canonElements vs) buffer =
      loadElements check vs buffer := by
  induction vs with
  | nil => exact fun _ => rfl
  | cons v vs ihvs =>
    intro buffer
    have hrest := funext (ihvs fun w hw => ih w (List.mem_cons_of_mem v hw))
    simp only [BoltValue.canonElements, loadElements, ih v List.mem_cons_self, hrest]

theorem loadKey_canon (key : BoltValue) (buffer : BoltBuffer) :
    loadKey buffer key.canon = loadKey buffer key := by
  cases key <;> rfl

theorem loadEntries_canon (es : List (BoltValue × BoltValue))
    (ih : ∀ e ∈ es, ∀ buffer, load check e.2.canon buffer = load check e.2 buffer) :
    ∀ buffer, loadEntries check (BoltValue.canonEntries es) buffer = loadEntries check es buffer := by
  induction es with
  | nil => exact fun _ => rfl
  | cons e es ihes =>
    intro buffer
    have hrest := funext (ihes fun w hw => ih w (List.mem_cons_of_mem e hw))
    simp only [BoltValue.canonEntries, loadEntries, loadKey_canon, ih e List.mem_cons_self, hrest]

/-- The encoder does not see how a Boolean is represented. -/
theorem load_canon (v : BoltValue) : ∀ buffer, load check v.canon buffer = load check v buffer := by
  induction v using BoltValue.ind with
  | null | integer _ | float _ | string _ | bytes _ | negative _ _ => exact fun _ => rfl
  | boolean data =>
    intro buffer
    simp only [BoltValue.canon, load, BoltValue.toBit]
    split_ifs <;> simp_all
  | list vs ih =>
    intro buffer
    have hlength : (BoltValue.canonElements vs).length = vs.length := by
      simp [BoltValue.canonElements_eq_map]
    simp only [BoltValue.canon, load, hlength, loadElements_canon vs ih]
  | dictionary es ih =>
    intro buffer
    have hlength : (BoltValue.canonEntries es).length = es.length := by
      simp [BoltValue.canonEntries_eq_map]
    simp only [BoltValue.canon, load, hlength, loadEntries_canon es fun e he => (ih e he).2]
  | struct code vs ih =>
    intro buffer
    have hlength : (BoltValue.canonElements vs).length = vs.length := by
      simp [BoltValue.canonElements_eq_map]
    simp only [BoltValue.canon, load, hlength, loadElements_canon vs ih]

theorem encoding_canon (v : BoltValue) : encoding check v.canon = encoding check v := by
  rw [encoding, encoding, load_canon]

end PackStream

end Seabolt
