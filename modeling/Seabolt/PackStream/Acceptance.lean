import Seabolt.PackStream.Encode

/-!
# What the encoder accepts

The encoder fails on some values after it has appended a part of them.
`Loadable` says which values it accepts, and `Settles` that a loader accepts
exactly when a proposition holds, and that it appends to the buffer and does
nothing else in either case.

The size of a structure is cast to `int8_t`.  So the encoder accepts values
that have no encoding: a structure with 256 fields is written with the header
of one without fields.  `WithinLimit` excludes them.
-/

namespace Seabolt

namespace PackStream

/-- The values whose dictionary keys are Strings.  Sizes are `int32_t`
fields. -/
inductive Regular : BoltValue → Prop where
  | null : Regular .null
  | boolean (data : UInt8) : Regular (.boolean data)
  | integer (data : Int64) : Regular (.integer data)
  | float (data : UInt64) : Regular (.float data)
  | string (data : List UInt8) (hsize : data.length < 0x80000000) : Regular (.string data)
  | bytes (data : List UInt8) (hsize : data.length < 0x80000000) : Regular (.bytes data)
  | list (elements : List BoltValue) (hsize : elements.length < 0x80000000)
      (helements : ∀ v ∈ elements, Regular v) : Regular (.list elements)
  | dictionary (entries : List (BoltValue × BoltValue)) (hsize : entries.length < 0x80000000)
      (hstrings : ∀ e ∈ entries, e.1.type = .string) (hkeys : ∀ e ∈ entries, Regular e.1)
      (hvalues : ∀ e ∈ entries, Regular e.2) : Regular (.dictionary entries)
  | struct (code : Int16) (fields : List BoltValue) (hsize : fields.length < 0x80000000)
      (hfields : ∀ v ∈ fields, Regular v) : Regular (.struct code fields)
  | negative (type : NegativeType) (n : Nat) : Regular (.negative type n)

/-- The sizes that `load_structure_header` accepts after the cast. -/
def TinySize (size : Int) : Prop := 0 ≤ toInt8 size ∧ toInt8 size < 0x10

/-- The values that the encoder accepts. -/
inductive Loadable (check : CheckStructSignature) : BoltValue → Prop where
  | null : Loadable check .null
  | boolean (data : UInt8) : Loadable check (.boolean data)
  | integer (data : Int64) : Loadable check (.integer data)
  | float (data : UInt64) : Loadable check (.float data)
  | string (data : List UInt8) : Loadable check (.string data)
  | bytes (data : List UInt8) : Loadable check (.bytes data)
  | list (elements : List BoltValue) (helements : ∀ v ∈ elements, Loadable check v) :
      Loadable check (.list elements)
  | dictionary (entries : List (BoltValue × BoltValue))
      (hkeys : ∀ e ∈ entries, ∃ key, e.1 = .string key)
      (hvalues : ∀ e ∈ entries, Loadable check e.2) : Loadable check (.dictionary entries)
  | struct (code : Int16) (fields : List BoltValue) (hcheck : check code)
      (hsize : TinySize fields.length) (hfields : ∀ v ∈ fields, Loadable check v) :
      Loadable check (.struct code fields)
  | negative (code : Int16) (n : Nat) (hcheck : check code)
      (hsize : TinySize (-(n + 1 : Nat))) : Loadable check (.negative (.struct code) n)

/-- Every structure in the value, at any depth, has between 0 and 15
fields. -/
inductive WithinLimit : BoltValue → Prop where
  | null : WithinLimit .null
  | boolean (data : UInt8) : WithinLimit (.boolean data)
  | integer (data : Int64) : WithinLimit (.integer data)
  | float (data : UInt64) : WithinLimit (.float data)
  | string (data : List UInt8) : WithinLimit (.string data)
  | bytes (data : List UInt8) : WithinLimit (.bytes data)
  | list (elements : List BoltValue) (helements : ∀ v ∈ elements, WithinLimit v) :
      WithinLimit (.list elements)
  | dictionary (entries : List (BoltValue × BoltValue))
      (hvalues : ∀ e ∈ entries, WithinLimit e.2) : WithinLimit (.dictionary entries)
  | struct (code : Int16) (fields : List BoltValue) (hsize : fields.length < 0x10)
      (hfields : ∀ v ∈ fields, WithinLimit v) : WithinLimit (.struct code fields)
  | negativeString (n : Nat) : WithinLimit (.negative .string n)
  | negativeBytes (n : Nat) : WithinLimit (.negative .bytes n)

variable {check : CheckStructSignature}

/-! ## Values with an encoding -/

/-- A value that has an encoding is one that the callers can build. -/
theorem regular_of_encodable {v : BoltValue} (h : Encodable check v) : Regular v := by
  induction h with
  | null => exact .null
  | boolean data => exact .boolean data
  | integer data => exact .integer data
  | float data => exact .float data
  | string data hsize => exact .string data hsize
  | bytes data hsize => exact .bytes data hsize
  | list elements hsize _ ih => exact .list elements hsize ih
  | dictionary entries hsize hkeys _ ih =>
    refine .dictionary entries hsize (fun e he => ?_) (fun e he => ?_) ih
    · obtain ⟨key, hkey, -⟩ := hkeys e he
      rw [hkey]
      rfl
    · obtain ⟨key, hkey, hsize⟩ := hkeys e he
      rw [hkey]
      exact .string key hsize
  | struct code fields _ _ hsize _ ih => exact .struct code fields (by omega) ih

theorem copyable_of_encodable {v : BoltValue} (h : Encodable check v) : v.Copyable := by
  induction h with
  | null | boolean | integer | float | string | bytes => trivial
  | list elements _ _ ih | struct _ elements _ _ _ _ ih =>
    exact (BoltValue.copyableElements_iff elements).mpr ih
  | dictionary entries _ hkeys _ ih =>
    refine (BoltValue.copyableEntries_iff entries).mpr fun e he => ⟨?_, ih e he⟩
    obtain ⟨key, hkey, -⟩ := hkeys e he
    rw [hkey]
    trivial

/-- An accepted value within the limit has an encoding. -/
theorem encodable_of_loadable (hrange : ∀ code, check code → 0 ≤ code.toInt ∧ code.toInt < 0x80)
    {v : BoltValue} (hregular : Regular v) (hloadable : Loadable check v)
    (hlimit : WithinLimit v) : Encodable check v := by
  induction hloadable with
  | null => exact .null
  | boolean data => exact .boolean data
  | integer data => exact .integer data
  | float data => exact .float data
  | string data =>
    cases hregular with
    | string _ hsize => exact .string data hsize
  | bytes data =>
    cases hregular with
    | bytes _ hsize => exact .bytes data hsize
  | list elements _ ih =>
    cases hregular with
    | list _ hsize helements =>
      cases hlimit with
      | list _ hlimits =>
        exact .list elements hsize fun v hv => ih v hv (helements v hv) (hlimits v hv)
  | dictionary entries hstrings _ ih =>
    cases hregular with
    | dictionary _ hsize _ hkeys hvalues =>
      cases hlimit with
      | dictionary _ hlimits =>
        refine .dictionary entries hsize (fun e he => ?_)
          fun e he => ih e he (hvalues e he) (hlimits e he)
        obtain ⟨key, hkey⟩ := hstrings e he
        refine ⟨key, hkey, ?_⟩
        have hregular := hkeys e he
        rw [hkey] at hregular
        cases hregular with
        | string _ hsize => exact hsize
  | struct code fields hcheck _ _ ih =>
    cases hregular with
    | struct _ _ _ hfields =>
      cases hlimit with
      | struct _ _ hsize hlimits =>
        exact .struct code fields (hrange code hcheck) hcheck hsize
          fun v hv => ih v hv (hfields v hv) (hlimits v hv)
  | negative code n _ _ => cases hlimit

/-- A value that is read back is within the limit. -/
theorem withinLimit_of_encodes {v : BoltValue} {bytes : List UInt8} (h : Encodes check v bytes) :
    WithinLimit v := by
  induction h with
  | null => exact .null
  | no | yes => exact .boolean _
  | tinyInteger | integer => exact .integer _
  | float => exact .float _
  | string => exact .string _
  | bytes => exact .bytes _
  | list parts _ _ ih => exact .list _ (List.forall_mem_map.mpr ih)
  | map parts _ _ _ ih => exact .dictionary _ (List.forall_mem_map.mpr ih)
  | struct code parts _ _ hsize _ ih =>
    exact .struct code _ (by simpa using hsize) (List.forall_mem_map.mpr ih)

/-- The representation of Booleans does not matter for the limit. -/
theorem withinLimit_of_canon (v : BoltValue) : WithinLimit v.canon → WithinLimit v := by
  induction v using BoltValue.ind with
  | null => exact id
  | boolean data => exact fun _ => .boolean data
  | integer data => exact id
  | float data => exact id
  | string data => exact id
  | bytes data => exact id
  | dictionary entries ih =>
    intro h
    simp only [BoltValue.canon, BoltValue.canonEntries_eq_map] at h
    cases h with
    | dictionary _ hvalues =>
      refine .dictionary entries fun e he => (ih e he).2 ?_
      exact hvalues _ (List.mem_map_of_mem he)
  | list elements ih =>
    intro h
    simp only [BoltValue.canon, BoltValue.canonElements_eq_map] at h
    cases h with
    | list _ helements =>
      exact .list elements fun v hv => ih v hv (helements _ (List.mem_map_of_mem hv))
  | struct code fields ih =>
    intro h
    simp only [BoltValue.canon, BoltValue.canonElements_eq_map] at h
    cases h with
    | struct _ _ hsize hfields =>
      refine .struct code fields (by simpa using hsize) fun v hv => ih v hv ?_
      exact hfields _ (List.mem_map_of_mem hv)
  | negative type n => exact id

/-! ## Loaders -/

/-- The buffer has gained bytes at its end. -/
structure Grows (buffer buffer' : BoltBuffer) : Prop where
  wf : buffer'.Wf
  cursor : buffer'.cursor = buffer.cursor
  content : ∃ bytes, buffer'.content = buffer.content ++ bytes

theorem Grows.refl {buffer : BoltBuffer} (h : buffer.Wf) : Grows buffer buffer :=
  ⟨h, rfl, [], (List.append_nil _).symm⟩

theorem Grows.trans {b1 b2 b3 : BoltBuffer} (h : Grows b1 b2) (h' : Grows b2 b3) :
    Grows b1 b3 := by
  obtain ⟨bytes, hbytes⟩ := h.content
  obtain ⟨bytes', hbytes'⟩ := h'.content
  exact ⟨h'.wf, h'.cursor.trans h.cursor, bytes ++ bytes', by
    rw [hbytes', hbytes, List.append_assoc]⟩

/-- The indexes that a buffer had before it grew give back what it held. -/
theorem Grows.restore {buffer buffer' : BoltBuffer} (hwf : buffer.Wf) (h : Grows buffer buffer') :
    let restored := { buffer' with cursor := buffer.cursor, extent := buffer.extent }
    restored.Wf ∧ restored.content = buffer.content := by
  obtain ⟨bytes, hbytes⟩ := h.content
  have hlength := congrArg List.length hbytes
  rw [List.length_append, h.wf.length_content, hwf.length_content, BoltBuffer.unloadable,
    BoltBuffer.unloadable, h.cursor] at hlength
  have hle := hwf.cursor_le
  have hle' := h.wf.cursor_le
  rw [h.cursor] at hle'
  have hextent : buffer.extent ≤ buffer'.extent := by omega
  refine ⟨⟨hle, hextent.trans h.wf.extent_le, h.wf.length_data⟩, ?_⟩
  have htake := congrArg (List.take (buffer.extent - buffer.cursor)) hbytes
  rw [List.take_left' (by rw [hwf.length_content, BoltBuffer.unloadable])] at htake
  rw [← htake]
  simp only [BoltBuffer.content, h.cursor]
  rw [← List.drop_take, List.take_take, Nat.min_eq_left hextent]

/-- The loader accepts exactly when the proposition holds, and appends to the
buffer in either case. -/
def Settles (loader : BoltBuffer → Outcome BoltBuffer) (accepted : Prop) : Prop :=
  ∀ buffer : BoltBuffer, buffer.Wf → ∃ status buffer', loader buffer = some (status, buffer') ∧
    Grows buffer buffer' ∧ (status = BOLT_SUCCESS ↔ accepted)

namespace Settles

theorem done : Settles (fun buffer => some (BOLT_SUCCESS, buffer)) True :=
  fun buffer h => ⟨_, buffer, rfl, .refl h, iff_true_intro rfl⟩

theorem refuse {status : Int} (hstatus : status ≠ BOLT_SUCCESS) :
    Settles (fun buffer => some (status, buffer)) False :=
  fun buffer h => ⟨status, buffer, rfl, .refl h, iff_false_intro hstatus⟩

theorem grows_load {buffer : BoltBuffer} (h : buffer.Wf) (bytes : List UInt8) :
    Grows buffer (buffer.load bytes) :=
  ⟨h.load bytes, (h.loadPointer bytes.length).2.1, bytes, BoltBuffer.content_load h bytes⟩

theorem load (bytes : List UInt8) :
    Settles (fun buffer => some (BOLT_SUCCESS, buffer.load bytes)) True :=
  fun _ h => ⟨_, _, rfl, grows_load h bytes, iff_true_intro rfl⟩

theorem load_load (first second : List UInt8) :
    Settles (fun buffer => some (BOLT_SUCCESS, (buffer.load first).load second)) True :=
  fun _ h => ⟨_, _, rfl, (grows_load h first).trans (grows_load (h.load first) second),
    iff_true_intro rfl⟩

/-- A `TRY` accepts what both of its parts accept. -/
theorem TRY {loader next : BoltBuffer → Outcome BoltBuffer} {p q : Prop} (h : Settles loader p)
    (hnext : Settles next q) : Settles (fun buffer => Outcome.TRY (loader buffer) next) (p ∧ q) := by
  intro buffer hwf
  obtain ⟨status, middle, hload, hgrows, hp⟩ := h buffer hwf
  by_cases hstatus : status = BOLT_SUCCESS
  · subst hstatus
    obtain ⟨status, buffer', hresult, hgrows', hq⟩ := hnext middle hgrows.wf
    refine ⟨status, buffer', ?_, hgrows.trans hgrows', ?_⟩
    · simp only [hload, Outcome.TRY_success, hresult]
    · rw [hq, and_iff_right (hp.mp rfl)]
  · refine ⟨status, middle, ?_, hgrows, ?_⟩
    · simp only [hload, Outcome.TRY_error hstatus]
    · exact ⟨fun h => absurd h hstatus, fun h => hp.mpr h.1⟩

theorem congr {loader : BoltBuffer → Outcome BoltBuffer} {p q : Prop} (h : Settles loader p)
    (hpq : p ↔ q) : Settles loader q := by
  rwa [← propext hpq]

/-- A Structure is loaded if its code is accepted. -/
theorem checked {loader : BoltBuffer → Outcome BoltBuffer} {p : Prop} (h : Settles loader p)
    (accepted : Bool) :
    Settles (fun buffer => if accepted then loader buffer
      else some (BOLT_PROTOCOL_UNSUPPORTED_TYPE, buffer)) (accepted ∧ p) := by
  cases accepted with
  | true => exact h.congr (by simp)
  | false => exact (refuse (by decide)).congr (by simp)

end Settles

/-- A size header is refused for a negative size only. -/
theorem settles_sizeHeader (markers : SizeMarkers) (size : Int) :
    Settles (fun buffer => loadSizeHeader markers buffer size) (0 ≤ size) := by
  unfold loadSizeHeader
  split_ifs with hneg htiny hone htwo
  · exact (Settles.refuse (by decide)).congr (iff_of_false id (by omega))
  · exact (Settles.load _).congr (by simpa using hneg)
  · exact (Settles.load_load [_] [_]).congr (by simpa using hneg)
  · exact (Settles.load_load [_] _).congr (by simpa using hneg)
  · exact (Settles.load_load [_] _).congr (by simpa using hneg)

/-- So are the chars of a String or Bytes value. -/
theorem settles_chars (markers : SizeMarkers) (data : List UInt8) (size : Int) :
    Settles (fun buffer => Outcome.TRY (loadSizeHeader markers buffer size)
      fun buffer => some (BOLT_SUCCESS, buffer.load data)) (0 ≤ size) :=
  ((settles_sizeHeader markers size).TRY (.load data)).congr (and_iff_left trivial)

theorem settles_integer (value : Int) : Settles (fun buffer => loadInteger buffer value) True := by
  unfold loadInteger
  split_ifs
  · exact .load _
  · exact .load_load [_] _
  · exact .load_load [_] _
  · exact .load_load [_] _
  · exact .load_load [_] _

theorem settles_structureHeader (code : Int16) (size : Int) :
    Settles (fun buffer => loadStructureHeader buffer code (toInt8 size))
      (0 ≤ code.toInt ∧ TinySize size) := by
  have hcode : code < 0 ↔ ¬0 ≤ code.toInt := by
    rw [Int16.lt_iff_toInt_lt, Int16.toInt_zero, not_le]
  unfold loadStructureHeader TinySize
  split_ifs with hrefused
  · rw [hcode] at hrefused
    exact (Settles.refuse (by decide)).congr (iff_of_false id (by omega))
  · rw [hcode] at hrefused
    exact (Settles.load_load [_] _).congr (iff_of_true trivial (by omega))

/-- A key is accepted if it has a size. -/
theorem settles_key {key : BoltValue} (hkey : key.type = .string) :
    Settles (fun buffer => loadKey buffer key) (∃ data, key = .string data) := by
  cases key with
  | string data =>
    exact (settles_chars stringMarkers data _).congr ⟨fun _ => ⟨data, rfl⟩, fun _ => by omega⟩
  | negative type n =>
    cases type with
    | string =>
      exact (settles_chars stringMarkers [] (-(n + 1 : Nat))).congr
        ⟨fun h => by omega, fun ⟨_, h⟩ => by cases h⟩
    | bytes => cases hkey
    | struct code => cases hkey
  | _ => cases hkey

/-- A loop accepts if all its calls do. -/
theorem settles_elements {p : BoltValue → Prop} (vs : List BoltValue)
    (ih : ∀ v ∈ vs, Settles (load check v) (p v)) :
    Settles (loadElements check vs) (∀ v ∈ vs, p v) := by
  induction vs with
  | nil => exact Settles.done.congr (by simp)
  | cons v vs ihvs =>
    have hhead := ih v List.mem_cons_self
    have htail := ihvs fun w hw => ih w (List.mem_cons_of_mem v hw)
    exact (hhead.TRY htail).congr List.forall_mem_cons.symm

theorem settles_entries {p q : BoltValue → Prop} (es : List (BoltValue × BoltValue))
    (hkeys : ∀ e ∈ es, Settles (fun buffer => loadKey buffer e.1) (p e.1))
    (ih : ∀ e ∈ es, Settles (load check e.2) (q e.2)) :
    Settles (loadEntries check es) ((∀ e ∈ es, p e.1) ∧ ∀ e ∈ es, q e.2) := by
  induction es with
  | nil => exact Settles.done.congr (by simp)
  | cons e es ihes =>
    have hkey := hkeys e List.mem_cons_self
    have hvalue := ih e List.mem_cons_self
    have htail := ihes (fun e he => hkeys e (List.mem_cons_of_mem _ he))
      fun e he => ih e (List.mem_cons_of_mem _ he)
    refine (hkey.TRY (hvalue.TRY htail)).congr ?_
    simp only [List.forall_mem_cons]
    tauto

/-- The encoder accepts exactly the loadable values. -/
theorem settles_load (hrange : ∀ code, check code → 0 ≤ code.toInt ∧ code.toInt < 0x80)
    (v : BoltValue) : Regular v → Settles (load check v) (Loadable check v) := by
  induction v using BoltValue.ind with
  | null => exact fun _ => (Settles.load _).congr (iff_of_true trivial .null)
  | boolean data => exact fun _ => (Settles.load _).congr (iff_of_true trivial (.boolean data))
  | integer data =>
    exact fun _ => (settles_integer _).congr (iff_of_true trivial (.integer data))
  | float data =>
    intro _
    have hload := Settles.load_load [0xC1] (beBytes 8 (ByteOrder.unsigned 8 data.toNat))
    exact hload.congr (iff_of_true trivial (.float data))
  | string data =>
    intro _
    have hchars := settles_chars stringMarkers data data.length
    exact hchars.congr (iff_of_true (by omega) (.string data))
  | bytes data =>
    intro _
    have hchars := settles_chars bytesMarkers data data.length
    exact hchars.congr (iff_of_true (by omega) (.bytes data))
  | dictionary entries ih =>
    intro hregular
    cases hregular with
    | dictionary _ hsize hstrings _ hvalues =>
      have hentries := settles_entries (p := fun key => ∃ data, key = .string data) entries
        (fun e he => settles_key (hstrings e he))
        fun e he => (ih e he).2 (hvalues e he)
      refine ((settles_sizeHeader mapMarkers entries.length).TRY hentries).congr
        ⟨fun h => .dictionary entries h.2.1 h.2.2, fun h => ?_⟩
      cases h with
      | dictionary _ hkeys hvalues => exact ⟨by omega, hkeys, hvalues⟩
  | list elements ih =>
    intro hregular
    cases hregular with
    | list _ hsize helements =>
      have helements := settles_elements elements fun v hv => ih v hv (helements v hv)
      refine ((settles_sizeHeader listMarkers elements.length).TRY helements).congr
        ⟨fun h => .list elements h.2, fun h => ?_⟩
      cases h with
      | list _ helements => exact ⟨by omega, helements⟩
  | struct code fields ih =>
    intro hregular
    cases hregular with
    | struct _ _ hsize hfields =>
      have helements := settles_elements fields fun v hv => ih v hv (hfields v hv)
      have hheader := settles_structureHeader code fields.length
      refine ((hheader.TRY helements).checked (check code)).congr
        ⟨fun h => .struct code fields h.1 h.2.1.2 h.2.2, fun h => ?_⟩
      cases h with
      | struct _ _ hcheck hsize hfields => exact ⟨hcheck, ⟨(hrange code hcheck).1, hsize⟩, hfields⟩
  | negative type n =>
    intro _
    cases type with
    | string =>
      refine (settles_chars stringMarkers [] (-(n + 1 : Nat))).congr ⟨fun h => by omega, nofun⟩
    | bytes =>
      refine (settles_chars bytesMarkers [] (-(n + 1 : Nat))).congr ⟨fun h => by omega, nofun⟩
    | struct code =>
      have hheader := settles_structureHeader code (-(n + 1 : Nat))
      refine (hheader.checked (check code)).congr ⟨fun h => .negative code n h.1 h.2.2, fun h => ?_⟩
      cases h with
      | negative _ _ hcheck hsize => exact ⟨hcheck, (hrange code hcheck).1, hsize⟩

/-! ## Statuses -/

/-- The statuses that the encoder returns. -/
def EncoderStatus (status : Int) : Prop :=
  status = BOLT_SUCCESS ∨ status = BOLT_PROTOCOL_VIOLATION ∨
    status = BOLT_PROTOCOL_UNSUPPORTED_TYPE

/-- The call returns one of them, if it returns. -/
def Returns (outcome : Outcome BoltBuffer) : Prop :=
  ∀ status buffer, outcome = some (status, buffer) → EncoderStatus status

namespace Returns

theorem success (buffer : BoltBuffer) : Returns (some (BOLT_SUCCESS, buffer)) := by
  rintro _ _ ⟨rfl, rfl⟩
  exact .inl rfl

theorem violation (buffer : BoltBuffer) : Returns (some (BOLT_PROTOCOL_VIOLATION, buffer)) := by
  rintro _ _ ⟨rfl, rfl⟩
  exact .inr (.inl rfl)

theorem unsupported (buffer : BoltBuffer) :
    Returns (some (BOLT_PROTOCOL_UNSUPPORTED_TYPE, buffer)) := by
  rintro _ _ ⟨rfl, rfl⟩
  exact .inr (.inr rfl)

theorem TRY {outcome : Outcome BoltBuffer} {next : BoltBuffer → Outcome BoltBuffer}
    (h : Returns outcome) (hnext : ∀ buffer, Returns (next buffer)) :
    Returns (Outcome.TRY outcome next) := by
  rcases outcome with _ | ⟨status, buffer⟩
  · exact nofun
  · by_cases hstatus : status = BOLT_SUCCESS
    · subst hstatus
      rw [Outcome.TRY_success]
      exact hnext buffer
    · rw [Outcome.TRY_error hstatus]
      exact h

end Returns

theorem returns_sizeHeader (markers : SizeMarkers) (buffer : BoltBuffer) (size : Int) :
    Returns (loadSizeHeader markers buffer size) := by
  unfold loadSizeHeader
  split_ifs
  · exact .violation _
  all_goals exact .success _

theorem returns_chars (markers : SizeMarkers) (buffer : BoltBuffer) (data : List UInt8)
    (size : Int) :
    Returns (Outcome.TRY (loadSizeHeader markers buffer size)
      fun buffer => some (BOLT_SUCCESS, buffer.load data)) :=
  (returns_sizeHeader markers buffer size).TRY fun _ => .success _

theorem returns_structureHeader (buffer : BoltBuffer) (code : Int16) (size : Int) :
    Returns (loadStructureHeader buffer code size) := by
  unfold loadStructureHeader
  split_ifs
  · exact .violation _
  · exact .success _

theorem returns_integer (buffer : BoltBuffer) (value : Int) : Returns (loadInteger buffer value) := by
  unfold loadInteger
  split_ifs
  all_goals exact .success _

theorem returns_key (buffer : BoltBuffer) (key : BoltValue) : Returns (loadKey buffer key) := by
  unfold loadKey
  split
  · exact returns_chars _ _ _ _
  · exact returns_chars _ _ _ _
  · exact nofun

theorem returns_elements (vs : List BoltValue)
    (ih : ∀ v ∈ vs, ∀ buffer, Returns (load check v buffer)) :
    ∀ buffer, Returns (loadElements check vs buffer) := by
  induction vs with
  | nil => exact .success
  | cons v vs ihvs =>
    intro buffer
    rw [loadElements]
    exact (ih v List.mem_cons_self buffer).TRY
      (ihvs fun w hw => ih w (List.mem_cons_of_mem v hw))

theorem returns_entries (es : List (BoltValue × BoltValue))
    (ih : ∀ e ∈ es, ∀ buffer, Returns (load check e.2 buffer)) :
    ∀ buffer, Returns (loadEntries check es buffer) := by
  induction es with
  | nil => exact .success
  | cons e es ihes =>
    intro buffer
    obtain ⟨key, value⟩ := e
    rw [loadEntries]
    exact (returns_key buffer key).TRY fun buffer =>
      (ih (key, value) List.mem_cons_self buffer).TRY
        (ihes fun e he => ih e (List.mem_cons_of_mem _ he))

/-- The encoder returns no status but these, also for a value that it does not
accept. -/
theorem returns_load (v : BoltValue) : ∀ buffer, Returns (load check v buffer) := by
  induction v using BoltValue.ind with
  | null | boolean data | float data =>
    intro buffer
    rw [load]
    exact .success _
  | integer data =>
    intro buffer
    rw [load]
    exact returns_integer buffer _
  | string data | bytes data =>
    intro buffer
    rw [load]
    exact returns_chars _ buffer data _
  | dictionary entries ih =>
    intro buffer
    rw [load]
    exact (returns_sizeHeader _ _ _).TRY (returns_entries entries fun e he => (ih e he).2)
  | list elements ih =>
    intro buffer
    rw [load]
    exact (returns_sizeHeader _ _ _).TRY (returns_elements elements ih)
  | struct code fields ih =>
    intro buffer
    rw [load]
    split_ifs
    · exact (returns_structureHeader _ _ _).TRY (returns_elements fields ih)
    · exact .unsupported _
  | negative type n =>
    intro buffer
    cases type with
    | string | bytes =>
      rw [load]
      exact returns_chars _ buffer [] _
    | struct code =>
      rw [load]
      split_ifs
      · exact returns_structureHeader _ _ _
      · exact .unsupported _

end PackStream

end Seabolt
