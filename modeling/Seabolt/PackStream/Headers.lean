import Seabolt.PackStream.Acceptance
import Seabolt.Protocol
import Seabolt.Signatures

/-!
# What a header can announce

The encoder writes a header for every String, Bytes value, List, Map and
Structure.  It refuses a negative size, and a Structure whose code is not
accepted or whose number of fields is not between 0 and 15.

But the number of fields is cast to `int8_t` before it is looked at, and the
code is cast to it afterwards.  A value with a header that is misread in this
way is written as another one, unless something else in it is refused.
-/

namespace Seabolt

namespace PackStream

/-! ## Headers -/

/-- What is announced: a code and a number of fields, or a size. -/
inductive Header where
  | fields (code : Int16) (size : Int)
  | sized (size : Int)

/-- The value has the header at some depth. -/
inductive Contains : BoltValue → Header → Prop where
  | string (data : List UInt8) : Contains (.string data) (.sized data.length)
  | bytes (data : List UInt8) : Contains (.bytes data) (.sized data.length)
  | list (elements : List BoltValue) : Contains (.list elements) (.sized elements.length)
  | element {elements : List BoltValue} {v : BoltValue} {header : Header} (hv : v ∈ elements)
      (h : Contains v header) : Contains (.list elements) header
  | dictionary (entries : List (BoltValue × BoltValue)) :
      Contains (.dictionary entries) (.sized entries.length)
  | key {entries : List (BoltValue × BoltValue)} {e : BoltValue × BoltValue} {header : Header}
      (he : e ∈ entries) (h : Contains e.1 header) : Contains (.dictionary entries) header
  | value {entries : List (BoltValue × BoltValue)} {e : BoltValue × BoltValue} {header : Header}
      (he : e ∈ entries) (h : Contains e.2 header) : Contains (.dictionary entries) header
  | struct (code : Int16) (fields : List BoltValue) :
      Contains (.struct code fields) (.fields code fields.length)
  | field {code : Int16} {fields : List BoltValue} {v : BoltValue} {header : Header}
      (hv : v ∈ fields) (h : Contains v header) : Contains (.struct code fields) header
  | negativeString (n : Nat) : Contains (.negative .string n) (.sized (-(n + 1 : Nat)))
  | negativeBytes (n : Nat) : Contains (.negative .bytes n) (.sized (-(n + 1 : Nat)))
  | negativeStruct (code : Int16) (n : Nat) :
      Contains (.negative (.struct code) n) (.fields code (-(n + 1 : Nat)))

/-- The encoder does not refuse the header. -/
def Header.Passes (check : CheckStructSignature) : Header → Prop
  | fields code size => check code ∧ 0 ≤ code.toInt ∧ TinySize size
  | sized size => 0 ≤ size

/-- The format has the header: the code is accepted and below 128, and there are at most 15
fields. -/
def Header.Fits (check : CheckStructSignature) : Header → Prop
  | fields code size => check code ∧ (0 ≤ code.toInt ∧ code.toInt < 0x80) ∧ 0 ≤ size ∧ size < 0x10
  | sized size => 0 ≤ size

variable {check : CheckStructSignature}

/-- A number of fields that the format has survives the cast. -/
theorem tinySize_of_lt {size : Int} (hlow : 0 ≤ size) (hhigh : size < 0x10) : TinySize size := by
  have hcast : toInt8 size = size := Int.bmod_eq_of_le (by omega) (by omega)
  rw [TinySize, hcast]
  exact ⟨hlow, hhigh⟩

theorem Header.Fits.passes {header : Header} (h : header.Fits check) : header.Passes check := by
  cases header with
  | fields code size => exact ⟨h.1, h.2.1.1, tinySize_of_lt h.2.2.1 h.2.2.2⟩
  | sized size => exact h

/-- The encoder can represent the value. -/
def Representable (check : CheckStructSignature) (v : BoltValue) : Prop :=
  ∀ header, Contains v header → header.Fits check

section Contains

variable {p : Header → Prop}

theorem forall_contains_list {elements : List BoltValue} :
    (∀ header, Contains (.list elements) header → p header) ↔
      p (.sized elements.length) ∧ ∀ v ∈ elements, ∀ header, Contains v header → p header := by
  constructor
  · exact fun h => ⟨h _ (.list elements), fun v hv header hc => h header (.element hv hc)⟩
  · rintro ⟨hsize, hall⟩ header hc
    cases hc with
    | list => exact hsize
    | element hv hc => exact hall _ hv header hc

theorem forall_contains_dictionary {entries : List (BoltValue × BoltValue)} :
    (∀ header, Contains (.dictionary entries) header → p header) ↔
      p (.sized entries.length) ∧ (∀ e ∈ entries, ∀ header, Contains e.1 header → p header) ∧
        ∀ e ∈ entries, ∀ header, Contains e.2 header → p header := by
  constructor
  · exact fun h => ⟨h _ (.dictionary entries), fun e he header hc => h header (.key he hc),
      fun e he header hc => h header (.value he hc)⟩
  · rintro ⟨hsize, hkeys, hvalues⟩ header hc
    cases hc with
    | dictionary => exact hsize
    | key he hc => exact hkeys _ he header hc
    | value he hc => exact hvalues _ he header hc

theorem forall_contains_struct {code : Int16} {fields : List BoltValue} :
    (∀ header, Contains (.struct code fields) header → p header) ↔
      p (.fields code fields.length) ∧ ∀ v ∈ fields, ∀ header, Contains v header → p header := by
  constructor
  · exact fun h => ⟨h _ (.struct code fields), fun v hv header hc => h header (.field hv hc)⟩
  · rintro ⟨hsize, hall⟩ header hc
    cases hc with
    | struct => exact hsize
    | field hv hc => exact hall _ hv header hc

theorem forall_contains_string {data : List UInt8} :
    (∀ header, Contains (.string data) header → p header) ↔ p (.sized data.length) := by
  constructor
  · exact fun h => h _ (.string data)
  · intro hsize header hc
    cases hc
    exact hsize

end Contains

/-! ## The encoder -/

/-- The encoder accepts a value if it refuses none of its headers. -/
def Accepted (check : CheckStructSignature) (v : BoltValue) : Prop :=
  ∀ header, Contains v header → header.Passes check

/-- A key is accepted as a value is. -/
theorem settles_key_headers {key : BoltValue} (hkey : key.type = .string) :
    Settles (fun buffer => loadKey buffer key) (Accepted check key) := by
  refine (settles_key hkey).congr ?_
  cases key with
  | string data =>
    refine iff_of_true ⟨data, rfl⟩ (forall_contains_string.mpr ?_)
    exact Int.natCast_nonneg _
  | negative type n =>
    cases type with
    | string =>
      refine iff_of_false nofun fun h => ?_
      have hsize : (0 : Int) ≤ -(n + 1 : Nat) := h _ (.negativeString n)
      omega
    | bytes => cases hkey
    | struct code => cases hkey
  | _ => cases hkey

/-- The encoder accepts exactly the values of which it refuses no header. -/
theorem settles_headers (v : BoltValue) : Regular v → Settles (load check v) (Accepted check v) := by
  have hplain : ∀ {v : BoltValue}, (∀ header, ¬Contains v header) → (True ↔ Accepted check v) :=
    fun hnone => iff_of_true trivial fun header hc => absurd hc (hnone header)
  induction v using BoltValue.ind with
  | null => exact fun _ => (Settles.load _).congr (hplain nofun)
  | boolean data => exact fun _ => (Settles.load _).congr (hplain nofun)
  | integer data => exact fun _ => (settles_integer _).congr (hplain nofun)
  | float data =>
    intro _
    have hload := Settles.load_load [0xC1] (beBytes 8 (ByteOrder.unsigned 8 data.toNat))
    exact hload.congr (hplain nofun)
  | string data =>
    have hsize := @forall_contains_string (Header.Passes check) data
    exact fun _ => (settles_chars stringMarkers data data.length).congr hsize.symm
  | bytes data =>
    refine fun _ => (settles_chars bytesMarkers data data.length).congr
      ⟨fun hsize header hc => ?_, fun h => h _ (.bytes data)⟩
    cases hc
    exact hsize
  | dictionary entries ih =>
    intro hregular
    cases hregular with
    | dictionary _ _ hstrings _ hvalues =>
      have hentries := settles_entries (p := Accepted check) entries
        (fun e he => settles_key_headers (hstrings e he))
        fun e he => (ih e he).2 (hvalues e he)
      exact ((settles_sizeHeader mapMarkers entries.length).TRY hentries).congr
        (forall_contains_dictionary (p := Header.Passes check)).symm
  | list elements ih =>
    intro hregular
    cases hregular with
    | list _ _ helements =>
      have hloop := settles_elements elements fun v hv => ih v hv (helements v hv)
      exact ((settles_sizeHeader listMarkers elements.length).TRY hloop).congr
        (forall_contains_list (p := Header.Passes check)).symm
  | struct code fields ih =>
    intro hregular
    cases hregular with
    | struct _ _ _ hfields =>
      have hloop := settles_elements fields fun v hv => ih v hv (hfields v hv)
      have hheader := settles_structureHeader code fields.length
      refine ((hheader.TRY hloop).checked (check code)).congr ?_
      rw [Accepted, forall_contains_struct, ← and_assoc]
      rfl
  | negative type n =>
    intro _
    cases type with
    | string =>
      refine (settles_chars stringMarkers [] (-(n + 1 : Nat))).congr
        ⟨fun hsize header hc => ?_, fun h => h _ (.negativeString n)⟩
      cases hc
      exact hsize
    | bytes =>
      refine (settles_chars bytesMarkers [] (-(n + 1 : Nat))).congr
        ⟨fun hsize header hc => ?_, fun h => h _ (.negativeBytes n)⟩
      cases hc
      exact hsize
    | struct code =>
      have hheader := settles_structureHeader code (-(n + 1 : Nat))
      refine (hheader.checked (check code)).congr
        ⟨fun hpasses header hc => ?_, fun h => h _ (.negativeStruct code n)⟩
      cases hc
      exact hpasses

/-! ## What is represented -/

/-- A value with headers of the format only is in the grammar. -/
theorem encodable_of_representable {v : BoltValue} (h : Regular v) :
    Representable check v → Encodable check v := by
  have hnegative : ∀ n : Nat, ¬(0 : Int) ≤ -(n + 1 : Nat) := fun n => by omega
  induction h with
  | null => exact fun _ => .null
  | boolean data => exact fun _ => .boolean data
  | integer data => exact fun _ => .integer data
  | float data => exact fun _ => .float data
  | string data hsize => exact fun _ => .string data hsize
  | bytes data hsize => exact fun _ => .bytes data hsize
  | list elements hsize _ ih =>
    intro hfits
    have hall := (forall_contains_list.mp hfits).2
    exact .list elements hsize fun v hv => ih v hv (hall v hv)
  | dictionary entries hsize hstrings _ _ ihkeys ihvalues =>
    intro hfits
    obtain ⟨-, hkeys, hvalues⟩ := forall_contains_dictionary.mp hfits
    refine .dictionary entries hsize (fun e he => ?_) fun e he => ihvalues e he (hvalues e he)
    have hkey := ihkeys e he (hkeys e he)
    have htype := hstrings e he
    generalize e.1 = key at hkey htype
    cases hkey with
    | string data hsize => exact ⟨data, rfl, hsize⟩
    | _ => cases htype
  | struct code fields _ _ ih =>
    intro hfits
    obtain ⟨⟨hcheck, hcode, -, hsize⟩, hall⟩ := forall_contains_struct.mp hfits
    exact .struct code fields hcode hcheck (by exact_mod_cast hsize)
      fun v hv => ih v hv (hall v hv)
  | negative type n =>
    intro hfits
    cases type with
    | string => exact absurd (hfits _ (.negativeString n)) (hnegative n)
    | bytes => exact absurd (hfits _ (.negativeBytes n)) (hnegative n)
    | struct code => exact absurd (hfits _ (.negativeStruct code n)).2.2.1 (hnegative n)

/-- The loader accepts the value if the encoder can represent it, and what it appends is in the
grammar, where a header announces what follows it. -/
structure EncodesExactly (check : CheckStructSignature)
    (loader : BoltBuffer → Outcome BoltBuffer) (v : BoltValue) : Prop where
  accepts : ∀ buffer : BoltBuffer, buffer.Wf →
    ((∃ buffer', loader buffer = some (BOLT_SUCCESS, buffer')) ↔ Representable check v)
  announces : ∀ buffer buffer' : BoltBuffer, buffer.Wf →
    loader buffer = some (BOLT_SUCCESS, buffer') →
      ∃ bytes, buffer'.content = buffer.content ++ bytes ∧ Encodes check v.canon bytes

/-- No header is misread, or another one is refused. -/
def Judged (check : CheckStructSignature) (v : BoltValue) : Prop :=
  (∀ header, Contains v header → header.Passes check → header.Fits check) ∨
    ∃ header, Contains v header ∧ ¬header.Passes check

theorem encodesExactly_load {v : BoltValue} (hregular : Regular v) :
    EncodesExactly check (load check v) v ↔ Judged check v := by
  have hsettles : Settles (load check v) (Accepted check v) := settles_headers v hregular
  constructor
  · intro h
    by_contra hmisread
    rw [Judged, not_or, not_exists] at hmisread
    have haccepted : Accepted check v := fun header hc => by
      by_contra hpasses
      exact hmisread.2 header ⟨hc, hpasses⟩
    obtain ⟨status, buffer', hload, -, hstatus⟩ := hsettles (.create 0) (BoltBuffer.wf_create 0)
    obtain rfl := hstatus.mpr haccepted
    have hfits := (h.accepts (.create 0) (BoltBuffer.wf_create 0)).mp ⟨buffer', hload⟩
    exact hmisread.1 fun header hc _ => hfits header hc
  · intro h
    have hrepresentable : Accepted check v → Representable check v := by
      intro haccepted
      rcases h with hread | ⟨header, hc, hrefused⟩
      · exact fun header hc => hread header hc (haccepted header hc)
      · exact absurd (haccepted header hc) hrefused
    refine ⟨fun buffer hwf => ?_, fun buffer buffer' hwf hload => ?_⟩
    · obtain ⟨status, buffer', hload, -, hstatus⟩ := hsettles buffer hwf
      constructor
      · rintro ⟨buffer'', hsuccess⟩
        cases hload.symm.trans hsuccess
        exact hrepresentable (hstatus.mp rfl)
      · intro hfits
        obtain rfl := hstatus.mpr fun header hc => (hfits header hc).passes
        exact ⟨buffer', hload⟩
    · obtain ⟨status, buffer1, hload1, -, hstatus⟩ := hsettles buffer hwf
      cases hload.symm.trans hload1
      have hencodable := encodable_of_representable hregular (hrepresentable (hstatus.mp rfl))
      obtain ⟨bytes, hencodes, hloads⟩ := loads_of_encodable hencodable
      obtain ⟨buffer2, hload2, -, hcontent⟩ := hloads buffer hwf
      cases hload.symm.trans hload2
      exact ⟨bytes, hcontent, hencodes⟩

/-- The encoder accepts exactly what it can represent where it misreads no header, and so does
`write_message`, as long as the buffer stays below 2^31 bytes. -/
theorem encodesExactly_iff (check : CheckStructSignature) :
    (∀ v, Regular v → (EncodesExactly check (load check v) v ↔ Judged check v)) ∧
      ∀ message : BoltMessage, Regular (.struct message.code message.fields) →
        (EncodesExactly check (writeMessage message check) (.struct message.code message.fields) ↔
          Judged check (.struct message.code message.fields)) := by
  refine ⟨fun v hregular => encodesExactly_load hregular, fun message hregular => ?_⟩
  rw [funext (writeMessage_eq_load message check)]
  exact encodesExactly_load hregular

/-- A Point and a RESET. -/
theorem encodesExactly_point :
    let check := ProtocolVersion.v3.checkWritableStruct
    let point := BoltValue.struct BOLT_V2_POINT_2D [.integer 1, .float 0, .float 0]
    (EncodesExactly check (load check point) point ↔ Judged check point) ∧
      (EncodesExactly check (writeMessage ⟨BOLT_V3_RESET, []⟩ check) (.struct BOLT_V3_RESET []) ↔
        Judged check (.struct BOLT_V3_RESET [])) := by
  have hpoint : Regular (.struct BOLT_V2_POINT_2D [.integer 1, .float 0, .float 0]) := by
    refine .struct _ _ (by decide) ?_
    simp only [List.forall_mem_cons, List.not_mem_nil, false_imp_iff, implies_true, and_true]
    exact ⟨.integer 1, .float 0, .float 0⟩
  have hreset : Regular (.struct BOLT_V3_RESET []) := .struct _ [] (by decide) nofun
  exact ⟨(encodesExactly_iff _).1 _ hpoint, (encodesExactly_iff _).2 ⟨BOLT_V3_RESET, []⟩ hreset⟩

/-- A Point with 256 fields is written as one without fields. -/
theorem load_misreads_size :
    let check := ProtocolVersion.v3.checkWritableStruct
    let v := BoltValue.struct BOLT_V2_POINT_2D (List.replicate 256 .null)
    Regular v ∧ ¬EncodesExactly check (load check v) v := by
  intro check v
  have hlength : (List.replicate 256 BoltValue.null).length = 256 := List.length_replicate
  have hregular : Regular v :=
    .struct _ _ (by rw [hlength]; decide) fun w hw => by
      rw [List.eq_of_mem_replicate hw]
      exact .null
  refine ⟨hregular, fun h => ?_⟩
  have hpasses : Accepted check v := by
    refine forall_contains_struct.mpr ⟨⟨by decide, by decide, ?_⟩, fun w hw header hc => ?_⟩
    · rw [hlength]
      exact ⟨by decide, by decide⟩
    · rw [List.eq_of_mem_replicate hw] at hc
      cases hc
  obtain ⟨status, buffer', hload, -, hstatus⟩ :=
    settles_headers v hregular (.create 0) (BoltBuffer.wf_create 0)
  obtain rfl := hstatus.mpr hpasses
  have hfits := (h.accepts (.create 0) (BoltBuffer.wf_create 0)).mp ⟨buffer', hload⟩
  have hsize := (hfits _ (.struct _ _)).2.2.2
  rw [hlength] at hsize
  exact absurd hsize (by decide)

end PackStream

end Seabolt
