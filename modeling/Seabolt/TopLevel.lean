import Seabolt.PackStream.Decoded
import Seabolt.PackStream.Truncation
import Seabolt.Isolation

/-!
# Structures at top level

A message is a Structure, but it is not decoded by `unload_structure`: the
functions `BoltProtocolV1_unload` and `BoltProtocolV3_unload` read its marker and
its code themselves, and then its fields.

The two decoders agree on the headers that both understand.  They differ on the
fields, since only one of them looks at the status of a field; on the markers DC
and DD, which `marker_type` takes for those of a Structure; and where the payload
ends before the fields.
-/

namespace Seabolt

open BoltValue

namespace PackStream

variable {check : CheckStructSignature}

/-! ## The destination -/

/-- The outcomes differ at most in what a failed call has left in its destination. -/
inductive SameOutcome {α : Type} : Outcome (Decoder × α) → Outcome (Decoder × α) → Prop where
  | none : SameOutcome none none
  | success (d : Decoder) (v : α) : SameOutcome (some (BOLT_SUCCESS, d, v)) (some (BOLT_SUCCESS, d, v))
  | failure {status : Int} (hstatus : status ≠ BOLT_SUCCESS) (d : Decoder) (v v' : α) :
      SameOutcome (some (status, d, v)) (some (status, d, v'))

namespace SameOutcome

variable {α β : Type}

theorem refl (outcome : Outcome (Decoder × α)) : SameOutcome outcome outcome := by
  rcases outcome with _ | ⟨status, d, v⟩
  · exact .none
  · by_cases hstatus : status = BOLT_SUCCESS
    · subst hstatus
      exact .success d v
    · exact .failure hstatus d v v

theorem map {r r' : Outcome (Decoder × α)} (h : SameOutcome r r') (build : α → β) :
    SameOutcome (r.map fun (status, d, v) => (status, d, build v))
      (r'.map fun (status, d, v) => (status, d, build v)) := by
  cases h with
  | none => exact .none
  | success d v => exact .success d (build v)
  | failure hstatus d v v' => exact .failure hstatus d (build v) (build v')

end SameOutcome

/-- The unloader does not depend on its destination. -/
def Indifferent (unloadValue : Decoder → BoltValue → Unloaded) : Prop :=
  ∀ d dest dest', SameOutcome (unloadValue d dest) (unloadValue d dest')

section Loops

variable {unloadValue : Decoder → BoltValue → Unloaded}

theorem Indifferent.unloadElements (h : Indifferent unloadValue) (vs : List BoltValue) :
    ∀ {vs' : List BoltValue} (d : Decoder), vs.length = vs'.length →
      SameOutcome (unloadElements unloadValue d vs) (unloadElements unloadValue d vs') := by
  induction vs with
  | nil =>
    intro vs' d hlength
    obtain rfl := List.eq_nil_of_length_eq_zero hlength.symm
    exact .refl _
  | cons v vs ih =>
    rintro (_ | ⟨v', vs'⟩) d hlength
    · cases hlength
    simp only [PackStream.unloadElements]
    generalize hr : unloadValue d v = r
    generalize hr' : unloadValue d v' = r'
    have hfirst := h d v v'
    rw [hr, hr'] at hfirst
    cases hfirst with
    | none => exact .none
    | success d1 w =>
      have hrest := ih d1 (Nat.succ.inj hlength)
      simpa only [if_true] using hrest.map (List.cons w)
    | failure hstatus d1 w w' =>
      simp only [hstatus, if_false]
      exact .failure hstatus d1 _ _

theorem indifferent_chars (markers : SizeMarkers) (format : List UInt8 → BoltValue) (d : Decoder)
    (dest dest' : BoltValue) :
    SameOutcome (match unloadSize markers d with
      | (some n, d) => unloadChars format n d
      | (none, d) => some (BOLT_PROTOCOL_UNEXPECTED_MARKER, d, dest))
    (match unloadSize markers d with
      | (some n, d) => unloadChars format n d
      | (none, d) => some (BOLT_PROTOCOL_UNEXPECTED_MARKER, d, dest')) := by
  rcases unloadSize markers d with ⟨_ | n, d1⟩
  · exact .failure (by decide) d1 dest dest'
  · exact .refl _

theorem Indifferent.unloadType (h : Indifferent unloadValue) (type : PackStreamType) (d : Decoder)
    (dest dest' : BoltValue) :
    SameOutcome (unloadType unloadValue check type d dest)
      (unloadType unloadValue check type d dest') := by
  cases type with
  | null =>
    simp only [PackStream.unloadType, unloadNull]
    split_ifs
    · exact .success _ _
    · exact .failure (by decide) _ _ _
  | boolean =>
    simp only [PackStream.unloadType, unloadBoolean]
    split_ifs
    · exact .success _ _
    · exact .success _ _
    · exact .failure (by decide) _ _ _
  | integer =>
    simp only [PackStream.unloadType, unloadInteger]
    split_ifs
    · exact .success _ _
    · exact .success _ _
    · exact .refl _
    · exact .refl _
    · exact .refl _
    · exact .refl _
    · exact .failure (by decide) _ _ _
  | float =>
    simp only [PackStream.unloadType, unloadFloat]
    split_ifs
    · exact .success _ _
    · exact .failure (by decide) _ _ _
  | string => exact indifferent_chars stringMarkers string d dest dest'
  | bytes => exact indifferent_chars bytesMarkers bytes d dest dest'
  | list =>
    simp only [PackStream.unloadType, unloadList]
    rcases unloadSize listMarkers d with ⟨_ | n, d1⟩
    · exact .failure (by decide) d1 dest dest'
    · dsimp only
      split_ifs
      · exact .failure (by decide) d1 dest dest'
      · exact (h.unloadElements _ d1 (by simp only [length_listElements])).map list
  | map =>
    simp only [PackStream.unloadType, unloadMap, unloadEntries_eq, Option.map_map]
    rcases unloadSize mapMarkers d with ⟨_ | n, d1⟩
    · exact .failure (by decide) d1 dest dest'
    · dsimp only
      split_ifs
      · exact .failure (by decide) d1 dest dest'
      · have hlength : (entryValues (dest.dictionaryEntries n.toNat)).length =
            (entryValues (dest'.dictionaryEntries n.toNat)).length := by
          simp only [length_entryValues, length_dictionaryEntries]
        exact (h.unloadElements _ d1 hlength).map fun vs => dictionary (valueEntries vs)
  | struct =>
    simp only [PackStream.unloadType, unloadStructure]
    split_ifs
    · exact .refl _
    · exact .failure (by decide) _ _ _
    · exact .failure (by decide) _ _ _
  | reserved => exact .failure (by decide) d dest dest'

end Loops

theorem unloadAux_indifferent (fuel : Nat) : Indifferent (unloadAux check fuel) := by
  induction fuel with
  | zero => exact fun _ _ _ => .none
  | succ fuel ih => exact fun d dest dest' => ih.unloadType _ _ dest dest'

/-- What the destination holds has no influence on a call that succeeds. -/
theorem unload_indifferent : Indifferent (unload check) :=
  fun d => unloadAux_indifferent d.fuel d

/-! ## The fields -/

/-- The call is made for one of `n` fields. -/
def FieldCall (check : CheckStructSignature) (d : Decoder) (n : Nat) (site : Site) : Prop :=
  ∃ index, LoopCall check false d (List.replicate n null) index site

/-- A field, or something in it, is a String or Bytes value of negative size. -/
def FatalField (check : CheckStructSignature) (d : Decoder) (n : Nat) : Prop :=
  ∃ site site', FieldCall check d n site ∧ Reaches check site site' ∧ site'.Fatal check

/-- A header in a field, outside the Structures that are nested in it, is refused. -/
def RefusedField (check : CheckStructSignature) (d : Decoder) (n : Nat) : Prop :=
  ∃ site site' status,
    FieldCall check d n site ∧ ReachesOutside check site site' ∧ site'.Refused check status

/-- Every call for a field succeeds. -/
def FieldsSucceed (check : CheckStructSignature) (d : Decoder) (n : Nat) : Prop :=
  ∀ site, FieldCall check d n site → ∃ result, site.outcome check = some (BOLT_SUCCESS, result)

/-- The loop of a message succeeds where that of a Structure returns and all its calls succeed. -/
theorem unloadElements_success_iff (vs : List BoltValue) : ∀ {d d' : Decoder} {vs'},
    unloadElements (unload check) d vs = some (BOLT_SUCCESS, d', vs') ↔
      unloadFields (unload check) d (List.replicate vs.length null) = some (d', vs') ∧
        FieldsSucceed check d vs.length := by
  induction vs with
  | nil =>
    intro d d' vs'
    constructor
    · intro h
      cases h
      refine ⟨rfl, ?_⟩
      rintro site ⟨index, hcall⟩
      cases hcall
    · rintro ⟨h, -⟩
      cases h
      rfl
  | cons v vs ih =>
    intro d d' vs'
    simp only [List.length_cons, List.replicate_succ, unloadElements, unloadFields]
    generalize hdirty : unload check d v = r
    generalize hfresh : unload check d null = r'
    have hfirst : SameOutcome (unload check d v) (unload check d null) := unload_indifferent d v null
    rw [hdirty, hfresh] at hfirst
    cases hfirst with
    | none => exact iff_of_false (by simp) fun h => absurd h.1 (by simp)
    | success d1 w =>
      have hcalls : FieldsSucceed check d (vs.length + 1) ↔ FieldsSucceed check d1 vs.length := by
        constructor
        · rintro h site ⟨index, hcall⟩
          exact h site ⟨index + 1, .there hfresh (by simp) hcall⟩
        · rintro h site ⟨index, hcall⟩
          cases hcall with
          | here => exact ⟨_, hfresh⟩
          | there hcall' _ hrest =>
            cases hfresh.symm.trans hcall'
            exact h site ⟨_, hrest⟩
      rw [hcalls]
      simp only [if_true, Option.map_eq_some_iff, Prod.mk.injEq, Prod.exists]
      constructor
      · rintro ⟨status, d2, ws, hrest, rfl, rfl, rfl⟩
        obtain ⟨hfields, hall⟩ := ih.mp hrest
        exact ⟨⟨d2, ws, hfields, rfl, rfl⟩, hall⟩
      · rintro ⟨⟨d2, ws, hfields, rfl, rfl⟩, hall⟩
        exact ⟨BOLT_SUCCESS, d2, ws, ih.mpr ⟨hfields, hall⟩, rfl, rfl, rfl⟩
    | failure hstatus d1 w w' =>
      simp only [hstatus, if_false]
      refine iff_of_false (fun h => ?_) fun h => ?_
      · cases h
        exact hstatus rfl
      · obtain ⟨result, houtcome⟩ := h.2 (d, null) ⟨0, .here⟩
        cases hfresh.symm.trans houtcome
        exact hstatus rfl

theorem unloadFields_eq_none_iff_fatal (d : Decoder) (n : Nat) :
    unloadFields (unload check) d (List.replicate n null) = none ↔ FatalField check d n := by
  rw [unloadFields_eq_none_iff]
  constructor
  · rintro ⟨index, site, hcall, hnone⟩
    obtain ⟨site', hreaches, hfatal⟩ := (outcome_eq_none_iff site).mp hnone
    exact ⟨site, site', ⟨index, hcall⟩, hreaches, hfatal⟩
  · rintro ⟨site, site', ⟨index, hcall⟩, hreaches, hfatal⟩
    exact ⟨index, site, hcall, (outcome_eq_none_iff site).mpr ⟨site', hreaches, hfatal⟩⟩

/-- If the loop of a Structure returns, that of a message succeeds unless the header of a field
is refused. -/
theorem unloadElements_success_iff_refused {d d' : Decoder} {vs vs' : List BoltValue}
    (hfields : unloadFields (unload check) d (List.replicate vs.length null) = some (d', vs')) :
    unloadElements (unload check) d vs = some (BOLT_SUCCESS, d', vs') ↔
      ¬RefusedField check d vs.length := by
  rw [unloadElements_success_iff, and_iff_right hfields]
  constructor
  · rintro hall ⟨site, site', status, hcall, houtside, hrefused⟩
    obtain ⟨hfailed, result, houtcome⟩ := (fails_iff site status).mpr ⟨site', houtside, hrefused⟩
    obtain ⟨result', hsuccess⟩ := hall site hcall
    cases houtcome.symm.trans hsuccess
    exact hfailed rfl
  · rintro hnone site ⟨index, hcall⟩
    rcases houtcome : site.outcome check with _ | ⟨status, result⟩
    · have := (unloadFields_eq_none_iff _ d).mpr ⟨index, site, hcall, houtcome⟩
      exact absurd (hfields.symm.trans this) nofun
    · by_cases hstatus : status = BOLT_SUCCESS
      · exact ⟨result, by rw [hstatus]⟩
      · obtain ⟨site', houtside, hrefused⟩ := (fails_iff site status).mp ⟨hstatus, result, houtcome⟩
        exact absurd ⟨site, site', status, ⟨index, hcall⟩, houtside, hrefused⟩ hnone

end PackStream

/-! ## The header -/

open PackStream

/-- The markers that `unload_structure` understands. -/
def StructureMarker (marker : UInt8) : Prop := 0xB0 ≤ marker.toNat ∧ marker.toNat ≤ 0xBF

instance (marker : UInt8) : Decidable (StructureMarker marker) :=
  inferInstanceAs (Decidable (_ ∧ _))

/-- The buffer behind a marker and a code. -/
def BoltBuffer.behindHeader (b : BoltBuffer) : BoltBuffer := { b with cursor := b.cursor + 2 }

variable {check : CheckStructSignature} {marker code : UInt8} {rest : List UInt8}

/-- Reading the first byte moves the cursor by one. -/
theorem BoltBuffer.unloadBe_first {b : BoltBuffer} (hwf : b.Wf) (hcontent : b.content = marker :: rest) :
    b.unloadBe 1 = some (marker.toNat, { b with cursor := b.cursor + 1 }) ∧
      ({ b with cursor := b.cursor + 1 } : BoltBuffer).Wf ∧
      ({ b with cursor := b.cursor + 1 } : BoltBuffer).content = rest := by
  have hfront : b.content = [marker] ++ rest := hcontent
  refine ⟨?_, hwf.advance hfront⟩
  simpa [beValue, memcpyBe, ByteOrder.leValue] using unloadBe_of_content hwf hfront

theorem BoltBuffer.unloadable_pos {b : BoltBuffer} (hwf : b.Wf)
    (hcontent : b.content = marker :: rest) : b.unloadable ≠ 0 := by
  rw [← hwf.length_content, hcontent]
  exact Nat.succ_ne_zero _

/-- What becomes of a message behind its header. -/
theorem unloadMessage_header {state : BoltProtocolState} {garbage : List UInt8}
    (hwf : state.rx_buffer.Wf) (hcontent : state.rx_buffer.content = marker :: code :: rest)
    (hmarker : markerType marker.toNat = .struct) :
    unloadMessage check state garbage =
      (unloadElements (unload check) ⟨state.rx_buffer.behindHeader, garbage⟩
        (state.data.listElements (marker.toNat &&& 0x0F))).map fun (status, d, elements) =>
          let state := { state with
            rx_buffer := d.buffer, data_type := Int16.ofNat code.toNat, data := .list elements }
          if status = BOLT_SUCCESS then (BOLT_SUCCESS, countRecord state, d.garbage)
          else (status, state, d.garbage) := by
  obtain ⟨hread1, hwf1, hcontent1⟩ := BoltBuffer.unloadBe_first hwf hcontent
  obtain ⟨hread2, -, -⟩ := BoltBuffer.unloadBe_first hwf1 hcontent1
  simp only [unloadMessage, BoltBuffer.unloadable_pos hwf hcontent, if_false, BoltBuffer.unloadU8,
    hread1, hmarker, ne_eq, not_true_eq_false, hread2, BoltBuffer.behindHeader, Nat.add_assoc]

/-- What becomes of a Structure behind its header. -/
theorem unload_header {buffer : BoltBuffer} {garbage : List UInt8} {dest : BoltValue}
    (hwf : buffer.Wf) (hcontent : buffer.content = marker :: code :: rest)
    (hmarker : StructureMarker marker) :
    unload check ⟨buffer, garbage⟩ dest =
      if check (structureCode code) then
        (unloadFields (unload check) ⟨buffer.behindHeader, garbage⟩
          (List.replicate (marker.toNat &&& 0x0F) null)).map
            fun (d, fields) => (BOLT_SUCCESS, d, struct (structureCode code) fields)
      else some (BOLT_PROTOCOL_UNEXPECTED_MARKER, ⟨buffer.behindHeader, garbage⟩, dest) := by
  obtain ⟨hread1, hwf1, hcontent1⟩ := BoltBuffer.unloadBe_first hwf hcontent
  obtain ⟨hread2, -, -⟩ := BoltBuffer.unloadBe_first hwf1 hcontent1
  have hpeek := BoltBuffer.peekU8_of_content hwf hcontent
  rw [unload_run]
  simp only [opened, Decoder.peek, hpeek, markerType_struct hmarker, openedType, openedStructure,
    Decoder.unsigned, hread1, Decoder.signed, hread2]
  have hrange : 0xB0 ≤ marker.toNat ∧ marker.toNat ≤ 0xBF := hmarker
  simp only [hrange, and_self, if_true]
  by_cases hcheck : check (structureCode code)
  · have hcode := hcheck
    rw [structureCode] at hcode
    simp only [hcode, if_true, Opened.run, BoltBuffer.behindHeader, Nat.add_assoc, structureCode]
  · have hcode := hcheck
    rw [structureCode] at hcode
    simp only [hcheck, hcode, if_false, Opened.run, BoltBuffer.behindHeader, Nat.add_assoc,
      Bool.false_eq_true]

/-! ## Both decoders -/

/-- `BoltProtocolV1_unload` or `BoltProtocolV3_unload` succeeds with the code and the fields, and
takes `n` bytes. -/
def UnloadsMessage (version : ProtocolVersion) (state : BoltProtocolState) (garbage : List UInt8)
    (c : Int16) (fields : List BoltValue) (n : Nat) : Prop :=
  ∃ state' garbage', version.fetchFunctions.unload version.checkReadableStruct state garbage =
      some (BOLT_SUCCESS, state', garbage') ∧
    state'.data_type = c ∧ state'.data = .list fields ∧
    state.rx_buffer.unloadable = n + state'.rx_buffer.unloadable

/-- `unload` succeeds with the structure, and takes `n` bytes. -/
def UnloadsStructure (version : ProtocolVersion) (d : Decoder) (dest : BoltValue) (c : Int16)
    (fields : List BoltValue) (n : Nat) : Prop :=
  ∃ d', unload version.checkReadableStruct d dest = some (BOLT_SUCCESS, d', .struct c fields) ∧
    d.buffer.unloadable = n + d'.buffer.unloadable

/-- The payload is decoded alike, whatever buffer it is in and whatever was decoded before; and if
it starts with no marker of a Structure, both decoders reject it. -/
structure DecodedAlike (version : ProtocolVersion) (c : Int16) (payload : List UInt8) : Prop where
  same : ∀ (state : BoltProtocolState) garbage dest, state.rx_buffer.Wf →
    state.rx_buffer.content = payload → ∀ fields n,
      UnloadsMessage version state garbage c fields n ↔
        UnloadsStructure version ⟨state.rx_buffer, garbage⟩ dest c fields n
  rejected : ∀ marker rest, payload = marker :: rest → ¬StructureMarker marker →
    ∀ (state : BoltProtocolState) garbage dest, state.rx_buffer.Wf →
      state.rx_buffer.content = payload →
      (∀ result, version.fetchFunctions.unload version.checkReadableStruct state garbage ≠
        some (BOLT_SUCCESS, result)) ∧
      (∀ result, unloadStructure (unload version.checkReadableStruct) version.checkReadableStruct
        ⟨state.rx_buffer, garbage⟩ dest ≠ some (BOLT_SUCCESS, result)) ∧
      ∀ code fields n, ¬UnloadsStructure version ⟨state.rx_buffer, garbage⟩ dest code fields n

/-- The payload goes on behind its marker.  If the marker and the code announce the structure, no
field is refused; and if only `marker_type` takes the marker for that of a Structure, one is.  A
String or Bytes value of negative size makes no difference. -/
def ReadAlike (version : ProtocolVersion) (c : Int16) : List UInt8 → Prop
  | [] => False
  | [marker] => ¬StructureMarker marker
  | marker :: code :: rest =>
    ∀ (buffer : BoltBuffer) (garbage : List UInt8), buffer.Wf →
      buffer.content = marker :: code :: rest →
      FatalField version.checkReadableStruct ⟨buffer.behindHeader, garbage⟩
        (marker.toNat &&& 0x0F) ∨
      (StructureMarker marker → (code.toNat : Int) = c.toInt →
        ¬RefusedField version.checkReadableStruct ⟨buffer.behindHeader, garbage⟩
          (marker.toNat &&& 0x0F)) ∧
      (¬StructureMarker marker → markerType marker.toNat = .struct →
        RefusedField version.checkReadableStruct ⟨buffer.behindHeader, garbage⟩
          (marker.toNat &&& 0x0F))

section Codes

variable {c : Int16}

/-- Both readings of a code give an accepted code if it is that byte. -/
theorem ofNat_code_iff (code : UInt8) :
    Int16.ofNat code.toNat = c ↔ (code.toNat : Int) = c.toInt := by
  have hlt := code.toNat_lt
  have hread : (Int16.ofNat code.toNat).toInt = code.toNat := by
    rw [← Int16.ofInt_eq_ofNat]
    exact Int16.toInt_ofInt_of_le (by omega) (by omega)
  rw [← Int16.toInt_inj, hread]

theorem structureCode_iff (hc : 0 ≤ c.toInt ∧ c.toInt < 0x80) (code : UInt8) :
    structureCode code = c ↔ (code.toNat : Int) = c.toInt := by
  constructor
  · intro h
    have hsigned : ByteOrder.signed 1 code.toNat = c.toInt := by
      have hlow : -((256 ^ 1 : Nat) / 2 : Int) ≤ ByteOrder.signed 1 code.toNat :=
        Int.le_bmod (by norm_num)
      have hhigh : ByteOrder.signed 1 code.toNat < ((256 ^ 1 : Nat) + 1) / 2 :=
        Int.bmod_lt (by norm_num)
      norm_num at hlow hhigh
      rw [← h, structureCode, Int16.toInt_ofInt_of_le (by omega) (by omega)]
    have hmod : ByteOrder.signed 1 code.toNat % (256 ^ 1 : Nat) = code.toNat % (256 ^ 1 : Nat) :=
      Int.bmod_emod
    have hlt := code.toNat_lt
    rw [hsigned] at hmod
    omega
  · intro h
    rw [← structureCode_ofNat hc, ← h]
    simp

end Codes

section Pointwise

variable {version : ProtocolVersion} {c : Int16} {state : BoltProtocolState} {garbage : List UInt8}
  {dest : BoltValue}

theorem unloadsMessage_iff (hwf : state.rx_buffer.Wf)
    (hcontent : state.rx_buffer.content = marker :: code :: rest)
    (hmarker : markerType marker.toNat = .struct) {fields : List BoltValue} {n : Nat} :
    UnloadsMessage version state garbage c fields n ↔ (code.toNat : Int) = c.toInt ∧
      ∃ d', unloadElements (unload version.checkReadableStruct)
          ⟨state.rx_buffer.behindHeader, garbage⟩
          (state.data.listElements (marker.toNat &&& 0x0F)) = some (BOLT_SUCCESS, d', fields) ∧
        state.rx_buffer.unloadable = n + d'.buffer.unloadable := by
  rw [UnloadsMessage, version.unload_eq, unloadMessage_header hwf hcontent hmarker]
  constructor
  · rintro ⟨state', garbage', hunload, htype, hdata, hleft⟩
    obtain ⟨⟨status, d', elements⟩, hloop, hresult⟩ := Option.map_eq_some_iff.mp hunload
    by_cases hstatus : status = BOLT_SUCCESS
    · subst hstatus
      simp only [if_true, Prod.mk.injEq, true_and, countRecord_eq] at hresult
      obtain ⟨rfl, -⟩ := hresult
      obtain rfl := BoltValue.list.inj hdata
      exact ⟨(ofNat_code_iff code).mp htype, d', hloop, hleft⟩
    · simp only [hstatus, if_false, Prod.mk.injEq, false_and] at hresult
  · rintro ⟨hcode, d', hloop, hleft⟩
    refine ⟨_, _, Option.map_eq_some_iff.mpr ⟨_, hloop, if_pos rfl⟩, ?_⟩
    simp only [countRecord_eq]
    exact ⟨(ofNat_code_iff code).mpr hcode, trivial, hleft⟩

theorem unloadsStructure_iff {buffer : BoltBuffer} (hwf : buffer.Wf)
    (hcontent : buffer.content = marker :: code :: rest) (hmarker : StructureMarker marker)
    (hc : version.checkReadableStruct c) {fields : List BoltValue} {n : Nat} :
    UnloadsStructure version ⟨buffer, garbage⟩ dest c fields n ↔ (code.toNat : Int) = c.toInt ∧
      ∃ d', unloadFields (unload version.checkReadableStruct) ⟨buffer.behindHeader, garbage⟩
          (List.replicate (marker.toNat &&& 0x0F) null) = some (d', fields) ∧
        buffer.unloadable = n + d'.buffer.unloadable := by
  have hrange := version.checkReadableStruct_range hc
  rw [UnloadsStructure, unload_header hwf hcontent hmarker]
  constructor
  · rintro ⟨d', hunload, hleft⟩
    split_ifs at hunload
    · obtain ⟨⟨d1, vs⟩, hloop, hresult⟩ := Option.map_eq_some_iff.mp hunload
      simp only [Prod.mk.injEq, true_and, BoltValue.struct.injEq] at hresult
      obtain ⟨rfl, hcode, rfl⟩ := hresult
      exact ⟨(structureCode_iff hrange code).mp hcode, d1, hloop, hleft⟩
    · cases hunload
  · rintro ⟨hcode, d', hloop, hleft⟩
    obtain rfl := (structureCode_iff hrange code).mpr hcode
    exact ⟨d', by rw [if_pos hc, hloop]; rfl, hleft⟩

/-- With the code in the header, the decoders agree unless a field is refused. -/
theorem same_iff (hwf : state.rx_buffer.Wf)
    (hcontent : state.rx_buffer.content = marker :: code :: rest) (hmarker : StructureMarker marker)
    (hc : version.checkReadableStruct c) :
    (∀ fields n, UnloadsMessage version state garbage c fields n ↔
      UnloadsStructure version ⟨state.rx_buffer, garbage⟩ dest c fields n) ↔
      FatalField version.checkReadableStruct ⟨state.rx_buffer.behindHeader, garbage⟩
        (marker.toNat &&& 0x0F) ∨
      ((code.toNat : Int) = c.toInt →
        ¬RefusedField version.checkReadableStruct ⟨state.rx_buffer.behindHeader, garbage⟩
          (marker.toNat &&& 0x0F)) := by
  simp only [unloadsMessage_iff hwf hcontent (markerType_struct hmarker),
    unloadsStructure_iff hwf hcontent hmarker hc]
  generalize hd : (⟨state.rx_buffer.behindHeader, garbage⟩ : Decoder) = d
  generalize hvs : state.data.listElements (marker.toNat &&& 0x0F) = vs
  have hlength : vs.length = marker.toNat &&& 0x0F := by
    rw [← hvs, length_listElements]
  rw [← hlength]
  rcases hloop : unloadFields (unload version.checkReadableStruct) d
    (List.replicate vs.length null) with _ | ⟨d', fields'⟩
  · refine iff_of_true (fun fields n => ?_) (.inl ((unloadFields_eq_none_iff_fatal d _).mp hloop))
    refine and_congr_right fun _ => exists_congr fun d' => and_congr_left fun _ => ?_
    rw [unloadElements_success_iff, hloop]
    exact iff_of_false (fun h => absurd h.1 nofun) nofun
  · have hreturns : ¬FatalField version.checkReadableStruct d vs.length := by
      rw [← unloadFields_eq_none_iff_fatal, hloop]
      exact nofun
    rw [or_iff_right hreturns]
    constructor
    · intro h hcode
      have hleft : state.rx_buffer.unloadable =
          (state.rx_buffer.unloadable - d'.buffer.unloadable) + d'.buffer.unloadable := by
        have hshrinks := (unload_shrinking.unloadFields _ hloop).unloadable
        have hbehind : d.buffer.unloadable ≤ state.rx_buffer.unloadable := by
          rw [← hd]
          simp only [BoltBuffer.behindHeader, BoltBuffer.unloadable]
          omega
        omega
      obtain ⟨-, d1, helements, -⟩ := (h fields' _).mpr ⟨hcode, d', rfl, hleft⟩
      have hfields := (unloadElements_success_iff vs).mp helements
      exact (unloadElements_success_iff_refused hfields.1).mp helements
    · refine fun h fields n => and_congr_right fun hcode => exists_congr fun d1 =>
        and_congr_left fun _ => ?_
      rw [unloadElements_success_iff, hloop]
      refine and_iff_left_of_imp fun hresult => ?_
      cases hresult
      have helements := (unloadElements_success_iff_refused hloop).mpr (h hcode)
      exact ((unloadElements_success_iff vs).mp helements).2

/-- A message with any marker for which `marker_type` is that of a Structure is accepted unless a
field breaks off. -/
theorem accepted_iff (hwf : state.rx_buffer.Wf)
    (hcontent : state.rx_buffer.content = marker :: code :: rest)
    (hmarker : markerType marker.toNat = .struct) :
    (∀ result, version.fetchFunctions.unload version.checkReadableStruct state garbage ≠
      some (BOLT_SUCCESS, result)) ↔
      FatalField version.checkReadableStruct ⟨state.rx_buffer.behindHeader, garbage⟩
        (marker.toNat &&& 0x0F) ∨
      RefusedField version.checkReadableStruct ⟨state.rx_buffer.behindHeader, garbage⟩
        (marker.toNat &&& 0x0F) := by
  rw [version.unload_eq, unloadMessage_header hwf hcontent hmarker]
  generalize (⟨state.rx_buffer.behindHeader, garbage⟩ : Decoder) = d
  generalize hvs : state.data.listElements (marker.toNat &&& 0x0F) = vs
  have hlength : vs.length = marker.toNat &&& 0x0F := by
    rw [← hvs, length_listElements]
  rw [← hlength]
  constructor
  · intro h
    by_contra hnone
    rw [not_or, ← unloadFields_eq_none_iff_fatal] at hnone
    obtain ⟨⟨d', fields⟩, hloop⟩ := Option.ne_none_iff_exists'.mp hnone.1
    have helements := (unloadElements_success_iff_refused hloop).mpr hnone.2
    rw [helements] at h
    exact h _ rfl
  · rintro hbroken result hunload
    obtain ⟨⟨status, d', elements⟩, hloop, hresult⟩ := Option.map_eq_some_iff.mp hunload
    by_cases hstatus : status = BOLT_SUCCESS
    · subst hstatus
      have hfields := (unloadElements_success_iff vs).mp hloop
      rcases hbroken with hfatal | hrefused
      · rw [← unloadFields_eq_none_iff_fatal] at hfatal
        exact absurd (hfields.1.symm.trans hfatal) nofun
      · exact (unloadElements_success_iff_refused hfields.1).mp hloop hrefused
    · simp only [hstatus, if_false, Prod.mk.injEq, false_and] at hresult

/-- `unload_structure` refuses every other marker. -/
theorem unloadStructure_rejects {buffer : BoltBuffer} (hwf : buffer.Wf)
    (hcontent : buffer.content = marker :: rest) (hmarker : ¬StructureMarker marker)
    (result : Decoder × BoltValue) :
    unloadStructure (unload check) check ⟨buffer, garbage⟩ dest ≠ some (BOLT_SUCCESS, result) := by
  obtain ⟨hread, -, -⟩ := BoltBuffer.unloadBe_first hwf hcontent
  have hrange : ¬(0xB0 ≤ marker.toNat ∧ marker.toNat ≤ 0xBF) := hmarker
  simp only [unloadStructure, Decoder.unsigned, hread, hrange, if_false]
  simp

/-- `unload` gives a Structure only from its marker. -/
theorem structureMarker_of_unloads {buffer : BoltBuffer} (hwf : buffer.Wf)
    (hcontent : buffer.content = marker :: rest) {fields : List BoltValue} {n : Nat}
    (h : UnloadsStructure version ⟨buffer, garbage⟩ dest c fields n) : StructureMarker marker := by
  obtain ⟨d', hunload, -⟩ := h
  obtain ⟨hread, -, -⟩ := BoltBuffer.unloadBe_first hwf hcontent
  have hpeek := BoltBuffer.peekU8_of_content hwf hcontent
  generalize hv : struct c fields = v at hunload
  let site : Site := (⟨buffer, garbage⟩, dest)
  have houtcome : site.outcome version.checkReadableStruct = some (BOLT_SUCCESS, d', v) := hunload
  cases result_of_outcome houtcome (.inl rfl) with
  | done _ hscalar =>
    rcases hscalar with ⟨-, hscalar⟩ | ⟨hfailed, -⟩
    · subst hv
      cases hscalar
    · exact absurd rfl hfailed
  | strict _ _ hbuild _ _ =>
    rcases hbuild with ⟨-, -, rfl⟩ | ⟨-, -, rfl⟩ <;> cases hv
  | lax hopened _ _ _ _ _ =>
    simp only [Site.opened_eq, site, Decoder.peek, hpeek] at hopened
    generalize Site.type _ = type at hopened
    cases type with
    | struct =>
      simp only [openedType, openedStructure, Decoder.unsigned, hread] at hopened
      split_ifs at hopened with hrange
      exact hrange
    | list | map =>
      simp only [openedType, openedSized] at hopened
      split at hopened
      · cases hopened
      · split_ifs at hopened
    | null | boolean | integer | float | string | bytes | reserved => cases hopened

end Pointwise

/-! ## Payloads that end early -/

section Ends

variable {version : ProtocolVersion} {c : Int16} {state : BoltProtocolState} {garbage : List UInt8}

/-- Without bytes and garbage every value reads as the integer 0. -/
theorem unload_nothing {d : Decoder} (hbuffer : d.buffer.unloadable = 0) (hgarbage : d.garbage = [])
    (dest : BoltValue) : unload check d dest = some (BOLT_SUCCESS, d, integer 0) := by
  obtain ⟨buffer, garbage⟩ := d
  dsimp only at hbuffer hgarbage
  subst hgarbage
  have hpeek : (⟨buffer, []⟩ : Decoder).peek = (0, ⟨buffer, []⟩) := by
    simp [Decoder.peek, BoltBuffer.peekU8, hbuffer, Decoder.uninitialised, indeterminate, beValue,
      memcpyBe, ByteOrder.leValue]
  have hread : (⟨buffer, []⟩ : Decoder).unsigned 1 = (0, ⟨buffer, []⟩) := by
    simp [Decoder.unsigned, BoltBuffer.unloadBe, hbuffer, Decoder.uninitialised, indeterminate,
      beValue, memcpyBe, ByteOrder.leValue]
  rw [unload_run, opened, hpeek]
  simp only [markerType, Nat.zero_lt_succ, true_or, if_true, openedType, unloadInteger, hread,
    Opened.run]
  rfl

theorem unloadFields_nothing {d : Decoder} (hbuffer : d.buffer.unloadable = 0)
    (hgarbage : d.garbage = []) (vs : List BoltValue) :
    ∃ fields, unloadFields (unload check) d vs = some (d, fields) := by
  induction vs with
  | nil => exact ⟨[], rfl⟩
  | cons v vs ih =>
    obtain ⟨fields, hfields⟩ := ih
    refine ⟨integer 0 :: fields, ?_⟩
    simp only [unloadFields, unload_nothing hbuffer hgarbage, hfields, Option.map_some]

/-- Behind a marker on its own, the garbage decides about the code. -/
theorem unload_lone {buffer : BoltBuffer} (hwf : buffer.Wf) (hcontent : buffer.content = [marker])
    (hmarker : StructureMarker marker) (hc : check c) (hrange : 0 ≤ c.toInt ∧ c.toInt < 0x80)
    (dest : BoltValue) :
    ∃ d' fields, unload check ⟨buffer, [UInt8.ofNat c.toInt.toNat]⟩ dest =
      some (BOLT_SUCCESS, d', struct c fields) := by
  generalize hcode : UInt8.ofNat c.toInt.toNat = code
  obtain ⟨hread, hwf1, hcontent1⟩ := BoltBuffer.unloadBe_first hwf hcontent
  generalize ({ buffer with cursor := buffer.cursor + 1 } : BoltBuffer) = behind
    at hread hwf1 hcontent1
  have hempty : behind.unloadable = 0 := by
    rw [← hwf1.length_content, hcontent1]
    rfl
  have hpeek : (⟨buffer, [code]⟩ : Decoder).peek = (marker.toNat, ⟨buffer, [code]⟩) := by
    rw [Decoder.peek, BoltBuffer.peekU8_of_content hwf hcontent]
  have hfirst : (⟨buffer, [code]⟩ : Decoder).unsigned 1 = (marker.toNat, ⟨behind, [code]⟩) := by
    rw [Decoder.unsigned, hread]
  have hsecond : (⟨behind, [code]⟩ : Decoder).unsigned 1 = (code.toNat, ⟨behind, []⟩) := by
    simp [Decoder.unsigned, BoltBuffer.unloadBe, hempty, Decoder.uninitialised, indeterminate,
      beValue, memcpyBe, ByteOrder.leValue]
  have hnothing : ∃ fields, unloadFields (unload check) ⟨behind, []⟩
      (List.replicate (marker.toNat &&& 0x0F) null) = some (⟨behind, []⟩, fields) :=
    unloadFields_nothing hempty rfl _
  obtain ⟨fields, hfields⟩ := hnothing
  have hstructure : Int16.ofInt (ByteOrder.signed 1 code.toNat) = c := by
    rw [← hcode]
    exact structureCode_ofNat hrange
  have haccepted : 0xB0 ≤ marker.toNat ∧ marker.toNat ≤ 0xBF := hmarker
  refine ⟨⟨behind, []⟩, fields, ?_⟩
  rw [unload_run, opened, hpeek]
  simp only [markerType_struct hmarker, openedType, openedStructure, hfirst, Decoder.signed, hsecond,
    haccepted, and_self, if_true, hstructure, hc, Opened.run, hfields, Option.map_some]

/-- A message is rejected for another marker. -/
theorem unloadMessage_rejects (hwf : state.rx_buffer.Wf)
    (hcontent : state.rx_buffer.content = marker :: rest) (hmarker : markerType marker.toNat ≠ .struct)
    (result : BoltProtocolState × List UInt8) :
    unloadMessage check state garbage ≠ some (BOLT_SUCCESS, result) := by
  obtain ⟨hread, -, -⟩ := BoltBuffer.unloadBe_first hwf hcontent
  simp only [unloadMessage, BoltBuffer.unloadable_pos hwf hcontent, if_false, BoltBuffer.unloadU8,
    hread, hmarker, ne_eq, not_false_eq_true, if_true]
  simp

/-- So it is without a code. -/
theorem unloadMessage_lone (hwf : state.rx_buffer.Wf) (hcontent : state.rx_buffer.content = [marker])
    (result : BoltProtocolState × List UInt8) :
    unloadMessage check state garbage ≠ some (BOLT_SUCCESS, result) := by
  obtain ⟨hread, hwf1, hcontent1⟩ := BoltBuffer.unloadBe_first hwf hcontent
  have hmissing := BoltBuffer.unloadBe_eq_none hwf1 (n := 1) (by rw [hcontent1]; exact Nat.one_pos)
  simp only [unloadMessage, BoltBuffer.unloadable_pos hwf hcontent, if_false, BoltBuffer.unloadU8,
    hread, hmissing]
  split_ifs <;> simp

end Ends

/-- A buffer for the payload, and nothing else. -/
theorem holds_payload (payload : List UInt8) :
    ((BoltBuffer.create 0).load payload).Wf ∧
      ((BoltBuffer.create 0).load payload).content = payload := by
  have hempty := BoltBuffer.wf_create 0
  refine ⟨hempty.load payload, ?_⟩
  rw [BoltBuffer.content_load hempty, BoltBuffer.content_create, List.nil_append]

/-- Fields that are encodings, behind the marker for their number, are read alike. -/
theorem readAlike_of_encodesAll {version : ProtocolVersion} (c : Int16) {marker code : UInt8}
    {fields : List BoltValue} {bytes : List UInt8} (hmarker : StructureMarker marker)
    (hcount : marker.toNat &&& 0x0F = fields.length)
    (h : EncodesAll version.checkReadableStruct fields bytes) :
    ReadAlike version c (marker :: code :: bytes) := by
  obtain ⟨parts, rfl, rfl, hparts⟩ := h
  intro buffer garbage hwf hcontent
  have hunloads : ∀ p ∈ parts, Unloads (unload version.checkReadableStruct) p.1 p.2 :=
    fun p hp => unload_of_encodes (hparts p hp)
  have hbehind : (⟨buffer.behindHeader, garbage⟩ : Decoder).Holds garbage
      ((parts.map Prod.snd).flatten ++ []) := by
    rw [List.append_nil]
    obtain ⟨-, hwf1, hcontent1⟩ := BoltBuffer.unloadBe_first hwf hcontent
    obtain ⟨-, hwf2, hcontent2⟩ := BoltBuffer.unloadBe_first hwf1 hcontent1
    exact ⟨hwf2, hcontent2, rfl⟩
  rw [List.length_map] at hcount
  obtain ⟨d', helements, -⟩ := unloadElements_of_holds parts hunloads _
    (List.replicate parts.length .null) garbage [] List.length_replicate hbehind
  rw [hcount]
  refine .inr ⟨fun _ _ => ?_, fun hother => absurd hmarker hother⟩
  obtain ⟨hfields, -⟩ := (unloadElements_success_iff _).mp helements
  have hnone := (unloadElements_success_iff_refused hfields).mp helements
  rwa [List.length_replicate] at hnone

/-- Top-level and nested Structures are decoded alike where they are read alike. -/
theorem decodedAlike_iff (version : ProtocolVersion) (c : Int16) (payload : List UInt8)
    (hc : version.checkReadableStruct c) :
    DecodedAlike version c payload ↔ ReadAlike version c payload := by
  have hrange := version.checkReadableStruct_range hc
  rcases payload with _ | ⟨marker, _ | ⟨code, rest⟩⟩
  · refine iff_of_false (fun h => ?_) id
    obtain ⟨hwf, hcontent⟩ := holds_payload []
    have hempty : ((BoltBuffer.create 0).load []).unloadable = 0 := by
      rw [← hwf.length_content, hcontent]
      rfl
    let state : BoltProtocolState := { holding [] with data_type := c, data := .list [] }
    have hmessage : UnloadsMessage version state [] c [] 0 := by
      refine ⟨state, [], ?_, rfl, rfl, (Nat.zero_add _).symm⟩
      rw [version.unload_eq]
      exact if_pos hempty
    obtain ⟨d', hunload, -⟩ := (h.same state [] .null hwf hcontent [] 0).mp hmessage
    rw [unload_nothing hempty rfl] at hunload
    cases hunload
  · constructor
    · intro h hmarker
      obtain ⟨hwf, hcontent⟩ := holds_payload [marker]
      obtain ⟨d', fields, hunload⟩ := unload_lone hwf hcontent hmarker hc hrange .null
      have hleft := (unload_shrinking _ _ _ _ _ hunload).unloadable
      have hstructure : UnloadsStructure version ⟨(BoltBuffer.create 0).load [marker],
          [UInt8.ofNat c.toInt.toNat]⟩ .null c fields
          (((BoltBuffer.create 0).load [marker]).unloadable - d'.buffer.unloadable) :=
        ⟨d', hunload, (Nat.sub_add_cancel hleft).symm⟩
      obtain ⟨state', garbage', hmessage, -⟩ := (h.same (holding [marker]) _ .null hwf hcontent
        fields _).mpr hstructure
      rw [version.unload_eq] at hmessage
      exact unloadMessage_lone hwf hcontent _ hmessage
    · intro hmarker
      have hnested : ∀ (state : BoltProtocolState) garbage dest, state.rx_buffer.Wf →
          state.rx_buffer.content = [marker] → ∀ code fields n,
            ¬UnloadsStructure version ⟨state.rx_buffer, garbage⟩ dest code fields n :=
        fun state garbage dest hwf hcontent code fields n h =>
          hmarker (structureMarker_of_unloads hwf hcontent h)
      have htop : ∀ (state : BoltProtocolState) garbage, state.rx_buffer.Wf →
          state.rx_buffer.content = [marker] → ∀ result, version.fetchFunctions.unload
            version.checkReadableStruct state garbage ≠ some (BOLT_SUCCESS, result) := by
        intro state garbage hwf hcontent result
        rw [version.unload_eq]
        exact unloadMessage_lone hwf hcontent result
      refine ⟨fun state garbage dest hwf hcontent fields n => iff_of_false ?_
        (hnested state garbage dest hwf hcontent c fields n), ?_⟩
      · rintro ⟨state', garbage', hmessage, -⟩
        exact htop state garbage hwf hcontent _ hmessage
      · intro _ _ _ _ state garbage dest hwf hcontent
        exact ⟨htop state garbage hwf hcontent, unloadStructure_rejects hwf hcontent hmarker,
          hnested state garbage dest hwf hcontent⟩
  · constructor
    · intro h buffer garbage hwf hcontent
      let state : BoltProtocolState := { BoltProtocolV1.createState with rx_buffer := buffer }
      by_cases hmarker : StructureMarker marker
      · have hsame := h.same state garbage .null hwf hcontent
        rw [same_iff hwf hcontent hmarker hc] at hsame
        exact hsame.imp_right fun hfields => ⟨fun _ => hfields, fun hother => absurd hmarker hother⟩
      · by_cases htype : markerType marker.toNat = .struct
        · have hrejected := (h.rejected marker _ rfl hmarker state garbage .null hwf hcontent).1
          rw [accepted_iff hwf hcontent htype] at hrejected
          exact hrejected.imp_right fun hrefused => ⟨fun hmine => absurd hmine hmarker, fun _ _ => hrefused⟩
        · exact .inr ⟨fun hmine => absurd hmine hmarker, fun _ hmine => absurd hmine htype⟩
    · intro h
      have htop : ¬StructureMarker marker → ∀ (state : BoltProtocolState) garbage,
          state.rx_buffer.Wf → state.rx_buffer.content = marker :: code :: rest →
          ∀ result, version.fetchFunctions.unload version.checkReadableStruct state garbage ≠
            some (BOLT_SUCCESS, result) := by
        intro hmarker state garbage hwf hcontent
        by_cases htype : markerType marker.toNat = .struct
        · refine (accepted_iff hwf hcontent htype).mpr ?_
          exact (h _ garbage hwf hcontent).imp_right fun hfields => hfields.2 hmarker htype
        · rw [version.unload_eq]
          exact unloadMessage_rejects hwf hcontent htype
      refine ⟨fun state garbage dest hwf hcontent => ?_, ?_⟩
      · by_cases hmarker : StructureMarker marker
        · exact (same_iff hwf hcontent hmarker hc).mpr
            ((h _ garbage hwf hcontent).imp_right fun hfields => hfields.1 hmarker)
        · refine fun fields n => iff_of_false ?_
            fun hnested => hmarker (structureMarker_of_unloads hwf hcontent hnested)
          rintro ⟨state', garbage', hmessage, -⟩
          exact htop hmarker state garbage hwf hcontent _ hmessage
      · rintro _ _ ⟨rfl, rfl⟩ hmarker state garbage dest hwf hcontent
        exact ⟨htop hmarker state garbage hwf hcontent, unloadStructure_rejects hwf hcontent hmarker,
          fun _ _ _ hnested => hmarker (structureMarker_of_unloads hwf hcontent hnested)⟩

/-- A Node with the id 1, the label A and no properties. -/
theorem decodedAlike_node :
    DecodedAlike .v3 BOLT_V1_NODE [0xB3, 0x4E, 0x01, 0x91, 0x81, 0x41, 0xA0] := by
  have hid : Encodes ProtocolVersion.v3.checkReadableStruct (.integer 1) [0x01] :=
    .tinyInteger 1 (by decide) (by decide)
  have hlabel : Encodes ProtocolVersion.v3.checkReadableStruct (.string [0x41]) [0x81, 0x41] :=
    .string [0x41] (.tiny (by decide) (by decide))
  have hlabels : Encodes ProtocolVersion.v3.checkReadableStruct (.list [.string [0x41]])
      [0x91, 0x81, 0x41] :=
    .list [(.string [0x41], [0x81, 0x41])] (.tiny (by decide) (by decide)) (by simpa using hlabel)
  have hproperties : Encodes ProtocolVersion.v3.checkReadableStruct (.dictionary []) [0xA0] :=
    .map [] (.tiny (by decide) (by decide)) (by simp) (by simp)
  have hfields : EncodesAll ProtocolVersion.v3.checkReadableStruct
      [.integer 1, .list [.string [0x41]], .dictionary []] [0x01, 0x91, 0x81, 0x41, 0xA0] :=
    ⟨[(_, [0x01]), (_, [0x91, 0x81, 0x41]), (_, [0xA0])], rfl, rfl,
      by simp [hid, hlabels, hproperties]⟩
  exact (decodedAlike_iff .v3 BOLT_V1_NODE _ (by decide)).mpr
    (readAlike_of_encodesAll BOLT_V1_NODE (by decide) rfl hfields)

/-- A Node behind the marker DC, with twelve fields. -/
theorem wideNode_not_decodedAlike :
    ¬DecodedAlike .v3 BOLT_V1_NODE (0xDC :: 0x4E :: List.replicate 12 0xC0) := by
  intro h
  obtain ⟨hwf, hcontent⟩ := holds_payload (0xDC :: 0x4E :: List.replicate 12 0xC0)
  have hrejected := (h.rejected 0xDC _ rfl (by decide)
    (holding (0xDC :: 0x4E :: List.replicate 12 0xC0)) [] .null hwf hcontent).1
  have hstatus : (ProtocolVersion.v3.fetchFunctions.unload ProtocolVersion.v3.checkReadableStruct
      (holding (0xDC :: 0x4E :: List.replicate 12 0xC0)) []).map Prod.fst = some BOLT_SUCCESS := by
    decide +kernel
  obtain ⟨⟨status, result⟩, hunload, hsuccess⟩ := Option.map_eq_some_iff.mp hstatus
  cases hsuccess
  exact hrejected result hunload

end Seabolt
