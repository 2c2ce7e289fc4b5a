import Seabolt.PackStream.Acceptance

/-!
# What the encoder appends

Whatever the value is, the status of the encoder and the bytes that it appends
depend on the value only and not on the buffer: also for a value that it refuses
half way, and for one on which it does not return.
-/

namespace Seabolt

namespace PackStream

/-- The loader does the same to every buffer: it does not return, or it appends
the bytes and returns the status. -/
def Emits (loader : BoltBuffer → Outcome BoltBuffer) (emission : Option (Int × List UInt8)) :
    Prop :=
  ∀ buffer : BoltBuffer, buffer.Wf →
    match emission with
    | none => loader buffer = none
    | some (status, bytes) => ∃ buffer', loader buffer = some (status, buffer') ∧
        Grows buffer buffer' ∧ buffer'.content = buffer.content ++ bytes

/-- The loader does the same to every buffer. -/
def Uniform (loader : BoltBuffer → Outcome BoltBuffer) : Prop := ∃ emission, Emits loader emission

namespace Uniform

theorem status (status : Int) : Uniform fun buffer => some (status, buffer) :=
  ⟨some (status, []), fun buffer h => ⟨buffer, rfl, .refl h, (List.append_nil _).symm⟩⟩

theorem failed : Uniform fun _ => none := ⟨none, fun _ _ => rfl⟩

theorem load (bytes : List UInt8) : Uniform fun buffer => some (BOLT_SUCCESS, buffer.load bytes) :=
  ⟨some (BOLT_SUCCESS, bytes), fun _ h =>
    ⟨_, rfl, Settles.grows_load h bytes, BoltBuffer.content_load h bytes⟩⟩

theorem load_load (first second : List UInt8) :
    Uniform fun buffer => some (BOLT_SUCCESS, (buffer.load first).load second) := by
  refine ⟨some (BOLT_SUCCESS, first ++ second), fun buffer h => ⟨_, rfl, ?_, ?_⟩⟩
  · exact (Settles.grows_load h first).trans (Settles.grows_load (h.load first) second)
  · rw [BoltBuffer.content_load (h.load first), BoltBuffer.content_load h, List.append_assoc]

/-- A `TRY` appends what its first part appends and, if that succeeds, what the
second does. -/
theorem TRY {loader next : BoltBuffer → Outcome BoltBuffer} (h : Uniform loader)
    (hnext : Uniform next) : Uniform fun buffer => Outcome.TRY (loader buffer) next := by
  obtain ⟨_ | ⟨status, first⟩, hfirst⟩ := h
  · refine ⟨none, fun buffer hwf => ?_⟩
    show Outcome.TRY (loader buffer) next = none
    rw [hfirst buffer hwf, Outcome.TRY_none]
  by_cases hstatus : status = BOLT_SUCCESS
  · subst hstatus
    obtain ⟨_ | ⟨status, second⟩, hsecond⟩ := hnext
    · refine ⟨none, fun buffer hwf => ?_⟩
      obtain ⟨middle, hload, hgrows, -⟩ := hfirst buffer hwf
      show Outcome.TRY (loader buffer) next = none
      rw [hload, Outcome.TRY_success, hsecond middle hgrows.wf]
    · refine ⟨some (status, first ++ second), fun buffer hwf => ?_⟩
      obtain ⟨middle, hload, hgrows, hcontent⟩ := hfirst buffer hwf
      obtain ⟨buffer', hresult, hgrows', hcontent'⟩ := hsecond middle hgrows.wf
      refine ⟨buffer', ?_, hgrows.trans hgrows', ?_⟩
      · simp only [hload, Outcome.TRY_success, hresult]
      · rw [hcontent', hcontent, List.append_assoc]
  · refine ⟨some (status, first), fun buffer hwf => ?_⟩
    obtain ⟨middle, hload, hgrows, hcontent⟩ := hfirst buffer hwf
    refine ⟨middle, ?_, hgrows, hcontent⟩
    simp only [hload, Outcome.TRY_error hstatus]

end Uniform

variable {check : CheckStructSignature}

theorem uniform_sizeHeader (markers : SizeMarkers) (size : Int) :
    Uniform fun buffer => loadSizeHeader markers buffer size := by
  unfold loadSizeHeader
  split_ifs
  · exact .status _
  · exact .load _
  · exact .load_load [_] [_]
  · exact .load_load [_] _
  · exact .load_load [_] _

theorem uniform_chars (markers : SizeMarkers) (data : List UInt8) (size : Int) :
    Uniform fun buffer => Outcome.TRY (loadSizeHeader markers buffer size)
      fun buffer => some (BOLT_SUCCESS, buffer.load data) :=
  (uniform_sizeHeader markers size).TRY (.load data)

theorem uniform_integer (value : Int) : Uniform fun buffer => loadInteger buffer value := by
  unfold loadInteger
  split_ifs
  · exact .load _
  · exact .load_load [_] _
  · exact .load_load [_] _
  · exact .load_load [_] _
  · exact .load_load [_] _

theorem uniform_structureHeader (code : Int16) (size : Int) :
    Uniform fun buffer => loadStructureHeader buffer code size := by
  unfold loadStructureHeader
  split_ifs
  · exact .status _
  · exact .load_load [_] _

theorem uniform_key (key : BoltValue) : Uniform fun buffer => loadKey buffer key := by
  cases key with
  | string data => exact uniform_chars stringMarkers data _
  | negative type n =>
    cases type with
    | string => exact uniform_chars stringMarkers [] _
    | bytes => exact .failed
    | struct code => exact .failed
  | _ => exact .failed

theorem uniform_elements (vs : List BoltValue) (ih : ∀ v ∈ vs, Uniform (load check v)) :
    Uniform (loadElements check vs) := by
  induction vs with
  | nil => exact .status _
  | cons v vs ihvs =>
    exact (ih v List.mem_cons_self).TRY (ihvs fun w hw => ih w (List.mem_cons_of_mem v hw))

theorem uniform_entries (es : List (BoltValue × BoltValue))
    (ih : ∀ e ∈ es, Uniform (load check e.2)) : Uniform (loadEntries check es) := by
  induction es with
  | nil => exact .status _
  | cons e es ihes =>
    have hvalue := ih e List.mem_cons_self
    have htail := ihes fun e he => ih e (List.mem_cons_of_mem _ he)
    exact (uniform_key e.1).TRY (hvalue.TRY htail)

/-- The encoder does the same to every buffer. -/
theorem uniform_load (v : BoltValue) : Uniform (load check v) := by
  induction v using BoltValue.ind with
  | null => exact .load _
  | boolean data => exact .load _
  | integer data => exact uniform_integer _
  | float data =>
    exact Uniform.load_load [0xC1] (beBytes 8 (ByteOrder.unsigned 8 data.toNat))
  | string data => exact uniform_chars stringMarkers data data.length
  | bytes data => exact uniform_chars bytesMarkers data data.length
  | dictionary entries ih =>
    exact (uniform_sizeHeader mapMarkers _).TRY (uniform_entries entries fun e he => (ih e he).2)
  | list elements ih => exact (uniform_sizeHeader listMarkers _).TRY (uniform_elements elements ih)
  | struct code fields ih =>
    by_cases hcheck : check code
    · have hall := (uniform_structureHeader code (toInt8 fields.length)).TRY
        (uniform_elements fields ih)
      obtain ⟨emission, hemits⟩ := hall
      exact ⟨emission, fun buffer h => by simpa only [load, hcheck, if_true] using hemits buffer h⟩
    · obtain ⟨emission, hemits⟩ := Uniform.status BOLT_PROTOCOL_UNSUPPORTED_TYPE
      refine ⟨emission, fun buffer h => ?_⟩
      simpa only [load, hcheck, Bool.false_eq_true, if_false] using hemits buffer h
  | negative type n =>
    cases type with
    | string => exact uniform_chars stringMarkers [] (-(n + 1 : Nat))
    | bytes => exact uniform_chars bytesMarkers [] (-(n + 1 : Nat))
    | struct code =>
      by_cases hcheck : check code
      · obtain ⟨emission, hemits⟩ := uniform_structureHeader code (toInt8 (-(n + 1 : Nat)))
        exact ⟨emission, fun buffer h => by simpa only [load, hcheck, if_true] using hemits buffer h⟩
      · obtain ⟨emission, hemits⟩ := Uniform.status BOLT_PROTOCOL_UNSUPPORTED_TYPE
        refine ⟨emission, fun buffer h => ?_⟩
        simpa only [load, hcheck, Bool.false_eq_true, if_false] using hemits buffer h

end PackStream

end Seabolt
