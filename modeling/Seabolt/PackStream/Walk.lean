import Seabolt.PackStream.Extent

/-!
# The calls of the decoder

`unload` calls itself for the children of a List, a Map or a Structure.  What a
call does before its children is `opened`: it reads the header, and either it is
done or it goes on with a loop over the children.  The loops of a List and a Map
stop at the first child that fails, the loop of a Structure goes on.

`Reaches` are the nested calls.  Whether `unload` returns, and whether it fails,
is read off the headers that they find.
-/

namespace Seabolt

open BoltValue

namespace PackStream

/-! ## Headers -/

/-- What a call of `unload` does before it calls itself: it returns, or it goes on
with the children, and builds the value from what becomes of them. -/
inductive Opened where
  | done (result : Unloaded)
  | strict (d : Decoder) (children : List BoltValue) (build : List BoltValue → BoltValue)
  | lax (d : Decoder) (children : List BoltValue) (build : List BoltValue → BoltValue)

/-- A List or Map behind its header. -/
def openedSized (markers : SizeMarkers) (children : Nat → List BoltValue)
    (build : List BoltValue → BoltValue) (d : Decoder) (value : BoltValue) : Opened :=
  match unloadSize markers d with
  | (none, d) => .done (some (BOLT_PROTOCOL_UNEXPECTED_MARKER, d, value))
  | (some n, d) =>
    if n < 0 then .done (some (BOLT_PROTOCOL_VIOLATION, d, value))
    else .strict d (children n.toNat) build

/-- A Structure behind its header. -/
def openedStructure (check : CheckStructSignature) (d : Decoder) (value : BoltValue) : Opened :=
  let (marker, d) := d.unsigned 1
  if 0xB0 ≤ marker ∧ marker ≤ 0xBF then
    let (x, d) := d.signed 1
    let code := Int16.ofInt x
    if check code then .lax d (List.replicate (marker &&& 0x0F) null) (struct code)
    else .done (some (BOLT_PROTOCOL_UNEXPECTED_MARKER, d, value))
  else .done (some (BOLT_PROTOCOL_UNEXPECTED_MARKER, d, value))

/-- The header of a value of the type. -/
def openedType (check : CheckStructSignature) (type : PackStreamType) (d : Decoder)
    (value : BoltValue) : Opened :=
  match type with
  | .null => .done (unloadNull d value)
  | .boolean => .done (unloadBoolean d value)
  | .integer => .done (unloadInteger d value)
  | .float => .done (unloadFloat d value)
  | .string => .done (unloadString d value)
  | .bytes => .done (unloadBytes d value)
  | .list => openedSized listMarkers value.listElements list d value
  | .map => openedSized mapMarkers (fun n => entryValues (value.dictionaryEntries n))
      (fun vs => dictionary (valueEntries vs)) d value
  | .struct => openedStructure check d value
  | .reserved => .done (some (BOLT_PROTOCOL_UNEXPECTED_MARKER, d, value))

/-- The header of the value that is next. -/
def opened (check : CheckStructSignature) (d : Decoder) (value : BoltValue) : Opened :=
  let (marker, d) := d.peek
  openedType check (markerType marker) d value

section Run

variable (unloadValue : Decoder → BoltValue → Unloaded)

/-- Go on behind the header. -/
def Opened.run : Opened → Unloaded
  | .done result => result
  | .strict d children build =>
    (unloadElements unloadValue d children).map fun (status, d, vs) => (status, d, build vs)
  | .lax d children build =>
    (unloadFields unloadValue d children).map fun (d, vs) => (BOLT_SUCCESS, d, build vs)

variable {unloadValue} {check : CheckStructSignature}

theorem openedType_run (type : PackStreamType) (d : Decoder) (value : BoltValue) :
    (openedType check type d value).run unloadValue =
      unloadType unloadValue check type d value := by
  have hsized : ∀ (markers : SizeMarkers) (children : Nat → List BoltValue)
      (build : List BoltValue → BoltValue),
      (openedSized markers children build d value).run unloadValue =
        match unloadSize markers d with
        | (none, d) => some (BOLT_PROTOCOL_UNEXPECTED_MARKER, d, value)
        | (some n, d) =>
          if n < 0 then some (BOLT_PROTOCOL_VIOLATION, d, value)
          else (unloadElements unloadValue d (children n.toNat)).map
            fun (status, d, vs) => (status, d, build vs) := by
    intro markers children build
    unfold openedSized
    rcases unloadSize markers d with ⟨_ | n, d1⟩
    · rfl
    · dsimp only
      split_ifs <;> rfl
  cases type with
  | list => exact hsized _ _ _
  | map =>
    have hmap := hsized mapMarkers (fun n => entryValues (value.dictionaryEntries n))
      fun vs => dictionary (valueEntries vs)
    simp only [unloadType, unloadMap, unloadEntries_eq, Option.map_map]
    exact hmap
  | struct =>
    simp only [openedType, openedStructure, unloadType, unloadStructure]
    split_ifs <;> rfl
  | null | boolean | integer | float | string | bytes | reserved => rfl

end Run

variable {check : CheckStructSignature}

theorem unloadAux_run (fuel : Nat) (d : Decoder) (value : BoltValue) :
    unloadAux check (fuel + 1) d value = (opened check d value).run (unloadAux check fuel) := by
  rw [unloadAux, opened]
  exact (openedType_run _ _ _).symm

/-! ## What is left -/

end PackStream

/-- There is no more to decode from than before, and the buffer stays intact. -/
structure Decoder.Shrinks (d d' : Decoder) : Prop where
  unloadable : d'.buffer.unloadable ≤ d.buffer.unloadable
  garbage : d'.garbage.length ≤ d.garbage.length
  wf : d.buffer.Wf → d'.buffer.Wf

namespace Decoder

variable {d d' d'' : Decoder}

theorem Shrinks.refl (d : Decoder) : Shrinks d d := ⟨Nat.le_refl _, Nat.le_refl _, id⟩

theorem Shrinks.trans (h : Shrinks d d') (h' : Shrinks d' d'') : Shrinks d d'' :=
  ⟨h'.unloadable.trans h.unloadable, h'.garbage.trans h.garbage, h'.wf ∘ h.wf⟩

theorem Shrinks.fuel_le (h : Shrinks d d') : d'.fuel ≤ d.fuel := by
  have := h.unloadable
  have := h.garbage
  unfold fuel
  omega

theorem uninitialised_shrinks (n : Nat) (d : Decoder) : Shrinks d (d.uninitialised n).2 :=
  ⟨Nat.le_refl _, by simp [uninitialised, indeterminate], id⟩

theorem unsigned_shrinks (n : Nat) (d : Decoder) : Shrinks d (d.unsigned n).2 := by
  unfold unsigned
  split
  · rename_i hread
    unfold BoltBuffer.unloadBe at hread
    split_ifs at hread with hshort
    obtain ⟨-, rfl⟩ := Prod.mk.inj (Option.some.inj hread)
    refine ⟨?_, Nat.le_refl _, fun hwf => ⟨?_, hwf.extent_le, hwf.length_data⟩⟩
    · simp only [BoltBuffer.unloadable]
      omega
    · have := hwf.cursor_le
      simp only [BoltBuffer.unloadable] at hshort ⊢
      omega
  · exact uninitialised_shrinks n d

theorem signed_shrinks (n : Nat) (d : Decoder) : Shrinks d (d.signed n).2 := unsigned_shrinks n d

theorem peek_shrinks (d : Decoder) : Shrinks d d.peek.2 := by
  unfold peek
  split
  · exact .refl d
  · exact uninitialised_shrinks 1 d

/-- Reading the marker uses up something, unless it is read as 0. -/
theorem marker_shrinks (d : Decoder) :
    Shrinks d (d.peek.2.unsigned 1).2 ∧ (d.peek.1 ≠ 0 → (d.peek.2.unsigned 1).2.fuel < d.fuel) := by
  refine ⟨(peek_shrinks d).trans (unsigned_shrinks 1 _), fun hmarker => ?_⟩
  have hunsigned := unsigned_shrinks 1 d.peek.2
  by_cases hempty : d.buffer.unloadable < 1
  · have hpeek : d.peek = (beValue (d.uninitialised 1).1, (d.uninitialised 1).2) := by
      simp only [peek, BoltBuffer.peekU8, hempty, if_true]
    rcases hgarbage : d.garbage with _ | ⟨byte, garbage⟩
    · refine absurd ?_ hmarker
      rw [hpeek]
      simp [uninitialised, indeterminate, hgarbage, beValue, memcpyBe, ByteOrder.leValue]
    · have hless : d.peek.2.fuel < d.fuel := by
        rw [hpeek]
        simp [uninitialised, indeterminate, fuel, hgarbage]
      exact lt_of_le_of_lt hunsigned.fuel_le hless
  · have hpeek : d.peek.2 = d := by
      simp only [peek, BoltBuffer.peekU8, hempty, if_false]
    have hread : (d.unsigned 1).2 =
        { d with buffer := { d.buffer with cursor := d.buffer.cursor + 1 } } := by
      simp only [unsigned, BoltBuffer.unloadBe, hempty, if_false]
    rw [hpeek, hread]
    simp only [fuel, BoltBuffer.unloadable] at hempty ⊢
    omega

end Decoder

namespace PackStream

/-- What the unloader leaves is no more than it found. -/
def Shrinking (unloadValue : Decoder → BoltValue → Unloaded) : Prop :=
  ∀ d value status d' value', unloadValue d value = some (status, d', value') → d.Shrinks d'

section Shrinking

variable {unloadValue : Decoder → BoltValue → Unloaded}

theorem Shrinking.unloadElements (h : Shrinking unloadValue) (vs : List BoltValue) :
    ∀ {d status d' vs'}, PackStream.unloadElements unloadValue d vs = some (status, d', vs') →
      d.Shrinks d' := by
  induction vs with
  | nil =>
    intro d status d' vs' hloop
    obtain ⟨-, hd, -⟩ := hloop
    exact .refl d
  | cons v vs ih =>
    intro d status d' vs' hloop
    rcases hfirst : unloadValue d v with _ | ⟨first, d1, v1⟩
    · simp only [PackStream.unloadElements, hfirst] at hloop
      cases hloop
    have hshrinks := h _ _ _ _ _ hfirst
    simp only [PackStream.unloadElements, hfirst] at hloop
    split_ifs at hloop
    · obtain ⟨⟨status1, d2, vs1⟩, hrest, hresult⟩ := Option.map_eq_some_iff.mp hloop
      cases hresult
      exact hshrinks.trans (ih hrest)
    · cases hloop
      exact hshrinks

theorem Shrinking.unloadFields (h : Shrinking unloadValue) (vs : List BoltValue) :
    ∀ {d d' vs'}, PackStream.unloadFields unloadValue d vs = some (d', vs') → d.Shrinks d' := by
  induction vs with
  | nil =>
    intro d d' vs' hloop
    cases hloop
    exact .refl d
  | cons v vs ih =>
    intro d d' vs' hloop
    rcases hfirst : unloadValue d v with _ | ⟨first, d1, v1⟩
    · simp only [PackStream.unloadFields, hfirst] at hloop
      cases hloop
    simp only [PackStream.unloadFields, hfirst] at hloop
    obtain ⟨⟨d2, vs1⟩, hrest, hresult⟩ := Option.map_eq_some_iff.mp hloop
    cases hresult
    exact (h _ _ _ _ _ hfirst).trans (ih hrest)

end Shrinking

theorem unloadSize_shrinks (markers : SizeMarkers) (d : Decoder) :
    (d.unsigned 1).2.Shrinks (unloadSize markers d).2 := by
  unfold unloadSize
  dsimp only
  split_ifs
  · exact .refl _
  · exact Decoder.unsigned_shrinks 1 _
  · exact Decoder.unsigned_shrinks 2 _
  · exact Decoder.signed_shrinks 4 _
  · exact .refl _

theorem unloadable_compact (b : BoltBuffer) : b.compact.unloadable = b.unloadable := by
  unfold BoltBuffer.compact
  split_ifs <;> rfl

theorem unloadChars_shrinks {format : List UInt8 → BoltValue} {size : Int} {d d' : Decoder}
    {status : Int} {value' : BoltValue}
    (h : unloadChars format size d = some (status, d', value')) : d.Shrinks d' := by
  unfold unloadChars at h
  split_ifs at h
  split at h
  · rename_i chars buffer hread
    cases h
    unfold BoltBuffer.unload at hread
    split_ifs at hread with hshort
    obtain ⟨-, hbuffer⟩ := Prod.mk.inj (Option.some.inj hread)
    have hleft : buffer.unloadable ≤ d.buffer.unloadable := by
      rw [← hbuffer]
      split_ifs
      · rw [unloadable_compact]
        simp only [BoltBuffer.unloadable]
        omega
      · simp only [BoltBuffer.unloadable]
        omega
    refine ⟨hleft, Nat.le_refl _, fun hwf => ?_⟩
    have hadvanced : ({ d.buffer with cursor := d.buffer.cursor + size.toNat } : BoltBuffer).Wf := by
      have := hwf.cursor_le
      refine ⟨?_, hwf.extent_le, hwf.length_data⟩
      simp only [BoltBuffer.unloadable] at hshort ⊢
      omega
    rw [← hbuffer]
    split_ifs
    · exact hadvanced.compact
    · exact hadvanced
  · cases h
    exact Decoder.uninitialised_shrinks _ d

/-- What the header leaves. -/
def Opened.Within (d : Decoder) : Opened → Prop
  | .done result => ∀ status d' value', result = some (status, d', value') → d.Shrinks d'
  | .strict d' _ _ => d.Shrinks d' ∧ d'.fuel < d.fuel
  | .lax d' _ _ => d.Shrinks d' ∧ d'.fuel < d.fuel

theorem unloadIntegerBe_shrinks {n : Nat} {d d' : Decoder} {status : Int} {value' : BoltValue}
    (h : unloadIntegerBe n d = some (status, d', value')) : d.Shrinks d' := by
  cases h
  exact Decoder.signed_shrinks n d

/-- A header is read behind its marker. -/
theorem openedType_within {type : PackStreamType} {d d0 : Decoder} {value : BoltValue}
    (hshrinks : d0.Shrinks (d.unsigned 1).2) (hpeek : d0.Shrinks d)
    (hfuel : type ≠ .integer → (d.unsigned 1).2.fuel < d0.fuel) :
    (openedType check type d value).Within d0 := by
  have hsized : ∀ (markers : SizeMarkers) (children : Nat → List BoltValue)
      (build : List BoltValue → BoltValue), type ≠ .integer →
      (openedSized markers children build d value).Within d0 := by
    intro markers children build htype
    have hsize := unloadSize_shrinks markers d
    unfold openedSized
    rcases hread : unloadSize markers d with ⟨_ | n, d1⟩ <;> rw [hread] at hsize
    · rintro status d' value' hresult
      cases hresult
      exact hshrinks.trans hsize
    · dsimp only
      split_ifs
      · rintro status d' value' hresult
        cases hresult
        exact hshrinks.trans hsize
      · exact ⟨hshrinks.trans hsize, lt_of_le_of_lt hsize.fuel_le (hfuel htype)⟩
  have hsize : ∀ markers, d0.Shrinks (unloadSize markers d).2 :=
    fun markers => hshrinks.trans (unloadSize_shrinks markers d)
  cases type with
  | null =>
    intro status d' value' hresult
    simp only [unloadNull] at hresult
    split_ifs at hresult <;> cases hresult <;> exact hshrinks
  | boolean =>
    intro status d' value' hresult
    simp only [unloadBoolean] at hresult
    split_ifs at hresult <;> cases hresult <;> exact hshrinks
  | integer =>
    intro status d' value' hresult
    simp only [unloadInteger] at hresult
    split_ifs at hresult
    · cases hresult
      exact hshrinks
    · cases hresult
      exact hshrinks
    · exact hshrinks.trans (unloadIntegerBe_shrinks hresult)
    · exact hshrinks.trans (unloadIntegerBe_shrinks hresult)
    · exact hshrinks.trans (unloadIntegerBe_shrinks hresult)
    · exact hshrinks.trans (unloadIntegerBe_shrinks hresult)
    · cases hresult
      exact hshrinks
  | float =>
    intro status d' value' hresult
    simp only [unloadFloat] at hresult
    split_ifs at hresult
    · cases hresult
      exact hshrinks.trans (Decoder.unsigned_shrinks 8 _)
    · cases hresult
      exact hshrinks
  | string =>
    intro status d' value' hresult
    have hheader := hsize stringMarkers
    simp only [unloadString] at hresult
    rcases hread : unloadSize stringMarkers d with ⟨_ | n, d1⟩ <;> rw [hread] at hheader hresult
    · cases hresult
      exact hheader
    · exact hheader.trans (unloadChars_shrinks hresult)
  | bytes =>
    intro status d' value' hresult
    have hheader := hsize bytesMarkers
    simp only [unloadBytes] at hresult
    rcases hread : unloadSize bytesMarkers d with ⟨_ | n, d1⟩ <;> rw [hread] at hheader hresult
    · cases hresult
      exact hheader
    · exact hheader.trans (unloadChars_shrinks hresult)
  | list => exact hsized _ _ _ (by decide)
  | map => exact hsized mapMarkers (fun n => entryValues (value.dictionaryEntries n)) _ (by decide)
  | struct =>
    simp only [openedType, openedStructure]
    have hcode := Decoder.signed_shrinks 1 (d.unsigned 1).2
    split_ifs
    · exact ⟨hshrinks.trans hcode, lt_of_le_of_lt hcode.fuel_le (hfuel (by decide))⟩
    · intro status d' value' hresult
      cases hresult
      exact hshrinks.trans hcode
    · intro status d' value' hresult
      cases hresult
      exact hshrinks
  | reserved =>
    intro status d' value' hresult
    cases hresult
    exact hpeek

theorem opened_within (d : Decoder) (value : BoltValue) : (opened check d value).Within d := by
  obtain ⟨hshrinks, hfuel⟩ := Decoder.marker_shrinks d
  refine openedType_within hshrinks (Decoder.peek_shrinks d) fun htype => hfuel fun hzero => ?_
  have hinteger : markerType d.peek.1 = .integer := by
    rw [hzero]
    rfl
  exact htype hinteger

theorem Opened.run_shrinking {unloadValue : Decoder → BoltValue → Unloaded}
    (h : Shrinking unloadValue) {step : Opened} {d d' : Decoder} {status : Int} {value' : BoltValue}
    (hwithin : step.Within d) (hrun : step.run unloadValue = some (status, d', value')) :
    d.Shrinks d' := by
  cases step with
  | done result => exact hwithin status d' value' hrun
  | strict d1 children build =>
    obtain ⟨⟨status1, d2, vs⟩, hloop, hresult⟩ := Option.map_eq_some_iff.mp hrun
    cases hresult
    exact hwithin.1.trans (h.unloadElements children hloop)
  | lax d1 children build =>
    obtain ⟨⟨d2, vs⟩, hloop, hresult⟩ := Option.map_eq_some_iff.mp hrun
    cases hresult
    exact hwithin.1.trans (h.unloadFields children hloop)

theorem unloadAux_shrinking (fuel : Nat) : Shrinking (unloadAux check fuel) := by
  induction fuel with
  | zero => exact fun _ _ _ _ _ => nofun
  | succ fuel ih =>
    intro d value status d' value' h
    rw [unloadAux_run] at h
    exact Opened.run_shrinking ih (opened_within d value) h

/-! ## The recursion without fuel -/

/-- The unloaders agree on decoders with less left than `n`. -/
def AgreeBelow (n : Nat) (f g : Decoder → BoltValue → Unloaded) : Prop :=
  ∀ d value, d.fuel < n → f d value = g d value

section Agree

variable {f g : Decoder → BoltValue → Unloaded} {n : Nat}

theorem AgreeBelow.unloadElements (h : AgreeBelow n f g) (hf : Shrinking f) (vs : List BoltValue) :
    ∀ {d}, d.fuel < n → PackStream.unloadElements f d vs = PackStream.unloadElements g d vs := by
  induction vs with
  | nil => exact fun _ => rfl
  | cons v vs ih =>
    intro d hd
    simp only [PackStream.unloadElements, ← h d v hd]
    rcases hfirst : f d v with _ | ⟨status, d1, v1⟩
    · rfl
    · have hless : d1.fuel < n := lt_of_le_of_lt (hf _ _ _ _ _ hfirst).fuel_le hd
      simp only [ih hless]

theorem AgreeBelow.unloadFields (h : AgreeBelow n f g) (hf : Shrinking f) (vs : List BoltValue) :
    ∀ {d}, d.fuel < n → PackStream.unloadFields f d vs = PackStream.unloadFields g d vs := by
  induction vs with
  | nil => exact fun _ => rfl
  | cons v vs ih =>
    intro d hd
    simp only [PackStream.unloadFields, ← h d v hd]
    rcases hfirst : f d v with _ | ⟨status, d1, v1⟩
    · rfl
    · have hless : d1.fuel < n := lt_of_le_of_lt (hf _ _ _ _ _ hfirst).fuel_le hd
      simp only [ih hless]

theorem AgreeBelow.run (hf : Shrinking f) {step : Opened} {d : Decoder} (h : AgreeBelow d.fuel f g)
    (hwithin : step.Within d) : step.run f = step.run g := by
  cases step with
  | done result => rfl
  | strict d1 children build =>
    simp only [Opened.run, h.unloadElements hf children hwithin.2]
  | lax d1 children build =>
    simp only [Opened.run, h.unloadFields hf children hwithin.2]

end Agree

/-- Fuel that covers what is left is enough. -/
theorem unloadAux_eq (fuel : Nat) :
    ∀ fuel', AgreeBelow (min fuel fuel' + 1) (unloadAux check fuel) (unloadAux check fuel') := by
  induction fuel with
  | zero =>
    intro fuel' d value hd
    have : 0 < d.fuel := Nat.succ_pos _
    omega
  | succ fuel ih =>
    intro fuel' d value hd
    rcases fuel' with _ | fuel'
    · have : 0 < d.fuel := Nat.succ_pos _
      omega
    rw [unloadAux_run, unloadAux_run]
    refine AgreeBelow.run (unloadAux_shrinking fuel) (fun d1 value1 hd1 => ?_) (opened_within d value)
    exact ih fuel' d1 value1 (by omega)

theorem unload_shrinking : Shrinking (unload check) :=
  fun d value status d' value' h => unloadAux_shrinking _ d value status d' value' h

/-- The decoder reads a header and goes on with the children. -/
theorem unload_run (d : Decoder) (value : BoltValue) :
    unload check d value = (opened check d value).run (unload check) := by
  have hfuel : d.fuel = (d.buffer.unloadable + d.garbage.length) + 1 := rfl
  rw [unload, hfuel, unloadAux_run]
  refine AgreeBelow.run (unloadAux_shrinking _) (fun d1 value1 hd1 => ?_) (opened_within d value)
  refine unloadAux_eq _ _ d1 value1 ?_
  omega

/-! ## Nested calls -/

/-- A call of `unload`: what it reads from, and what it writes to. -/
abbrev Site := Decoder × BoltValue

/-- What a call of `unload` gives. -/
def Site.outcome (check : CheckStructSignature) (site : Site) : Unloaded :=
  unload check site.1 site.2

/-- The header that the call finds. -/
def Site.opened (check : CheckStructSignature) (site : Site) : Opened :=
  PackStream.opened check site.1 site.2

/-- The type of the value that is next. -/
def Site.type (site : Site) : PackStreamType := markerType site.1.peek.1

theorem Site.opened_eq (site : Site) :
    site.opened check = openedType check site.type site.1.peek.2 site.2 := rfl

/-- The call for the child with the index.  It is made when the calls before it have
returned and, in a loop that stops at a failure, have succeeded. -/
inductive LoopCall (check : CheckStructSignature) (stops : Bool) :
    Decoder → List BoltValue → Nat → Site → Prop where
  | here {d : Decoder} {v : BoltValue} {vs : List BoltValue} :
      LoopCall check stops d (v :: vs) 0 (d, v)
  | there {d d' : Decoder} {v v' : BoltValue} {vs : List BoltValue} {status : Int} {index : Nat}
      {site : Site} (hcall : unload check d v = some (status, d', v'))
      (hstatus : stops → status = BOLT_SUCCESS) (hrest : LoopCall check stops d' vs index site) :
      LoopCall check stops d (v :: vs) (index + 1) site

/-- The call is made for a child of a List or a Map. -/
def Site.Calls (check : CheckStructSignature) (site site' : Site) : Prop :=
  ∃ d children build index, site.opened check = .strict d children build ∧
    LoopCall check true d children index site'

/-- The call is made for a field of a Structure. -/
def Site.CallsField (check : CheckStructSignature) (site site' : Site) : Prop :=
  ∃ d children build index, site.opened check = .lax d children build ∧
    LoopCall check false d children index site'

/-- The nested calls that are in no Structure, and the call itself. -/
def ReachesOutside (check : CheckStructSignature) : Site → Site → Prop :=
  Relation.ReflTransGen (Site.Calls check)

/-- All nested calls, and the call itself. -/
def Reaches (check : CheckStructSignature) : Site → Site → Prop :=
  Relation.ReflTransGen fun site site' => site.Calls check site' ∨ site.CallsField check site'

/-- The header is refused: its marker is unknown, the code of a Structure is not
accepted, or the size of a List or Map is negative. -/
def Site.Refused (check : CheckStructSignature) (site : Site) (status : Int) : Prop :=
  status ≠ BOLT_SUCCESS ∧ ∃ result, site.opened check = .done (some (status, result))

/-- A String or Bytes value of negative size. -/
def Site.Fatal (check : CheckStructSignature) (site : Site) : Prop := site.opened check = .done none

/-- The call fails. -/
def Site.Fails (check : CheckStructSignature) (site : Site) (status : Int) : Prop :=
  status ≠ BOLT_SUCCESS ∧ ∃ result, site.outcome check = some (status, result)

theorem LoopCall.shrinks {stops : Bool} {d : Decoder} {vs : List BoltValue} {index : Nat} {site : Site}
    (h : LoopCall check stops d vs index site) : d.Shrinks site.1 := by
  induction h with
  | here => exact .refl _
  | there hcall _ _ ih => exact (unload_shrinking _ _ _ _ _ hcall).trans ih

theorem Site.Calls.shrinks {site site' : Site}
    (h : site.Calls check site' ∨ site.CallsField check site') :
    site.1.Shrinks site'.1 ∧ site'.1.fuel < site.1.fuel := by
  have hwithin : (site.opened check).Within site.1 := opened_within site.1 site.2
  rcases h with ⟨d, children, build, index, hopened, hcall⟩ | ⟨d, children, build, index, hopened, hcall⟩
  all_goals
    rw [hopened] at hwithin
    exact ⟨hwithin.1.trans hcall.shrinks, lt_of_le_of_lt hcall.shrinks.fuel_le hwithin.2⟩

/-- No nested call has more to decode from. -/
theorem Reaches.shrinks {site site' : Site} (h : Reaches check site site') :
    site.1.Shrinks site'.1 := by
  induction h with
  | refl => exact .refl _
  | tail _ hcall ih => exact ih.trans (Site.Calls.shrinks hcall).1

theorem ReachesOutside.reaches {site site' : Site} (h : ReachesOutside check site site') :
    Reaches check site site' := by
  induction h with
  | refl => exact .refl
  | tail _ hcall ih => exact ih.tail (.inl hcall)

/-- The calls are well-founded. -/
theorem Site.induction {motive : Site → Prop}
    (step : ∀ site, (∀ site', site.Calls check site' ∨ site.CallsField check site' → motive site') →
      motive site) (site : Site) : motive site := by
  have hall : ∀ n, ∀ site : Site, site.1.fuel < n → motive site := by
    intro n
    induction n with
    | zero => exact fun site h => absurd h (Nat.not_lt_zero _)
    | succ n ih =>
      refine fun site h => step site fun site' hcall => ih site' ?_
      have := (Site.Calls.shrinks hcall).2
      omega
  exact hall _ site (Nat.lt_succ_self _)

/-! ## Loops -/

/-- The loop of a List or a Map does not return if one of its calls does not. -/
theorem unloadElements_eq_none_iff (vs : List BoltValue) : ∀ d,
    unloadElements (unload check) d vs = none ↔
      ∃ index site, LoopCall check true d vs index site ∧ site.outcome check = none := by
  induction vs with
  | nil =>
    refine fun d => iff_of_false (by simp [unloadElements]) ?_
    rintro ⟨index, site, hcall, -⟩
    cases hcall
  | cons v vs ih =>
    intro d
    rcases hfirst : unload check d v with _ | ⟨status, d1, v1⟩
    · simp only [unloadElements, hfirst]
      exact iff_of_true trivial ⟨0, (d, v), .here, hfirst⟩
    simp only [unloadElements, hfirst]
    by_cases hstatus : status = BOLT_SUCCESS
    · rw [if_pos hstatus, Option.map_eq_none_iff, ih d1]
      constructor
      · rintro ⟨index, site, hcall, hnone⟩
        exact ⟨index + 1, site, .there hfirst (fun _ => hstatus) hcall, hnone⟩
      · rintro ⟨index, site, hcall, hnone⟩
        cases hcall with
        | here => exact absurd (hfirst.symm.trans hnone) (by simp)
        | there hcall' _ hrest =>
          cases hfirst.symm.trans hcall'
          exact ⟨_, site, hrest, hnone⟩
    · rw [if_neg hstatus]
      refine iff_of_false (by simp) ?_
      rintro ⟨index, site, hcall, hnone⟩
      cases hcall with
      | here => exact absurd (hfirst.symm.trans hnone) (by simp)
      | there hcall' hon _ =>
        cases hfirst.symm.trans hcall'
        exact hstatus (hon rfl)

/-- It fails if one of its calls does, with the same status. -/
theorem unloadElements_fails_iff {status : Int} (hfailed : status ≠ BOLT_SUCCESS)
    (vs : List BoltValue) : ∀ d,
    (∃ result, unloadElements (unload check) d vs = some (status, result)) ↔
      ∃ index site, LoopCall check true d vs index site ∧ site.Fails check status := by
  induction vs with
  | nil =>
    refine fun d => iff_of_false ?_ ?_
    · rintro ⟨result, hresult⟩
      cases hresult
      exact hfailed rfl
    · rintro ⟨index, site, hcall, -⟩
      cases hcall
  | cons v vs ih =>
    intro d
    rcases hfirst : unload check d v with _ | ⟨status1, d1, v1⟩
    · simp only [unloadElements, hfirst]
      refine iff_of_false ?_ ?_
      · rintro ⟨result, hresult⟩
        cases hresult
      · rintro ⟨index, site, hcall, -, result, houtcome⟩
        cases hcall with
        | here => exact absurd (hfirst.symm.trans houtcome) (by simp)
        | there hcall' _ _ => exact absurd (hfirst.symm.trans hcall') (by simp)
    simp only [unloadElements, hfirst]
    by_cases hstatus : status1 = BOLT_SUCCESS
    · rw [if_pos hstatus]
      have hloop : (∃ result, ((unloadElements (unload check) d1 vs).map
          fun r => (r.1, r.2.1, v1 :: r.2.2)) = some (status, result)) ↔
          ∃ result, unloadElements (unload check) d1 vs = some (status, result) := by
        constructor
        · rintro ⟨result, hresult⟩
          obtain ⟨⟨status2, d2, vs2⟩, hrest, heq⟩ := Option.map_eq_some_iff.mp hresult
          cases heq
          exact ⟨_, hrest⟩
        · rintro ⟨⟨d2, vs2⟩, hrest⟩
          exact ⟨(d2, v1 :: vs2), by rw [hrest]; rfl⟩
      rw [hloop, ih d1]
      constructor
      · rintro ⟨index, site, hcall, hfails⟩
        exact ⟨index + 1, site, .there hfirst (fun _ => hstatus) hcall, hfails⟩
      · rintro ⟨index, site, hcall, hfails⟩
        cases hcall with
        | here =>
          obtain ⟨-, result, houtcome⟩ := hfails
          cases hfirst.symm.trans houtcome
          exact absurd hstatus hfailed
        | there hcall' _ hrest =>
          cases hfirst.symm.trans hcall'
          exact ⟨_, site, hrest, hfails⟩
    · rw [if_neg hstatus]
      constructor
      · rintro ⟨result, hresult⟩
        cases hresult
        exact ⟨0, (d, v), .here, hfailed, _, hfirst⟩
      · rintro ⟨index, site, hcall, hfails⟩
        cases hcall with
        | here =>
          obtain ⟨-, result, houtcome⟩ := hfails
          cases hfirst.symm.trans houtcome
          exact ⟨_, rfl⟩
        | there hcall' hon _ =>
          cases hfirst.symm.trans hcall'
          exact absurd (hon rfl) hstatus

/-- The loop of a Structure does not return if one of its calls does not. -/
theorem unloadFields_eq_none_iff (vs : List BoltValue) : ∀ d,
    unloadFields (unload check) d vs = none ↔
      ∃ index site, LoopCall check false d vs index site ∧ site.outcome check = none := by
  induction vs with
  | nil =>
    refine fun d => iff_of_false (by simp [unloadFields]) ?_
    rintro ⟨index, site, hcall, -⟩
    cases hcall
  | cons v vs ih =>
    intro d
    rcases hfirst : unload check d v with _ | ⟨status, d1, v1⟩
    · simp only [unloadFields, hfirst]
      exact iff_of_true trivial ⟨0, (d, v), .here, hfirst⟩
    simp only [unloadFields, hfirst, Option.map_eq_none_iff, ih d1]
    constructor
    · rintro ⟨index, site, hcall, hnone⟩
      exact ⟨index + 1, site, .there hfirst (by simp) hcall, hnone⟩
    · rintro ⟨index, site, hcall, hnone⟩
      cases hcall with
      | here => exact absurd (hfirst.symm.trans hnone) (by simp)
      | there hcall' _ hrest =>
        cases hfirst.symm.trans hcall'
        exact ⟨_, site, hrest, hnone⟩

/-! ## Outcomes -/

/-- `unload` does not return if a nested call finds a String or Bytes value of
negative size. -/
theorem outcome_eq_none_iff (site : Site) :
    site.outcome check = none ↔ ∃ site', Reaches check site site' ∧ site'.Fatal check := by
  constructor
  · induction site using @Site.induction check with
    | step site ih =>
      intro hnone
      rw [Site.outcome, unload_run] at hnone
      rcases hopened : opened check site.1 site.2 with result | ⟨d, vs, build⟩ | ⟨d, vs, build⟩ <;>
        rw [hopened] at hnone
      · exact ⟨site, .refl, hopened.trans (congrArg Opened.done hnone)⟩
      · obtain ⟨index, site', hcall, houtcome⟩ :=
          (unloadElements_eq_none_iff vs d).mp (Option.map_eq_none_iff.mp hnone)
        have hcalls : site.Calls check site' := ⟨d, vs, build, index, hopened, hcall⟩
        obtain ⟨last, hreaches, hfatal⟩ := ih site' (.inl hcalls) houtcome
        exact ⟨last, .head (.inl hcalls) hreaches, hfatal⟩
      · obtain ⟨index, site', hcall, houtcome⟩ :=
          (unloadFields_eq_none_iff vs d).mp (Option.map_eq_none_iff.mp hnone)
        have hcalls : site.CallsField check site' := ⟨d, vs, build, index, hopened, hcall⟩
        obtain ⟨last, hreaches, hfatal⟩ := ih site' (.inr hcalls) houtcome
        exact ⟨last, .head (.inr hcalls) hreaches, hfatal⟩
  · rintro ⟨last, hreaches, hfatal⟩
    induction hreaches using Relation.ReflTransGen.head_induction_on with
    | refl =>
      rw [Site.outcome, unload_run]
      exact congrArg (Opened.run (unload check)) hfatal
    | head hcalls _ ih =>
      rw [Site.outcome, unload_run]
      rcases hcalls with ⟨d, vs, build, index, hopened, hcall⟩ | ⟨d, vs, build, index, hopened, hcall⟩
      · rw [Site.opened] at hopened
        rw [hopened, Opened.run, Option.map_eq_none_iff]
        exact (unloadElements_eq_none_iff vs d).mpr ⟨index, _, hcall, ih⟩
      · rw [Site.opened] at hopened
        rw [hopened, Opened.run, Option.map_eq_none_iff]
        exact (unloadFields_eq_none_iff vs d).mpr ⟨index, _, hcall, ih⟩

/-- `unload` fails if a nested call in no Structure refuses its header, and with the
status of that call. -/
theorem fails_iff (site : Site) (status : Int) :
    site.Fails check status ↔
      ∃ site', ReachesOutside check site site' ∧ site'.Refused check status := by
  constructor
  · induction site using @Site.induction check with
    | step site ih =>
      rintro ⟨hfailed, result, houtcome⟩
      rw [Site.outcome, unload_run] at houtcome
      rcases hopened : opened check site.1 site.2 with result1 | ⟨d, vs, build⟩ | ⟨d, vs, build⟩ <;>
        rw [hopened] at houtcome
      · exact ⟨site, .refl, hfailed, result, hopened.trans (congrArg Opened.done houtcome)⟩
      · obtain ⟨⟨status1, d1, vs1⟩, hloop, hresult⟩ := Option.map_eq_some_iff.mp houtcome
        cases hresult
        obtain ⟨index, site', hcall, hfails⟩ :=
          (unloadElements_fails_iff hfailed vs d).mp ⟨_, hloop⟩
        have hcalls : site.Calls check site' := ⟨d, vs, build, index, hopened, hcall⟩
        obtain ⟨last, hreaches, hrefused⟩ := ih site' (.inl hcalls) hfails
        exact ⟨last, .head hcalls hreaches, hrefused⟩
      · obtain ⟨fields, -, hresult⟩ := Option.map_eq_some_iff.mp houtcome
        cases hresult
        exact absurd rfl hfailed
  · rintro ⟨last, hreaches, hrefused⟩
    induction hreaches using Relation.ReflTransGen.head_induction_on with
    | refl =>
      obtain ⟨hfailed, result, hopened⟩ := hrefused
      refine ⟨hfailed, result, ?_⟩
      rw [Site.outcome, unload_run]
      exact congrArg (Opened.run (unload check)) hopened
    | head hcalls _ ih =>
      obtain ⟨d, vs, build, index, hopened, hcall⟩ := hcalls
      obtain ⟨⟨d1, vs1⟩, hloop⟩ := (unloadElements_fails_iff ih.1 vs d).mpr ⟨index, _, hcall, ih⟩
      refine ⟨ih.1, (d1, build vs1), ?_⟩
      rw [Site.opened] at hopened
      rw [Site.outcome, unload_run, hopened, Opened.run, hloop]
      rfl

end PackStream

end Seabolt
