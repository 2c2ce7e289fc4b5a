import Seabolt.PackStream.Walk
import Seabolt.Signatures

/-!
# Hostile input

What becomes of a value that is refused in the depth of the input.  A List and a
Map hand the status on, a Structure drops it; and the functions for String and
Bytes values do not look at the sign of a size, as those for a List and a Map do.

Both properties are decided by where the refused headers are.
-/

namespace Seabolt

open BoltValue

namespace PackStream

variable {check : CheckStructSignature}

/-! ## Nested failures -/

/-- If a nested call fails, the call fails. -/
def Propagates (check : CheckStructSignature) (site : Site) : Prop :=
  (∃ site' status, Reaches check site site' ∧ site'.Fails check status) →
    ∃ status, site.Fails check status

/-- A refused header is a failure. -/
theorem Site.Refused.fails {site : Site} {status : Int} (h : site.Refused check status) :
    site.Fails check status :=
  (fails_iff site status).mpr ⟨site, .refl, h⟩

/-- A failure is handed on, unless headers are refused in Structures only. -/
theorem propagates_iff (check : CheckStructSignature) (site : Site) :
    Propagates check site ↔
      (∀ site' status, Reaches check site site' → ¬site'.Refused check status) ∨
        ∃ site' status, ReachesOutside check site site' ∧ site'.Refused check status := by
  constructor
  · intro h
    by_cases hnone : ∃ site' status, Reaches check site site' ∧ site'.Refused check status
    · obtain ⟨site', status, hreaches, hrefused⟩ := hnone
      obtain ⟨outer, hfails⟩ := h ⟨site', status, hreaches, hrefused.fails⟩
      obtain ⟨last, houtside, hlast⟩ := (fails_iff site outer).mp hfails
      exact .inr ⟨last, outer, houtside, hlast⟩
    · exact .inl fun site' status hreaches hrefused => hnone ⟨site', status, hreaches, hrefused⟩
  · rintro (hnone | ⟨last, status, houtside, hlast⟩)
    · rintro ⟨site', status, hreaches, hfails⟩
      obtain ⟨last, houtside, hrefused⟩ := (fails_iff site' status).mp hfails
      exact absurd hrefused (hnone last status (hreaches.trans houtside.reaches))
    · exact fun _ => ⟨status, (fails_iff site status).mpr ⟨last, houtside, hlast⟩⟩

/-- A decoder that holds the bytes, and no garbage. -/
def decoderOf (bytes : List UInt8) : Decoder := ⟨(BoltBuffer.create 0).load bytes, []⟩

/-- A Node with a field that is no value. -/
def swallowed : Site := (decoderOf [0xB1, 0x4E, 0xC4], .null)

/-- The status of the call for the only child of an opened value, where it is not looked
at. -/
def Opened.onlyChild (check : CheckStructSignature) : Opened → Option Int
  | .lax d [v] _ => (unload check d v).map Prod.fst
  | _ => none

/-- The call for the field fails. -/
theorem swallowed_field : ∃ site' status,
    Reaches BoltProtocolV1.checkReadableStructSignature swallowed site' ∧
      site'.Fails BoltProtocolV1.checkReadableStructSignature status := by
  have hfield : (swallowed.opened BoltProtocolV1.checkReadableStructSignature).onlyChild
      BoltProtocolV1.checkReadableStructSignature = some BOLT_PROTOCOL_UNEXPECTED_MARKER := by
    decide +kernel
  unfold Opened.onlyChild at hfield
  split at hfield
  · rename_i d v build hopened
    obtain ⟨⟨status, result⟩, hcall, hstatus⟩ := Option.map_eq_some_iff.mp hfield
    cases hstatus
    exact ⟨(d, v), BOLT_PROTOCOL_UNEXPECTED_MARKER,
      .single (.inr ⟨d, [v], build, 0, hopened, .here⟩), by decide, result, hcall⟩
  · cases hfield

theorem unload_swallows :
    ¬Propagates BoltProtocolV1.checkReadableStructSignature swallowed := by
  intro h
  obtain ⟨status, hfailed, result, houtcome⟩ := h swallowed_field
  have hsuccess : (swallowed.outcome BoltProtocolV1.checkReadableStructSignature).map Prod.fst =
      some BOLT_SUCCESS := by
    decide +kernel
  rw [houtcome] at hsuccess
  exact hfailed (Option.some.inj hsuccess)

/-! ## Negative sizes -/

/-- The markers of a type whose values have a size. -/
def sizeMarkers : PackStreamType → Option SizeMarkers
  | .string => some stringMarkers
  | .bytes => some bytesMarkers
  | .list => some listMarkers
  | .map => some mapMarkers
  | _ => none

/-- The size in the header, if there is one, and what is behind it. -/
def Site.size (site : Site) : Option Int × Decoder :=
  match sizeMarkers site.type with
  | some markers => unloadSize markers site.1.peek.2
  | none => (none, site.1.peek.2)

/-- The header announces a negative size. -/
def Site.Hostile (site : Site) : Prop := ∃ n, site.size.1 = some n ∧ n < 0

/-- The value is a List or a Map: the functions for these look at the sign of the size. -/
def Site.ChecksSign (site : Site) : Prop := site.type = .list ∨ site.type = .map

theorem Site.hostile_iff {site : Site} (markers : SizeMarkers)
    (hmarkers : sizeMarkers site.type = some markers) :
    site.Hostile ↔ ∃ n, (unloadSize markers site.1.peek.2).1 = some n ∧ n < 0 := by
  simp only [Site.Hostile, Site.size, hmarkers]

theorem Site.not_hostile {site : Site} (hmarkers : sizeMarkers site.type = none) :
    ¬site.Hostile := by
  rintro ⟨n, hsize, -⟩
  simp only [Site.size, hmarkers] at hsize
  cases hsize

/-- What the functions for String and Bytes values do with a size. -/
theorem chars_eq_none_iff (markers : SizeMarkers) (format : List UInt8 → BoltValue) (d : Decoder)
    (value : BoltValue) :
    (match unloadSize markers d with
      | (some n, d) => unloadChars format n d
      | (none, d) => some (BOLT_PROTOCOL_UNEXPECTED_MARKER, d, value)) = none ↔
      ∃ n, (unloadSize markers d).1 = some n ∧ n < 0 := by
  rcases unloadSize markers d with ⟨_ | n, d1⟩
  · exact iff_of_false nofun (by rintro ⟨n, hsize, -⟩; cases hsize)
  · have hchars : unloadChars format n d1 = none ↔ n < 0 := by
      unfold unloadChars
      split_ifs with hsign
      · exact iff_of_true rfl hsign
      · refine iff_of_false ?_ hsign
        split <;> exact nofun
    exact hchars.trans ⟨fun hsign => ⟨n, rfl, hsign⟩,
      fun ⟨m, hsize, hsign⟩ => Option.some.inj hsize ▸ hsign⟩

/-- Unless the size is negative they return, and with no violation. -/
theorem chars_status {markers : SizeMarkers} {format : List UInt8 → BoltValue} {d d' : Decoder}
    {value value' : BoltValue} {status : Int}
    (h : (match unloadSize markers d with
      | (some n, d) => unloadChars format n d
      | (none, d) => some (BOLT_PROTOCOL_UNEXPECTED_MARKER, d, value)) =
        some (status, d', value')) :
    status ≠ BOLT_PROTOCOL_VIOLATION := by
  rcases hread : unloadSize markers d with ⟨_ | n, d1⟩ <;> rw [hread] at h
  · cases h
    decide
  · dsimp only at h
    unfold unloadChars at h
    split_ifs at h
    split at h <;> cases h <;> decide

/-- What the functions for a List and a Map do with a negative size. -/
theorem openedSized_of_negative {markers : SizeMarkers} {d : Decoder}
    {children : Nat → List BoltValue} {build : List BoltValue → BoltValue} {value : BoltValue}
    (h : ∃ n, (unloadSize markers d).1 = some n ∧ n < 0) :
    openedSized markers children build d value =
      .done (some (BOLT_PROTOCOL_VIOLATION, (unloadSize markers d).2, value)) := by
  obtain ⟨n, hsize, hsign⟩ := h
  unfold openedSized
  rcases hread : unloadSize markers d with ⟨size, d1⟩
  rw [hread] at hsize
  dsimp only at hsize
  subst hsize
  simp only [hsign, if_true]

theorem negative_of_openedSized {markers : SizeMarkers} {d d' : Decoder}
    {children : Nat → List BoltValue} {build : List BoltValue → BoltValue} {value value' : BoltValue}
    (h : openedSized markers children build d value =
      .done (some (BOLT_PROTOCOL_VIOLATION, d', value'))) :
    ∃ n, (unloadSize markers d).1 = some n ∧ n < 0 := by
  unfold openedSized at h
  rcases hread : unloadSize markers d with ⟨_ | n, d1⟩ <;> rw [hread] at h
  · cases h
  · dsimp only at h
    split_ifs at h with hsign
    exact ⟨n, rfl, hsign⟩

section Header

variable {site : Site}

/-- A List or Map of negative size is a violation. -/
theorem Site.Hostile.opened (h : site.Hostile) (hsign : site.ChecksSign) :
    site.opened check = .done (some (BOLT_PROTOCOL_VIOLATION, site.size.2, site.2)) := by
  rw [Site.opened_eq]
  rcases hsign with htype | htype
  · have hnegative := (Site.hostile_iff listMarkers (by rw [htype]; rfl)).mp h
    simp only [Site.size, htype, sizeMarkers]
    exact openedSized_of_negative hnegative
  · have hnegative := (Site.hostile_iff mapMarkers (by rw [htype]; rfl)).mp h
    simp only [Site.size, htype, sizeMarkers, openedType]
    exact openedSized_of_negative hnegative

/-- A String or Bytes value of negative size is fatal. -/
theorem Site.Hostile.fatal (h : site.Hostile) (hsign : ¬site.ChecksSign) :
    site.Fatal check := by
  rw [Site.Fatal, Site.opened_eq]
  rcases htype : site.type with _ | _ | _ | _ | _ | _ | _ | _ | _ | _
  case string =>
    have hnegative := (Site.hostile_iff stringMarkers (by rw [htype]; rfl)).mp h
    exact congrArg Opened.done ((chars_eq_none_iff _ _ _ _).mpr hnegative)
  case bytes =>
    have hnegative := (Site.hostile_iff bytesMarkers (by rw [htype]; rfl)).mp h
    exact congrArg Opened.done ((chars_eq_none_iff _ _ _ _).mpr hnegative)
  case list => exact absurd (.inl htype) hsign
  case map => exact absurd (.inr htype) hsign
  all_goals exact absurd h (Site.not_hostile (by rw [htype]; rfl))

/-- Only a List or Map of negative size is a violation. -/
theorem Site.Refused.hostile (h : site.Refused check BOLT_PROTOCOL_VIOLATION) :
    site.Hostile ∧ site.ChecksSign := by
  obtain ⟨-, ⟨d, value⟩, hopened⟩ := h
  rw [Site.opened_eq] at hopened
  rcases htype : site.type with _ | _ | _ | _ | _ | _ | _ | _ | _ | _ <;> rw [htype] at hopened
  case list =>
    refine ⟨?_, .inl htype⟩
    exact (Site.hostile_iff listMarkers (by rw [htype]; rfl)).mpr
      (negative_of_openedSized hopened)
  case map =>
    rw [openedType] at hopened
    refine ⟨?_, .inr htype⟩
    exact (Site.hostile_iff mapMarkers (by rw [htype]; rfl)).mpr
      (negative_of_openedSized hopened)
  case string => exact absurd rfl (chars_status (Opened.done.inj hopened))
  case bytes => exact absurd rfl (chars_status (Opened.done.inj hopened))
  case struct =>
    simp only [openedType, openedStructure] at hopened
    split_ifs at hopened <;> cases hopened
  case null =>
    simp only [openedType, unloadNull] at hopened
    split_ifs at hopened <;> cases hopened
  case boolean =>
    simp only [openedType, unloadBoolean] at hopened
    split_ifs at hopened <;> cases hopened
  case integer =>
    simp only [openedType, unloadInteger, unloadIntegerBe] at hopened
    split_ifs at hopened <;> cases hopened
  case float =>
    simp only [openedType, unloadFloat] at hopened
    split_ifs at hopened <;> cases hopened
  case reserved => cases hopened

end Header

/-- Negative sizes are violations at any depth: the call that finds one returns at once
and leaves the destination as it was, and the outermost call returns the violation. -/
structure RejectsHostile (check : CheckStructSignature) (site : Site) : Prop where
  reached : ∀ site', Reaches check site site' → site.1.Shrinks site'.1
  left : ∀ status d value, site.outcome check = some (status, d, value) → site.1.Shrinks d
  rejected : ∀ site', Reaches check site site' → site'.Hostile →
    site'.outcome check = some (BOLT_PROTOCOL_VIOLATION, site'.size.2, site'.2) ∧
      site.Fails check BOLT_PROTOCOL_VIOLATION

/-- It is so if no size is negative, or that of a List or Map outside the Structures is. -/
theorem rejectsHostile_iff (check : CheckStructSignature) (site : Site) :
    RejectsHostile check site ↔
      (∀ site', Reaches check site site' → ¬site'.Hostile) ∨
        ∃ site', ReachesOutside check site site' ∧ site'.ChecksSign ∧ site'.Hostile := by
  have hreached : ∀ site', Reaches check site site' → site.1.Shrinks site'.1 :=
    fun _ => Reaches.shrinks
  have hleft : ∀ status d value, site.outcome check = some (status, d, value) →
      site.1.Shrinks d := fun _ _ _ => unload_shrinking _ _ _ _ _
  constructor
  · intro h
    by_cases hnone : ∃ site', Reaches check site site' ∧ site'.Hostile
    · obtain ⟨site', hreaches, hhostile⟩ := hnone
      have hfails := (h.rejected site' hreaches hhostile).2
      obtain ⟨last, houtside, hrefused⟩ := (fails_iff site _).mp hfails
      exact .inr ⟨last, houtside, hrefused.hostile.2, hrefused.hostile.1⟩
    · exact .inl fun site' hreaches hhostile => hnone ⟨site', hreaches, hhostile⟩
  · rintro (hnone | ⟨last, houtside, hsign, hhostile⟩)
    · exact ⟨hreached, hleft, fun site' hreaches hhostile =>
        absurd hhostile (hnone site' hreaches)⟩
    have hrefused : last.Refused check BOLT_PROTOCOL_VIOLATION :=
      ⟨by decide, _, hhostile.opened hsign⟩
    have hfails := (fails_iff site _).mpr ⟨last, houtside, hrefused⟩
    refine ⟨hreached, hleft, fun site' hreaches hhostile' => ⟨?_, hfails⟩⟩
    have hsign' : site'.ChecksSign := by
      by_contra hsign'
      obtain ⟨-, result, houtcome⟩ := hfails
      have hnone := (outcome_eq_none_iff site).mpr ⟨site', hreaches, hhostile'.fatal hsign'⟩
      exact absurd (houtcome.symm.trans hnone) nofun
    have hopened : site'.opened check = _ := hhostile'.opened hsign'
    rw [Site.opened] at hopened
    rw [Site.outcome, unload_run, hopened]
    rfl

/-- A String of size -1. -/
theorem unload_copies_negative :
    ¬RejectsHostile BoltProtocolV1.checkReadableStructSignature
      (decoderOf [0xD2, 0xFF, 0xFF, 0xFF, 0xFF], .null) := by
  intro h
  have hhostile : (Site.size (decoderOf [0xD2, 0xFF, 0xFF, 0xFF, 0xFF], .null)).1 = some (-1) := by
    decide +kernel
  have hviolation := (h.rejected _ .refl ⟨-1, hhostile, by decide⟩).1
  have hnone : Site.outcome BoltProtocolV1.checkReadableStructSignature
      (decoderOf [0xD2, 0xFF, 0xFF, 0xFF, 0xFF], .null) = none := by
    have hisNone : (Site.outcome BoltProtocolV1.checkReadableStructSignature
        (decoderOf [0xD2, 0xFF, 0xFF, 0xFF, 0xFF], .null)).isNone = true := by decide +kernel
    exact Option.isNone_iff_eq_none.mp hisNone
  rw [hnone] at hviolation
  cases hviolation

end PackStream

end Seabolt
