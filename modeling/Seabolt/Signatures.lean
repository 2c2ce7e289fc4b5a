import Seabolt.PackStream.Load

/-!
# Message codes and structure signatures

The codes of `v1.h`, `v2.h` and `v3.h`, and the predicates on signatures
that each protocol version passes to the encoder and to the decoder.  The
codes of responses and of the graph types are the same in all versions.
-/

namespace Seabolt

/-! ## Codes -/

abbrev BOLT_V1_INIT : Int16 := 0x01
abbrev BOLT_V1_ACK_FAILURE : Int16 := 0x0E
abbrev BOLT_V1_RESET : Int16 := 0x0F
abbrev BOLT_V1_RUN : Int16 := 0x10
abbrev BOLT_V1_DISCARD_ALL : Int16 := 0x2F
abbrev BOLT_V1_PULL_ALL : Int16 := 0x3F

abbrev BOLT_V1_NODE : Int16 := 0x4E
abbrev BOLT_V1_RELATIONSHIP : Int16 := 0x52
abbrev BOLT_V1_UNBOUND_RELATIONSHIP : Int16 := 0x72
abbrev BOLT_V1_PATH : Int16 := 0x50

abbrev BOLT_V1_SUCCESS : Int16 := 0x70
abbrev BOLT_V1_RECORD : Int16 := 0x71
abbrev BOLT_V1_IGNORED : Int16 := 0x7E
abbrev BOLT_V1_FAILURE : Int16 := 0x7F

abbrev BOLT_V2_POINT_2D : Int16 := 0x58
abbrev BOLT_V2_POINT_3D : Int16 := 0x59
abbrev BOLT_V2_LOCAL_DATE : Int16 := 0x44
abbrev BOLT_V2_LOCAL_TIME : Int16 := 0x74
abbrev BOLT_V2_LOCAL_DATE_TIME : Int16 := 0x64
abbrev BOLT_V2_OFFSET_TIME : Int16 := 0x54
abbrev BOLT_V2_OFFSET_DATE_TIME : Int16 := 0x46
abbrev BOLT_V2_ZONED_DATE_TIME : Int16 := 0x66
abbrev BOLT_V2_DURATION : Int16 := 0x45

abbrev BOLT_V3_HELLO : Int16 := 0x01
abbrev BOLT_V3_GOODBYE : Int16 := 0x02
abbrev BOLT_V3_RUN : Int16 := 0x10
abbrev BOLT_V3_BEGIN : Int16 := 0x11
abbrev BOLT_V3_COMMIT : Int16 := 0x12
abbrev BOLT_V3_ROLLBACK : Int16 := 0x13
abbrev BOLT_V3_DISCARD_ALL : Int16 := 0x2F
abbrev BOLT_V3_PULL_ALL : Int16 := 0x3F
abbrev BOLT_V3_RESET : Int16 := 0x0F

/-! ## Signatures -/

/-- The structure types of `v2.h`, which `v3.h` repeats. -/
def v2Structures : List Int16 :=
  [BOLT_V2_POINT_2D, BOLT_V2_POINT_3D, BOLT_V2_LOCAL_DATE, BOLT_V2_LOCAL_DATE_TIME,
    BOLT_V2_LOCAL_TIME, BOLT_V2_OFFSET_TIME, BOLT_V2_OFFSET_DATE_TIME, BOLT_V2_ZONED_DATE_TIME,
    BOLT_V2_DURATION]

/-- `BoltProtocolV1_check_readable_struct_signature`. -/
def BoltProtocolV1.checkReadableStructSignature : CheckStructSignature := fun signature =>
  [BOLT_V1_SUCCESS, BOLT_V1_FAILURE, BOLT_V1_IGNORED, BOLT_V1_RECORD, BOLT_V1_NODE,
    BOLT_V1_RELATIONSHIP, BOLT_V1_UNBOUND_RELATIONSHIP, BOLT_V1_PATH].contains signature

/-- `BoltProtocolV1_check_writable_struct_signature`. -/
def BoltProtocolV1.checkWritableStructSignature : CheckStructSignature := fun signature =>
  [BOLT_V1_INIT, BOLT_V1_ACK_FAILURE, BOLT_V1_RESET, BOLT_V1_RUN, BOLT_V1_DISCARD_ALL,
    BOLT_V1_PULL_ALL].contains signature

/-- `BoltProtocolV2_check_readable_struct_signature`. -/
def BoltProtocolV2.checkReadableStructSignature : CheckStructSignature := fun signature =>
  BoltProtocolV1.checkReadableStructSignature signature || v2Structures.contains signature

/-- `BoltProtocolV2_check_writable_struct_signature`. -/
def BoltProtocolV2.checkWritableStructSignature : CheckStructSignature := fun signature =>
  BoltProtocolV1.checkWritableStructSignature signature || v2Structures.contains signature

/-- `BoltProtocolV3_check_readable_struct_signature`. -/
def BoltProtocolV3.checkReadableStructSignature : CheckStructSignature := fun signature =>
  ([BOLT_V1_SUCCESS, BOLT_V1_FAILURE, BOLT_V1_IGNORED, BOLT_V1_RECORD, BOLT_V1_NODE,
    BOLT_V1_RELATIONSHIP, BOLT_V1_UNBOUND_RELATIONSHIP, BOLT_V1_PATH] ++
      v2Structures).contains signature

/-- `BoltProtocolV3_check_writable_struct_signature`. -/
def BoltProtocolV3.checkWritableStructSignature : CheckStructSignature := fun signature =>
  ([BOLT_V3_RESET, BOLT_V3_DISCARD_ALL, BOLT_V3_PULL_ALL] ++ v2Structures ++
    [BOLT_V3_HELLO, BOLT_V3_RUN, BOLT_V3_BEGIN, BOLT_V3_COMMIT, BOLT_V3_ROLLBACK,
      BOLT_V3_GOODBYE]).contains signature

/-- The protocol versions. -/
inductive ProtocolVersion where
  | v1 | v2 | v3
  deriving DecidableEq, Repr

/-- `protocol->check_readable_struct`. -/
def ProtocolVersion.checkReadableStruct : ProtocolVersion → CheckStructSignature
  | .v1 => BoltProtocolV1.checkReadableStructSignature
  | .v2 => BoltProtocolV2.checkReadableStructSignature
  | .v3 => BoltProtocolV3.checkReadableStructSignature

/-- `protocol->check_writable_struct`. -/
def ProtocolVersion.checkWritableStruct : ProtocolVersion → CheckStructSignature
  | .v1 => BoltProtocolV1.checkWritableStructSignature
  | .v2 => BoltProtocolV2.checkWritableStructSignature
  | .v3 => BoltProtocolV3.checkWritableStructSignature

private theorem range_of_contains {codes : List Int16} {code : Int16}
    (hcodes : codes.all fun c => decide (0 ≤ c.toInt ∧ c.toInt < 0x80)) (h : codes.contains code) :
    0 ≤ code.toInt ∧ code.toInt < 0x80 :=
  of_decide_eq_true (List.all_eq_true.mp hcodes code (List.contains_iff_mem.mp h))

/-- Every writable signature fits into the signed byte of a structure
header. -/
theorem ProtocolVersion.checkWritableStruct_range (version : ProtocolVersion) {code : Int16}
    (h : version.checkWritableStruct code) : 0 ≤ code.toInt ∧ code.toInt < 0x80 := by
  cases version with
  | v1 => exact range_of_contains (by decide) h
  | v2 =>
    rcases Bool.or_eq_true_iff.mp h with h | h
    · exact range_of_contains (by decide) h
    · exact range_of_contains (by decide) h
  | v3 => exact range_of_contains (by decide) h

/-- So does every readable signature. -/
theorem ProtocolVersion.checkReadableStruct_range (version : ProtocolVersion) {code : Int16}
    (h : version.checkReadableStruct code) : 0 ≤ code.toInt ∧ code.toInt < 0x80 := by
  cases version with
  | v1 => exact range_of_contains (by decide) h
  | v2 =>
    rcases Bool.or_eq_true_iff.mp h with h | h
    · exact range_of_contains (by decide) h
    · exact range_of_contains (by decide) h
  | v3 => exact range_of_contains (by decide) h

end Seabolt
