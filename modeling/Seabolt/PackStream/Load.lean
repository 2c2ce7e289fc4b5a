import Seabolt.Buffering
import Seabolt.Error
import Seabolt.Values

/-!
# The PackStream encoder

`load` of `packstream.c` and the loaders of the single types.  The three
header loaders of Strings, Lists and Maps are one definition over the markers
of the type, and `load_bytes` is the same header without the tiny form.

Loading a Dictionary whose key is not a String fails the assertion of
`BoltDictionary_get_key`, which is the result `none`.
-/

namespace Seabolt

open BoltValue

/-- The predicate on structure signatures that a protocol version supplies. -/
abbrev CheckStructSignature := Int16 → Bool

/-- The markers of a sized type: the first of the sixteen tiny ones, if the
type has them, and those before a size of one, two and four bytes. -/
structure SizeMarkers where
  tiny : Option Nat
  one : Nat
  two : Nat
  four : Nat

def stringMarkers : SizeMarkers := ⟨some 0x80, 0xD0, 0xD1, 0xD2⟩
def listMarkers : SizeMarkers := ⟨some 0x90, 0xD4, 0xD5, 0xD6⟩
def mapMarkers : SizeMarkers := ⟨some 0xA0, 0xD8, 0xD9, 0xDA⟩
def bytesMarkers : SizeMarkers := ⟨none, 0xCC, 0xCD, 0xCE⟩

/-- `(int8_t) size`. -/
def toInt8 (size : Int) : Int := Int.bmod size 0x100

namespace PackStream

/-- `load_null`. -/
def loadNull (buffer : BoltBuffer) : Outcome BoltBuffer :=
  some (BOLT_SUCCESS, buffer.loadU8 0xC0)

/-- `load_boolean`. -/
def loadBoolean (buffer : BoltBuffer) (value : UInt8) : Outcome BoltBuffer :=
  some (BOLT_SUCCESS, buffer.loadU8 (if value = 0 then 0xC2 else 0xC3))

/-- `load_integer`. -/
def loadInteger (buffer : BoltBuffer) (value : Int) : Outcome BoltBuffer :=
  if -0x10 ≤ value ∧ value < 0x80 then
    some (BOLT_SUCCESS, buffer.loadI8 value)
  else if -0x80 ≤ value ∧ value ≤ 0x7F then
    some (BOLT_SUCCESS, (buffer.loadU8 0xC8).loadI8 value)
  else if -0x8000 ≤ value ∧ value ≤ 0x7FFF then
    some (BOLT_SUCCESS, (buffer.loadU8 0xC9).loadI16be value)
  else if -0x80000000 ≤ value ∧ value ≤ 0x7FFFFFFF then
    some (BOLT_SUCCESS, (buffer.loadU8 0xCA).loadI32be value)
  else
    some (BOLT_SUCCESS, (buffer.loadU8 0xCB).loadI64be value)

/-- `load_float`. -/
def loadFloat (buffer : BoltBuffer) (value : UInt64) : Outcome BoltBuffer :=
  some (BOLT_SUCCESS, (buffer.loadU8 0xC1).loadF64be value)

/-- The body that `load_string_header`, `load_list_header` and
`load_map_header` share. -/
def loadSizeHeader (markers : SizeMarkers) (buffer : BoltBuffer) (size : Int) :
    Outcome BoltBuffer :=
  if size < 0 then
    some (BOLT_PROTOCOL_VIOLATION, buffer)
  else if markers.tiny.isSome ∧ size < 0x10 then
    some (BOLT_SUCCESS, buffer.loadU8 (UInt8.ofNat (markers.tiny.getD 0 + size.toNat)))
  else if size < 0x100 then
    some (BOLT_SUCCESS, (buffer.loadU8 (UInt8.ofNat markers.one)).loadU8 (UInt8.ofNat size.toNat))
  else if size < 0x10000 then
    some (BOLT_SUCCESS, (buffer.loadU8 (UInt8.ofNat markers.two)).loadU16be size)
  else
    some (BOLT_SUCCESS, (buffer.loadU8 (UInt8.ofNat markers.four)).loadI32be size)

/-- `load_string_header`. -/
def loadStringHeader : BoltBuffer → Int → Outcome BoltBuffer := loadSizeHeader stringMarkers

/-- `load_list_header`. -/
def loadListHeader : BoltBuffer → Int → Outcome BoltBuffer := loadSizeHeader listMarkers

/-- `load_map_header`. -/
def loadMapHeader : BoltBuffer → Int → Outcome BoltBuffer := loadSizeHeader mapMarkers

/-- `load_bytes`. -/
def loadBytes (buffer : BoltBuffer) (string : List UInt8) (size : Int) : Outcome BoltBuffer :=
  Outcome.TRY (loadSizeHeader bytesMarkers buffer size) fun buffer =>
    some (BOLT_SUCCESS, buffer.load string)

/-- `load_string`. -/
def loadString (buffer : BoltBuffer) (string : List UInt8) (size : Int) : Outcome BoltBuffer :=
  Outcome.TRY (loadStringHeader buffer size) fun buffer =>
    some (BOLT_SUCCESS, buffer.load string)

/-- `load_structure_header`.  The caller narrows the size to `int8_t`. -/
def loadStructureHeader (buffer : BoltBuffer) (code : Int16) (size : Int) :
    Outcome BoltBuffer :=
  if code < 0 ∨ size < 0 ∨ 0x10 ≤ size then
    some (BOLT_PROTOCOL_VIOLATION, buffer)
  else
    some (BOLT_SUCCESS, (buffer.loadU8 (UInt8.ofNat (0xB0 + size.toNat))).loadI8 code.toInt)

/-- Load a dictionary key: `BoltDictionary_get_key` asserts that it is a
String. -/
def loadKey (buffer : BoltBuffer) : BoltValue → Outcome BoltBuffer
  | string data => loadString buffer data data.length
  | negative .string n => loadString buffer [] (-(n + 1 : Nat))
  | _ => none

mutual

/-- `load`. -/
def load (check : CheckStructSignature) : BoltValue → BoltBuffer → Outcome BoltBuffer
  | null, buffer => loadNull buffer
  | list elements, buffer =>
    Outcome.TRY (loadListHeader buffer elements.length) fun buffer =>
      loadElements check elements buffer
  | boolean data, buffer => loadBoolean buffer (toBit data)
  | bytes data, buffer => loadBytes buffer data data.length
  | string data, buffer => loadString buffer data data.length
  | dictionary entries, buffer =>
    Outcome.TRY (loadMapHeader buffer entries.length) fun buffer =>
      loadEntries check entries buffer
  | integer data, buffer => loadInteger buffer data.toInt
  | float data, buffer => loadFloat buffer data
  | struct code fields, buffer =>
    if check code then
      Outcome.TRY (loadStructureHeader buffer code (toInt8 fields.length)) fun buffer =>
        loadElements check fields buffer
    else some (BOLT_PROTOCOL_UNSUPPORTED_TYPE, buffer)
  | negative .string n, buffer => loadString buffer [] (-(n + 1 : Nat))
  | negative .bytes n, buffer => loadBytes buffer [] (-(n + 1 : Nat))
  | negative (.struct code) n, buffer =>
    if check code then loadStructureHeader buffer code (toInt8 (-(n + 1 : Nat)))
    else some (BOLT_PROTOCOL_UNSUPPORTED_TYPE, buffer)

/-- The loop of `load` over list elements or structure fields. -/
def loadElements (check : CheckStructSignature) : List BoltValue → BoltBuffer → Outcome BoltBuffer
  | [], buffer => some (BOLT_SUCCESS, buffer)
  | v :: vs, buffer =>
    Outcome.TRY (load check v buffer) fun buffer => loadElements check vs buffer

/-- The loop of `load` over dictionary entries. -/
def loadEntries (check : CheckStructSignature) :
    List (BoltValue × BoltValue) → BoltBuffer → Outcome BoltBuffer
  | [], buffer => some (BOLT_SUCCESS, buffer)
  | (k, v) :: vs, buffer =>
    Outcome.TRY (loadKey buffer k) fun buffer =>
      Outcome.TRY (load check v buffer) fun buffer => loadEntries check vs buffer

end

end PackStream

end Seabolt
