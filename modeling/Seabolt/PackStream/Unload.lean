import Seabolt.PackStream.Load

/-!
# The PackStream decoder

`unload` of `packstream.c`.  The decoder ignores the status of the typed
buffer reads, so a read that fails leaves its local variable as it was found:
`Decoder` carries the garbage that such variables hold, and `Decoder.unsigned`
is a read into an uninitialised local.

A String or Bytes value of negative size makes `BoltBuffer_unload` copy a
negative number of bytes, which is the result `none`.

The recursion of the source is on the nesting of the input.  The model
recurses on a fuel of one more than the bytes and the garbage that are left:
every nested call takes one of them.
-/

namespace Seabolt

open BoltValue

/-- `enum PackStreamType`. -/
inductive PackStreamType where
  | null | boolean | integer | float | string | bytes | list | map | struct | reserved
  deriving DecidableEq, Repr

/-- `marker_type`. -/
def markerType (marker : Nat) : PackStreamType :=
  if marker < 0x80 ∨ (0xC8 ≤ marker ∧ marker ≤ 0xCB) ∨ 0xF0 ≤ marker then .integer
  else if (0x80 ≤ marker ∧ marker ≤ 0x8F) ∨ (0xD0 ≤ marker ∧ marker ≤ 0xD2) then .string
  else if (0x90 ≤ marker ∧ marker ≤ 0x9F) ∨ (0xD4 ≤ marker ∧ marker ≤ 0xD6) then .list
  else if (0xA0 ≤ marker ∧ marker ≤ 0xAF) ∨ (0xD8 ≤ marker ∧ marker ≤ 0xDA) then .map
  else if (0xB0 ≤ marker ∧ marker ≤ 0xBF) ∨ (0xDC ≤ marker ∧ marker ≤ 0xDD) then .struct
  else if marker = 0xC0 then .null
  else if marker = 0xC1 then .float
  else if marker = 0xC2 ∨ marker = 0xC3 then .boolean
  else if marker = 0xCC ∨ marker = 0xCD ∨ marker = 0xCE then .bytes
  else .reserved

/-- What the decoder reads from: the receive buffer, and the garbage in its
uninitialised locals. -/
structure Decoder where
  buffer : BoltBuffer
  garbage : List UInt8

namespace Decoder

/-- An uninitialised local of `n` bytes. -/
def uninitialised (n : Nat) (d : Decoder) : List UInt8 × Decoder :=
  let (raw, garbage) := indeterminate n d.garbage
  (raw, { d with garbage := garbage })

/-- A typed unload of `n` bytes into an uninitialised local, whose status is
ignored. -/
def unsigned (n : Nat) (d : Decoder) : Nat × Decoder :=
  match d.buffer.unloadBe n with
  | some (x, buffer) => (x, { d with buffer := buffer })
  | none =>
    let (raw, d) := d.uninitialised n
    (beValue raw, d)

/-- The same for a signed local. -/
def signed (n : Nat) (d : Decoder) : Int × Decoder :=
  let (x, d) := d.unsigned n
  (ByteOrder.signed n x, d)

/-- `BoltBuffer_peek_u8` into an uninitialised local, whose status is
ignored. -/
def peek (d : Decoder) : Nat × Decoder :=
  match d.buffer.peekU8 with
  | some x => (x.toNat, d)
  | none =>
    let (raw, d) := d.uninitialised 1
    (beValue raw, d)

/-- How much there is left to decode from. -/
def fuel (d : Decoder) : Nat := d.buffer.unloadable + d.garbage.length + 1

end Decoder

namespace PackStream

/-- The decoder and the value it writes to. -/
abbrev Unloaded := Outcome (Decoder × BoltValue)

/-- `unload_null`. -/
def unloadNull (d : Decoder) (value : BoltValue) : Unloaded :=
  let (marker, d) := d.unsigned 1
  if marker = 0xC0 then some (BOLT_SUCCESS, d, null)
  else some (BOLT_PROTOCOL_UNEXPECTED_MARKER, d, value)

/-- `unload_boolean`. -/
def unloadBoolean (d : Decoder) (value : BoltValue) : Unloaded :=
  let (marker, d) := d.unsigned 1
  if marker = 0xC3 then some (BOLT_SUCCESS, d, boolean 1)
  else if marker = 0xC2 then some (BOLT_SUCCESS, d, boolean 0)
  else some (BOLT_PROTOCOL_UNEXPECTED_MARKER, d, value)

/-- The last branches of `unload_integer`: read `n` bytes and format. -/
def unloadIntegerBe (n : Nat) (d : Decoder) : Unloaded :=
  let (x, d) := d.signed n
  some (BOLT_SUCCESS, d, integer (Int64.ofInt x))

/-- `unload_integer`. -/
def unloadInteger (d : Decoder) (value : BoltValue) : Unloaded :=
  let (marker, d) := d.unsigned 1
  if marker < 0x80 then some (BOLT_SUCCESS, d, integer (Int64.ofInt marker))
  else if 0xF0 ≤ marker then
    some (BOLT_SUCCESS, d, integer (Int64.ofInt ((marker : Int) - 0x100)))
  else if marker = 0xC8 then unloadIntegerBe 1 d
  else if marker = 0xC9 then unloadIntegerBe 2 d
  else if marker = 0xCA then unloadIntegerBe 4 d
  else if marker = 0xCB then unloadIntegerBe 8 d
  else some (BOLT_PROTOCOL_UNEXPECTED_MARKER, d, value)

/-- `unload_float`. -/
def unloadFloat (d : Decoder) (value : BoltValue) : Unloaded :=
  let (marker, d) := d.unsigned 1
  if marker = 0xC1 then
    let (x, d) := d.unsigned 8
    some (BOLT_SUCCESS, d, float (UInt64.ofNat x))
  else some (BOLT_PROTOCOL_UNEXPECTED_MARKER, d, value)

/-- The marker and the size that `unload_string`, `unload_bytes`,
`unload_list` and `unload_map` read first; `none` for another marker. -/
def unloadSize (markers : SizeMarkers) (d : Decoder) : Option Int × Decoder :=
  let (marker, d) := d.unsigned 1
  if ∃ tiny ∈ markers.tiny, tiny ≤ marker ∧ marker ≤ tiny + 0x0F then
    (some (marker &&& 0x0F : Nat), d)
  else if marker = markers.one then
    let (size, d) := d.unsigned 1
    (some size, d)
  else if marker = markers.two then
    let (size, d) := d.unsigned 2
    (some size, d)
  else if marker = markers.four then
    let (size, d) := d.signed 4
    (some size, d)
  else (none, d)

/-- Format the value with `size` bytes of uninitialised data and unload that
many bytes into it.  The status of `BoltBuffer_unload` is ignored. -/
def unloadChars (format : List UInt8 → BoltValue) (size : Int) (d : Decoder) : Unloaded :=
  if size < 0 then none
  else
    match d.buffer.unload size.toNat with
    | some (chars, buffer) => some (BOLT_SUCCESS, { d with buffer := buffer }, format chars)
    | none =>
      let (chars, d) := d.uninitialised size.toNat
      some (BOLT_SUCCESS, d, format chars)

/-- `unload_string`. -/
def unloadString (d : Decoder) (value : BoltValue) : Unloaded :=
  match unloadSize stringMarkers d with
  | (some n, d) => unloadChars string n d
  | (none, d) => some (BOLT_PROTOCOL_UNEXPECTED_MARKER, d, value)

/-- `unload_bytes`. -/
def unloadBytes (d : Decoder) (value : BoltValue) : Unloaded :=
  match unloadSize bytesMarkers d with
  | (some n, d) => unloadChars bytes n d
  | (none, d) => some (BOLT_PROTOCOL_UNEXPECTED_MARKER, d, value)

section Containers

variable (unloadValue : Decoder → BoltValue → Unloaded)

/-- The loop of `unload_list` over the children of the value: it stops at the
first child that fails. -/
def unloadElements (d : Decoder) : List BoltValue → Outcome (Decoder × List BoltValue)
  | [] => some (BOLT_SUCCESS, d, [])
  | v :: vs =>
    match unloadValue d v with
    | none => none
    | some (status, d, v) =>
      if status = BOLT_SUCCESS then
        (unloadElements d vs).map fun (status, d, vs) => (status, d, v :: vs)
      else some (status, d, v :: vs)

/-- The loop of `unload_map`: the key, then the value, of every entry. -/
def unloadEntries (d : Decoder) :
    List (BoltValue × BoltValue) → Outcome (Decoder × List (BoltValue × BoltValue))
  | [] => some (BOLT_SUCCESS, d, [])
  | (k, v) :: vs =>
    match unloadValue d k with
    | none => none
    | some (status, d, k) =>
      if status = BOLT_SUCCESS then
        match unloadValue d v with
        | none => none
        | some (status, d, v) =>
          if status = BOLT_SUCCESS then
            (unloadEntries d vs).map fun (status, d, vs) => (status, d, (k, v) :: vs)
          else some (status, d, (k, v) :: vs)
      else some (status, d, (k, v) :: vs)

/-- The loop of `unload_structure`: the status of the fields is ignored. -/
def unloadFields (d : Decoder) : List BoltValue → Option (Decoder × List BoltValue)
  | [] => some (d, [])
  | v :: vs =>
    match unloadValue d v with
    | none => none
    | some (_, d, v) => (unloadFields d vs).map fun (d, vs) => (d, v :: vs)

/-- `unload_list`. -/
def unloadList (d : Decoder) (value : BoltValue) : Unloaded :=
  match unloadSize listMarkers d with
  | (none, d) => some (BOLT_PROTOCOL_UNEXPECTED_MARKER, d, value)
  | (some n, d) =>
    if n < 0 then some (BOLT_PROTOCOL_VIOLATION, d, value)
    else (unloadElements unloadValue d (value.listElements n.toNat)).map
      fun (status, d, elements) => (status, d, list elements)

/-- `unload_map`. -/
def unloadMap (d : Decoder) (value : BoltValue) : Unloaded :=
  match unloadSize mapMarkers d with
  | (none, d) => some (BOLT_PROTOCOL_UNEXPECTED_MARKER, d, value)
  | (some n, d) =>
    if n < 0 then some (BOLT_PROTOCOL_VIOLATION, d, value)
    else (unloadEntries unloadValue d (value.dictionaryEntries n.toNat)).map
      fun (status, d, entries) => (status, d, dictionary entries)

/-- `unload_structure`. -/
def unloadStructure (check : CheckStructSignature) (d : Decoder) (value : BoltValue) :
    Unloaded :=
  let (marker, d) := d.unsigned 1
  if 0xB0 ≤ marker ∧ marker ≤ 0xBF then
    let size := marker &&& 0x0F
    let (x, d) := d.signed 1
    let code := Int16.ofInt x
    if check code then
      (unloadFields unloadValue d (List.replicate size null)).map
        fun (d, fields) => (BOLT_SUCCESS, d, struct code fields)
    else some (BOLT_PROTOCOL_UNEXPECTED_MARKER, d, value)
  else some (BOLT_PROTOCOL_UNEXPECTED_MARKER, d, value)

/-- The `switch` of `unload`. -/
def unloadType (check : CheckStructSignature) (type : PackStreamType) (d : Decoder)
    (value : BoltValue) : Unloaded :=
  match type with
  | .null => unloadNull d value
  | .boolean => unloadBoolean d value
  | .integer => unloadInteger d value
  | .float => unloadFloat d value
  | .string => unloadString d value
  | .bytes => unloadBytes d value
  | .list => unloadList unloadValue d value
  | .map => unloadMap unloadValue d value
  | .struct => unloadStructure unloadValue check d value
  | .reserved => some (BOLT_PROTOCOL_UNEXPECTED_MARKER, d, value)

end Containers

/-- `unload`, with the fuel of its recursion. -/
def unloadAux (check : CheckStructSignature) : Nat → Decoder → BoltValue → Unloaded
  | 0, _, _ => none
  | fuel + 1, d, value =>
    let (marker, d) := d.peek
    unloadType (unloadAux check fuel) check (markerType marker) d value

/-- `unload`. -/
def unload (check : CheckStructSignature) (d : Decoder) (value : BoltValue) : Unloaded :=
  unloadAux check d.fuel d value

end PackStream

end Seabolt
