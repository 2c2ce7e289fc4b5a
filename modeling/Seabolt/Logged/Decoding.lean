import Seabolt.Logged.Calls

/-!
# Decoding with logging

`unload` of `packstream.c` with the error that it logs for an unknown marker.  Without it
`unload` is the one of `Seabolt.PackStream.Unload` (`result_unload`).
-/

namespace Seabolt

open BoltValue Erasure

namespace Logged

/-- The loggings of the marker that `unload_string`, `unload_bytes` and `unload` do not
know. -/
def unknownMarker (log : Log) (marker : Nat) (d : Decoder) (value : BoltValue) :
    Logged (Int × Decoder × BoltValue) := do
  log.error "Unknown marker: %d" [.number marker]
  pure (BOLT_PROTOCOL_UNEXPECTED_MARKER, d, value)

section Containers

variable (log : Log) (unloadValue : Decoder → BoltValue → Logged (Int × Decoder × BoltValue))

/-- `unload_string`. -/
def unloadString (d : Decoder) (value : BoltValue) : Logged (Int × Decoder × BoltValue) :=
  match PackStream.unloadSize stringMarkers d with
  | (some n, d) => liftM (PackStream.unloadChars string n d)
  | (none, rest) => unknownMarker log (d.unsigned 1).1 rest value

/-- `unload_bytes`. -/
def unloadBytes (d : Decoder) (value : BoltValue) : Logged (Int × Decoder × BoltValue) :=
  match PackStream.unloadSize bytesMarkers d with
  | (some n, d) => liftM (PackStream.unloadChars bytes n d)
  | (none, rest) => unknownMarker log (d.unsigned 1).1 rest value

/-- The loop of `unload_list`. -/
def unloadElements (d : Decoder) : List BoltValue → Logged (Int × Decoder × List BoltValue)
  | [] => pure (BOLT_SUCCESS, d, [])
  | v :: vs => do
    let (status, d, v) ← unloadValue d v
    if status = BOLT_SUCCESS then
      let (status, d, vs) ← unloadElements d vs
      pure (status, d, v :: vs)
    else pure (status, d, v :: vs)

/-- The loop of `unload_map`. -/
def unloadEntries (d : Decoder) :
    List (BoltValue × BoltValue) → Logged (Int × Decoder × List (BoltValue × BoltValue))
  | [] => pure (BOLT_SUCCESS, d, [])
  | (k, v) :: vs => do
    let (status, d, k) ← unloadValue d k
    if status = BOLT_SUCCESS then
      let (status, d, v) ← unloadValue d v
      if status = BOLT_SUCCESS then
        let (status, d, vs) ← unloadEntries d vs
        pure (status, d, (k, v) :: vs)
      else pure (status, d, (k, v) :: vs)
    else pure (status, d, (k, v) :: vs)

/-- The loop of `unload_structure`: the status of the fields is ignored. -/
def unloadFields (d : Decoder) : List BoltValue → Logged (Decoder × List BoltValue)
  | [] => pure (d, [])
  | v :: vs => do
    let (_, d, v) ← unloadValue d v
    let (d, vs) ← unloadFields d vs
    pure (d, v :: vs)

/-- `unload_list`. -/
def unloadList (d : Decoder) (value : BoltValue) : Logged (Int × Decoder × BoltValue) :=
  match PackStream.unloadSize listMarkers d with
  | (none, d) => pure (BOLT_PROTOCOL_UNEXPECTED_MARKER, d, value)
  | (some n, d) =>
    if n < 0 then pure (BOLT_PROTOCOL_VIOLATION, d, value)
    else do
      let (status, d, elements) ← unloadElements unloadValue d (value.listElements n.toNat)
      pure (status, d, list elements)

/-- `unload_map`. -/
def unloadMap (d : Decoder) (value : BoltValue) : Logged (Int × Decoder × BoltValue) :=
  match PackStream.unloadSize mapMarkers d with
  | (none, d) => pure (BOLT_PROTOCOL_UNEXPECTED_MARKER, d, value)
  | (some n, d) =>
    if n < 0 then pure (BOLT_PROTOCOL_VIOLATION, d, value)
    else do
      let (status, d, entries) ← unloadEntries unloadValue d (value.dictionaryEntries n.toNat)
      pure (status, d, dictionary entries)

/-- `unload_structure`. -/
def unloadStructure (check : CheckStructSignature) (d : Decoder) (value : BoltValue) :
    Logged (Int × Decoder × BoltValue) :=
  let (marker, d) := d.unsigned 1
  if 0xB0 ≤ marker ∧ marker ≤ 0xBF then
    let size := marker &&& 0x0F
    let (x, d) := d.signed 1
    let code := Int16.ofInt x
    if check code then do
      let (d, fields) ← unloadFields unloadValue d (List.replicate size null)
      pure (BOLT_SUCCESS, d, struct code fields)
    else pure (BOLT_PROTOCOL_UNEXPECTED_MARKER, d, value)
  else pure (BOLT_PROTOCOL_UNEXPECTED_MARKER, d, value)

/-- The `switch` of `unload`. -/
def unloadType (check : CheckStructSignature) (type : PackStreamType) (marker : Nat) (d : Decoder)
    (value : BoltValue) : Logged (Int × Decoder × BoltValue) :=
  match type with
  | .null => liftM (PackStream.unloadNull d value)
  | .boolean => liftM (PackStream.unloadBoolean d value)
  | .integer => liftM (PackStream.unloadInteger d value)
  | .float => liftM (PackStream.unloadFloat d value)
  | .string => unloadString log d value
  | .bytes => unloadBytes log d value
  | .list => unloadList unloadValue d value
  | .map => unloadMap unloadValue d value
  | .struct => unloadStructure unloadValue check d value
  | .reserved => unknownMarker log marker d value

end Containers

section

variable (log : Log) (check : CheckStructSignature)

/-- `unload`, with the fuel of its recursion. -/
def unloadAux : Nat → Decoder → BoltValue → Logged (Int × Decoder × BoltValue)
  | 0, _, _ => liftM (none : Outcome (Decoder × BoltValue))
  | fuel + 1, d, value =>
    let (marker, d) := d.peek
    unloadType log (unloadAux fuel) check (markerType marker) marker d value

/-- `unload`. -/
def unload (d : Decoder) (value : BoltValue) : Logged (Int × Decoder × BoltValue) :=
  unloadAux log check d.fuel d value

end

/-! ## Results -/

variable {log : Log} {check : CheckStructSignature}

theorem result_unknownMarker (marker : Nat) (d : Decoder) (value : BoltValue) :
    result (unknownMarker log marker d value) =
      some (BOLT_PROTOCOL_UNEXPECTED_MARKER, d, value) := by
  simp only [unknownMarker, result_bind, Log.result_error, Option.bind_some, result_pure]

theorem result_unloadString (d : Decoder) (value : BoltValue) :
    result (unloadString log d value) = PackStream.unloadString d value := by
  unfold unloadString PackStream.unloadString
  rcases PackStream.unloadSize stringMarkers d with ⟨size, rest⟩
  cases size with
  | none => exact result_unknownMarker _ rest value
  | some n => exact result_liftM _

theorem result_unloadBytes (d : Decoder) (value : BoltValue) :
    result (unloadBytes log d value) = PackStream.unloadBytes d value := by
  unfold unloadBytes PackStream.unloadBytes
  rcases PackStream.unloadSize bytesMarkers d with ⟨size, rest⟩
  cases size with
  | none => exact result_unknownMarker _ rest value
  | some n => exact result_liftM _

section Loops

variable {f : Decoder → BoltValue → Logged (Int × Decoder × BoltValue)}
  {g : Decoder → BoltValue → PackStream.Unloaded}

theorem result_unloadElements (h : ∀ d v, result (f d v) = g d v) (vs : List BoltValue) :
    ∀ d, result (unloadElements f d vs) = PackStream.unloadElements g d vs := by
  induction vs with
  | nil => exact fun _ => rfl
  | cons v vs ih =>
    intro d
    rw [unloadElements, PackStream.unloadElements, result_bind, h]
    cases g d v with
    | none => rfl
    | some outcome =>
      obtain ⟨status, d, v⟩ := outcome
      simp only [Option.bind_some, result_ite, result_bind, ih, result_pure]
      exact if_congr Iff.rfl Option.map_eq_bind.symm rfl

theorem result_unloadEntries (h : ∀ d v, result (f d v) = g d v)
    (vs : List (BoltValue × BoltValue)) :
    ∀ d, result (unloadEntries f d vs) = PackStream.unloadEntries g d vs := by
  induction vs with
  | nil => exact fun _ => rfl
  | cons entry vs ih =>
    obtain ⟨k, v⟩ := entry
    intro d
    rw [unloadEntries, PackStream.unloadEntries, result_bind, h]
    cases g d k with
    | none => rfl
    | some outcome =>
      obtain ⟨status, d, k⟩ := outcome
      simp only [Option.bind_some, result_ite, result_bind, h, result_pure]
      refine if_congr Iff.rfl ?_ rfl
      cases g d v with
      | none => rfl
      | some outcome =>
        obtain ⟨status, d, v⟩ := outcome
        simp only [Option.bind_some, ih]
        exact if_congr Iff.rfl Option.map_eq_bind.symm rfl

theorem result_unloadFields (h : ∀ d v, result (f d v) = g d v) (vs : List BoltValue) :
    ∀ d, result (unloadFields f d vs) = PackStream.unloadFields g d vs := by
  induction vs with
  | nil => exact fun _ => rfl
  | cons v vs ih =>
    intro d
    rw [unloadFields, PackStream.unloadFields, result_bind, h]
    cases g d v with
    | none => rfl
    | some outcome =>
      obtain ⟨status, d, v⟩ := outcome
      simp only [Option.bind_some, result_bind, ih, result_pure]
      exact Option.map_eq_bind.symm

theorem result_unloadList (h : ∀ d v, result (f d v) = g d v) (d : Decoder) (value : BoltValue) :
    result (unloadList f d value) = PackStream.unloadList g d value := by
  unfold unloadList PackStream.unloadList
  rcases PackStream.unloadSize listMarkers d with ⟨size, d⟩
  cases size with
  | none => rfl
  | some n =>
    simp only [result_ite, result_bind, result_unloadElements h, result_pure]
    exact if_congr Iff.rfl rfl Option.map_eq_bind.symm

theorem result_unloadMap (h : ∀ d v, result (f d v) = g d v) (d : Decoder) (value : BoltValue) :
    result (unloadMap f d value) = PackStream.unloadMap g d value := by
  unfold unloadMap PackStream.unloadMap
  rcases PackStream.unloadSize mapMarkers d with ⟨size, d⟩
  cases size with
  | none => rfl
  | some n =>
    simp only [result_ite, result_bind, result_unloadEntries h, result_pure]
    exact if_congr Iff.rfl rfl Option.map_eq_bind.symm

theorem result_unloadStructure (h : ∀ d v, result (f d v) = g d v) (d : Decoder)
    (value : BoltValue) :
    result (unloadStructure f check d value) = PackStream.unloadStructure g check d value := by
  simp only [unloadStructure, PackStream.unloadStructure, result_ite, result_bind,
    result_unloadFields h, result_pure]
  refine if_congr Iff.rfl (if_congr Iff.rfl ?_ rfl) rfl
  exact Option.map_eq_bind.symm

theorem result_unloadType (h : ∀ d v, result (f d v) = g d v) (type : PackStreamType)
    (marker : Nat) (d : Decoder) (value : BoltValue) :
    result (unloadType log f check type marker d value) =
      PackStream.unloadType g check type d value := by
  cases type with
  | string => exact result_unloadString d value
  | bytes => exact result_unloadBytes d value
  | list => exact result_unloadList h d value
  | map => exact result_unloadMap h d value
  | struct => exact result_unloadStructure h d value
  | reserved => exact result_unknownMarker marker d value
  | _ => exact result_liftM _

end Loops

theorem result_unloadAux (fuel : Nat) : ∀ d value,
    result (unloadAux log check fuel d value) = PackStream.unloadAux check fuel d value := by
  induction fuel with
  | zero => exact fun _ _ => rfl
  | succ fuel ih => exact fun d value => result_unloadType ih _ _ _ _

/-- Without what it writes `unload` is the one of `packstream.c` without a logger. -/
theorem result_unload (d : Decoder) (value : BoltValue) :
    result (unload log check d value) = PackStream.unload check d value :=
  result_unloadAux d.fuel d value

end Logged

end Seabolt
