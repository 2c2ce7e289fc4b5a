import Seabolt.PackStream.Decode

/-!
# How far the decoder reads

The decoder also takes bytes that are not an encoding.  It stops in the
middle of a List or Map at the first part that fails, and it ignores the
failure of a field of a Structure.

`Takes` is the grammar of the bytes that `unload` reads to their end, and no
further; `yields_of_takes` says that it does, and that what it makes of them
depends on nothing else.
-/

namespace Seabolt

namespace PackStream

/-! ## The grammar -/

/-- The header announces that many values: the elements of a List, or the
keys and the values of a Map. -/
inductive Announces : Nat → List UInt8 → Prop where
  | list {n : Nat} {header : List UInt8} (hheader : SizeHeader listMarkers n header) :
      Announces n header
  | map {n : Nat} {header : List UInt8} (hheader : SizeHeader mapMarkers n header) :
      Announces (2 * n) header

/-- A header with a negative size. -/
def negativeHeader (markers : SizeMarkers) (size : Int) : List UInt8 :=
  UInt8.ofNat markers.four :: beBytes 4 (ByteOrder.unsigned 4 size)

/-- The code of a Structure, which is read as a signed byte. -/
def structureCode (code : UInt8) : Int16 := Int16.ofInt (ByteOrder.signed 1 code.toNat)

/-- The decoder reads exactly the bytes, and succeeds or not. -/
inductive Takes (check : CheckStructSignature) : List UInt8 → Bool → Prop where
  | value {v : BoltValue} {bytes : List UInt8} (h : Encodes check v bytes) :
      Takes check bytes true
  | container {n : Nat} {header : List UInt8} (hheader : Announces n header)
      (parts : List (List UInt8)) (hlength : parts.length = n)
      (hparts : ∀ p ∈ parts, Takes check p true) : Takes check (header ++ parts.flatten) true
  | stopped {n : Nat} {header : List UInt8} (hheader : Announces n header)
      (parts : List (List UInt8)) {last : List UInt8} (hlength : parts.length < n)
      (hparts : ∀ p ∈ parts, Takes check p true) (hlast : Takes check last false) :
      Takes check (header ++ (parts.flatten ++ last)) false
  | negativeList (size : Int) (hlow : -0x80000000 ≤ size) (hneg : size < 0) :
      Takes check (negativeHeader listMarkers size) false
  | negativeMap (size : Int) (hlow : -0x80000000 ≤ size) (hneg : size < 0) :
      Takes check (negativeHeader mapMarkers size) false
  | struct {marker : UInt8} (hmarker : 0xB0 ≤ marker.toNat ∧ marker.toNat ≤ 0xBF) {code : UInt8}
      (hcheck : check (structureCode code)) (parts : List (List UInt8 × Bool))
      (hlength : parts.length = marker.toNat &&& 0x0F)
      (hparts : ∀ p ∈ parts, Takes check p.1 p.2) :
      Takes check (marker :: code :: (parts.map Prod.fst).flatten) true
  | rejected {marker : UInt8} (hmarker : 0xB0 ≤ marker.toNat ∧ marker.toNat ≤ 0xBF) {code : UInt8}
      (hcheck : ¬check (structureCode code)) : Takes check [marker, code] false
  | wide {marker : UInt8} (hmarker : marker = 0xDC ∨ marker = 0xDD) : Takes check [marker] false

/-- The unloader reads exactly the bytes.  What it gives depends on them, and
on a failure also on the destination. -/
def Yields (unloader : Decoder → BoltValue → Unloaded) (bytes : List UInt8) (succeeds : Bool) :
    Prop :=
  ∃ (status : Int) (result : BoltValue → BoltValue), (status = BOLT_SUCCESS ↔ succeeds) ∧
    (succeeds → ∀ dest dest', result dest = result dest') ∧
    ∀ (d : Decoder) (dest : BoltValue) (garbage rest : List UInt8),
      d.Holds garbage (bytes ++ rest) →
        ∃ d', unloader d dest = some (status, d', result dest) ∧ d'.Holds garbage rest

/-! ## Sequences of values -/

section Sequences

variable {unloadValue : Decoder → BoltValue → Unloaded}

/-- The values of the entries of a dictionary, in the order in which they are
decoded. -/
def entryValues (entries : List (BoltValue × BoltValue)) : List BoltValue :=
  entries.flatMap fun e => [e.1, e.2]

/-- The entries with the values. -/
def valueEntries : List BoltValue → List (BoltValue × BoltValue)
  | k :: v :: vs => (k, v) :: valueEntries vs
  | _ => []

theorem length_entryValues (entries : List (BoltValue × BoltValue)) :
    (entryValues entries).length = 2 * entries.length := by
  induction entries with
  | nil => rfl
  | cons e entries ih =>
    simp only [entryValues, List.flatMap_cons, List.length_append, List.length_cons,
      List.length_nil] at ih ⊢
    omega

@[simp] theorem valueEntries_entryValues (entries : List (BoltValue × BoltValue)) :
    valueEntries (entryValues entries) = entries := by
  induction entries with
  | nil => rfl
  | cons e entries ih =>
    simp only [entryValues, List.flatMap_cons, List.cons_append, List.nil_append, valueEntries]
      at ih ⊢
    rw [ih]

/-- The loop over the entries of a map is the loop over their keys and
values. -/
theorem unloadEntries_eq (entries : List (BoltValue × BoltValue)) :
    ∀ d, unloadEntries unloadValue d entries =
      (unloadElements unloadValue d (entryValues entries)).map
        fun (status, d, vs) => (status, d, valueEntries vs) := by
  induction entries with
  | nil => exact fun _ => rfl
  | cons e entries ih =>
    obtain ⟨k, v⟩ := e
    intro d
    have hvalues : entryValues ((k, v) :: entries) = k :: v :: entryValues entries := rfl
    rw [unloadEntries, hvalues, unloadElements]
    rcases unloadValue d k with _ | ⟨status, d1, k1⟩
    · rfl
    by_cases hkey : status = BOLT_SUCCESS
    · simp only [hkey, if_true, unloadElements]
      rcases unloadValue d1 v with _ | ⟨status, d2, v1⟩
      · rfl
      by_cases hvalue : status = BOLT_SUCCESS
      · simp only [hvalue, if_true, ih, Option.map_map]
        rfl
      · simp only [hvalue, if_false, Option.map_some, valueEntries, valueEntries_entryValues]
    · simp only [hkey, if_false, Option.map_some, valueEntries, valueEntries_entryValues]

/-- The loop over elements goes on behind the parts that succeed. -/
theorem unloadElements_all (parts : List (List UInt8))
    (hparts : ∀ p ∈ parts, Yields unloadValue p true) :
    ∃ vs : List BoltValue, ∀ (d : Decoder) (dests more : List BoltValue) (garbage rest : List UInt8),
      dests.length = parts.length → d.Holds garbage (parts.flatten ++ rest) →
      ∃ d', d'.Holds garbage rest ∧ unloadElements unloadValue d (dests ++ more) =
        (unloadElements unloadValue d' more).map fun (status, d, us) => (status, d, vs ++ us) := by
  induction parts with
  | nil =>
    refine ⟨[], fun d dests more garbage rest hlength h => ⟨d, h, ?_⟩⟩
    obtain rfl := List.eq_nil_of_length_eq_zero hlength
    rcases hmore : unloadElements unloadValue d more with _ | ⟨status, d', us⟩
    · rw [List.nil_append, hmore, Option.map_none]
    · rw [List.nil_append, hmore]
      rfl
  | cons p parts ih =>
    obtain ⟨vs, hvs⟩ := ih fun q hq => hparts q (List.mem_cons_of_mem p hq)
    obtain ⟨status, result, hstatus, hresult, hunload⟩ := hparts p List.mem_cons_self
    refine ⟨result .null :: vs, fun d dests more garbage rest hlength h => ?_⟩
    rcases dests with _ | ⟨dest, dests⟩
    · cases hlength
    rw [List.flatten_cons, List.append_assoc] at h
    obtain ⟨d1, hfirst, hd1⟩ := hunload d dest garbage _ h
    obtain ⟨d2, hd2, hmore⟩ := hvs d1 dests more garbage rest (Nat.succ.inj hlength) hd1
    refine ⟨d2, hd2, ?_⟩
    rw [List.cons_append, unloadElements]
    simp only [hfirst, hstatus.mpr rfl, if_true, hmore, Option.map_map,
      hresult rfl dest .null]
    rfl

/-- Where all parts succeed, the loop reads them to their end. -/
theorem unloadElements_complete (parts : List (List UInt8))
    (hparts : ∀ p ∈ parts, Yields unloadValue p true) :
    ∃ vs : List BoltValue, ∀ (d : Decoder) (dests : List BoltValue) (garbage rest : List UInt8),
      dests.length = parts.length → d.Holds garbage (parts.flatten ++ rest) →
      ∃ d', unloadElements unloadValue d dests = some (BOLT_SUCCESS, d', vs) ∧
        d'.Holds garbage rest := by
  obtain ⟨vs, hall⟩ := unloadElements_all parts hparts
  refine ⟨vs, fun d dests garbage rest hlength h => ?_⟩
  obtain ⟨d', hd', hloop⟩ := hall d dests [] garbage rest hlength h
  refine ⟨d', ?_, hd'⟩
  rw [List.append_nil] at hloop
  simp only [hloop, unloadElements, Option.map_some, List.append_nil]

/-- Where a part fails, the loop reads no further. -/
theorem unloadElements_stopped (parts : List (List UInt8))
    (hparts : ∀ p ∈ parts, Yields unloadValue p true) {last : List UInt8}
    (hlast : Yields unloadValue last false) :
    ∃ (status : Int) (result : List BoltValue → List BoltValue), status ≠ BOLT_SUCCESS ∧
      ∀ (d : Decoder) (dests : List BoltValue) (garbage rest : List UInt8),
        parts.length < dests.length → d.Holds garbage (parts.flatten ++ last ++ rest) →
        ∃ d', unloadElements unloadValue d dests = some (status, d', result dests) ∧
          d'.Holds garbage rest := by
  obtain ⟨vs, hall⟩ := unloadElements_all parts hparts
  obtain ⟨status, result, hstatus, -, hunload⟩ := hlast
  have hfails : status ≠ BOLT_SUCCESS := fun h => Bool.noConfusion (hstatus.mp h)
  refine ⟨status, fun dests => vs ++ (dests.drop parts.length).modifyHead result, hfails,
    fun d dests garbage rest hlength h => ?_⟩
  rw [List.append_assoc] at h
  have htake : (dests.take parts.length).length = parts.length := by
    rw [List.length_take]
    omega
  obtain ⟨d1, hd1, hloop⟩ := hall d (dests.take parts.length) (dests.drop parts.length) garbage _
    htake h
  rw [List.take_append_drop] at hloop
  rcases hdrop : dests.drop parts.length with _ | ⟨dest, more⟩
  · have := List.drop_eq_nil_iff.mp hdrop
    omega
  obtain ⟨d2, hfirst, hd2⟩ := hunload d1 dest garbage rest hd1
  refine ⟨d2, ?_, hd2⟩
  simp only [hloop, hdrop, unloadElements, hfirst, hfails, if_false, Option.map_some,
    List.modifyHead_cons]

/-- The loop over the fields of a structure reads every part, whether it
fails or not. -/
theorem unloadFields_yields (parts : List (List UInt8 × Bool))
    (hparts : ∀ p ∈ parts, Yields unloadValue p.1 p.2) :
    ∃ vs : List BoltValue, ∀ (d : Decoder) (garbage rest : List UInt8),
      d.Holds garbage ((parts.map Prod.fst).flatten ++ rest) →
      ∃ d', unloadFields unloadValue d (List.replicate parts.length .null) = some (d', vs) ∧
        d'.Holds garbage rest := by
  induction parts with
  | nil => exact ⟨[], fun d garbage rest h => ⟨d, rfl, h⟩⟩
  | cons p parts ih =>
    obtain ⟨vs, hvs⟩ := ih fun q hq => hparts q (List.mem_cons_of_mem p hq)
    obtain ⟨status, result, -, -, hunload⟩ := hparts p List.mem_cons_self
    refine ⟨result .null :: vs, fun d garbage rest h => ?_⟩
    rw [List.map_cons, List.flatten_cons, List.append_assoc] at h
    obtain ⟨d1, hfirst, hd1⟩ := hunload d .null garbage _ h
    obtain ⟨d2, hrest, hd2⟩ := hvs d1 garbage rest hd1
    refine ⟨d2, ?_, hd2⟩
    rw [List.length_cons, List.replicate_succ, unloadFields]
    simp only [hfirst, hrest, Option.map_some]

end Sequences

/-! ## Branches of the decoder -/

/-- What follows a marker of the type is read exactly, when it is read by the
branch of the decoder for that type. -/
def BranchYields (unloadValue : Decoder → BoltValue → Unloaded) (check : CheckStructSignature)
    (bytes : List UInt8) (succeeds : Bool) : Prop :=
  ∃ marker tail, bytes = marker :: tail ∧
    Yields (unloadType unloadValue check (markerType marker.toNat)) bytes succeeds

variable {check : CheckStructSignature} {unloadValue : Decoder → BoltValue → Unloaded}

/-- A List and a Map begin with a header, and go on with a sequence of
values. -/
theorem Announces.unloads {n : Nat} {header : List UInt8} (h : Announces n header)
    (unloadValue : Decoder → BoltValue → Unloaded) (check : CheckStructSignature) :
    ∃ (marker : UInt8) (tail : List UInt8) (dests : BoltValue → List BoltValue)
      (build : List BoltValue → BoltValue), header = marker :: tail ∧
      (∀ dest, (dests dest).length = n) ∧
      ∀ (d : Decoder) (dest : BoltValue) (garbage rest : List UInt8),
        d.Holds garbage (header ++ rest) → ∃ d', d'.Holds garbage rest ∧
          unloadType unloadValue check (markerType marker.toNat) d dest =
            (unloadElements unloadValue d' (dests dest)).map
              fun (status, d, vs) => (status, d, build vs) := by
  cases h with
  | @list n header hheader =>
    obtain ⟨marker, tail, hbytes, htype⟩ := hheader.head listMarkers_marks
    refine ⟨marker, tail, fun dest => dest.listElements n, .list, hbytes, by simp,
      fun d dest garbage rest h => ?_⟩
    obtain ⟨d', hsize, hd'⟩ := unloadSize_of_header listMarkers_marks hheader h
    have hneg : ¬((n : Int) < 0) := by omega
    refine ⟨d', hd', ?_⟩
    simp only [htype, unloadType, unloadList, hsize, hneg, if_false, Int.toNat_natCast]
  | @map n header hheader =>
    obtain ⟨marker, tail, hbytes, htype⟩ := hheader.head mapMarkers_marks
    refine ⟨marker, tail, fun dest => entryValues (dest.dictionaryEntries n),
      fun vs => .dictionary (valueEntries vs), hbytes,
      by simp [length_entryValues], fun d dest garbage rest h => ?_⟩
    obtain ⟨d', hsize, hd'⟩ := unloadSize_of_header mapMarkers_marks hheader h
    have hneg : ¬((n : Int) < 0) := by omega
    refine ⟨d', hd', ?_⟩
    simp only [htype, unloadType, unloadMap, hsize, hneg, if_false, Int.toNat_natCast,
      unloadEntries_eq, Option.map_map]
    rfl

theorem branchYields_container {n : Nat} {header : List UInt8} (hheader : Announces n header)
    (parts : List (List UInt8)) (hlength : parts.length = n)
    (hparts : ∀ p ∈ parts, Yields unloadValue p true) :
    BranchYields unloadValue check (header ++ parts.flatten) true := by
  obtain ⟨marker, tail, dests, build, hbytes, hdests, hunload⟩ :=
    hheader.unloads unloadValue check
  obtain ⟨vs, hcomplete⟩ := unloadElements_complete parts hparts
  refine ⟨marker, tail ++ parts.flatten, by rw [hbytes, List.cons_append], BOLT_SUCCESS,
    fun _ => build vs, by simp, fun _ _ _ => rfl, fun d dest garbage rest h => ?_⟩
  rw [List.append_assoc] at h
  obtain ⟨d1, hd1, hbranch⟩ := hunload d dest garbage _ h
  obtain ⟨d2, hloop, hd2⟩ := hcomplete d1 (dests dest) garbage rest ((hdests dest).trans hlength.symm)
    hd1
  exact ⟨d2, by rw [hbranch, hloop, Option.map_some], hd2⟩

theorem branchYields_stopped {n : Nat} {header : List UInt8} (hheader : Announces n header)
    (parts : List (List UInt8)) {last : List UInt8} (hlength : parts.length < n)
    (hparts : ∀ p ∈ parts, Yields unloadValue p true) (hlast : Yields unloadValue last false) :
    BranchYields unloadValue check (header ++ (parts.flatten ++ last)) false := by
  obtain ⟨marker, tail, dests, build, hbytes, hdests, hunload⟩ :=
    hheader.unloads unloadValue check
  obtain ⟨status, result, hstatus, hstopped⟩ := unloadElements_stopped parts hparts hlast
  refine ⟨marker, tail ++ (parts.flatten ++ last), by rw [hbytes, List.cons_append], status,
    fun dest => build (result (dests dest)), by simpa using hstatus, nofun,
    fun d dest garbage rest h => ?_⟩
  rw [List.append_assoc] at h
  obtain ⟨d1, hd1, hbranch⟩ := hunload d dest garbage _ h
  obtain ⟨d2, hloop, hd2⟩ := hstopped d1 (dests dest) garbage rest (by rw [hdests]; exact hlength)
    hd1
  exact ⟨d2, by rw [hbranch, hloop, Option.map_some], hd2⟩

theorem branchYields_negativeList {size : Int} (hlow : -0x80000000 ≤ size) (hneg : size < 0) :
    BranchYields unloadValue check (negativeHeader listMarkers size) false := by
  refine ⟨_, _, rfl, BOLT_PROTOCOL_VIOLATION, fun dest => dest, by decide, nofun,
    fun d dest garbage rest h => ?_⟩
  obtain ⟨d', hsize, hd'⟩ := unloadSize_four listMarkers_marks hlow (by omega) h
  refine ⟨d', ?_, hd'⟩
  have htype : markerType (UInt8.ofNat listMarkers.four).toNat = .list := rfl
  simp only [htype, unloadType, unloadList, hsize, hneg, if_true]

theorem branchYields_negativeMap {size : Int} (hlow : -0x80000000 ≤ size) (hneg : size < 0) :
    BranchYields unloadValue check (negativeHeader mapMarkers size) false := by
  refine ⟨_, _, rfl, BOLT_PROTOCOL_VIOLATION, fun dest => dest, by decide, nofun,
    fun d dest garbage rest h => ?_⟩
  obtain ⟨d', hsize, hd'⟩ := unloadSize_four mapMarkers_marks hlow (by omega) h
  refine ⟨d', ?_, hd'⟩
  have htype : markerType (UInt8.ofNat mapMarkers.four).toNat = .map := rfl
  simp only [htype, unloadType, unloadMap, hsize, hneg, if_true]

/-- A marker of a Structure leads to its branch. -/
theorem markerType_struct {marker : Nat} (h : 0xB0 ≤ marker ∧ marker ≤ 0xBF) :
    markerType marker = .struct := by
  obtain ⟨n, rfl⟩ := Nat.exists_eq_add_of_le h.1
  have hn : n < 0x10 := by omega
  clear h
  revert n
  decide

/-- The marker and the code of a Structure. -/
theorem signed_structureCode {d : Decoder} {marker code : UInt8} {garbage rest : List UInt8}
    (h : d.Holds garbage (marker :: code :: rest)) :
    ∃ d1 d2, d.unsigned 1 = (marker.toNat, d1) ∧
      d1.signed 1 = (ByteOrder.signed 1 code.toNat, d2) ∧ d2.Holds garbage rest := by
  obtain ⟨d1, hmarker, hd1⟩ := Decoder.unsigned_byte h
  obtain ⟨d2, hcode, hd2⟩ := Decoder.unsigned_byte hd1
  exact ⟨d1, d2, hmarker, by rw [Decoder.signed, hcode], hd2⟩

theorem branchYields_struct {marker code : UInt8}
    (hmarker : 0xB0 ≤ marker.toNat ∧ marker.toNat ≤ 0xBF) (hcheck : check (structureCode code))
    (parts : List (List UInt8 × Bool)) (hlength : parts.length = marker.toNat &&& 0x0F)
    (hparts : ∀ p ∈ parts, Yields unloadValue p.1 p.2) :
    BranchYields unloadValue check (marker :: code :: (parts.map Prod.fst).flatten) true := by
  obtain ⟨vs, hfields⟩ := unloadFields_yields parts hparts
  refine ⟨marker, _, rfl, BOLT_SUCCESS, fun _ => .struct (structureCode code) vs, by simp,
    fun _ _ _ => rfl, fun d dest garbage rest h => ?_⟩
  obtain ⟨d1, d2, hread, hcode, hd2⟩ := signed_structureCode h
  obtain ⟨d3, hloop, hd3⟩ := hfields d2 garbage rest hd2
  refine ⟨d3, ?_, hd3⟩
  rw [hlength] at hloop
  rw [structureCode] at hcheck
  simp only [markerType_struct hmarker, unloadType, unloadStructure, hread, hmarker, and_self,
    if_true, hcode, hcheck, hloop, Option.map_some, structureCode]

theorem branchYields_rejected {marker code : UInt8}
    (hmarker : 0xB0 ≤ marker.toNat ∧ marker.toNat ≤ 0xBF) (hcheck : ¬check (structureCode code)) :
    BranchYields unloadValue check [marker, code] false := by
  refine ⟨marker, _, rfl, BOLT_PROTOCOL_UNEXPECTED_MARKER, fun dest => dest, by decide, nofun,
    fun d dest garbage rest h => ?_⟩
  obtain ⟨d1, d2, hread, hcode, hd2⟩ := signed_structureCode h
  refine ⟨d2, ?_, hd2⟩
  rw [structureCode] at hcheck
  simp only [markerType_struct hmarker, unloadType, unloadStructure, hread, hmarker, and_self,
    if_true, hcode, hcheck, Bool.false_eq_true, if_false]

theorem branchYields_wide {marker : UInt8} (hmarker : marker = 0xDC ∨ marker = 0xDD) :
    BranchYields unloadValue check [marker] false := by
  refine ⟨marker, _, rfl, BOLT_PROTOCOL_UNEXPECTED_MARKER, fun dest => dest, by decide, nofun,
    fun d dest garbage rest h => ?_⟩
  obtain ⟨d1, hread, hd1⟩ := Decoder.unsigned_byte h
  refine ⟨d1, ?_, hd1⟩
  rcases hmarker with rfl | rfl
  · simp [markerType, unloadType, unloadStructure, hread]
  · simp [markerType, unloadType, unloadStructure, hread]

/-! ## The recursion -/

/-- The decoder goes by the first byte. -/
theorem BranchYields.unload {bytes : List UInt8} {succeeds : Bool} {fuel : Nat}
    (h : BranchYields (unloadAux check fuel) check bytes succeeds) :
    Yields (unloadAux check (fuel + 1)) bytes succeeds := by
  obtain ⟨marker, tail, rfl, status, result, hstatus, hresult, hunload⟩ := h
  refine ⟨status, result, hstatus, hresult, fun d dest garbage rest hd => ?_⟩
  obtain ⟨d', hbranch, hd'⟩ := hunload d dest garbage rest hd
  refine ⟨d', ?_, hd'⟩
  have hpeek : d.peek = (marker.toNat, d) := Decoder.peek_of_holds hd
  simp only [unloadAux, hpeek, hbranch]

/-- Nothing is taken without a byte. -/
theorem Takes.length_pos {bytes : List UInt8} {succeeds : Bool} (h : Takes check bytes succeeds) :
    0 < bytes.length := by
  have hheader : ∀ {n header}, Announces n header → 0 < header.length := by
    rintro n header (hheader | hheader) <;> exact hheader.length_pos
  cases h with
  | value h => exact h.length_pos
  | container h _ _ _ | stopped h _ _ _ _ =>
    have := hheader h
    rw [List.length_append]
    omega
  | negativeList | negativeMap | struct | rejected | wide => simp [negativeHeader]

private theorem yields_lift {bytes : List UInt8} {succeeds : Bool}
    (h : Takes check bytes succeeds)
    (ih : ∀ fuel, bytes.length ≤ fuel + 1 → Yields (unloadAux check (fuel + 1)) bytes succeeds)
    {fuel : Nat} (hfuel : bytes.length ≤ fuel) : Yields (unloadAux check fuel) bytes succeeds := by
  have hpos := h.length_pos
  obtain ⟨fuel, rfl⟩ : ∃ n, fuel = n + 1 := ⟨fuel - 1, by omega⟩
  exact ih fuel hfuel

/-- The induction of `yields_of_takes`: the parts are shorter by the marker in
front of them. -/
private theorem yields_of_takes_aux {bytes : List UInt8} {succeeds : Bool}
    (h : Takes check bytes succeeds) :
    ∀ fuel, bytes.length ≤ fuel + 1 → Yields (unloadAux check (fuel + 1)) bytes succeeds := by
  have hheader : ∀ {n header}, Announces n header → 0 < header.length := by
    rintro n header (hheader | hheader) <;> exact hheader.length_pos
  induction h with
  | @value v bytes h =>
    intro fuel hfuel
    refine ⟨BOLT_SUCCESS, fun _ => v, by simp, fun _ _ _ => rfl, fun d dest garbage rest hd => ?_⟩
    exact unloads_of_encodes h hfuel d dest garbage rest hd
  | container hannounces parts hlength hparts ih =>
    intro fuel hfuel
    have hpos := hheader hannounces
    rw [List.length_append] at hfuel
    refine (branchYields_container hannounces parts hlength fun p hp => ?_).unload
    have := (List.sublist_flatten_of_mem hp).length_le
    exact yields_lift (hparts p hp) (ih p hp) (by omega)
  | @stopped n header hannounces parts last hlength hparts hlast ih ihlast =>
    intro fuel hfuel
    have hpos := hheader hannounces
    rw [List.length_append, List.length_append] at hfuel
    refine (branchYields_stopped hannounces parts hlength (fun p hp => ?_)
      (yields_lift hlast ihlast (by omega))).unload
    have := (List.sublist_flatten_of_mem hp).length_le
    exact yields_lift (hparts p hp) (ih p hp) (by omega)
  | negativeList size hlow hneg =>
    exact fun fuel _ => (branchYields_negativeList hlow hneg).unload
  | negativeMap size hlow hneg =>
    exact fun fuel _ => (branchYields_negativeMap hlow hneg).unload
  | struct hmarker hcheck parts hlength hparts ih =>
    intro fuel hfuel
    rw [List.length_cons, List.length_cons] at hfuel
    refine (branchYields_struct hmarker hcheck parts hlength fun p hp => ?_).unload
    have := length_le_of_mem Prod.fst hp
    exact yields_lift (hparts p hp) (ih p hp) (by omega)
  | rejected hmarker hcheck => exact fun fuel _ => (branchYields_rejected hmarker hcheck).unload
  | wide hmarker => exact fun fuel _ => (branchYields_wide hmarker).unload

/-- The decoder reads what the grammar says with any fuel that covers it. -/
theorem unloadAux_yields {bytes : List UInt8} {succeeds : Bool} (h : Takes check bytes succeeds)
    {fuel : Nat} (hfuel : bytes.length ≤ fuel) : Yields (unloadAux check fuel) bytes succeeds :=
  yields_lift h (yields_of_takes_aux h) hfuel

/-! ## Fuel -/

/-- Where the first unloader has a result, the second has the same. -/
def Extends (f g : Decoder → BoltValue → Unloaded) : Prop :=
  ∀ d dest result, f d dest = some result → g d dest = some result

section Fuel

variable {f g : Decoder → BoltValue → Unloaded}

theorem Extends.unloadElements (h : Extends f g) (dests : List BoltValue) :
    ∀ {d result}, PackStream.unloadElements f d dests = some result →
      PackStream.unloadElements g d dests = some result := by
  induction dests with
  | nil => exact fun h => h
  | cons dest dests ih =>
    intro d result hloop
    rcases hfirst : f d dest with _ | ⟨status, d1, v⟩
    · simp only [PackStream.unloadElements, hfirst] at hloop
      cases hloop
    · simp only [PackStream.unloadElements, hfirst, h _ _ _ hfirst] at hloop ⊢
      by_cases hstatus : status = BOLT_SUCCESS
      · simp only [hstatus, if_true, Option.map_eq_some_iff] at hloop ⊢
        obtain ⟨rest, hrest, hresult⟩ := hloop
        exact ⟨rest, ih hrest, hresult⟩
      · simpa only [hstatus, if_false] using hloop

theorem Extends.unloadFields (h : Extends f g) (dests : List BoltValue) :
    ∀ {d result}, PackStream.unloadFields f d dests = some result →
      PackStream.unloadFields g d dests = some result := by
  induction dests with
  | nil => exact fun h => h
  | cons dest dests ih =>
    intro d result hloop
    rcases hfirst : f d dest with _ | ⟨status, d1, v⟩
    · simp only [PackStream.unloadFields, hfirst] at hloop
      cases hloop
    · simp only [PackStream.unloadFields, hfirst, h _ _ _ hfirst, Option.map_eq_some_iff]
        at hloop ⊢
      obtain ⟨rest, hrest, hresult⟩ := hloop
      exact ⟨rest, ih hrest, hresult⟩

/-- Every branch of the decoder keeps its result. -/
theorem Extends.unloadType (h : Extends f g) (type : PackStreamType) :
    Extends (PackStream.unloadType f check type) (PackStream.unloadType g check type) := by
  intro d dest result hbranch
  cases type with
  | list =>
    simp only [PackStream.unloadType, unloadList] at hbranch ⊢
    split at hbranch
    · exact hbranch
    · split_ifs at hbranch ⊢
      · exact hbranch
      · obtain ⟨rest, hrest, hresult⟩ := Option.map_eq_some_iff.mp hbranch
        exact Option.map_eq_some_iff.mpr ⟨rest, h.unloadElements _ hrest, hresult⟩
  | map =>
    simp only [PackStream.unloadType, unloadMap, unloadEntries_eq] at hbranch ⊢
    split at hbranch
    · exact hbranch
    · split_ifs at hbranch ⊢
      · exact hbranch
      · simp only [Option.map_map] at hbranch ⊢
        obtain ⟨rest, hrest, hresult⟩ := Option.map_eq_some_iff.mp hbranch
        exact Option.map_eq_some_iff.mpr ⟨rest, h.unloadElements _ hrest, hresult⟩
  | struct =>
    simp only [PackStream.unloadType, unloadStructure] at hbranch ⊢
    split_ifs at hbranch ⊢
    · obtain ⟨rest, hrest, hresult⟩ := Option.map_eq_some_iff.mp hbranch
      exact Option.map_eq_some_iff.mpr ⟨rest, h.unloadFields _ hrest, hresult⟩
    · exact hbranch
    · exact hbranch
  | null | boolean | integer | float | string | bytes | reserved => exact hbranch

end Fuel

theorem unloadAux_succ (fuel : Nat) : Extends (unloadAux check fuel) (unloadAux check (fuel + 1)) := by
  induction fuel with
  | zero => exact fun _ _ _ => nofun
  | succ fuel ih => exact fun d dest result h => ih.unloadType _ _ _ _ h

/-- More fuel does not change a result. -/
theorem unloadAux_extends {fuel fuel' : Nat} (h : fuel ≤ fuel') :
    Extends (unloadAux check fuel) (unloadAux check fuel') := by
  induction h with
  | refl => exact fun _ _ _ h => h
  | step _ ih => exact fun d dest result h => unloadAux_succ _ _ _ _ (ih d dest result h)

/-- The decoder reads what the grammar says, and what it makes of it does not
depend on what is behind it, nor on uninitialised memory. -/
theorem yields_of_takes {bytes : List UInt8} {succeeds : Bool} (h : Takes check bytes succeeds) :
    Yields (unload check) bytes succeeds := by
  obtain ⟨status, result, hstatus, hresult, hunload⟩ := unloadAux_yields h (Nat.le_refl _)
  refine ⟨status, result, hstatus, hresult, fun d dest garbage rest hd => ?_⟩
  obtain ⟨d', hdecode, hd'⟩ := hunload d dest garbage rest hd
  exact ⟨d', unloadAux_extends hd.length_le_fuel d dest _ hdecode, hd'⟩

end PackStream

end Seabolt
