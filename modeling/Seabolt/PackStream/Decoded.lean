import Seabolt.PackStream.Hostile
import Seabolt.PackStream.Decode

/-!
# Decoded values

What is true of every value that `unload` has decoded: `Decoded`.  The sizes are
those of `int32_t` fields, the structures have an accepted code and at most
fifteen fields, and Booleans are 0 or 1.

A key of a Map may be any value, and so may the code of a Structure be negative
if the check accepts that.  A decoded value can be encoded again exactly if no
header says so.
-/

namespace Seabolt

open BoltValue

namespace PackStream

variable {check : CheckStructSignature}

/-! ## The results of the loops -/

theorem LoopCall.index_lt {stops : Bool} {d : Decoder} {vs : List BoltValue} {index : Nat} {site : Site}
    (h : LoopCall check stops d vs index site) : index < vs.length := by
  induction h with
  | here => exact Nat.succ_pos _
  | there _ _ _ ih => exact Nat.succ_lt_succ ih

/-- There is one call for an index. -/
theorem LoopCall.unique {stops : Bool} {d : Decoder} {vs : List BoltValue} {index : Nat}
    {site site' : Site} (h : LoopCall check stops d vs index site)
    (h' : LoopCall check stops d vs index site') : site = site' := by
  induction h with
  | here =>
    cases h' with
    | here => rfl
  | there hcall _ _ ih =>
    cases h' with
    | there hcall' _ hrest' =>
      cases hcall.symm.trans hcall'
      exact ih hrest'

/-- An element is what its call has made of it or, if the loop has stopped before, what it was. -/
theorem unloadElements_results (vs : List BoltValue) : ∀ {d status d' vs'},
    unloadElements (unload check) d vs = some (status, d', vs') → vs'.length = vs.length ∧
      ∀ index v', vs'[index]? = some v' →
        (∃ site result d1, LoopCall check true d vs index site ∧ vs[index]? = some site.2 ∧
          site.outcome check = some (result, d1, v') ∧
          (status = BOLT_SUCCESS → result = BOLT_SUCCESS)) ∨
        (status ≠ BOLT_SUCCESS ∧ vs[index]? = some v' ∧
          ∀ site, ¬LoopCall check true d vs index site) := by
  induction vs with
  | nil =>
    intro d status d' vs' h
    cases h
    exact ⟨rfl, nofun⟩
  | cons v vs ih =>
    intro d status d' vs' h
    rcases hfirst : unload check d v with _ | ⟨first, d1, v1⟩
    · simp only [unloadElements, hfirst] at h
      cases h
    simp only [unloadElements, hfirst] at h
    split_ifs at h with hstatus
    · obtain ⟨⟨status2, d2, vs2⟩, hrest, hresult⟩ := Option.map_eq_some_iff.mp h
      cases hresult
      obtain ⟨hlength, hresults⟩ := ih hrest
      refine ⟨congrArg Nat.succ hlength, fun index v' hv' => ?_⟩
      cases index with
      | zero =>
        cases hv'
        exact .inl ⟨(d, v), first, d1, .here, rfl, hfirst, fun _ => hstatus⟩
      | succ index =>
        rcases hresults index v' hv' with ⟨site, result, d3, hcall, hdest, houtcome, hsuccess⟩ |
          ⟨hfailed, hdest, hnone⟩
        · exact .inl ⟨site, result, d3, .there hfirst (fun _ => hstatus) hcall, hdest, houtcome,
            hsuccess⟩
        · refine .inr ⟨hfailed, hdest, fun site hcall => ?_⟩
          cases hcall with
          | there hcall' _ hrest' =>
            cases hfirst.symm.trans hcall'
            exact hnone site hrest'
    · cases h
      refine ⟨rfl, fun index v' hv' => ?_⟩
      cases index with
      | zero =>
        cases hv'
        exact .inl ⟨(d, v), status, d', .here, rfl, hfirst, id⟩
      | succ index =>
        refine .inr ⟨hstatus, hv', fun site hcall => ?_⟩
        cases hcall with
        | there hcall' hon _ =>
          cases hfirst.symm.trans hcall'
          exact hstatus (hon rfl)

/-- A field is what its call has made of it. -/
theorem unloadFields_results (vs : List BoltValue) : ∀ {d d' vs'},
    unloadFields (unload check) d vs = some (d', vs') → vs'.length = vs.length ∧
      ∀ index v', vs'[index]? = some v' → ∃ site result d1,
        LoopCall check false d vs index site ∧ vs[index]? = some site.2 ∧
          site.outcome check = some (result, d1, v') := by
  induction vs with
  | nil =>
    intro d d' vs' h
    cases h
    exact ⟨rfl, by simp⟩
  | cons v vs ih =>
    intro d d' vs' h
    rcases hfirst : unload check d v with _ | ⟨first, d1, v1⟩
    · simp only [unloadFields, hfirst] at h
      cases h
    simp only [unloadFields, hfirst] at h
    obtain ⟨⟨d2, vs2⟩, hrest, hresult⟩ := Option.map_eq_some_iff.mp h
    cases hresult
    obtain ⟨hlength, hresults⟩ := ih hrest
    refine ⟨congrArg Nat.succ hlength, fun index v' hv' => ?_⟩
    cases index with
    | zero =>
      cases hv'
      exact ⟨(d, v), first, d1, .here, rfl, hfirst⟩
    | succ index =>
      obtain ⟨site, result, d3, hcall, hdest, houtcome⟩ := hresults index v' hv'
      exact ⟨site, result, d3, .there hfirst (by simp) hcall, hdest, houtcome⟩

/-! ## What a header gives -/

/-- The values without children that are decoded. -/
inductive Scalar : BoltValue → Prop where
  | null : Scalar .null
  | no : Scalar (.boolean 0)
  | yes : Scalar (.boolean 1)
  | integer (data : Int64) : Scalar (.integer data)
  | float (data : UInt64) : Scalar (.float data)
  | string (data : List UInt8) (hsize : data.length < 0x80000000) : Scalar (.string data)
  | bytes (data : List UInt8) (hsize : data.length < 0x80000000) : Scalar (.bytes data)

/-- A call that is done has decoded a value without children, or has failed and has left the
destination as it was. -/
def Settled (value : BoltValue) (result : Unloaded) : Prop :=
  ∀ status d' value', result = some (status, d', value') →
    status = BOLT_SUCCESS ∧ Scalar value' ∨ status ≠ BOLT_SUCCESS ∧ value' = value

theorem settled_failed {status : Int} (hstatus : status ≠ BOLT_SUCCESS) (d : Decoder)
    (value : BoltValue) : Settled value (some (status, d, value)) := by
  intro status' d' value' h
  cases h
  exact .inr ⟨hstatus, rfl⟩

theorem settled_scalar {value' : BoltValue} (hscalar : Scalar value') (d : Decoder)
    (value : BoltValue) : Settled value (some (BOLT_SUCCESS, d, value')) := by
  intro status d' value1 h
  cases h
  exact .inl ⟨rfl, hscalar⟩

theorem unsigned_lt (n : Nat) (d : Decoder) : (d.unsigned n).1 < 256 ^ n := by
  have hvalue : ∀ bytes : List UInt8, bytes.length ≤ n → beValue bytes < 256 ^ n := by
    intro bytes hlength
    have hlt := ByteOrder.leValue_lt (memcpyBe bytes)
    have hmono : 256 ^ (memcpyBe bytes).length ≤ 256 ^ n :=
      Nat.pow_le_pow_right (by norm_num) (by simpa [memcpyBe] using hlength)
    exact lt_of_lt_of_le hlt hmono
  unfold Decoder.unsigned
  split
  · rename_i x buffer hread
    unfold BoltBuffer.unloadBe at hread
    split_ifs at hread
    obtain ⟨hx, -⟩ := Prod.mk.inj (Option.some.inj hread)
    rw [← hx]
    exact hvalue _ (List.length_take_le n _)
  · exact hvalue _ (by simp [Decoder.uninitialised])

theorem signed_range (n : Nat) (d : Decoder) :
    -((256 ^ n : Nat) / 2 : Int) ≤ (d.signed n).1 ∧ (d.signed n).1 < ((256 ^ n : Nat) + 1) / 2 := by
  have hpos : 0 < 256 ^ n := by positivity
  exact ⟨Int.le_bmod hpos, Int.bmod_lt hpos⟩

/-- A size fits into an `int32_t`. -/
theorem unloadSize_lt {markers : SizeMarkers} {d : Decoder} {n : Int}
    (h : (unloadSize markers d).1 = some n) : n < 0x80000000 := by
  unfold unloadSize at h
  dsimp only at h
  split_ifs at h
  · obtain rfl := Option.some.inj h
    have := @Nat.and_le_right (d.unsigned 1).1 0x0F
    omega
  · obtain rfl := Option.some.inj h
    have := unsigned_lt 1 (d.unsigned 1).2
    omega
  · obtain rfl := Option.some.inj h
    have := unsigned_lt 2 (d.unsigned 1).2
    omega
  · obtain rfl := Option.some.inj h
    have := (signed_range 4 (d.unsigned 1).2).2
    norm_num at this
    omega

theorem settled_chars {markers : SizeMarkers} {format : List UInt8 → BoltValue} (d : Decoder)
    (value : BoltValue) (hformat : ∀ data : List UInt8, data.length < 0x80000000 → Scalar (format data)) :
    Settled value (match unloadSize markers d with
      | (some n, d) => unloadChars format n d
      | (none, d) => some (BOLT_PROTOCOL_UNEXPECTED_MARKER, d, value)) := by
  rcases hread : unloadSize markers d with ⟨_ | n, d1⟩
  · exact settled_failed (by decide) d1 value
  · have hn := unloadSize_lt (congrArg Prod.fst hread)
    intro status d' value' h
    simp only [unloadChars] at h
    split_ifs at h with hsign
    split at h
    · rename_i chars buffer hchars
      cases h
      unfold BoltBuffer.unload at hchars
      split_ifs at hchars
      obtain ⟨rfl, -⟩ := Prod.mk.inj (Option.some.inj hchars)
      have hlength := List.length_take_le n.toNat (d1.buffer.data.drop d1.buffer.cursor)
      exact .inl ⟨rfl, hformat _ (by omega)⟩
    · cases h
      refine .inl ⟨rfl, hformat _ ?_⟩
      simp only [Decoder.uninitialised, length_indeterminate]
      omega

/-- The header of a value without children. -/
theorem settled_openedType {type : PackStreamType} {d : Decoder} {value : BoltValue} {result : Unloaded}
    (h : openedType check type d value = .done result) : Settled value result := by
  have hsized : ∀ (markers : SizeMarkers) (children : Nat → List BoltValue)
      (build : List BoltValue → BoltValue),
      openedSized markers children build d value = .done result → Settled value result := by
    intro markers children build h
    unfold openedSized at h
    rcases hread : unloadSize markers d with ⟨_ | n, d1⟩ <;> rw [hread] at h
    · cases h
      exact settled_failed (by decide) d1 value
    · dsimp only at h
      split_ifs at h
      cases h
      exact settled_failed (by decide) d1 value
  cases type with
  | null =>
    cases h
    unfold unloadNull
    dsimp only
    split_ifs
    · exact settled_scalar .null _ value
    · exact settled_failed (by decide) _ value
  | boolean =>
    cases h
    unfold unloadBoolean
    dsimp only
    split_ifs
    · exact settled_scalar .yes _ value
    · exact settled_scalar .no _ value
    · exact settled_failed (by decide) _ value
  | integer =>
    cases h
    unfold unloadInteger unloadIntegerBe
    dsimp only
    split_ifs
    · exact settled_scalar (.integer _) _ value
    · exact settled_scalar (.integer _) _ value
    · exact settled_scalar (.integer _) _ value
    · exact settled_scalar (.integer _) _ value
    · exact settled_scalar (.integer _) _ value
    · exact settled_scalar (.integer _) _ value
    · exact settled_failed (by decide) _ value
  | float =>
    cases h
    unfold unloadFloat
    dsimp only
    split_ifs
    · exact settled_scalar (.float _) _ value
    · exact settled_failed (by decide) _ value
  | string =>
    cases h
    exact settled_chars d value Scalar.string
  | bytes =>
    cases h
    exact settled_chars d value Scalar.bytes
  | list => exact hsized _ _ _ h
  | map =>
    simp only [openedType] at h
    exact hsized _ _ _ h
  | struct =>
    simp only [openedType, openedStructure] at h
    split_ifs at h <;> cases h <;> exact settled_failed (by decide) _ value
  | reserved =>
    cases h
    exact settled_failed (by decide) _ value

/-- A List or a Map, with as many children as its size says. -/
theorem openedType_strict {type : PackStreamType} {d d' : Decoder} {value : BoltValue}
    {children : List BoltValue} {build : List BoltValue → BoltValue}
    (h : openedType check type d value = .strict d' children build) :
    ∃ n : Nat, n < 0x80000000 ∧
      (type = .list ∧ children = value.listElements n ∧ build = list ∨
        type = .map ∧ children = entryValues (value.dictionaryEntries n) ∧
          build = fun vs => dictionary (valueEntries vs)) := by
  have hsized : ∀ (markers : SizeMarkers) (children' : Nat → List BoltValue)
      (build' : List BoltValue → BoltValue),
      openedSized markers children' build' d value = .strict d' children build →
      ∃ n : Nat, n < 0x80000000 ∧ children = children' n ∧ build = build' := by
    intro markers children' build' h
    unfold openedSized at h
    rcases hread : unloadSize markers d with ⟨_ | n, d1⟩ <;> rw [hread] at h
    · cases h
    · dsimp only at h
      split_ifs at h
      cases h
      have hn := unloadSize_lt (congrArg Prod.fst hread)
      exact ⟨n.toNat, by omega, rfl, rfl⟩
  cases type with
  | list =>
    obtain ⟨n, hn, hchildren, hbuild⟩ := hsized _ _ _ h
    exact ⟨n, hn, .inl ⟨rfl, hchildren, hbuild⟩⟩
  | map =>
    simp only [openedType] at h
    obtain ⟨n, hn, hchildren, hbuild⟩ := hsized _ _ _ h
    exact ⟨n, hn, .inr ⟨rfl, hchildren, hbuild⟩⟩
  | struct =>
    simp only [openedType, openedStructure] at h
    split_ifs at h
  | null | boolean | integer | float | string | bytes | reserved => cases h

/-- A Structure with an accepted code, whose fields are Null at first. -/
theorem openedType_lax {type : PackStreamType} {d d' : Decoder} {value : BoltValue}
    {children : List BoltValue} {build : List BoltValue → BoltValue}
    (h : openedType check type d value = .lax d' children build) :
    ∃ n : Nat, ∃ code : Int16, n < 0x10 ∧ check code = true ∧ code.toInt < 0x80 ∧
      children = List.replicate n null ∧ build = struct code := by
  cases type with
  | struct =>
    simp only [openedType, openedStructure] at h
    split_ifs at h with hmarker hcheck
    cases h
    have hsize := @Nat.and_le_right (d.unsigned 1).1 0x0F
    obtain ⟨hlow, hhigh⟩ := signed_range 1 (d.unsigned 1).2
    norm_num at hlow hhigh
    refine ⟨_, _, by omega, hcheck, ?_, rfl, rfl⟩
    rw [Int16.toInt_ofInt_of_le (by omega) (by omega)]
    omega
  | list | map =>
    simp only [openedType, openedSized] at h
    split at h
    · cases h
    · split_ifs at h
  | null | boolean | integer | float | string | bytes | reserved => cases h

/-! ## What is decoded -/

/-- The values that `unload` makes. -/
inductive Decoded (check : CheckStructSignature) : BoltValue → Prop where
  | scalar {v : BoltValue} (h : Scalar v) : Decoded check v
  | list (elements : List BoltValue) (hsize : elements.length < 0x80000000)
      (helements : ∀ v ∈ elements, Decoded check v) : Decoded check (.list elements)
  | dictionary (entries : List (BoltValue × BoltValue)) (hsize : entries.length < 0x80000000)
      (hkeys : ∀ e ∈ entries, Decoded check e.1) (hvalues : ∀ e ∈ entries, Decoded check e.2) :
      Decoded check (.dictionary entries)
  | struct (code : Int16) (fields : List BoltValue) (hcheck : check code = true)
      (hcode : code.toInt < 0x80) (hsize : fields.length < 0x10)
      (hfields : ∀ v ∈ fields, Decoded check v) : Decoded check (.struct code fields)

theorem null_of_mem_listElements {n : Nat} {v : BoltValue} (h : v ∈ null.listElements n) :
    v = null :=
  List.eq_of_mem_replicate h

theorem null_of_mem_entryValues {n : Nat} {v : BoltValue}
    (h : v ∈ entryValues (null.dictionaryEntries n)) : v = null := by
  obtain ⟨e, he, hv⟩ := List.mem_flatMap.mp h
  obtain rfl := List.eq_of_mem_replicate he
  simpa using hv

theorem mem_valueEntries (vs : List BoltValue) :
    ∀ e ∈ valueEntries vs, e.1 ∈ vs ∧ e.2 ∈ vs := by
  induction vs using valueEntries.induct with
  | case1 k v vs ih =>
    intro e he
    rcases List.mem_cons.mp he with rfl | he
    · simp
    · obtain ⟨hkey, hvalue⟩ := ih e he
      exact ⟨.tail k (.tail v hkey), .tail k (.tail v hvalue)⟩
  | case2 vs hshort =>
    intro e he
    rw [valueEntries.eq_2 vs hshort] at he
    exact absurd he List.not_mem_nil

theorem length_valueEntries (vs : List BoltValue) {n : Nat} (h : vs.length = 2 * n) :
    (valueEntries vs).length = n := by
  induction n generalizing vs with
  | zero =>
    rw [List.length_eq_zero_iff.mp h]
    rfl
  | succ n ih =>
    obtain ⟨k, rest, rfl⟩ := List.exists_cons_of_length_eq_add_one (n := 2 * n + 1) (by omega)
    rcases rest with _ | ⟨v, rest⟩
    · simp only [List.length_cons, List.length_nil] at h
      omega
    · simp only [valueEntries, List.length_cons] at h ⊢
      rw [ih rest (by omega)]

/-- The entries are made of the values with an even index and those behind them. -/
theorem getElem?_valueEntries (vs : List BoltValue) (e : BoltValue × BoltValue) : ∀ k,
    (valueEntries vs)[k]? = some e ↔ vs[2 * k]? = some e.1 ∧ vs[2 * k + 1]? = some e.2 := by
  obtain ⟨key, value⟩ := e
  induction vs using valueEntries.induct with
  | case1 k' v' vs ih =>
    rintro (_ | k)
    · simp [valueEntries]
    · simpa [valueEntries, Nat.mul_add] using ih k
  | case2 vs hshort =>
    intro k
    rw [valueEntries.eq_2 vs hshort]
    refine iff_of_false (by simp) ?_
    rintro ⟨hkey, hvalue⟩
    rcases vs with _ | ⟨v1, _ | ⟨v2, vs⟩⟩
    · cases hkey
    · simp at hvalue
    · exact hshort v1 v2 vs rfl

/-- A call has succeeded, or its destination was Null. -/
def Fresh (site : Site) (status : Int) : Prop := status = BOLT_SUCCESS ∨ site.2 = null

/-- What a call has decoded, and what the calls for the children have. -/
inductive Result (check : CheckStructSignature) (site : Site) : Int → BoltValue → Prop where
  | done {status : Int} {d : Decoder} {v : BoltValue}
      (hopened : site.opened check = .done (some (status, d, v)))
      (hscalar : status = BOLT_SUCCESS ∧ Scalar v ∨ status ≠ BOLT_SUCCESS ∧ v = site.2) :
      Result check site status v
  | strict {status : Int} {d : Decoder} {children vs : List BoltValue}
      {build : List BoltValue → BoltValue} {n : Nat}
      (hopened : site.opened check = .strict d children build) (hn : n < 0x80000000)
      (hbuild : site.type = .list ∧ vs.length = n ∧ build = list ∨
        site.type = .map ∧ vs.length = 2 * n ∧ build = fun vs => dictionary (valueEntries vs))
      (hchildren : vs.length = children.length)
      (hresults : ∀ index v, vs[index]? = some v →
        (∃ site' result d1, LoopCall check true d children index site' ∧
          site'.outcome check = some (result, d1, v) ∧ Fresh site' result) ∨
        v = null ∧ ∀ site', ¬LoopCall check true d children index site') :
      Result check site status (build vs)
  | lax {d : Decoder} {children vs : List BoltValue} {code : Int16}
      (hopened : site.opened check = .lax d children (struct code)) (hcheck : check code = true)
      (hcode : code.toInt < 0x80) (hsize : vs.length < 0x10) (hchildren : vs.length = children.length)
      (hresults : ∀ index v, vs[index]? = some v →
        ∃ site' result d1, LoopCall check false d children index site' ∧
          site'.outcome check = some (result, d1, v) ∧ Fresh site' result) :
      Result check site BOLT_SUCCESS (struct code vs)

theorem result_of_outcome {site : Site} {status : Int} {d' : Decoder} {v' : BoltValue}
    (houtcome : site.outcome check = some (status, d', v')) (hfresh : Fresh site status) :
    Result check site status v' := by
  rw [Site.outcome, unload_run] at houtcome
  rcases hopened : site.opened check with result | ⟨d, children, build⟩ | ⟨d, children, build⟩ <;>
    have hheader := hopened <;> rw [Site.opened] at hopened <;> rw [hopened] at houtcome
  · rw [Site.opened_eq] at hheader
    have hdone : result = some (status, d', v') := houtcome
    subst hdone
    exact .done hopened (settled_openedType hheader status d' v' rfl)
  · obtain ⟨⟨status1, d1, vs⟩, hloop, hresult⟩ := Option.map_eq_some_iff.mp houtcome
    cases hresult
    obtain ⟨hlength, hresults⟩ := unloadElements_results children hloop
    rw [Site.opened_eq] at hheader
    obtain ⟨n, hn, hkind⟩ := openedType_strict hheader
    have hnull : site.2 = null → ∀ v ∈ children, v = null := by
      intro hdest v hv
      rcases hkind with ⟨-, hchildren, -⟩ | ⟨-, hchildren, -⟩
      · rw [hchildren, hdest] at hv
        exact null_of_mem_listElements hv
      · rw [hchildren, hdest] at hv
        exact null_of_mem_entryValues hv
    refine .strict hopened hn ?_ hlength fun index v hv => ?_
    · rcases hkind with ⟨htype, hchildren, hbuild⟩ | ⟨htype, hchildren, hbuild⟩
      · exact .inl ⟨htype, by rw [hlength, hchildren, length_listElements], hbuild⟩
      · exact .inr ⟨htype, by rw [hlength, hchildren, length_entryValues, length_dictionaryEntries],
          hbuild⟩
    · rcases hresults index v hv with ⟨site', result, d2, hcall, hdest, hchild, hsuccess⟩ |
        ⟨hfailed, hdest, hnone⟩
      · refine .inl ⟨site', result, d2, hcall, hchild, ?_⟩
        rcases hfresh with hstatus | hsite
        · exact .inl (hsuccess hstatus)
        · exact .inr (hnull hsite _ (List.mem_of_getElem? hdest))
      · exact .inr ⟨hnull (hfresh.resolve_left hfailed) v (List.mem_of_getElem? hdest), hnone⟩
  · obtain ⟨⟨d1, vs⟩, hloop, hresult⟩ := Option.map_eq_some_iff.mp houtcome
    obtain ⟨hlength, hresults⟩ := unloadFields_results children hloop
    rw [Site.opened_eq] at hheader
    obtain ⟨n, code, hn, hcheck, hcode, hchildren, rfl⟩ := openedType_lax hheader
    cases hresult
    refine .lax hopened hcheck hcode ?_ hlength fun index v hv => ?_
    · rw [hlength, hchildren, List.length_replicate]
      exact hn
    · obtain ⟨site', result, d2, hcall, hdest, hchild⟩ := hresults index v hv
      refine ⟨site', result, d2, hcall, hchild, .inr ?_⟩
      rw [hchildren] at hdest
      exact List.eq_of_mem_replicate (List.mem_of_getElem? hdest)

/-- Whatever the destination held, what has been decoded into it is a `Decoded` value. -/
theorem decoded_of_outcome (site : Site) : ∀ {status d' v'},
    site.outcome check = some (status, d', v') → Fresh site status → Decoded check v' := by
  induction site using @Site.induction check with
  | step site ih =>
    intro status d' v' houtcome hfresh
    cases result_of_outcome houtcome hfresh with
    | done hopened hscalar =>
      rcases hscalar with ⟨-, hscalar⟩ | ⟨hfailed, rfl⟩
      · exact .scalar hscalar
      · rw [hfresh.resolve_left hfailed]
        exact .scalar .null
    | @strict _ d children vs build n hopened hn hbuild hchildren hresults =>
      have hall : ∀ v ∈ vs, Decoded check v := by
        intro v hv
        obtain ⟨index, hindex⟩ := List.getElem?_of_mem hv
        rcases hresults index v hindex with ⟨site', result, d1, hcall, hchild, hfresh'⟩ | ⟨rfl, -⟩
        · exact ih site' (.inl ⟨d, children, build, index, hopened, hcall⟩) hchild hfresh'
        · exact .scalar .null
      rcases hbuild with ⟨-, hlength, rfl⟩ | ⟨-, hlength, rfl⟩
      · exact .list vs (by omega) hall
      · have hentries := length_valueEntries vs hlength
        exact .dictionary (valueEntries vs) (by rw [hentries]; exact hn)
          (fun e he => hall _ (mem_valueEntries vs e he).1)
          fun e he => hall _ (mem_valueEntries vs e he).2
    | @lax d children vs code hopened hcheck hcode hsize hchildren hresults =>
      refine .struct code vs hcheck hcode hsize fun v hv => ?_
      obtain ⟨index, hindex⟩ := List.getElem?_of_mem hv
      obtain ⟨site', result, d1, hcall, hchild, hfresh'⟩ := hresults index v hindex
      exact ih site' (.inr ⟨d, children, struct code, index, hopened, hcall⟩) hchild hfresh'

/-! ## Which of them can be encoded again -/

/-- The header of a String. -/
def Site.StringAhead (site : Site) : Prop := site.type = .string ∧ site.size.1.isSome

/-- The header is one that the encoder writes: that of a Map is followed by a String where a key
is due, and the code of a Structure is not negative. -/
structure Site.Canonical (check : CheckStructSignature) (site : Site) : Prop where
  keys : ∀ d children build, site.type = .map → site.opened check = .strict d children build →
    ∀ k, 2 * k < children.length →
      ∃ site', LoopCall check true d children (2 * k) site' ∧ site'.StringAhead
  code : ∀ d children code, site.opened check = .lax d children (struct code) → 0 ≤ code.toInt

/-- The nested calls are the call itself, and those of the children. -/
theorem forall_reaches {p : Site → Prop} (site : Site) :
    (∀ site', Reaches check site site' → p site') ↔
      p site ∧ ∀ child, site.Calls check child ∨ site.CallsField check child →
        ∀ site', Reaches check child site' → p site' := by
  constructor
  · exact fun h => ⟨h site .refl, fun child hcalls site' hreaches => h site' (.head hcalls hreaches)⟩
  · rintro ⟨hsite, hchildren⟩ site' hreaches
    rcases Relation.ReflTransGen.cases_head_iff.mp hreaches with rfl | ⟨child, hcalls, hrest⟩
    · exact hsite
    · exact hchildren child hcalls site' hrest

/-- The header of a String is that of a call that decodes one, unless it does not return. -/
theorem string_of_ahead {site : Site} (hahead : site.StringAhead) {status : Int} {d : Decoder}
    {v : BoltValue} (houtcome : site.outcome check = some (status, d, v)) :
    ∃ data, v = string data := by
  obtain ⟨htype, hsize⟩ := hahead
  have hopened : site.opened check = .done (unloadString site.1.peek.2 site.2) := by
    rw [Site.opened_eq, htype]
    rfl
  rw [Site.opened] at hopened
  rw [Site.outcome, unload_run, hopened, Opened.run, unloadString] at houtcome
  simp only [Site.size, htype, sizeMarkers] at hsize
  rcases hread : unloadSize stringMarkers site.1.peek.2 with ⟨_ | n, d1⟩ <;>
    rw [hread] at hsize houtcome
  · cases hsize
  · simp only [unloadChars] at houtcome
    split_ifs at houtcome
    split at houtcome <;> cases houtcome <;> exact ⟨_, rfl⟩

/-- A call that decodes a String has found the header of one. -/
theorem ahead_of_string {site : Site} {status : Int} {d : Decoder} {data : List UInt8}
    (houtcome : site.outcome check = some (status, d, string data)) (hfresh : Fresh site status) :
    site.StringAhead := by
  generalize hv : string data = v at houtcome
  cases result_of_outcome houtcome hfresh with
  | @done _ d1 _ hopened hscalar =>
    rcases hscalar with ⟨rfl, -⟩ | ⟨hfailed, hdest⟩
    · subst hv
      rw [Site.opened_eq] at hopened
      rcases htype : site.type with _ | _ | _ | _ | _ | _ | _ | _ | _ | _ <;> rw [htype] at hopened
      case string =>
        refine ⟨htype, ?_⟩
        simp only [Site.size, htype, sizeMarkers]
        rw [openedType, Opened.done.injEq, unloadString] at hopened
        rcases hread : unloadSize stringMarkers site.1.peek.2 with ⟨_ | n, d2⟩ <;>
          rw [hread] at hopened
        · cases hopened
        · rfl
      case bytes =>
        rw [openedType, Opened.done.injEq, unloadBytes] at hopened
        rcases hread : unloadSize bytesMarkers site.1.peek.2 with ⟨_ | n, d2⟩ <;>
          rw [hread] at hopened
        · cases hopened
        · simp only [unloadChars] at hopened
          split_ifs at hopened
          split at hopened <;> cases hopened
      case list =>
        simp only [openedType, openedSized] at hopened
        split at hopened
        · cases hopened
        · split_ifs at hopened
          cases hopened
      case map =>
        simp only [openedType, openedSized] at hopened
        split at hopened
        · cases hopened
        · split_ifs at hopened
          cases hopened
      case struct =>
        simp only [openedType, openedStructure] at hopened
        split_ifs at hopened <;> cases hopened
      case null =>
        simp only [openedType, unloadNull] at hopened
        split_ifs at hopened <;> cases hopened
      case boolean =>
        simp only [openedType, unloadBoolean] at hopened
        split_ifs at hopened <;> cases hopened
      case integer =>
        simp only [openedType, unloadInteger, unloadIntegerBe] at hopened
        split_ifs at hopened <;> cases hopened
      case float =>
        simp only [openedType, unloadFloat] at hopened
        split_ifs at hopened <;> cases hopened
      case reserved => cases hopened
    · rw [hfresh.resolve_left hfailed] at hdest
      exact absurd (hv.trans hdest) (by simp)
  | strict _ _ hbuild _ _ =>
    rcases hbuild with ⟨-, -, rfl⟩ | ⟨-, -, rfl⟩ <;> cases hv
  | lax => cases hv

theorem Scalar.encodable {v : BoltValue} (h : Scalar v) : Encodable check v := by
  cases h with
  | null => exact .null
  | no => exact .boolean 0
  | yes => exact .boolean 1
  | integer data => exact .integer data
  | float data => exact .float data
  | string data hsize => exact .string data hsize
  | bytes data hsize => exact .bytes data hsize

/-- The entries of a Map can be encoded if the values they are made of can, and the keys are
Strings. -/
theorem encodable_valueEntries {vs : List BoltValue} {n : Nat} (hn : n < 0x80000000)
    (hlength : vs.length = 2 * n) :
    Encodable check (.dictionary (valueEntries vs)) ↔ (∀ v ∈ vs, Encodable check v) ∧
      ∀ k v, vs[2 * k]? = some v → ∃ data, v = string data := by
  have hentry : ∀ k < n, ∃ key value, vs[2 * k]? = some key ∧ vs[2 * k + 1]? = some value ∧
      (key, value) ∈ valueEntries vs := by
    intro k hk
    refine ⟨_, _, List.getElem?_eq_getElem (by omega : 2 * k < vs.length),
      List.getElem?_eq_getElem (by omega : 2 * k + 1 < vs.length), ?_⟩
    refine List.mem_of_getElem? (i := k) ((getElem?_valueEntries vs _ k).mpr ⟨?_, ?_⟩)
    · exact List.getElem?_eq_getElem (by omega)
    · exact List.getElem?_eq_getElem (by omega)
  constructor
  · intro h
    cases h with
    | dictionary _ _ hkeys hvalues =>
      refine ⟨fun v hv => ?_, fun k v hv => ?_⟩
      · obtain ⟨index, hindex⟩ := List.getElem?_of_mem hv
        have hlt := (List.getElem?_eq_some_iff.mp hindex).1
        obtain ⟨key, value, hkey, hvalue, hmem⟩ := hentry (index / 2) (by omega)
        rcases Nat.mod_two_eq_zero_or_one index with heven | hodd
        · rw [show 2 * (index / 2) = index by omega, hindex] at hkey
          cases hkey
          obtain ⟨data, rfl, hsize⟩ := hkeys _ hmem
          exact .string data hsize
        · rw [show 2 * (index / 2) + 1 = index by omega, hindex] at hvalue
          cases hvalue
          exact hvalues _ hmem
      · have hlt := (List.getElem?_eq_some_iff.mp hv).1
        obtain ⟨key, value, hkey, -, hmem⟩ := hentry k (by omega)
        rw [hv] at hkey
        cases hkey
        obtain ⟨data, hdata, -⟩ := hkeys _ hmem
        exact ⟨data, hdata⟩
  · rintro ⟨hall, hstrings⟩
    have hentries := length_valueEntries vs hlength
    refine .dictionary (valueEntries vs) (by rw [hentries]; exact hn) (fun e he => ?_)
      fun e he => hall _ (mem_valueEntries vs e he).2
    obtain ⟨k, hk⟩ := List.getElem?_of_mem he
    obtain ⟨data, hdata⟩ := hstrings k e.1 ((getElem?_valueEntries vs e k).mp hk).1
    have hkey := hall _ (mem_valueEntries vs e he).1
    rw [hdata] at hkey
    cases hkey with
    | string _ hsize => exact ⟨data, hdata, hsize⟩

/-- What a loop has decoded can be encoded if what its calls have decoded can; a child for which
there was no call is Null. -/
theorem encodable_children {stops : Bool} {d : Decoder} {children vs : List BoltValue}
    {p : Site → Prop} (hchildren : vs.length = children.length)
    (hresults : ∀ index v, vs[index]? = some v →
      (∃ site' result d1, LoopCall check stops d children index site' ∧
        site'.outcome check = some (result, d1, v) ∧ Fresh site' result) ∨
      v = null ∧ ∀ site', ¬LoopCall check stops d children index site')
    (ih : ∀ index site', LoopCall check stops d children index site' → ∀ {status d' v'},
      site'.outcome check = some (status, d', v') → Fresh site' status →
        (Encodable check v' ↔ p site')) :
    (∀ v ∈ vs, Encodable check v) ↔
      ∀ index site', LoopCall check stops d children index site' → p site' := by
  constructor
  · intro h index site' hcall
    have hlt : index < vs.length := hchildren ▸ hcall.index_lt
    have hindex := List.getElem?_eq_getElem hlt
    rcases hresults index _ hindex with ⟨site1, result, d1, hcall1, houtcome, hfresh⟩ | ⟨-, hnone⟩
    · obtain rfl := hcall.unique hcall1
      exact (ih index site' hcall houtcome hfresh).mp (h _ (List.mem_of_getElem? hindex))
    · exact absurd hcall (hnone site')
  · intro h v hv
    obtain ⟨index, hindex⟩ := List.getElem?_of_mem hv
    rcases hresults index v hindex with ⟨site', result, d1, hcall, houtcome, hfresh⟩ | ⟨rfl, -⟩
    · exact (ih index site' hcall houtcome hfresh).mpr (h index site' hcall)
    · exact .null

/-- What has been decoded has an encoding if every header is one that the encoder writes. -/
theorem encodable_iff (site : Site) : ∀ {status d' v'},
    site.outcome check = some (status, d', v') → Fresh site status →
      (Encodable check v' ↔ ∀ site', Reaches check site site' → site'.Canonical check) := by
  induction site using @Site.induction check with
  | step site ih =>
    intro status d' v' houtcome hfresh
    rw [forall_reaches]
    cases result_of_outcome houtcome hfresh with
    | done hopened hscalar =>
      have hencodable : Encodable check v' := by
        rcases hscalar with ⟨-, hscalar⟩ | ⟨hfailed, rfl⟩
        · exact hscalar.encodable
        · rw [hfresh.resolve_left hfailed]
          exact .null
      refine iff_of_true hencodable ⟨⟨fun _ _ _ _ hstrict => ?_, fun _ _ _ hlax => ?_⟩, ?_⟩
      · exact absurd (hopened.symm.trans hstrict) nofun
      · exact absurd (hopened.symm.trans hlax) nofun
      · rintro child (⟨_, _, _, _, hstrict, -⟩ | ⟨_, _, _, _, hlax, -⟩)
        · exact absurd (hopened.symm.trans hstrict) nofun
        · exact absurd (hopened.symm.trans hlax) nofun
    | @strict _ d children vs build n hopened hn hbuild hchildren hresults =>
      have hall := encodable_children hchildren hresults fun index site' hcall =>
        ih site' (.inl ⟨d, children, build, index, hopened, hcall⟩)
      have hcalls : (∀ child, site.Calls check child ∨ site.CallsField check child →
          ∀ site', Reaches check child site' → site'.Canonical check) ↔
          ∀ index child, LoopCall check true d children index child →
            ∀ site', Reaches check child site' → site'.Canonical check := by
        constructor
        · exact fun h index child hcall =>
            h child (.inl ⟨d, children, build, index, hopened, hcall⟩)
        · rintro h child (⟨_, _, _, index, hstrict, hcall⟩ | ⟨_, _, _, _, hlax, -⟩)
          · cases hopened.symm.trans hstrict
            exact h index child hcall
          · exact absurd (hopened.symm.trans hlax) nofun
      rw [hcalls, ← hall]
      have hcode : ∀ d children code, site.opened check = .lax d children (struct code) →
          0 ≤ code.toInt :=
        fun _ _ _ hlax => absurd (hopened.symm.trans hlax) nofun
      rcases hbuild with ⟨htype, hlength, rfl⟩ | ⟨htype, hlength, rfl⟩
      · have hcanonical : site.Canonical check :=
          ⟨fun _ _ _ hmap => absurd (htype.symm.trans hmap) (by decide), hcode⟩
        rw [and_iff_right hcanonical]
        refine ⟨fun h => ?_, .list vs (by omega)⟩
        cases h with
        | list _ _ helements => exact helements
      · rw [encodable_valueEntries hn hlength, and_comm]
        refine and_congr_left fun hencodable => ⟨fun h => ⟨?_, hcode⟩, fun h k v hv => ?_⟩
        · intro d2 children2 build2 _ hstrict k hk
          cases hopened.symm.trans hstrict
          have hindex := List.getElem?_eq_getElem (hchildren ▸ hk : 2 * k < vs.length)
          obtain ⟨data, hdata⟩ := h k _ hindex
          rcases hresults (2 * k) _ hindex with ⟨site', result, d1, hcall, hkey, hfresh'⟩ |
            ⟨hnull, -⟩
          · rw [hdata] at hkey
            exact ⟨site', hcall, ahead_of_string hkey hfresh'⟩
          · exact absurd (hdata.symm.trans hnull) nofun
        · have hlt := (List.getElem?_eq_some_iff.mp hv).1
          obtain ⟨site', hcall, hahead⟩ := h.keys d children _ htype hopened k (hchildren ▸ hlt)
          rcases hresults (2 * k) v hv with ⟨site1, result, d1, hcall1, hkey, -⟩ | ⟨-, hnone⟩
          · obtain rfl := hcall.unique hcall1
            exact string_of_ahead hahead hkey
          · exact absurd hcall (hnone site')
    | @lax d children vs code hopened hcheck hcode hsize hchildren hresults =>
      have hall := encodable_children hchildren (fun index v hv => .inl (hresults index v hv))
        fun index site' hcall =>
          ih site' (.inr ⟨d, children, struct code, index, hopened, hcall⟩)
      have hcalls : (∀ child, site.Calls check child ∨ site.CallsField check child →
          ∀ site', Reaches check child site' → site'.Canonical check) ↔
          ∀ index child, LoopCall check false d children index child →
            ∀ site', Reaches check child site' → site'.Canonical check := by
        constructor
        · exact fun h index child hcall =>
            h child (.inr ⟨d, children, struct code, index, hopened, hcall⟩)
        · rintro h child (⟨_, _, _, _, hstrict, -⟩ | ⟨_, _, _, index, hlax, hcall⟩)
          · exact absurd (hopened.symm.trans hstrict) nofun
          · cases hopened.symm.trans hlax
            exact h index child hcall
      rw [hcalls, ← hall]
      constructor
      · intro h
        cases h with
        | struct _ _ hcode _ _ hfields =>
          refine ⟨⟨fun _ _ _ _ hstrict => absurd (hopened.symm.trans hstrict) nofun, ?_⟩, hfields⟩
          intro d2 children2 code2 hlax
          obtain ⟨-, -, hbuild⟩ := Opened.lax.inj (hopened.symm.trans hlax)
          cases congrFun hbuild []
          exact hcode.1
      · rintro ⟨hcanonical, hfields⟩
        exact .struct code vs ⟨hcanonical.code d children code hopened, hcode⟩ hcheck hsize hfields

/-! ## Well-formed values -/

/-- The keys are Strings and the codes are accepted at every depth, and there are as many children
as the size says. -/
inductive WellFormed (check : CheckStructSignature) : BoltValue → Prop where
  | null : WellFormed check .null
  | boolean (data : UInt8) : WellFormed check (.boolean data)
  | integer (data : Int64) : WellFormed check (.integer data)
  | float (data : UInt64) : WellFormed check (.float data)
  | string (data : List UInt8) : WellFormed check (.string data)
  | bytes (data : List UInt8) : WellFormed check (.bytes data)
  | list (elements : List BoltValue) (helements : ∀ v ∈ elements, WellFormed check v) :
      WellFormed check (.list elements)
  | dictionary (entries : List (BoltValue × BoltValue)) (hstrings : ∀ e ∈ entries, e.1.type = .string)
      (hkeys : ∀ e ∈ entries, WellFormed check e.1) (hvalues : ∀ e ∈ entries, WellFormed check e.2) :
      WellFormed check (.dictionary entries)
  | struct (code : Int16) (fields : List BoltValue) (hcheck : check code)
      (hfields : ∀ v ∈ fields, WellFormed check v) : WellFormed check (.struct code fields)

/-- Loading the value succeeds and appends bytes that decode to it. -/
def Reencodes (check : CheckStructSignature) (v : BoltValue) : Prop :=
  ∃ bytes, Loads (load check v) bytes ∧ Unloads (unload check) v bytes

theorem wellFormed_of_encodable {v : BoltValue} (h : Encodable check v) : WellFormed check v := by
  induction h with
  | null => exact .null
  | boolean data => exact .boolean data
  | integer data => exact .integer data
  | float data => exact .float data
  | string data _ => exact .string data
  | bytes data _ => exact .bytes data
  | list elements _ _ ih => exact .list elements ih
  | dictionary entries _ hkeys _ ih =>
    refine .dictionary entries (fun e he => ?_) (fun e he => ?_) ih
    · obtain ⟨key, hkey, -⟩ := hkeys e he
      rw [hkey]
      rfl
    · obtain ⟨key, hkey, -⟩ := hkeys e he
      rw [hkey]
      exact .string key
  | struct code fields _ hcheck _ _ ih => exact .struct code fields hcheck ih

/-- A decoded value has every Boolean as 0 or 1. -/
theorem Decoded.canon_eq {v : BoltValue} (h : Decoded check v) : v.canon = v := by
  induction h with
  | scalar hscalar => cases hscalar <;> rfl
  | list elements _ _ ih =>
    simp only [BoltValue.canon, BoltValue.canonElements_eq_map, List.map_congr_left ih, List.map_id']
  | dictionary entries _ _ _ ihkeys ihvalues =>
    have hentries : entries.map (fun e => (e.1.canon, e.2.canon)) = entries.map id :=
      List.map_congr_left fun e he => Prod.ext (ihkeys e he) (ihvalues e he)
    simp only [BoltValue.canon, BoltValue.canonEntries_eq_map, hentries, List.map_id]
  | struct code fields _ _ _ _ ih =>
    simp only [BoltValue.canon, BoltValue.canonElements_eq_map, List.map_congr_left ih, List.map_id']

theorem Decoded.reencodes {v : BoltValue} (h : Decoded check v) (hencodable : Encodable check v) :
    Reencodes check v := by
  obtain ⟨bytes, hencodes, hloads⟩ := loads_of_encodable hencodable
  rw [h.canon_eq] at hencodes
  exact ⟨bytes, hloads, unload_of_encodes hencodes⟩

/-- The loader succeeds on some buffer. -/
def Passes (loader : BoltBuffer → Outcome BoltBuffer) : Prop :=
  ∃ buffer buffer', loader buffer = some (BOLT_SUCCESS, buffer')

theorem Loads.passes {loader : BoltBuffer → Outcome BoltBuffer} {bytes : List UInt8}
    (h : Loads loader bytes) : Passes loader := by
  obtain ⟨buffer, hload, -⟩ := h (.create 0) (BoltBuffer.wf_create 0)
  exact ⟨_, buffer, hload⟩

/-- Both parts of a `TRY` that succeeds do. -/
theorem Passes.both {loader next : BoltBuffer → Outcome BoltBuffer}
    (h : Passes fun buffer => Outcome.TRY (loader buffer) next) : Passes loader ∧ Passes next := by
  obtain ⟨buffer, buffer', hresult⟩ := h
  obtain ⟨middle, hload, hnext⟩ := Outcome.TRY_eq_success hresult
  exact ⟨⟨buffer, middle, hload⟩, middle, buffer', hnext⟩

theorem passes_elements {vs : List BoltValue} (h : Passes (loadElements check vs)) :
    ∀ v ∈ vs, Passes (load check v) := by
  induction vs with
  | nil => exact nofun
  | cons v vs ih =>
    obtain ⟨hhead, htail⟩ := Passes.both h
    exact List.forall_mem_cons.mpr ⟨hhead, ih htail⟩

theorem passes_entries {es : List (BoltValue × BoltValue)} (h : Passes (loadEntries check es)) :
    ∀ e ∈ es, Passes (load check e.2) := by
  induction es with
  | nil => exact nofun
  | cons e es ih =>
    obtain ⟨key, value⟩ := e
    obtain ⟨-, hrest⟩ := Passes.both h
    obtain ⟨hhead, htail⟩ := Passes.both hrest
    exact List.forall_mem_cons.mpr ⟨hhead, ih htail⟩

theorem passes_struct {code : Int16} {fields : List BoltValue}
    (h : Passes (load check (.struct code fields))) :
    0 ≤ code.toInt ∧ ∀ v ∈ fields, Passes (load check v) := by
  have hchecked : Passes fun buffer =>
      Outcome.TRY (loadStructureHeader buffer code (toInt8 fields.length)) fun buffer =>
        loadElements check fields buffer := by
    obtain ⟨buffer, buffer', hload⟩ := h
    simp only [load] at hload
    split_ifs at hload
    · exact ⟨buffer, buffer', hload⟩
    · cases hload
  obtain ⟨hheader, hfields⟩ := hchecked.both
  refine ⟨?_, passes_elements hfields⟩
  obtain ⟨buffer, buffer', hload⟩ := hheader
  unfold loadStructureHeader at hload
  split_ifs at hload with hrefused
  · cases hload
  · rw [not_or, Int16.lt_iff_toInt_lt] at hrefused
    simpa using hrefused.1

/-- A decoded value has an encoding if it is well formed and the encoder accepts it. -/
theorem Decoded.encodable {v : BoltValue} (h : Decoded check v) :
    WellFormed check v → Passes (load check v) → Encodable check v := by
  induction h with
  | scalar hscalar => exact fun _ _ => hscalar.encodable
  | list elements hsize _ ih =>
    intro hwell hpasses
    cases hwell with
    | list _ helements =>
      have hpassed := passes_elements hpasses.both.2
      exact .list elements hsize fun v hv => ih v hv (helements v hv) (hpassed v hv)
  | dictionary entries hsize hdecoded _ ihkeys ihvalues =>
    intro hwell hpasses
    cases hwell with
    | dictionary _ hstrings _ hvalues =>
      have hpassed := passes_entries hpasses.both.2
      refine .dictionary entries hsize (fun e he => ?_)
        fun e he => ihvalues e he (hvalues e he) (hpassed e he)
      have hkey := hdecoded e he
      have htype := hstrings e he
      generalize e.1 = key at hkey htype
      cases hkey with
      | scalar hscalar =>
        cases hscalar with
        | string data hsize => exact ⟨data, rfl, hsize⟩
        | null | no | yes | integer | float | bytes => cases htype
      | list | dictionary | struct => cases htype
  | struct code fields hcheck hcode hsize _ ih =>
    intro hwell hpasses
    cases hwell with
    | struct _ _ _ hfields =>
      obtain ⟨hnonneg, hpassed⟩ := passes_struct hpasses
      exact .struct code fields ⟨hnonneg, hcode⟩ hcheck hsize
        fun v hv => ih v hv (hfields v hv) (hpassed v hv)

/-- What a successful `unload` gives is well formed and can be encoded again if every header is
one that the encoder writes. -/
theorem wellFormed_iff (check : CheckStructSignature) (site : Site) (d' : Decoder) (v' : BoltValue)
    (houtcome : unload check site.1 site.2 = some (BOLT_SUCCESS, d', v')) :
    WellFormed check v' ∧ Reencodes check v' ↔
      ∀ site', Reaches check site site' → site'.Canonical check := by
  have hdecoded := decoded_of_outcome site houtcome (.inl rfl)
  rw [← encodable_iff site houtcome (.inl rfl)]
  constructor
  · rintro ⟨hwell, bytes, hloads, -⟩
    exact hdecoded.encodable hwell hloads.passes
  · exact fun hencodable => ⟨wellFormed_of_encodable hencodable, hdecoded.reencodes hencodable⟩

/-- A Map with one entry. -/
theorem wellFormed_entry :
    let site : Site := (decoderOf [0xA1, 0x81, 0x61, 0x01], .null)
    let check := BoltProtocolV1.checkReadableStructSignature
    ∃ d' v', unload check site.1 site.2 = some (BOLT_SUCCESS, d', v') ∧
      (WellFormed check v' ∧ Reencodes check v' ↔
        ∀ site', Reaches check site site' → site'.Canonical check) := by
  intro site check
  have hstatus : (unload check site.1 site.2).map Prod.fst = some BOLT_SUCCESS := by
    decide +kernel
  obtain ⟨⟨status, d', v'⟩, houtcome, hresult⟩ := Option.map_eq_some_iff.mp hstatus
  cases hresult
  exact ⟨d', v', houtcome, wellFormed_iff check site d' v' houtcome⟩

/-- A Map with an integer as the key. -/
theorem integerKey_not_wellFormed :
    ¬∀ (site : Site) (d' : Decoder) (v' : BoltValue),
      unload BoltProtocolV1.checkReadableStructSignature site.1 site.2 =
        some (BOLT_SUCCESS, d', v') →
      WellFormed BoltProtocolV1.checkReadableStructSignature v' ∧
        Reencodes BoltProtocolV1.checkReadableStructSignature v' := by
  intro h
  have hkey : (unload BoltProtocolV1.checkReadableStructSignature
      (decoderOf [0xA1, 0x01, 0x01]) .null).map (fun result => (result.1, result.2.2)) =
      some (BOLT_SUCCESS, .dictionary [(.integer 1, .integer 1)]) := by
    rfl
  obtain ⟨⟨status, d', value⟩, houtcome, hresult⟩ := Option.map_eq_some_iff.mp hkey
  obtain ⟨rfl, rfl⟩ := Prod.mk.inj hresult
  obtain ⟨hwell, -⟩ := h (decoderOf [0xA1, 0x01, 0x01], .null) d' _ houtcome
  cases hwell with
  | dictionary _ hstrings _ _ =>
    have hstring : (BoltValue.integer 1).type = .string := hstrings _ List.mem_cons_self
    cases hstring

end PackStream

end Seabolt
