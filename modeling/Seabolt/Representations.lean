import Seabolt.StringBuilder

/-!
# Representations in a buffer

`BoltValue_to_string`, which copies the representation of a value to a buffer of
the caller.

The documentation of `values.h` promises the representation and a NUL behind it
unless the result is greater than the length of the buffer, and what fits of it
then.  There is no NUL where the representation fills the buffer, and nothing is
copied behind a NUL that is part of it (`toString_iff`).
-/

namespace Seabolt

open BoltValue

/-- The name of a structure, as `BoltValue_write` prints it behind the `$`: the
name that the protocol gives it, or its code. -/
def structureText (version : Option ProtocolVersion) (code : Int16) : List UInt8 :=
  match version with
  | some version => version.structureName code
  | none =>
    let bits := code.toUInt16.toNat
    ascii "#" ++ [hexDigit (bits >>> 12), hexDigit (bits >>> 8), hexDigit (bits >>> 4), hexDigit bits]

/-- `strncpy(dest, src, n)`: the bytes before the first NUL, and NULs up to the
count. -/
def strncpy (dest src : List UInt8) (n : Nat) : List UInt8 :=
  let copied := (src.take n).takeWhile (· ≠ 0)
  memcpy dest 0 (copied ++ List.replicate (n - copied.length) 0)

/-- `BoltValue_to_string`, with the version of the protocol of the connection if it
has been passed one with a protocol, and what memory holds that it is given. -/
def BoltValue.toString (printing : Printing) (version : Option ProtocolVersion)
    (garbage : List UInt8) (value : BoltValue) (dest : List UInt8) (length : Nat) :
    Outcome (List UInt8) :=
  (value.writeTo printing (structureText version) (.create garbage)).map fun (result, builder) =>
    if result = BOLT_SUCCESS then
      let builder_length := builder.buffer_pos
      let copy_length := if builder_length > length then length else builder_length
      let dest := strncpy dest builder.buffer copy_length
      let dest := if copy_length < length then memcpy dest copy_length [0] else dest
      (builder_length, dest)
    else (result, dest)

/-! ## What the documentation says -/

/-- What a call with a buffer of `n` bytes has to do: it writes nothing behind them.
A result up to `n` is the length of the text, which is in the buffer with a NUL
behind it.  A greater one means that the buffer has the first bytes of it. -/
structure Documented (text dest : List UInt8) (n : Nat) (result : Int) (dest' : List UInt8) :
    Prop where
  within : dest'.length = dest.length ∧ dest'.drop n = dest.drop n
  complete : result ≤ n → result = text.length ∧ text.length < n ∧
    dest'.take (text.length + 1) = text ++ [0]
  truncated : n < result → dest'.take n = text.take n

/-- A call with a buffer of `n` bytes does what it has to do, and so does another with a
buffer that is large enough: the whole text is in it. -/
def Truncates (printing : Printing) (version : Option ProtocolVersion) (value : BoltValue)
    (text : List UInt8) (n : Nat) : Prop :=
  ∀ dest garbage, n ≤ dest.length →
    ∃ result dest', value.toString printing version garbage dest n = some (result, dest') ∧
      Documented text dest n result dest' ∧
      ∀ (m : Nat) other garbage', result < m → m ≤ other.length →
        ∃ other', value.toString printing version garbage' other m =
            some ((text.length : Int), other') ∧
          other'.take (text.length + 1) = text ++ [0]

/-- Behind a NUL there is nothing but NULs. -/
def NulsLast (text : List UInt8) : Prop :=
  ∃ front n, text = front ++ List.replicate n 0 ∧ 0 ∉ front

/-! ## What is copied -/

variable {text dest : List UInt8} {n : Nat}

/-- The bytes that a copy leaves in a buffer. -/
def copied (text : List UInt8) : List UInt8 :=
  text.takeWhile (· ≠ 0) ++ List.replicate (text.length - (text.takeWhile (· ≠ 0)).length) 0

@[simp] theorem length_copied (text : List UInt8) : (copied text).length = text.length := by
  have hle := (List.takeWhile_prefix (fun byte : UInt8 => decide (byte ≠ 0)) (l := text)).length_le
  rw [copied, List.length_append, List.length_replicate]
  omega

/-- The copy is the text exactly if only NULs follow its first one. -/
theorem copied_eq_iff (text : List UInt8) : copied text = text ↔ NulsLast text := by
  constructor
  · intro h
    refine ⟨text.takeWhile (· ≠ 0), _, h.symm, fun hmem => ?_⟩
    have hne := List.mem_takeWhile_imp hmem
    simp at hne
  · rintro ⟨front, n, rfl, hfront⟩
    have hall : ∀ byte ∈ front, decide (byte ≠ 0) = true :=
      fun byte hbyte => decide_eq_true fun hzero => hfront (hzero ▸ hbyte)
    have hfirst : (front ++ List.replicate n 0).takeWhile (· ≠ 0) = front := by
      rw [List.takeWhile_append_of_pos hall]
      cases n with
      | zero => simp
      | succ n => simp [List.replicate_succ]
    rw [copied, hfirst, List.length_append, List.length_replicate, Nat.add_sub_cancel_left]

theorem NulsLast.take (h : NulsLast text) (n : Nat) : NulsLast (text.take n) := by
  obtain ⟨front, k, rfl, hfront⟩ := h
  refine ⟨front.take n, min (n - front.length) k, ?_, fun hmem => hfront (List.mem_of_mem_take hmem)⟩
  rw [List.take_append, List.take_replicate]

/-- The buffer after a copy of the text, which is followed by a NUL where there is
room for one. -/
theorem strncpy_eq {src : List UInt8} (hsrc : src.take n = text) (hn : n = text.length) :
    strncpy dest src n = copied text ++ dest.drop n := by
  have hlength : (copied text).length = text.length := length_copied text
  rw [strncpy, hsrc, hn, memcpy, List.take_zero, List.nil_append]
  change copied text ++ dest.drop (0 + (copied text).length) = _
  rw [hlength, Nat.zero_add]

/-- What a call leaves in the buffer. -/
def filled (text dest : List UInt8) (n : Nat) : List UInt8 :=
  if text.length < n then copied text ++ 0 :: dest.drop (text.length + 1)
  else copied (text.take n) ++ dest.drop n

variable {printing : Printing} {version : Option ProtocolVersion} {garbage : List UInt8}
  {value : BoltValue}

/-- A call returns the length of the representation, and fills the buffer. -/
theorem toString_eq (htext : value.write printing (structureText version) = some text)
    (hsize : 0 ≤ value.size) (hlimit : text.length < INT32_MAX) (hn : n ≤ dest.length) :
    value.toString printing version garbage dest n =
      some ((text.length : Int), filled text dest n) := by
  have hwrites := writes_writeTo value htext (.create garbage) [] (StringBuilder.holds_create garbage)
  rw [List.nil_append, if_pos hlimit] at hwrites
  obtain ⟨builder, hbuilder, hholds⟩ := hwrites
  obtain ⟨⟨status, written⟩, hwrite, hsame⟩ := Option.map_eq_some_iff.mp hbuilder
  obtain rfl : written = builder := hsame
  obtain rfl := writeTo_status hsize hwrite
  have hpos := hholds.pos
  rw [BoltValue.toString, hwrite, Option.map_some]
  simp only [BOLT_SUCCESS, if_true, hpos]
  unfold filled
  by_cases hroom : text.length < n
  · have hcopy : strncpy dest written.buffer text.length = copied text ++ dest.drop text.length :=
      strncpy_eq ((hholds.take le_rfl).trans List.take_length) rfl
    have hcount : (copied text).length = text.length := length_copied text
    have hnul : memcpy (copied text ++ dest.drop text.length) text.length [0] =
        copied text ++ 0 :: dest.drop (text.length + 1) := by
      have hrest : (copied text ++ dest.drop text.length).drop (text.length + 1) =
          dest.drop (text.length + 1) := by
        rw [← List.drop_drop, List.drop_left' hcount, List.drop_drop]
      rw [memcpy, List.take_left' hcount, List.length_singleton, hrest, List.append_assoc]
      rfl
    rw [if_neg (show ¬text.length > n by omega), if_pos hroom, if_pos hroom, hcopy, hnul]
  · have hcopy : strncpy dest written.buffer n = copied (text.take n) ++ dest.drop n :=
      strncpy_eq (hholds.take (by omega)) (by rw [List.length_take]; omega)
    rw [if_neg hroom]
    by_cases hlong : text.length > n
    · rw [if_pos hlong, if_neg (lt_irrefl n), hcopy]
    · obtain rfl : n = text.length := by omega
      rw [if_neg hlong, if_neg (lt_irrefl _), hcopy]

/-- A representation whose length is no `int` is not written. -/
theorem toString_none (htext : value.write printing (structureText version) = some text)
    (hlimit : ¬text.length < INT32_MAX) :
    value.toString printing version garbage dest n = none := by
  have hwrites := writes_writeTo value htext (.create garbage) [] (StringBuilder.holds_create garbage)
  rw [List.nil_append, if_neg hlimit] at hwrites
  rw [BoltValue.toString, Option.map_eq_none_iff.mp hwrites, Option.map_none]

theorem length_filled (hn : n ≤ dest.length) : (filled text dest n).length = dest.length := by
  unfold filled
  split_ifs with hroom
  · rw [List.length_append, length_copied, List.length_cons, List.length_drop]
    omega
  · rw [List.length_append, length_copied, List.length_take, List.length_drop]
    omega

/-- Nothing is written behind the buffer. -/
theorem drop_filled (hn : n ≤ dest.length) : (filled text dest n).drop n = dest.drop n := by
  unfold filled
  split_ifs with hroom
  · have hcount : (copied text ++ [(0 : UInt8)]).length = text.length + 1 := by
      rw [List.length_append, length_copied, List.length_singleton]
    obtain ⟨k, rfl⟩ := Nat.exists_eq_add_of_lt hroom
    rw [List.append_cons, show text.length + k + 1 = text.length + 1 + k by omega, ← List.drop_drop,
      List.drop_left' hcount, List.drop_drop]
  · exact List.drop_left' (by rw [length_copied, List.length_take]; omega)

/-- Where only NULs follow a NUL, a buffer that has room for the text and a NUL gets
both. -/
theorem take_filled (hnuls : NulsLast text) (hroom : text.length < n) :
    (filled text dest n).take (text.length + 1) = text ++ [0] := by
  rw [filled, if_pos hroom, (copied_eq_iff text).mpr hnuls, List.append_cons]
  exact List.take_left' (by rw [List.length_append, List.length_singleton])

/-- A buffer of another length than the text is filled as it has to be. -/
theorem documented_filled (hnuls : NulsLast text) (hne : text.length ≠ n) (hn : n ≤ dest.length) :
    Documented text dest n text.length (filled text dest n) where
  within := ⟨length_filled hn, drop_filled hn⟩
  complete := fun hle => by
    have hroom : text.length < n := by omega
    exact ⟨rfl, hroom, take_filled hnuls hroom⟩
  truncated := fun hlong => by
    have hcount : (copied (text.take n)).length = n := by
      rw [length_copied, List.length_take]
      omega
    rw [filled, if_neg (by omega), List.take_left' hcount]
    exact (copied_eq_iff _).mpr (hnuls.take n)

/-- The representation is truncated as documented exactly if its length is an `int`
with the NUL and not that of the buffer, and only NULs follow a NUL in it. -/
theorem truncates_iff (htext : value.write printing (structureText version) = some text)
    (hsize : 0 ≤ value.size) :
    Truncates printing version value text n ↔
      text.length < INT32_MAX ∧ text.length ≠ n ∧ NulsLast text := by
  constructor
  · intro h
    obtain ⟨result, dest', hcall, hdocumented, hagain⟩ :=
      h (List.replicate n 0) [] (by rw [List.length_replicate])
    have hlimit : text.length < INT32_MAX := by
      by_contra hlimit
      rw [toString_none htext hlimit] at hcall
      cases hcall
    rw [toString_eq htext hsize hlimit (by rw [List.length_replicate])] at hcall
    obtain ⟨rfl, rfl⟩ := Prod.mk.inj (Option.some.inj hcall)
    refine ⟨hlimit, fun hequal => ?_, ?_⟩
    · obtain ⟨-, hroom, -⟩ := hdocumented.complete (by omega)
      omega
    · have hlength : (List.replicate (text.length + 1) (0 : UInt8)).length = text.length + 1 :=
        List.length_replicate
      obtain ⟨other', hcall', htake⟩ := hagain (text.length + 1) _ [] (by omega) hlength.ge
      rw [toString_eq htext hsize hlimit hlength.ge] at hcall'
      obtain ⟨-, rfl⟩ := Prod.mk.inj (Option.some.inj hcall')
      rw [filled, if_pos (Nat.lt_succ_self _), List.append_cons] at htake
      rw [List.take_left' (by rw [List.length_append, length_copied, List.length_singleton])] at htake
      exact (copied_eq_iff text).mp (List.append_left_injective [0] htake)
  · rintro ⟨hlimit, hne, hnuls⟩ dest garbage hn
    refine ⟨text.length, _, toString_eq htext hsize hlimit hn, documented_filled hnuls hne hn, ?_⟩
    intro m other garbage' hm hother
    exact ⟨_, toString_eq htext hsize hlimit hother, take_filled hnuls (by omega)⟩


/-! ## NULs in a representation -/

namespace BoltValue

mutual

/-- All Strings of a value, the keys of dictionaries among them. -/
def strings : BoltValue → List (List UInt8)
  | string data => [data]
  | dictionary entries => stringsOfEntries entries
  | list elements => stringsOfElements elements
  | struct _ fields => stringsOfElements fields
  | _ => []

/-- `strings` over list elements or structure fields. -/
def stringsOfElements : List BoltValue → List (List UInt8)
  | [] => []
  | v :: vs => strings v ++ stringsOfElements vs

/-- `strings` over dictionary entries. -/
def stringsOfEntries : List (BoltValue × BoltValue) → List (List UInt8)
  | [] => []
  | (k, v) :: es => strings k ++ strings v ++ stringsOfEntries es

end

/-- No NUL is followed by anything else: the value is a String with NULs at its end at
most, or it has no String with a NUL. -/
def NulsAtEnd (value : BoltValue) : Prop :=
  match value with
  | string data => NulsLast data
  | value => ∀ s ∈ value.strings, 0 ∉ s

end BoltValue

theorem zero_not_mem_repr (n : Nat) : 0 ∉ ascii n.repr := by
  rw [ascii, Nat.toList_repr]
  intro hmem
  obtain ⟨c, hc, hzero⟩ := List.mem_map.mp hmem
  have hdigit := Nat.isDigit_of_mem_toDigits (by decide) (by decide) hc
  have hrange : 48 ≤ c.toNat ∧ c.toNat ≤ 57 := Char.isDigit_iff_toNat.mp hdigit
  have hsize : UInt8.size = 256 := rfl
  have hvalue : (UInt8.ofNat c.toNat).toNat = 0 := congrArg UInt8.toNat hzero
  rw [UInt8.toNat_ofNat_of_lt' (by omega)] at hvalue
  omega

theorem zero_not_mem_decimal (n : Int) : 0 ∉ decimal n := by
  rw [decimal, Int.toString_eq_repr, Int.repr_eq_if]
  split_ifs with hsign
  · exact zero_not_mem_repr _
  · rw [ascii, String.toList_append, List.map_append, List.mem_append]
    rintro (hminus | hdigits)
    · revert hminus
      decide
    · exact zero_not_mem_repr _ hdigits

theorem zero_ne_hexDigit (n : Nat) : 0 ≠ hexDigit n := by
  have hall : ∀ i < 16, (0 : UInt8) ≠ (ascii "0123456789ABCDEF").getD i 0 := by decide
  exact hall _ (Nat.mod_lt _ (by decide))

theorem zero_not_mem_hexByte (byte : UInt8) : 0 ∉ hexByte byte := by
  simp [hexByte, zero_ne_hexDigit]

theorem zero_not_mem_nameIn {names : List (Int16 × String)} {other : List UInt8}
    (hnames : ∀ name ∈ names, 0 ∉ ascii name.2) (hother : 0 ∉ other) (code : Int16) :
    0 ∉ (nameIn names code).getD other := by
  rw [nameIn]
  cases hlookup : names.lookup code with
  | none => exact hother
  | some name =>
    obtain ⟨before, after, rfl, -⟩ := List.lookup_eq_some_iff.mp hlookup
    exact hnames (code, name) (List.mem_append_right _ List.mem_cons_self)

theorem zero_not_mem_structureText (version : Option ProtocolVersion) (code : Int16) :
    0 ∉ structureText version code := by
  have hv1 : 0 ∉ BoltProtocolV1.structureName code := zero_not_mem_nameIn (by decide) (by decide) code
  have hv2 : 0 ∉ BoltProtocolV2.structureName code := zero_not_mem_nameIn (by decide) hv1 code
  cases version with
  | none => simp [structureText, zero_ne_hexDigit, ascii]
  | some version =>
    cases version with
    | v1 => exact hv1
    | v2 => exact hv2
    | v3 => exact hv2

theorem zero_mem_separated (texts : List (List UInt8)) :
    0 ∈ separated texts ↔ ∃ text ∈ texts, 0 ∈ text := by
  have hcomma : 0 ∉ ascii ", " := by decide
  cases texts with
  | nil => simp [separated]
  | cons text texts => simp [separated_cons, hcomma]

/-- The NULs of a representation are those of the Strings in the value. -/
def ShowsNuls (printing : Printing) (version : Option ProtocolVersion) (v : BoltValue) : Prop :=
  ∀ {text}, write printing (structureText version) v = some text →
    (0 ∈ text ↔ ∃ s ∈ v.strings, 0 ∈ s)

theorem showsNuls_elements (vs : List BoltValue) (ih : ∀ v ∈ vs, ShowsNuls printing version v) :
    ∀ {texts}, writeElements printing (structureText version) vs = some texts →
      ((∃ text ∈ texts, 0 ∈ text) ↔ ∃ s ∈ stringsOfElements vs, 0 ∈ s) := by
  induction vs with
  | nil =>
    intro texts h
    obtain rfl := Option.some.inj h
    simp [stringsOfElements]
  | cons v vs ihvs =>
    intro texts h
    obtain ⟨hv, hvs⟩ := List.forall_mem_cons.mp ih
    obtain ⟨text, htext, h⟩ := Option.bind_eq_some_iff.mp h
    obtain ⟨rest, hrest, h⟩ := Option.bind_eq_some_iff.mp h
    obtain rfl := Option.some.inj h
    rw [List.exists_mem_cons_iff, hv htext, ihvs hvs hrest, stringsOfElements]
    simp only [List.mem_append, or_and_right, exists_or]

theorem showsNuls_key {k : BoltValue} {key : List UInt8} (h : keyText k = some key) :
    0 ∈ key ↔ ∃ s ∈ k.strings, 0 ∈ s := by
  cases k with
  | string data =>
    obtain rfl := Option.some.inj h
    simp [strings]
  | negative type n =>
    cases type with
    | string =>
      obtain rfl := Option.some.inj h
      simp [strings]
    | bytes => cases h
    | struct code => cases h
  | _ => cases h

theorem showsNuls_entries (es : List (BoltValue × BoltValue))
    (ih : ∀ e ∈ es, ShowsNuls printing version e.2) :
    ∀ {texts}, writeEntries printing (structureText version) es = some texts →
      ((∃ text ∈ texts, 0 ∈ text) ↔ ∃ s ∈ stringsOfEntries es, 0 ∈ s) := by
  have hcolon : 0 ∉ ascii ": " := by decide
  induction es with
  | nil =>
    intro texts h
    obtain rfl := Option.some.inj h
    simp [stringsOfEntries]
  | cons e es ihes =>
    intro texts h
    obtain ⟨hv, hvs⟩ := List.forall_mem_cons.mp ih
    obtain ⟨key, hkey, h⟩ := Option.bind_eq_some_iff.mp h
    obtain ⟨text, htext, h⟩ := Option.bind_eq_some_iff.mp h
    obtain ⟨rest, hrest, h⟩ := Option.bind_eq_some_iff.mp h
    obtain rfl := Option.some.inj h
    rw [List.exists_mem_cons_iff, ihes hvs hrest, stringsOfEntries, List.mem_append, List.mem_append,
      showsNuls_key hkey, hv htext]
    simp only [List.mem_append, or_and_right, exists_or, hcolon, or_false]

theorem showsNuls (hdouble : ∀ bits, 0 ∉ printing.double bits) (v : BoltValue) :
    ShowsNuls printing version v := by
  induction v using ind with
  | null =>
    intro text h
    obtain rfl := Option.some.inj h
    simp [strings, ascii]
  | boolean data =>
    intro text h
    obtain rfl := Option.some.inj h
    split_ifs <;> simp [strings, ascii]
  | integer data =>
    intro text h
    obtain rfl := Option.some.inj h
    simp [strings, zero_not_mem_decimal]
  | float data =>
    intro text h
    obtain rfl := Option.some.inj h
    simp [strings, hdouble]
  | string data =>
    intro text h
    obtain rfl := Option.some.inj h
    simp [strings]
  | bytes data =>
    intro text h
    obtain rfl := Option.some.inj h
    simp [strings, zero_not_mem_hexByte, ascii]
  | dictionary entries ih =>
    intro text h
    obtain ⟨texts, htexts, rfl⟩ := Option.map_eq_some_iff.mp h
    have hentries := showsNuls_entries entries (fun e he => (ih e he).2) htexts
    rw [← zero_mem_separated] at hentries
    rw [strings, ← hentries]
    simp [ascii]
  | list elements ih =>
    intro text h
    obtain ⟨texts, htexts, rfl⟩ := Option.map_eq_some_iff.mp h
    have helements := showsNuls_elements elements ih htexts
    rw [← zero_mem_separated] at helements
    rw [strings, ← helements]
    simp [ascii]
  | struct code fields ih =>
    intro text h
    obtain ⟨texts, htexts, rfl⟩ := Option.map_eq_some_iff.mp h
    have hfields := showsNuls_elements fields ih htexts
    rw [← zero_mem_separated] at hfields
    rw [strings, ← hfields]
    simp [ascii, zero_not_mem_structureText]
  | negative type n =>
    intro text h
    cases type with
    | string =>
      obtain rfl := Option.some.inj h
      simp [strings]
    | bytes =>
      obtain rfl := Option.some.inj h
      simp [strings, ascii]
    | struct code =>
      obtain rfl := Option.some.inj h
      simp [strings, ascii, zero_not_mem_structureText]

/-- A text that ends with another byte has no NUL where only NULs follow one. -/
theorem NulsLast.not_mem {front : List UInt8} {last : UInt8} (h : NulsLast (front ++ [last]))
    (hlast : last ≠ 0) : 0 ∉ front ++ [last] := by
  obtain ⟨start, n, heq, hstart⟩ := h
  cases n with
  | zero =>
    rw [List.replicate_zero, List.append_nil] at heq
    rwa [heq]
  | succ n =>
    rw [List.replicate_succ', ← List.append_assoc] at heq
    exact absurd (List.append_inj_right' heq rfl) (by simpa using hlast)

theorem nulsLast_of_not_mem (h : 0 ∉ text) : NulsLast text :=
  ⟨text, 0, by rw [List.replicate_zero, List.append_nil], h⟩

/-- Only NULs follow a NUL in a representation exactly if it is so in the value. -/
theorem nulsLast_iff (hdouble : ∀ bits, 0 ∉ printing.double bits)
    (htext : value.write printing (structureText version) = some text) :
    NulsLast text ↔ value.NulsAtEnd := by
  have hshows : 0 ∈ text ↔ ∃ s ∈ value.strings, 0 ∈ s := showsNuls hdouble value htext
  have hfree : (NulsLast text → 0 ∉ text) → (NulsLast text ↔ ∀ s ∈ value.strings, 0 ∉ s) := by
    intro hlast
    have hiff : NulsLast text ↔ 0 ∉ text := ⟨hlast, nulsLast_of_not_mem⟩
    rw [hiff, hshows]
    push Not
    rfl
  cases value with
  | string data =>
    obtain rfl := Option.some.inj htext
    exact Iff.rfl
  | dictionary entries =>
    refine hfree fun h => ?_
    obtain ⟨texts, -, rfl⟩ := Option.map_eq_some_iff.mp htext
    exact h.not_mem (by decide)
  | list elements =>
    refine hfree fun h => ?_
    obtain ⟨texts, -, rfl⟩ := Option.map_eq_some_iff.mp htext
    exact h.not_mem (by decide)
  | struct code fields =>
    refine hfree fun h => ?_
    obtain ⟨texts, -, rfl⟩ := Option.map_eq_some_iff.mp htext
    exact h.not_mem (by decide)
  | _ =>
    refine hfree fun _ => ?_
    rw [hshows]
    simp [strings]

/-- For every value with a representation and every length of the buffer, a call does
what the documentation says if and only if the length of the representation is an
`int` with its NUL, it is not that of the buffer, and nothing but NULs follows a
NUL of a String in the value. -/
theorem toString_iff (hdouble : ∀ bits, 0 ∉ printing.double bits) (version : Option ProtocolVersion)
    (value : BoltValue) (htext : value.write printing (structureText version) = some text)
    (hsize : 0 ≤ value.size) (n : Nat) :
    Truncates printing version value text n ↔
      text.length < INT32_MAX ∧ text.length ≠ n ∧ value.NulsAtEnd := by
  rw [truncates_iff htext hsize, nulsLast_iff hdouble htext]

/-- Doubles without digits, and no errors. -/
def noPrinting : Printing where
  double _ := ascii "0.000000"
  error_ctx _ _ _ := []

theorem zero_not_mem_noPrinting (bits : UInt64) : 0 ∉ noPrinting.double bits := by
  show 0 ∉ ascii "0.000000"
  decide

/-- A list in a buffer with room for it. -/
theorem toString_iff_list :
    Truncates noPrinting none (list [string (ascii "a"), null]) (ascii "[a, null]") 16 ↔
      (ascii "[a, null]").length < INT32_MAX ∧ (ascii "[a, null]").length ≠ 16 ∧
        (list [string (ascii "a"), null]).NulsAtEnd :=
  toString_iff zero_not_mem_noPrinting none _ rfl (by decide) 16

/-- Three characters fill a buffer of three bytes, and there is no NUL behind them.
Behind a NUL in a String nothing of it is copied. -/
theorem toString_filled :
    ¬Truncates noPrinting none (string (ascii "abc")) (ascii "abc") 3 ∧
      ¬Truncates noPrinting none (string [97, 0, 98]) [97, 0, 98] 8 := by
  constructor
  · rw [truncates_iff rfl (by decide)]
    rintro ⟨-, hne, -⟩
    exact hne rfl
  · rw [truncates_iff rfl (by decide)]
    rintro ⟨-, -, hnuls⟩
    have hcopied := (copied_eq_iff [97, 0, 98]).mpr hnuls
    revert hcopied
    decide

end Seabolt
