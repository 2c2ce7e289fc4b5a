import Mathlib.Data.List.TakeWhile
import Seabolt.Logging

/-!
# Writing values

`string-builder.c`, whose buffer grows with the text in it, and `BoltValue_write`
on top of it.

The builder keeps its text and a NUL behind it in the block that it has been
given, and the text that a value appends is the representation `BoltValue.write`
(`writes_writeTo`).  The indexes of a builder are of type `int`: a text that would
bring them out of it is not written.
-/

namespace Seabolt

open BoltValue

/-! ## `string-builder.c` -/

/-- `struct StringBuilder`, with what memory holds that it is given. -/
structure StringBuilder where
  buffer : List UInt8
  buffer_pos : Nat
  buffer_size : Nat
  garbage : List UInt8

namespace StringBuilder

/-- `StringBuilder_create`. -/
def create (garbage : List UInt8) : StringBuilder where
  buffer := memcpy (indeterminate 256 garbage).1 0 [0]
  buffer_pos := 0
  buffer_size := 256
  garbage := (indeterminate 256 garbage).2

/-- `StringBuilder_ensure_buffer`.  `none` when the new size is no `int`. -/
def ensureBuffer (size_to_add : Nat) (builder : StringBuilder) : Option StringBuilder :=
  if builder.buffer_size - builder.buffer_pos > size_to_add then some builder
  else
    let new_size := builder.buffer_pos + size_to_add
    if new_size ≤ INT32_MAX then
      let fresh := indeterminate (new_size - builder.buffer.length) builder.garbage
      some { builder with
        buffer := builder.buffer.take new_size ++ fresh.1
        buffer_size := new_size
        garbage := fresh.2 }
    else none

/-- `StringBuilder_append_n`. -/
def appendN (string : List UInt8) (builder : StringBuilder) : Option StringBuilder :=
  if string.length > 0 then
    (builder.ensureBuffer (string.length + 1)).map fun builder =>
      let buffer := memcpy builder.buffer builder.buffer_pos string
      let buffer_pos := builder.buffer_pos + string.length
      { builder with
        buffer := memcpy buffer buffer_pos [0]
        buffer_pos := buffer_pos }
  else some builder

/-- `StringBuilder_append`. -/
def append (string : List UInt8) (builder : StringBuilder) : Option StringBuilder :=
  builder.appendN (printed string)

/-- `StringBuilder_append_f`, with the formatted text: the buffer that it is
formatted in is made as large as it takes. -/
def appendF (text : List UInt8) (builder : StringBuilder) : Option StringBuilder :=
  builder.appendN text

/-! ## The text of a builder -/

/-- The builder has the text and a NUL in its block. -/
structure Holds (builder : StringBuilder) (text : List UInt8) : Prop where
  size : builder.buffer.length = builder.buffer_size
  limit : builder.buffer_size ≤ INT32_MAX
  pos : builder.buffer_pos = text.length
  room : text.length < builder.buffer_size
  content : builder.buffer.take (text.length + 1) = text ++ [0]

theorem holds_create (garbage : List UInt8) : (create garbage).Holds [] where
  size := by
    show (memcpy (indeterminate 256 garbage).1 0 [0]).length = 256
    rw [length_memcpy (by rw [length_indeterminate]; decide), length_indeterminate]
  limit := by
    show 256 ≤ INT32_MAX
    decide
  pos := rfl
  room := by
    show 0 < 256
    decide
  content := rfl

/-- The block begins with what the text begins with. -/
theorem Holds.take {builder : StringBuilder} {text : List UInt8} (h : builder.Holds text) {n : Nat}
    (hn : n ≤ text.length) : builder.buffer.take n = text.take n := by
  have hprefix : (builder.buffer.take (text.length + 1)).take n = (text ++ [0]).take n := by
    rw [h.content]
  rwa [List.take_take, min_eq_left (by omega), List.take_append_of_le_length hn] at hprefix

/-- What a function makes of every builder: the text is appended if the indexes
stay within an `int`, and the function is not defined otherwise. -/
def Writes (f : StringBuilder → Option StringBuilder) (text : List UInt8) : Prop :=
  ∀ builder old, builder.Holds old →
    if (old ++ text).length < INT32_MAX then
      ∃ builder', f builder = some builder' ∧ builder'.Holds (old ++ text)
    else f builder = none

variable {f g : StringBuilder → Option StringBuilder} {first second text : List UInt8}

theorem Writes.skip : Writes some [] := by
  intro builder old h
  have hroom := h.room
  have hlimit := h.limit
  rw [List.append_nil, if_pos (by omega)]
  exact ⟨builder, rfl, h⟩

/-- One text behind the other. -/
theorem Writes.bind (hf : Writes f first) (hg : Writes g second) :
    Writes (fun builder => (f builder).bind g) (first ++ second) := by
  intro builder old h
  have hfirst := hf builder old h
  rw [← List.append_assoc]
  by_cases hfits : (old ++ first).length < INT32_MAX
  · rw [if_pos hfits] at hfirst
    obtain ⟨middle, hmiddle, hholds⟩ := hfirst
    simp only [hmiddle, Option.bind_some]
    exact hg middle _ hholds
  · rw [if_neg hfits] at hfirst
    have hlong : ¬(old ++ first ++ second).length < INT32_MAX := by
      rw [List.length_append]
      omega
    rw [if_neg hlong]
    simp only [hfirst, Option.bind_none]

/-- A status beside the builder. -/
theorem Writes.status (h : Writes f text) (status : Int) :
    Writes (fun builder => ((f builder).map fun builder => (status, builder)).map Prod.snd) text := by
  have hsame : (fun builder => ((f builder).map fun builder => (status, builder)).map Prod.snd) = f := by
    funext builder
    cases f builder <;> rfl
  rwa [hsame]

/-- The block has room for a text and its NUL after it was asked for. -/
theorem ensureBuffer_holds {builder : StringBuilder} {old : List UInt8} (h : builder.Holds old)
    {n : Nat} (hfits : old.length + n + 1 ≤ INT32_MAX) :
    ∃ builder', builder.ensureBuffer (n + 1) = some builder' ∧ builder'.Holds old ∧
      old.length + n < builder'.buffer_size := by
  have hroom := h.room
  have hpos := h.pos
  unfold ensureBuffer
  by_cases hlarge : builder.buffer_size - builder.buffer_pos > n + 1
  · rw [if_pos hlarge]
    exact ⟨builder, rfl, h, by omega⟩
  · have hsize := h.size
    have hcontent := h.content
    rw [if_neg hlarge, if_pos (by omega)]
    refine ⟨_, rfl, ⟨?_, ?_, hpos, ?_, ?_⟩, ?_⟩
    · simp only [List.length_append, List.length_take, length_indeterminate]
      omega
    · show builder.buffer_pos + (n + 1) ≤ INT32_MAX
      omega
    · show old.length < builder.buffer_pos + (n + 1)
      omega
    · show (builder.buffer.take (builder.buffer_pos + (n + 1)) ++ _).take (old.length + 1) = old ++ [0]
      rw [List.take_append_of_le_length (by rw [List.length_take]; omega), List.take_take,
        min_eq_left (by omega), hcontent]
    · show old.length + n < builder.buffer_pos + (n + 1)
      omega

/-- A text is written behind the old one, with a new NUL. -/
theorem writes_appendN (string : List UInt8) : Writes (appendN string) string := by
  intro builder old h
  have hroom := h.room
  have hlimit := h.limit
  unfold appendN
  by_cases hsome : string.length > 0
  · rw [if_pos hsome]
    by_cases hfits : (old ++ string).length < INT32_MAX
    · rw [if_pos hfits]
      rw [List.length_append] at hfits
      obtain ⟨grown, hgrown, hholds, hlarge⟩ := ensureBuffer_holds h (n := string.length) (by omega)
      rw [hgrown, Option.map_some]
      have hsize := hholds.size
      have hpos := hholds.pos
      have hcopied : (memcpy grown.buffer grown.buffer_pos string).length = grown.buffer_size := by
        rw [length_memcpy (by omega), hsize]
      refine ⟨_, rfl, ⟨?_, hholds.limit, ?_, ?_, ?_⟩⟩
      · show (memcpy (memcpy grown.buffer grown.buffer_pos string) _ [0]).length = grown.buffer_size
        rw [length_memcpy, hcopied]
        rw [hcopied, List.length_singleton]
        omega
      · rw [List.length_append, ← hpos]
      · rw [List.length_append]
        exact hlarge
      · have hold : grown.buffer.take grown.buffer_pos = old := by
          rw [hpos, hholds.take le_rfl, List.take_length]
        have hcount : (old ++ string).length + 1 =
            grown.buffer_pos + string.length + ([0] : List UInt8).length := by
          rw [List.length_append, hpos, List.length_singleton]
        show (memcpy (memcpy grown.buffer grown.buffer_pos string)
          (grown.buffer_pos + string.length) [0]).take _ = _
        rw [hcount, take_memcpy _ _ (by omega), take_memcpy _ _ (by omega), hold]
    · rw [if_neg hfits]
      rw [List.length_append] at hfits
      have hpos := h.pos
      rw [ensureBuffer, if_neg (by omega), if_neg (by omega), Option.map_none]
  · have hnil : string = [] := List.length_eq_zero_iff.mp (by omega)
    subst hnil
    rw [if_neg hsome]
    exact Writes.skip builder old h

theorem writes_append {string : List UInt8} (h : 0 ∉ string) : Writes (append string) string := by
  have hprinted : printed string = string := by
    refine List.takeWhile_eq_self_iff.mpr fun byte hbyte => decide_eq_true fun hzero => ?_
    exact h (hzero ▸ hbyte)
  intro builder old hholds
  rw [append, hprinted]
  exact writes_appendN string builder old hholds

end StringBuilder

/-! ## `BoltValue_write` -/

namespace BoltValue

open StringBuilder

section

variable (printing : Printing) (struct_name : Int16 → List UInt8)

mutual

/-- `BoltValue_write`, on a builder.  `none` for a key that is no String, and where
the builder is not defined. -/
def writeTo : BoltValue → StringBuilder → Outcome StringBuilder
  | null, builder => (builder.append (ascii "null")).map fun builder => (0, builder)
  | boolean data, builder =>
    (builder.appendF (ascii (if toBit data = 0 then "false" else "true"))).map
      fun builder => (0, builder)
  | integer data, builder => (builder.appendF (decimal data.toInt)).map fun builder => (0, builder)
  | float data, builder => (builder.appendF (printing.double data)).map fun builder => (0, builder)
  | string data, builder => (builder.appendN data).map fun builder => (0, builder)
  | dictionary entries, builder =>
    (((builder.append (ascii "\x7b")).bind (writeEntriesTo entries false)).bind
      (·.append (ascii "\x7d"))).map fun builder => (0, builder)
  | list elements, builder =>
    (((builder.append (ascii "[")).bind (writeElementsTo elements true)).bind
      (·.append (ascii "]"))).map fun builder => (0, builder)
  | bytes data, builder =>
    ((builder.append (ascii "#")).bind fun builder =>
      data.foldlM (fun builder byte => builder.appendF (hexByte byte)) builder).map
        fun builder => (0, builder)
  | struct code fields, builder =>
    ((((builder.appendF (ascii "$" ++ struct_name code)).bind (·.append (ascii "("))).bind
      (writeElementsTo fields true)).bind (·.append (ascii ")"))).map fun builder => (0, builder)
  | negative .string _, builder => some (-1, builder)
  | negative .bytes _, builder => (builder.append (ascii "#")).map fun builder => (0, builder)
  | negative (.struct code) _, builder =>
    (((builder.appendF (ascii "$" ++ struct_name code)).bind (·.append (ascii "("))).bind
      (·.append (ascii ")"))).map fun builder => (0, builder)

/-- The loop of `BoltValue_write` over list elements or structure fields, the first
of which has no comma before it.  The results are ignored. -/
def writeElementsTo : List BoltValue → Bool → StringBuilder → Option StringBuilder
  | [], _, builder => some builder
  | v :: vs, first, builder =>
    ((if first then some builder else builder.append (ascii ", ")).bind fun builder =>
      (writeTo v builder).map Prod.snd).bind (writeElementsTo vs false)

/-- The loop of `BoltValue_write` over the entries of a dictionary. -/
def writeEntriesTo : List (BoltValue × BoltValue) → Bool → StringBuilder → Option StringBuilder
  | [], _, builder => some builder
  | (k, v) :: es, comma, builder =>
    ((((if comma then builder.append (ascii ", ") else some builder).bind fun builder =>
      (keyText k).bind fun key => builder.appendN key).bind (·.append (ascii ": "))).bind
        fun builder => (writeTo v builder).map Prod.snd).bind (writeEntriesTo es true)

end

/-! ## The text that is written -/

variable {printing struct_name}

/-- The texts behind the first have a comma before them. -/
theorem separated_cons (text : List UInt8) (texts : List (List UInt8)) :
    separated (text :: texts) = text ++ texts.flatMap fun text => ascii ", " ++ text := by
  induction texts generalizing text with
  | nil => rw [separated, List.intercalate_singleton, List.flatMap_nil, List.append_nil]
  | cons next texts ih =>
    rw [separated, List.intercalate_cons_cons, List.flatMap_cons, List.append_assoc, List.append_assoc]
    exact congrArg (fun rest => text ++ (ascii ", " ++ rest)) (ih next)

/-- What is written of a value is its representation. -/
def Represented (printing : Printing) (struct_name : Int16 → List UInt8) (v : BoltValue) : Prop :=
  ∀ {text : List UInt8}, write printing struct_name v = some text →
    Writes (fun builder => (writeTo printing struct_name v builder).map Prod.snd) text

theorem writes_comma : Writes (append (ascii ", ")) (ascii ", ") := writes_append (by decide)

/-- The elements behind the first. -/
theorem writes_behind (vs : List BoltValue)
    (ih : ∀ v ∈ vs, Represented printing struct_name v) :
    ∀ {texts}, writeElements printing struct_name vs = some texts →
      Writes (writeElementsTo printing struct_name vs false)
        (texts.flatMap fun text => ascii ", " ++ text) := by
  induction vs with
  | nil =>
    intro texts h
    obtain rfl := Option.some.inj h
    exact Writes.skip
  | cons v vs ihvs =>
    intro texts h
    obtain ⟨hv, hvs⟩ := List.forall_mem_cons.mp ih
    obtain ⟨text, htext, h⟩ := Option.bind_eq_some_iff.mp h
    obtain ⟨rest, hrest, h⟩ := Option.bind_eq_some_iff.mp h
    obtain rfl := Option.some.inj h
    exact (writes_comma.bind (hv htext)).bind (ihvs hvs hrest)

/-- All elements. -/
theorem writes_elements (vs : List BoltValue)
    (ih : ∀ v ∈ vs, Represented printing struct_name v)
    {texts : List (List UInt8)} (h : writeElements printing struct_name vs = some texts) :
    Writes (writeElementsTo printing struct_name vs true) (separated texts) := by
  cases vs with
  | nil =>
    obtain rfl := Option.some.inj h
    exact Writes.skip
  | cons v vs =>
    obtain ⟨hv, hvs⟩ := List.forall_mem_cons.mp ih
    obtain ⟨text, htext, h⟩ := Option.bind_eq_some_iff.mp h
    obtain ⟨rest, hrest, h⟩ := Option.bind_eq_some_iff.mp h
    obtain rfl := Option.some.inj h
    rw [separated_cons]
    exact (Writes.skip.bind (hv htext)).bind (writes_behind vs hvs hrest)

/-- One entry, behind what comes before it. -/
theorem writes_entry {k v : BoltValue} {key text : List UInt8} {before : List UInt8}
    {f : StringBuilder → Option StringBuilder} (hf : Writes f before)
    (hkey : keyText k = some key) (hv : Represented printing struct_name v)
    (htext : write printing struct_name v = some text) :
    Writes (fun builder => ((((f builder).bind fun builder =>
      (keyText k).bind fun key => builder.appendN key).bind (·.append (ascii ": "))).bind
        fun builder => (writeTo printing struct_name v builder).map Prod.snd))
      (before ++ (key ++ ascii ": " ++ text)) := by
  rw [hkey, ← List.append_assoc, ← List.append_assoc]
  exact ((hf.bind (writes_appendN key)).bind (writes_append (by decide))).bind (hv htext)

/-- The entries behind the first. -/
theorem writes_entriesBehind (es : List (BoltValue × BoltValue))
    (ih : ∀ e ∈ es, Represented printing struct_name e.2) :
    ∀ {texts}, writeEntries printing struct_name es = some texts →
      Writes (writeEntriesTo printing struct_name es true)
        (texts.flatMap fun text => ascii ", " ++ text) := by
  induction es with
  | nil =>
    intro texts h
    obtain rfl := Option.some.inj h
    exact Writes.skip
  | cons e es ihes =>
    intro texts h
    obtain ⟨hv, hvs⟩ := List.forall_mem_cons.mp ih
    obtain ⟨key, hkey, h⟩ := Option.bind_eq_some_iff.mp h
    obtain ⟨text, htext, h⟩ := Option.bind_eq_some_iff.mp h
    obtain ⟨rest, hrest, h⟩ := Option.bind_eq_some_iff.mp h
    obtain rfl := Option.some.inj h
    exact (writes_entry writes_comma hkey hv htext).bind (ihes hvs hrest)

/-- All entries. -/
theorem writes_entries (es : List (BoltValue × BoltValue))
    (ih : ∀ e ∈ es, Represented printing struct_name e.2)
    {texts : List (List UInt8)} (h : writeEntries printing struct_name es = some texts) :
    Writes (writeEntriesTo printing struct_name es false) (separated texts) := by
  cases es with
  | nil =>
    obtain rfl := Option.some.inj h
    exact Writes.skip
  | cons e es =>
    obtain ⟨hv, hvs⟩ := List.forall_mem_cons.mp ih
    obtain ⟨key, hkey, h⟩ := Option.bind_eq_some_iff.mp h
    obtain ⟨text, htext, h⟩ := Option.bind_eq_some_iff.mp h
    obtain ⟨rest, hrest, h⟩ := Option.bind_eq_some_iff.mp h
    obtain rfl := Option.some.inj h
    rw [separated_cons]
    exact (writes_entry Writes.skip hkey hv htext).bind (writes_entriesBehind es hvs hrest)

theorem writes_bytes (data : List UInt8) :
    Writes (data.foldlM fun builder byte => builder.appendF (hexByte byte))
      (data.flatMap hexByte) := by
  induction data with
  | nil => exact Writes.skip
  | cons byte data ih => exact (writes_appendN (hexByte byte)).bind ih

/-- A value appends its representation. -/
theorem writes_writeTo (v : BoltValue) :
    Represented printing struct_name v := by
  induction v using ind with
  | null =>
    intro text h
    obtain rfl := Option.some.inj h
    exact (writes_append (by decide)).status 0
  | boolean data =>
    intro text h
    obtain rfl := Option.some.inj h
    exact (writes_appendN _).status 0
  | integer data =>
    intro text h
    obtain rfl := Option.some.inj h
    exact (writes_appendN _).status 0
  | float data =>
    intro text h
    obtain rfl := Option.some.inj h
    exact (writes_appendN _).status 0
  | string data =>
    intro text h
    obtain rfl := Option.some.inj h
    exact (writes_appendN _).status 0
  | dictionary entries ih =>
    intro text h
    obtain ⟨texts, htexts, rfl⟩ := Option.map_eq_some_iff.mp h
    have hentries := writes_entries entries (fun e he => (ih e he).2) htexts
    exact (((writes_append (by decide)).bind hentries).bind (writes_append (by decide))).status 0
  | list elements ih =>
    intro text h
    obtain ⟨texts, htexts, rfl⟩ := Option.map_eq_some_iff.mp h
    have helements := writes_elements elements ih htexts
    exact (((writes_append (by decide)).bind helements).bind (writes_append (by decide))).status 0
  | bytes data =>
    intro text h
    obtain rfl := Option.some.inj h
    exact ((writes_append (by decide)).bind (writes_bytes data)).status 0
  | struct code fields ih =>
    intro text h
    obtain ⟨texts, htexts, rfl⟩ := Option.map_eq_some_iff.mp h
    have hfields := writes_elements fields ih htexts
    exact ((((writes_appendN _).bind (writes_append (by decide))).bind hfields).bind
      (writes_append (by decide))).status 0
  | negative type n =>
    intro text h
    cases type with
    | string =>
      obtain rfl := Option.some.inj h
      exact Writes.skip.status _
    | bytes =>
      obtain rfl := Option.some.inj h
      exact (writes_append (by decide)).status 0
    | struct code =>
      obtain rfl := Option.some.inj h
      have hbrackets : ascii "()" = ascii "(" ++ ascii ")" := by decide
      rw [hbrackets, ← List.append_assoc]
      exact (((writes_appendN _).bind (writes_append (by decide))).bind
        (writes_append (by decide))).status 0

/-- Only a String of negative size is not written. -/
theorem writeTo_status {v : BoltValue} (hsize : 0 ≤ v.size) {builder builder' : StringBuilder}
    {status : Int} (h : writeTo printing struct_name v builder = some (status, builder')) :
    status = 0 := by
  cases v with
  | negative type n =>
    simp only [size] at hsize
    omega
  | _ =>
    obtain ⟨_, -, hresult⟩ := Option.map_eq_some_iff.mp h
    exact (Prod.mk.inj hresult).1.symm

end

end BoltValue

end Seabolt
