import Seabolt.Lib.Runs
import Seabolt.StringBuilder

/-!
# Appending to a builder

The three functions of `string-builder.c` that append, with every write checked: a write
that is not inside its block has no result.  `StringBuilder_append_f` formats its text in
a block of its own, which a loop makes large enough.

In every run of calls whose texts fit into an `int` together with a NUL, no write is
outside its block, and the builder holds the texts behind each other (`appends`).
-/

namespace Seabolt

namespace StringBuilder

/-! ## The functions, with checked writes -/

/-- `StringBuilder_append_n` of a count that is not negative. -/
def storeN (string : List UInt8) (builder : StringBuilder) : Option StringBuilder :=
  if string.length > 0 then do
    let builder ← builder.ensureBuffer (string.length + 1)
    let buffer ← store builder.buffer builder.buffer_pos string
    let buffer_pos := builder.buffer_pos + string.length
    let buffer ← store buffer buffer_pos [0]
    some { builder with buffer := buffer, buffer_pos := buffer_pos }
  else some builder

/-- `vsnprintf(block, size, …)` of a format and arguments that make the text: what it
leaves in the block, and its result. -/
def vsnprintf (text block : List UInt8) (size : Nat) : Option (List UInt8 × Int) :=
  (store block 0 (text.take (size - 1) ++ [0])).map fun block => (block, text.length)

/-- The loop of `StringBuilder_append_f`, for so many rounds: the block with the text,
and how many bytes were written. -/
def formatLoop (text : List UInt8) :
    Nat → List UInt8 → Nat → List UInt8 → Option (List UInt8 × Nat × List UInt8)
  | 0, _, _, _ => none
  | rounds + 1, message_fmt, size, garbage =>
    (vsnprintf text message_fmt size).bind fun (message_fmt, written) =>
      if written ≠ -1 ∧ written < size then some (message_fmt, written.toNat, garbage)
      else
        let written := if written = -1 then size * 10 else written.toNat
        if written + 1 ≤ INT32_MAX then
          let fresh := indeterminate (written + 1 - message_fmt.length) garbage
          formatLoop text rounds (message_fmt.take (written + 1) ++ fresh.1) (written + 1) fresh.2
        else none

/-- `StringBuilder_append_f` of a format and arguments that make the text.  The block is
large enough in the second round. -/
def storeF (text : List UInt8) (builder : StringBuilder) : Option StringBuilder := do
  let block := indeterminate 10240 builder.garbage
  let message_fmt ← store block.1 0 [0]
  let (message_fmt, written, garbage) ← formatLoop text 2 message_fmt 10240 block.2
  { builder with garbage := garbage }.storeN (message_fmt.take written)

/-- The calls that append: of a C string or NULL, of the first bytes of a block, and of a
format or NULL with what it makes of its arguments. -/
inductive Call where
  | append (string : Option (List UInt8))
  | appendN (string : List UInt8) (len : Int) (within : len ≤ string.length)
  | appendF (text : Option (List UInt8))

/-- The bytes that a call appends. -/
def Call.bytes : Call → List UInt8
  | .append string => string.elim [] printed
  | .appendN string len _ => string.take len.toNat
  | .appendF text => text.getD []

/-- A call of a function. -/
def step : Runs.Step Call StringBuilder Unit := fun call builder =>
  let appended :=
    match call with
    | .append none => some builder
    | .append (some string) => builder.storeN (printed string)
    | .appendN string len _ =>
      if len > 0 then builder.storeN (string.take len.toNat) else some builder
    | .appendF none => some builder
    | .appendF (some text) => builder.storeF text
  appended.map fun builder => ((), builder)

/-! ## What they append -/

variable {builder : StringBuilder} {old text : List UInt8}

/-- A builder that has been made large enough has room for the text and a NUL. -/
theorem ensureBuffer_room (h : builder.Holds old) {n : Nat} {grown : StringBuilder}
    (hgrown : builder.ensureBuffer (n + 1) = some grown) :
    grown.Holds old ∧ old.length + n < grown.buffer_size := by
  have hlimit := h.limit
  have hpos := h.pos
  have hfits : old.length + n + 1 ≤ INT32_MAX := by
    unfold ensureBuffer at hgrown
    dsimp only at hgrown
    split_ifs at hgrown with hlarge hint
    · omega
    · omega
  obtain ⟨builder', hbuilder', hholds, hroom⟩ := ensureBuffer_holds h hfits
  obtain rfl := Option.some.inj (hgrown.symm.trans hbuilder')
  exact ⟨hholds, hroom⟩

/-- Both writes of `StringBuilder_append_n` are inside the block. -/
theorem storeN_eq (h : builder.Holds old) (string : List UInt8) :
    builder.storeN string = builder.appendN string := by
  unfold storeN appendN
  by_cases hsome : string.length > 0
  · rw [if_pos hsome, if_pos hsome]
    cases hgrown : builder.ensureBuffer (string.length + 1) with
    | none => rfl
    | some grown =>
      obtain ⟨hholds, hroom⟩ := ensureBuffer_room h hgrown
      have hsize := hholds.size
      have hpos := hholds.pos
      have htext : grown.buffer_pos + string.length ≤ grown.buffer.length := by omega
      have hnul : grown.buffer_pos + string.length + ([0] : List UInt8).length ≤
          (memcpy grown.buffer grown.buffer_pos string).length := by
        rw [length_memcpy htext, List.length_singleton]
        omega
      simp only [Option.bind_eq_bind, Option.bind_some, store_eq htext, store_eq hnul,
        Option.map_some]
  · rw [if_neg hsome, if_neg hsome]

theorem writes_storeN (string : List UInt8) : Writes (storeN string) string := by
  intro builder old h
  rw [storeN_eq h]
  exact writes_appendN string builder old h

/-- A block that is larger than the text gets all of it, and a smaller one what fits. -/
theorem vsnprintf_eq {block : List UInt8} {size : Nat} (hsize : block.length = size)
    (hpos : 0 < size) : vsnprintf text block size =
      some (memcpy block 0 (text.take (size - 1) ++ [0]), (text.length : Int)) := by
  have hinside : 0 + (text.take (size - 1) ++ [0]).length ≤ block.length := by
    rw [List.length_append, List.length_take, List.length_singleton]
    omega
  rw [vsnprintf, store_eq hinside, Option.map_some]

/-- A round with a block that is large enough is the last. -/
theorem formatLoop_fits (garbage : List UInt8) {block : List UInt8} {size : Nat}
    (hsize : block.length = size) (hfits : text.length < size) (rounds : Nat) :
    ∃ block', formatLoop text (rounds + 1) block size garbage =
      some (block', text.length, garbage) ∧ block'.take text.length = text := by
  refine ⟨memcpy block 0 (text.take (size - 1) ++ [0]), ?_, ?_⟩
  · have hcount : (text.length : Int) ≠ -1 ∧ (text.length : Int) < size := by omega
    simp only [formatLoop, vsnprintf_eq hsize (Nat.zero_lt_of_lt hfits), Option.bind_some]
    rw [if_pos hcount, Int.toNat_natCast]
  · have hall : text.take (size - 1) = text := List.take_of_length_le (by omega)
    rw [memcpy, List.take_zero, List.nil_append, hall, List.append_assoc, List.take_left]

/-- A round with a smaller block makes it as large as the text and a NUL. -/
theorem formatLoop_grows (garbage : List UInt8) {block : List UInt8} {size : Nat}
    (hsize : block.length = size) (hpos : 0 < size) (hlong : size ≤ text.length) (rounds : Nat) :
    ∃ block' garbage', block'.length = text.length + 1 ∧
      formatLoop text (rounds + 1) block size garbage =
        if text.length + 1 ≤ INT32_MAX then
          formatLoop text rounds block' (text.length + 1) garbage'
        else none := by
  have hcount : ¬((text.length : Int) ≠ -1 ∧ (text.length : Int) < size) := by omega
  have hnever : ¬(text.length : Int) = -1 := by omega
  have hwritten : (memcpy block 0 (text.take (size - 1) ++ [0])).length = size := by
    rw [length_memcpy, hsize]
    rw [List.length_append, List.length_take, List.length_singleton]
    omega
  let fresh := indeterminate (text.length + 1 - size) garbage
  refine ⟨(memcpy block 0 (text.take (size - 1) ++ [0])).take (text.length + 1) ++ fresh.1, fresh.2,
    ?_, ?_⟩
  · rw [List.length_append, List.length_take, length_indeterminate, hwritten]
    omega
  · simp only [formatLoop, vsnprintf_eq hsize hpos, Option.bind_some]
    rw [if_neg hcount, if_neg hnever, Int.toNat_natCast, hwritten]

theorem writes_storeF (text : List UInt8) : Writes (storeF text) text := by
  intro builder old h
  have hblock : 0 + ([0] : List UInt8).length ≤ (indeterminate 10240 builder.garbage).1.length := by
    rw [length_indeterminate]
    decide
  have hstart := store_eq hblock
  have hsize : (memcpy (indeterminate 10240 builder.garbage).1 0 [0]).length = 10240 := by
    rw [length_memcpy hblock, length_indeterminate]
  have hformatted : ∀ message_fmt garbage, message_fmt.take text.length = text →
      formatLoop text 2 (memcpy (indeterminate 10240 builder.garbage).1 0 [0]) 10240
          (indeterminate 10240 builder.garbage).2 = some (message_fmt, text.length, garbage) →
      if (old ++ text).length < INT32_MAX then
        ∃ builder', storeF text builder = some builder' ∧ builder'.Holds (old ++ text)
      else storeF text builder = none := by
    intro message_fmt garbage htake hloop
    have happended := writes_storeN text { builder with garbage := garbage } old
      ⟨h.size, h.limit, h.pos, h.room, h.content⟩
    simp only [storeF, Option.bind_eq_bind, hstart, Option.bind_some, hloop, htake]
    exact happended
  by_cases hfits : text.length < 10240
  · obtain ⟨message_fmt, hloop, htake⟩ := formatLoop_fits _ hsize hfits 1
    exact hformatted message_fmt _ htake hloop
  obtain ⟨block', garbage', hlength, hround⟩ :=
    formatLoop_grows (indeterminate 10240 builder.garbage).2 hsize (by decide)
      (Nat.le_of_not_lt hfits) 1
  by_cases hint : text.length + 1 ≤ INT32_MAX
  · rw [if_pos hint] at hround
    obtain ⟨message_fmt, hloop, htake⟩ :=
      formatLoop_fits garbage' hlength (Nat.lt_succ_self _) 0
    exact hformatted message_fmt _ htake (hround.trans hloop)
  · rw [if_neg hint] at hround
    have hlong : ¬(old ++ text).length < INT32_MAX := by
      rw [List.length_append]
      omega
    rw [if_neg hlong]
    simp only [storeF, Option.bind_eq_bind, hstart, Option.bind_some, hround, Option.bind_none]

/-- A call appends its bytes. -/
theorem writes_step (call : Call) :
    Writes (fun builder => (step call builder).map Prod.snd) call.bytes := by
  have hunit : ∀ f : StringBuilder → Option StringBuilder,
      (fun builder => ((f builder).map fun builder => ((), builder)).map Prod.snd) = f := by
    intro f
    funext builder
    cases f builder <;> rfl
  cases call with
  | append string =>
    cases string with
    | none => exact Writes.skip
    | some string =>
      show Writes (fun builder => ((builder.storeN (printed string)).map _).map Prod.snd) _
      rw [hunit]
      exact writes_storeN (printed string)
  | appendN string len within =>
    show Writes (fun builder => ((if len > 0 then builder.storeN (string.take len.toNat)
      else some builder).map _).map Prod.snd) _
    rw [hunit]
    by_cases hlen : len > 0
    · simp only [hlen, if_true]
      exact writes_storeN _
    · have hnone : string.take len.toNat = [] := by
        rw [Int.toNat_of_nonpos (by omega), List.take_zero]
      simp only [hlen, if_false, Call.bytes, hnone]
      exact Writes.skip
  | appendF text =>
    cases text with
    | none => exact Writes.skip
    | some text =>
      show Writes (fun builder => ((builder.storeF text).map _).map Prod.snd) _
      rw [hunit]
      exact writes_storeF text

/-- A row of calls appends the bytes of all of them. -/
theorem holds_run (calls : List Call) : ∀ {builder : StringBuilder} {old : List UInt8},
    builder.Holds old → (old ++ calls.flatMap Call.bytes).length < INT32_MAX →
    ∃ replies builder', Runs.run step calls builder = some (replies, builder') ∧
      builder'.Holds (old ++ calls.flatMap Call.bytes) := by
  induction calls with
  | nil =>
    intro builder old h _
    refine ⟨[], builder, rfl, ?_⟩
    rwa [List.flatMap_nil, List.append_nil]
  | cons call calls ih =>
    intro builder old h hlimit
    rw [List.flatMap_cons, ← List.append_assoc] at hlimit ⊢
    have hfits : (old ++ call.bytes).length < INT32_MAX := by
      rw [List.length_append] at hlimit
      omega
    have hcall := writes_step call builder old h
    rw [if_pos hfits] at hcall
    obtain ⟨middle, hmiddle, hholds⟩ := hcall
    obtain ⟨⟨reply, written⟩, hstep, hsame⟩ := Option.map_eq_some_iff.mp hmiddle
    obtain rfl : written = middle := hsame
    obtain ⟨replies, builder', hrun, hholds'⟩ := ih hholds hlimit
    exact ⟨reply :: replies, builder', Runs.run_cons hstep hrun, hholds'⟩

/-- In a run of calls whose texts fit into an `int` together with a NUL no write is
outside its block.  Behind each call, and before the next, the position is inside the
block, which has the size that was asked for and holds the texts and a NUL. -/
theorem appends (garbage : List UInt8) (calls : List Call)
    (h : (calls.flatMap Call.bytes).length < INT32_MAX) (n : Nat) :
    ∃ replies builder, Runs.run step (calls.take n) (create garbage) = some (replies, builder) ∧
      builder.buffer_pos < builder.buffer_size ∧ builder.buffer.length = builder.buffer_size ∧
      builder.buffer_pos = ((calls.take n).flatMap Call.bytes).length ∧
      builder.buffer.take (builder.buffer_pos + 1) = (calls.take n).flatMap Call.bytes ++ [0] := by
  have hfront : ((calls.take n).flatMap Call.bytes).length ≤ (calls.flatMap Call.bytes).length := by
    conv_rhs => rw [← List.take_append_drop n calls, List.flatMap_append, List.length_append]
    exact Nat.le_add_right _ _
  obtain ⟨replies, builder, hrun, hholds⟩ := holds_run (calls.take n) (holds_create garbage)
    (by rw [List.nil_append]; omega)
  rw [List.nil_append] at hholds
  have hpos := hholds.pos
  refine ⟨replies, builder, hrun, ?_, hholds.size, hpos, ?_⟩
  · rw [hpos]
    exact hholds.room
  · rw [hpos]
    exact hholds.content

/-- The block grows with each call, and the second text needs a larger block to be formatted in. -/
theorem appends_growing :
    ∃ replies builder, Runs.run step [.append (some (List.replicate 300 0x61)),
        .appendF (some (List.replicate 11000 0x62))] (create []) = some (replies, builder) ∧
      builder.buffer_pos = 11300 ∧ 11300 < builder.buffer_size ∧
      builder.buffer.length = builder.buffer_size ∧
      builder.buffer.take 11301 =
        List.replicate 300 0x61 ++ List.replicate 11000 0x62 ++ [0] := by
  let calls : List Call :=
    [.append (some (List.replicate 300 0x61)), .appendF (some (List.replicate 11000 0x62))]
  have hbytes : calls.flatMap Call.bytes = List.replicate 300 0x61 ++ List.replicate 11000 0x62 := by
    show printed (List.replicate 300 0x61) ++ (List.replicate 11000 0x62 ++ []) = _
    rw [List.append_nil, printed, List.takeWhile_replicate, if_pos (by decide)]
  have hlength : (calls.flatMap Call.bytes).length = 11300 := by
    rw [hbytes, List.length_append, List.length_replicate, List.length_replicate]
  have hlimit : (calls.flatMap Call.bytes).length < INT32_MAX := by
    rw [hlength]
    decide
  obtain ⟨replies, builder, hrun, hroom, hsize, hpos, hcontent⟩ := appends [] calls hlimit 2
  have htake : calls.take 2 = calls := rfl
  rw [htake, hlength] at hpos
  rw [htake, hpos, hbytes] at hcontent
  rw [hpos] at hroom
  exact ⟨replies, builder, hrun, hpos, hroom, hsize, hcontent⟩

end StringBuilder

end Seabolt
