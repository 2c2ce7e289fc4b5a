import Mathlib.Tactic

/-!
# Length-prefixed chunks

A message travels as a sequence of chunks, each preceded by a length field
of fixed width, and ends with a zero length.  The alphabet, the width of the
field and the largest length it can announce are parameters.

`pieces` is the greedy cut of a message into chunks of the largest size.
`Frames` is the relation between a message and any of its framings, so a
reader can be proved against every way of cutting and not only against the
greedy one.
-/

namespace Chunking

variable {α : Type}

/-- A length field of fixed width that is exact up to `max`. -/
structure LengthField (α : Type) where
  width : Nat
  max : Nat
  write : Nat → List α
  read : List α → Nat
  max_pos : 0 < max
  length_write : ∀ n, (write n).length = width
  read_write : ∀ n, n ≤ max → read (write n) = n
  read_le : ∀ header, header.length = width → read header ≤ max
  write_read : ∀ header, header.length = width → write (read header) = header

/-- Every chunk is non-empty and its length can be announced. -/
def ValidChunks (max : Nat) (chunks : List (List α)) : Prop :=
  ∀ chunk ∈ chunks, 0 < chunk.length ∧ chunk.length ≤ max

@[simp] theorem validChunks_nil (max : Nat) : ValidChunks max ([] : List (List α)) := by
  simp [ValidChunks]

@[simp] theorem validChunks_cons {max : Nat} {chunk : List α} {chunks : List (List α)} :
    ValidChunks max (chunk :: chunks) ↔
      (0 < chunk.length ∧ chunk.length ≤ max) ∧ ValidChunks max chunks := by
  simp [ValidChunks]

/-- The chunks on the wire: each behind its length, then a zero length. -/
def frame (field : LengthField α) : List (List α) → List α
  | [] => field.write 0
  | chunk :: chunks => field.write chunk.length ++ chunk ++ frame field chunks

/-- `bytes` is one of the framings of `message`. -/
def Frames (field : LengthField α) (message bytes : List α) : Prop :=
  ∃ chunks, ValidChunks field.max chunks ∧ chunks.flatten = message ∧
    bytes = frame field chunks

/-- A frame is at least as long as its closing length field. -/
theorem Frames.width_le {field : LengthField α} {message bytes : List α}
    (h : Frames field message bytes) : field.width ≤ bytes.length := by
  obtain ⟨chunks, -, -, rfl⟩ := h
  cases chunks with
  | nil => simp [frame, field.length_write]
  | cons chunk chunks => simp [frame, field.length_write]

/-- Two fields that announce different lengths differ. -/
theorem LengthField.write_inj (field : LengthField α) {m n : Nat} (hm : m ≤ field.max)
    (hn : n ≤ field.max) (h : field.write m = field.write n) : m = n := by
  rw [← field.read_write m hm, h, field.read_write n hn]

/-- A stream starts with at most one frame, and the frame with one sequence
of chunks. -/
theorem frame_append_inj (field : LengthField α) :
    ∀ {chunks chunks' : List (List α)} {rest rest' : List α},
      ValidChunks field.max chunks → ValidChunks field.max chunks' →
      frame field chunks ++ rest = frame field chunks' ++ rest' →
      chunks = chunks' ∧ rest = rest'
  | [], [], _, _, _, _, h => ⟨rfl, List.append_cancel_left h⟩
  | [], chunk' :: chunks', rest, rest', _, hvalid', h => by
    simp only [frame, List.append_assoc] at h
    have hlength := (validChunks_cons.mp hvalid').1
    have hzero := field.write_inj (Nat.zero_le _) hlength.2
      (List.append_inj_left h (by simp only [field.length_write]))
    omega
  | chunk :: chunks, [], rest, rest', hvalid, _, h => by
    simp only [frame, List.append_assoc] at h
    have hlength := (validChunks_cons.mp hvalid).1
    have hzero := field.write_inj hlength.2 (Nat.zero_le _)
      (List.append_inj_left h (by simp only [field.length_write]))
    omega
  | chunk :: chunks, chunk' :: chunks', rest, rest', hvalid, hvalid', h => by
    obtain ⟨hlength, hchunks⟩ := validChunks_cons.mp hvalid
    obtain ⟨hlength', hchunks'⟩ := validChunks_cons.mp hvalid'
    simp only [frame, List.append_assoc] at h
    obtain ⟨hheader, hbody⟩ := List.append_inj h (by simp only [field.length_write])
    obtain ⟨rfl, htail⟩ := List.append_inj hbody (field.write_inj hlength.2 hlength'.2 hheader)
    obtain ⟨rfl, rfl⟩ := frame_append_inj field hchunks hchunks' htail
    exact ⟨rfl, rfl⟩

/-- A frame is as long as its chunks and their length fields. -/
theorem length_frame (field : LengthField α) (chunks : List (List α)) :
    (frame field chunks).length =
      field.width * (chunks.length + 1) + chunks.flatten.length := by
  induction chunks with
  | nil => simp [frame, field.length_write]
  | cons chunk chunks ih =>
    simp only [frame, List.length_append, field.length_write, ih, List.length_cons,
      List.flatten_cons]
    ring

/-! ## The greedy cut -/

/-- Cut a list into pieces of `max` elements; the last one may be shorter. -/
def pieces (max : Nat) (hmax : 0 < max) (message : List α) : List (List α) :=
  if _h : message = [] then []
  else message.take max :: pieces max hmax (message.drop max)
termination_by message.length
decreasing_by
  have := List.length_pos_iff.mpr _h
  simp only [List.length_drop]
  omega

@[simp] theorem pieces_nil (max : Nat) (hmax : 0 < max) :
    pieces max hmax ([] : List α) = [] := by
  rw [pieces]
  simp

/-- One step of the cut. -/
theorem pieces_of_ne_nil {max : Nat} (hmax : 0 < max) {message : List α}
    (h : message ≠ []) :
    pieces max hmax message = message.take max :: pieces max hmax (message.drop max) := by
  rw [pieces]
  simp [h]

/-- The pieces, joined again, are the message. -/
theorem flatten_pieces {max : Nat} (hmax : 0 < max) (message : List α) :
    (pieces max hmax message).flatten = message := by
  induction message using pieces.induct max hmax with
  | case1 => simp
  | case2 message h ih =>
    rw [pieces_of_ne_nil hmax h, List.flatten_cons, ih, List.take_append_drop]

/-- Every piece is non-empty and not longer than `max`. -/
theorem validChunks_pieces {max : Nat} (hmax : 0 < max) (message : List α) :
    ValidChunks max (pieces max hmax message) := by
  induction message using pieces.induct max hmax with
  | case1 => simp
  | case2 message h ih =>
    have hpos := List.length_pos_iff.mpr h
    rw [pieces_of_ne_nil hmax h, validChunks_cons]
    refine ⟨?_, ih⟩
    simp only [List.length_take]
    omega

/-- Messages of one length are cut alike. -/
theorem length_pieces {max : Nat} (hmax : 0 < max) (message : List α) :
    ∀ message' : List α, message'.length = message.length →
      (pieces max hmax message').length = (pieces max hmax message).length := by
  induction message using pieces.induct max hmax with
  | case1 =>
    intro message' hlength
    rw [List.eq_nil_of_length_eq_zero hlength]
  | case2 message h ih =>
    intro message' hlength
    have h' : message' ≠ [] := by
      rintro rfl
      exact h (List.eq_nil_of_length_eq_zero hlength.symm)
    have hdrop : (message'.drop max).length = (message.drop max).length := by
      rw [List.length_drop, List.length_drop, hlength]
    rw [pieces_of_ne_nil hmax h, pieces_of_ne_nil hmax h', List.length_cons, List.length_cons,
      ih _ hdrop]

theorem length_frame_pieces (field : LengthField α) {message message' : List α}
    (h : message'.length = message.length) :
    (frame field (pieces field.max field.max_pos message')).length =
      (frame field (pieces field.max field.max_pos message)).length := by
  rw [length_frame, length_frame, flatten_pieces, flatten_pieces, length_pieces _ _ _ h, h]

end Chunking
