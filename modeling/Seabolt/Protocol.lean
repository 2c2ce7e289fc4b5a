import Seabolt.Lib.Chunking
import Seabolt.PackStream.Encode

/-!
# Messages and chunks

`protocol.c`: a message is a structure, written like one, and
`push_to_transmission` cuts the written message into chunks.

`chunkLength` is the two-byte length field of a chunk, for which the framings
of `Chunking` are those of the wire.
-/

namespace Seabolt

abbrev BOLT_MAX_CHUNK_SIZE : Nat := 65535

/-- `struct BoltMessage`, with the elements of its list of fields. -/
structure BoltMessage where
  code : Int16
  fields : List BoltValue
  deriving Inhabited

/-- `BoltMessage_create`. -/
def BoltMessage.create (code : Int16) (n_fields : Nat) : BoltMessage :=
  { code := code, fields := List.replicate n_fields .null }

/-- `write_message`. -/
def writeMessage (message : BoltMessage) (check_writable_struct : CheckStructSignature)
    (buffer : BoltBuffer) : Outcome BoltBuffer :=
  if check_writable_struct message.code then
    Outcome.TRY (PackStream.loadStructureHeader buffer message.code (toInt8 message.fields.length))
      fun buffer => PackStream.loadElements check_writable_struct message.fields buffer
  else some (BOLT_PROTOCOL_UNSUPPORTED_TYPE, buffer)

/-- A message is written as the structure with its code and fields. -/
theorem writeMessage_eq_load (message : BoltMessage) (check : CheckStructSignature)
    (buffer : BoltBuffer) :
    writeMessage message check buffer =
      PackStream.load check (.struct message.code message.fields) buffer := by
  rw [writeMessage, PackStream.load]

/-! ## Chunk headers -/

/-- The two `char`s of a chunk header. -/
def chunkHeader (size : Nat) : List UInt8 := [UInt8.ofNat (size >>> 8), UInt8.ofNat size]

/-- `char_to_uint16be`. -/
def charToUint16be (header : List UInt8) : Nat :=
  ((header.getD 0 0).toNat <<< 8) ||| (header.getD 1 0).toNat

/-- A header announces every size up to the largest of a chunk. -/
theorem charToUint16be_chunkHeader {size : Nat} (h : size ≤ BOLT_MAX_CHUNK_SIZE) :
    charToUint16be (chunkHeader size) = size := by
  have hsize : size ≤ 65535 := h
  have hlow : size % 256 < 2 ^ 8 := Nat.mod_lt _ (by norm_num)
  simp only [charToUint16be, chunkHeader, List.getD_cons_zero, List.getD_cons_succ,
    UInt8.toNat_ofNat', Nat.shiftRight_eq_div_pow]
  rw [← Nat.shiftLeft_add_eq_or_of_lt hlow, Nat.shiftLeft_eq]
  omega

/-- Every two bytes are the header that they announce. -/
theorem chunkHeader_charToUint16be {header : List UInt8} (h : header.length = 2) :
    charToUint16be header ≤ BOLT_MAX_CHUNK_SIZE ∧
      chunkHeader (charToUint16be header) = header := by
  obtain ⟨high, low, rfl⟩ := List.length_eq_two.mp h
  have hhigh := high.toNat_lt
  have hlow : low.toNat < 2 ^ 8 := low.toNat_lt
  have hvalue : charToUint16be [high, low] = high.toNat * 256 + low.toNat := by
    simp only [charToUint16be, List.getD_cons_zero, List.getD_cons_succ]
    rw [← Nat.shiftLeft_add_eq_or_of_lt hlow, Nat.shiftLeft_eq]
  rw [hvalue]
  constructor
  · show _ ≤ 65535
    omega
  · simp only [chunkHeader, Nat.shiftRight_eq_div_pow, List.cons.injEq, and_true]
    constructor
    · apply UInt8.toNat_inj.mp
      rw [UInt8.toNat_ofNat']
      omega
    · apply UInt8.toNat_inj.mp
      rw [UInt8.toNat_ofNat']
      omega

/-- The length field in front of a chunk. -/
def chunkLength : Chunking.LengthField UInt8 where
  width := 2
  max := BOLT_MAX_CHUNK_SIZE
  write := chunkHeader
  read := charToUint16be
  max_pos := by decide
  length_write _ := rfl
  read_write _ := charToUint16be_chunkHeader
  read_le _ h := (chunkHeader_charToUint16be h).1
  write_read _ h := (chunkHeader_charToUint16be h).2

/-! ## Transmission -/

/-- The loop of `push_to_transmission`: every round moves at least one byte,
so the remaining bytes bound the rounds.  `none` is the copy from the NULL
that `BoltBuffer_unload_pointer` returns when fewer bytes are loaded. -/
def pushLoop : Nat → Nat → BoltBuffer → BoltBuffer → Option (BoltBuffer × BoltBuffer)
  | 0, _, msg_buffer, tx_buffer => some (msg_buffer, tx_buffer)
  | rounds + 1, total_remaining, msg_buffer, tx_buffer =>
    if total_remaining > 0 then
      let current_size :=
        if total_remaining > BOLT_MAX_CHUNK_SIZE then BOLT_MAX_CHUNK_SIZE else total_remaining
      let tx_buffer := tx_buffer.load (chunkHeader current_size)
      match msg_buffer.unloadPointer current_size with
      | (none, _) => none
      | (some source, msg_buffer) =>
        let tx_buffer := tx_buffer.load ((msg_buffer.data.drop source).take current_size)
        pushLoop rounds (total_remaining - current_size) msg_buffer tx_buffer
    else some (msg_buffer, tx_buffer)

/-- `push_to_transmission`. -/
def pushToTransmission (msg_buffer tx_buffer : BoltBuffer) : Option (BoltBuffer × BoltBuffer) :=
  let total_size := msg_buffer.unloadable
  (pushLoop total_size total_size msg_buffer tx_buffer).map fun (msg_buffer, tx_buffer) =>
    (msg_buffer.compact, tx_buffer.load (chunkHeader 0))

/-- The chunks of a message, as `push_to_transmission` cuts it. -/
def chunksOf (message : List UInt8) : List (List UInt8) :=
  Chunking.pieces chunkLength.max chunkLength.max_pos message

/-- The message buffer is drained, and its bytes follow in the transmit
buffer, chunk by chunk. -/
theorem pushLoop_spec (rounds : Nat) {message : List UInt8} (hrounds : message.length ≤ rounds) :
    ∀ {msg tx : BoltBuffer}, msg.Wf → tx.Wf → msg.content = message →
      ∃ msg' tx', pushLoop rounds message.length msg tx = some (msg', tx') ∧ msg'.Wf ∧
        tx'.Wf ∧ msg'.content = [] ∧
        (tx'.load (chunkHeader 0)).content =
          tx.content ++ Chunking.frame chunkLength (chunksOf message) := by
  induction rounds generalizing message with
  | zero =>
    intro msg tx hmsg htx hcontent
    obtain rfl := List.eq_nil_of_length_eq_zero (Nat.le_zero.mp hrounds)
    refine ⟨msg, tx, rfl, hmsg, htx, hcontent, ?_⟩
    rw [BoltBuffer.content_load htx, chunksOf, Chunking.pieces_nil]
    rfl
  | succ rounds ih =>
    intro msg tx hmsg htx hcontent
    by_cases hempty : message = []
    · subst hempty
      refine ⟨msg, tx, rfl, hmsg, htx, hcontent, ?_⟩
      rw [BoltBuffer.content_load htx, chunksOf, Chunking.pieces_nil]
      rfl
    · have hpos := List.length_pos_iff.mpr hempty
      have hmaxpos : 0 < BOLT_MAX_CHUNK_SIZE := chunkLength.max_pos
      set current_size := min BOLT_MAX_CHUNK_SIZE message.length with hcurrent
      have hsize : (if message.length > BOLT_MAX_CHUNK_SIZE then BOLT_MAX_CHUNK_SIZE
          else message.length) = current_size := by
        rw [hcurrent]
        split_ifs <;> omega
      have hchunk : (message.take BOLT_MAX_CHUNK_SIZE).length = current_size :=
        List.length_take
      have hsplit : msg.content =
          message.take BOLT_MAX_CHUNK_SIZE ++ message.drop BOLT_MAX_CHUNK_SIZE := by
        rw [hcontent, List.take_append_drop]
      obtain ⟨msg1, hpointer, hmsg1, hcontent1, hdata⟩ :=
        BoltBuffer.unloadPointer_of_content hmsg hsplit
      have hread := hmsg.take_drop_of_content hsplit
      rw [hchunk] at hpointer hread
      have htx1 := htx.load (chunkHeader current_size)
      have hrest : message.length - current_size = (message.drop BOLT_MAX_CHUNK_SIZE).length := by
        rw [List.length_drop, hcurrent]
        omega
      obtain ⟨msg', tx', hloop, hmsg', htx', hempty', hframe⟩ :=
        ih (by rw [← hrest, hcurrent]; omega) hmsg1
          (htx1.load (message.take BOLT_MAX_CHUNK_SIZE)) hcontent1
      refine ⟨msg', tx', ?_, hmsg', htx', hempty', ?_⟩
      · simp only [pushLoop, hpos, gt_iff_lt, if_true]
        rw [show (if BOLT_MAX_CHUNK_SIZE < message.length then BOLT_MAX_CHUNK_SIZE
          else message.length) = current_size from hsize, hpointer]
        simp only [hdata, hread, hrest, hloop]
      · rw [hframe, BoltBuffer.content_load htx1, BoltBuffer.content_load htx, chunksOf, chunksOf,
          Chunking.pieces_of_ne_nil _ hempty, Chunking.frame]
        simp only [List.append_assoc]
        rw [show (List.take chunkLength.max message).length = current_size from hchunk]
        rfl

/-- `push_to_transmission` appends the frame of the message and leaves the
message buffer empty. -/
theorem pushToTransmission_spec {msg tx : BoltBuffer} (hmsg : msg.Wf) (htx : tx.Wf) :
    ∃ msg' tx', pushToTransmission msg tx = some (msg', tx') ∧ msg'.Wf ∧ tx'.Wf ∧
      msg'.content = [] ∧
      tx'.content = tx.content ++ Chunking.frame chunkLength (chunksOf msg.content) := by
  obtain ⟨msg', tx', hloop, hmsg', htx', hempty, hframe⟩ :=
    pushLoop_spec msg.content.length le_rfl hmsg htx rfl
  rw [hmsg.length_content] at hloop
  refine ⟨msg'.compact, tx'.load (chunkHeader 0), ?_, hmsg'.compact, htx'.load _, ?_, hframe⟩
  · simp only [pushToTransmission, hloop, Option.map_some]
  · rw [BoltBuffer.content_compact hmsg', hempty]

end Seabolt
