import Seabolt.Lib.Pieces
import Seabolt.Lib.Runs
import Seabolt.Schannel

/-!
# The plaintext behind the transport over SChannel

What the calls of `secure_schannel_recv` return is the plaintext of the records, in
order and without gaps, however the ciphertext arrives (`Streaming.recv`).  The
plaintext and the ciphertext that are pending are parts of one buffer, and never
overwrite each other.

Ciphertext that arrives together with the last token of the handshake does not get
so far: the handshake hands it over to the receive buffer before `secure_schannel_open`
has allocated it (`schannel_iff`).
-/

namespace Seabolt

/-- A part that lies in the bytes has its length. -/
theorem Region.length_of {region : Region} {bytes : List UInt8}
    (h : region.offset + region.length ≤ bytes.length) : (region.of bytes).length = region.length := by
  rw [Region.of, List.length_take, List.length_drop]
  omega

/-! ## What the provider is relied on for -/

/-- A record of the protocol: its ciphertext, and the plaintext in it. -/
structure Record where
  cipher : List UInt8
  plain : List UInt8
  nonempty : cipher ≠ []

variable {σ : Type}

/-- No record is complete: nothing is consumed. -/
structure Decrypted.Waits (answer : Decrypted σ) (input : List UInt8) (state : σ) : Prop where
  status : answer.status = SEC_E_INCOMPLETE_MESSAGE
  buffer : answer.buffer = input
  state : answer.state = state

/-- The first record is decrypted in place, and what is behind it is reported. -/
structure Decrypted.Opens (answer : Decrypted σ) (record : Record) (rest : List UInt8) : Prop where
  status : answer.status = SEC_E_OK
  data : ∃ region, answer.data = some region ∧ region.of answer.buffer = record.plain ∧
    region.offset + region.length ≤ record.cipher.length
  extra : answer.extra = if rest = [] then none else some ⟨record.cipher.length, rest.length⟩
  length : answer.buffer.length = record.cipher.length + rest.length
  kept : answer.buffer.drop record.cipher.length = rest

/-- The provider keeps to its input. -/
theorem Decrypted.Opens.buffer_le {answer : Decrypted σ} {record : Record}
    {behind block : List UInt8} (h : answer.Opens record behind) {n : Nat}
    (hbehind : block.take n = record.cipher ++ behind) : answer.buffer.length ≤ block.length := by
  have hlength := congrArg List.length hbehind
  rw [List.length_append, ← h.length, List.length_take] at hlength
  omega

/-- `DecryptMessage` decrypts these records, one after the other. -/
def Schannel.Decrypts (schannel : Schannel σ) : σ → List Record → Prop
  | _, [] => True
  | state, record :: records =>
    (∀ input, input <+: record.cipher → input ≠ record.cipher →
      (schannel.decryptMessage state input).Waits input state) ∧
    ∀ rest, (schannel.decryptMessage state (record.cipher ++ rest)).Opens record rest ∧
      schannel.Decrypts (schannel.decryptMessage state (record.cipher ++ rest)).state records

/-- The ciphertext of the records. -/
def ciphertext (records : List Record) : List UInt8 := (records.map Record.cipher).flatten

/-! ## Attempts to receive -/

/-- A `recv` of the plain transport fails, after others have succeeded. -/
def BoltCommunication.Interrupted (comm : BoltCommunication) (status : Int)
    (comm' : BoltCommunication) : Prop :=
  status ≠ BOLT_SUCCESS ∧ ∃ bytes middle offered, 0 < offered ∧
    comm.Delivers bytes middle ∧ middle.recv offered = (status, [], comm')

/-- What a call may return that asks for `n` bytes of a stream in pieces: the bytes,
or the failure of the plain transport, which leaves the stream as it was. -/
inductive Attempt (n : Nat) (comm comm' : BoltCommunication) (pieces : List (List UInt8)) :
    Int × List UInt8 → List (List UInt8) → Prop where
  | taken {bytes : List UInt8} {pieces' : List (List UInt8)}
      (h : Pieces.read n pieces = some (bytes, pieces')) :
      Attempt n comm comm' pieces (BOLT_SUCCESS, bytes) pieces'
  | missed {status : Int} (h : comm.Interrupted status comm') :
      Attempt n comm comm' pieces (status, []) pieces

theorem Attempt.after {n : Nat} {comm middle comm' : BoltCommunication} {bytes : List UInt8}
    {pieces pieces' : List (List UInt8)} {result : Int × List UInt8}
    (h : Attempt n middle comm' pieces result pieces') (hdelivers : comm.Delivers bytes middle) :
    Attempt n comm comm' pieces result pieces' := by
  cases h with
  | taken h => exact .taken h
  | missed h =>
    obtain ⟨hstatus, more, last, offered, ho, hmore, hrecv⟩ := h
    exact .missed ⟨hstatus, bytes ++ more, last, offered, ho, hdelivers.trans hmore, hrecv⟩

namespace SChannelContext

variable {schannel : Schannel σ} {ctx : SChannelContext σ} {block unsent : List UInt8}
  {records : List Record} {pieces : List (List UInt8)}

/-! ## The two pending regions -/

/-- The plaintext that has been decrypted and not been returned. -/
def pendingPlain (ctx : SChannelContext σ) (block : List UInt8) : List (List UInt8) :=
  match ctx.pt_pending_buffer with
  | none => []
  | some offset =>
    [(block.drop (offset + ctx.pt_pending_buffer_pos)).take
      (ctx.pt_pending_buffer_length - ctx.pt_pending_buffer_pos)]

/-- The ciphertext that has been received and not been decrypted. -/
def pendingCipher (ctx : SChannelContext σ) (block : List UInt8) : List UInt8 :=
  match ctx.ct_pending_buffer with
  | none => block.take ctx.recv_buffer_pos
  | some offset => Region.of ⟨offset, ctx.ct_pending_buffer_length⟩ block

/-- The context between two calls: `records` are still to be decrypted, and `pieces`
are still to be returned.  The peer has not sent `unsent` yet. -/
structure Streaming (schannel : Schannel σ) (ctx : SChannelContext σ) (block : List UInt8)
    (records : List Record) (pieces : List (List UInt8)) (unsent : List UInt8) : Prop where
  buffer : ctx.recv_buffer = some block
  length : block.length = ctx.recv_buffer_length
  room : 0 < ctx.recv_buffer_length
  pos : ctx.recv_buffer_pos ≤ ctx.recv_buffer_length
  pieces : pieces = ctx.pendingPlain block ++ records.map Record.plain
  plain : ∀ offset, ctx.pt_pending_buffer = some offset →
    ctx.pt_pending_buffer_pos < ctx.pt_pending_buffer_length ∧
      offset + ctx.pt_pending_buffer_length ≤ block.length
  cipher : ctx.pendingCipher block ++ ctx.plain_comm.incoming ++ unsent = ciphertext records
  extra : ∀ offset, ctx.ct_pending_buffer = some offset →
    0 < ctx.ct_pending_buffer_length ∧ offset + ctx.ct_pending_buffer_length ≤ block.length
  decrypts : schannel.Decrypts ctx.context_handle records
  fits : ∀ record ∈ records, record.cipher.length ≤ ctx.recv_buffer_length

/-- Neither plaintext nor ciphertext is pending. -/
structure Settled (ctx : SChannelContext σ) : Prop where
  plain : ctx.pt_pending_buffer = none
  cipher : ctx.ct_pending_buffer = none

/-! ## Plaintext that is pending -/

/-- Handing out plaintext reads the first piece. -/
theorem Streaming.recvPending (h : Streaming schannel ctx block records pieces unsent) {offset : Nat}
    (hoffset : ctx.pt_pending_buffer = some offset) (n : Nat) :
    ∃ bytes ctx' pieces', ctx.recvPending n offset block = ((BOLT_SUCCESS, bytes), ctx') ∧
      Pieces.read n pieces = some (bytes, pieces') ∧
      ctx'.recv_buffer_length = ctx.recv_buffer_length ∧
      Streaming schannel ctx' block records pieces' unsent := by
  obtain ⟨hlt, hle⟩ := h.plain offset hoffset
  have hpieces := h.pieces
  rw [pendingPlain, hoffset] at hpieces
  have hlength : ((block.drop (offset + ctx.pt_pending_buffer_pos)).take
      (ctx.pt_pending_buffer_length - ctx.pt_pending_buffer_pos)).length =
      ctx.pt_pending_buffer_length - ctx.pt_pending_buffer_pos := by
    rw [List.length_take, List.length_drop]
    omega
  have hread := congrArg (Pieces.read n) hpieces
  simp only [Pieces.read, List.singleton_append, hlength, List.take_take] at hread
  refine ⟨_, _, _, rfl, hread, ?_⟩
  by_cases hall : ctx.pt_pending_buffer_length - ctx.pt_pending_buffer_pos ≤ n
  · have hend : ctx.pt_pending_buffer_pos +
        min n (ctx.pt_pending_buffer_length - ctx.pt_pending_buffer_pos) =
        ctx.pt_pending_buffer_length := by omega
    rw [if_pos hall, if_pos hend]
    exact ⟨rfl, { h with pieces := rfl, plain := fun _ hnone => nomatch hnone }⟩
  · have hcopy : min n (ctx.pt_pending_buffer_length - ctx.pt_pending_buffer_pos) = n := by omega
    rw [if_neg hall, hcopy, if_neg (by omega)]
    refine ⟨rfl, { h with pieces := ?_, plain := ?_ }⟩
    · rw [pendingPlain]
      simp only [hoffset, List.singleton_append, List.drop_take, List.drop_drop, Nat.sub_sub,
        Nat.add_assoc]
    · intro offset' hoffset'
      obtain rfl := Option.some.inj (hoffset.symm.trans hoffset')
      have hmore : ctx.pt_pending_buffer_pos + n < ctx.pt_pending_buffer_length := by omega
      exact ⟨hmore, hle⟩

/-! ## Ciphertext that is pending -/

/-- The ciphertext that is pending is at the start of the buffer. -/
theorem Settled.pendingCipher (h : Settled ctx) :
    ctx.pendingCipher block = block.take ctx.recv_buffer_pos := by
  rw [SChannelContext.pendingCipher, h.cipher]

/-- Moving ciphertext to the start of the buffer changes neither stream. -/
theorem Streaming.takePending (h : Streaming schannel ctx block records pieces unsent)
    (hplain : ctx.pt_pending_buffer = none) :
    ∃ block', Streaming schannel (ctx.takePending block) block' records pieces unsent ∧
      Settled (ctx.takePending block) ∧ (ctx.takePending block).plain_comm = ctx.plain_comm ∧
      (ctx.takePending block).recv_buffer_length = ctx.recv_buffer_length := by
  unfold SChannelContext.takePending
  cases hct : ctx.ct_pending_buffer with
  | none => exact ⟨block, h, ⟨hplain, hct⟩, rfl, rfl⟩
  | some offset =>
    obtain ⟨hpos, hle⟩ := h.extra offset hct
    have hlength : (Region.of ⟨offset, ctx.ct_pending_buffer_length⟩ block).length =
        ctx.ct_pending_buffer_length := Region.length_of hle
    have hfit : 0 + (Region.of ⟨offset, ctx.ct_pending_buffer_length⟩ block).length ≤
        block.length := by omega
    have htake := take_memcpy block (Region.of ⟨offset, ctx.ct_pending_buffer_length⟩ block)
      (Nat.zero_le block.length)
    rw [hlength, Nat.zero_add, List.take_zero, List.nil_append] at htake
    have hlen := h.length
    have hcipher := h.cipher
    rw [SChannelContext.pendingCipher, hct] at hcipher
    dsimp only
    rw [if_pos hpos]
    refine ⟨memcpy block 0 (Region.of ⟨offset, ctx.ct_pending_buffer_length⟩ block), ?_,
      ⟨hplain, rfl⟩, rfl, rfl⟩
    exact { h with
      buffer := rfl
      length := (length_memcpy hfit).trans hlen
      pos := by
        show ctx.ct_pending_buffer_length ≤ ctx.recv_buffer_length
        omega
      pieces := by
        have hpieces := h.pieces
        simp only [pendingPlain, hplain] at hpieces ⊢
        exact hpieces
      plain := fun _ hsome => nomatch hplain.symm.trans hsome
      cipher := by
        simp only [SChannelContext.pendingCipher, htake]
        exact hcipher
      extra := fun _ hnone => nomatch hnone }

/-! ## Receiving ciphertext -/

/-- A round that receives extends the ciphertext that is pending, or fails and
changes neither stream. -/
theorem Streaming.fill (h : Streaming schannel ctx block records pieces unsent)
    (hsettled : Settled ctx) {status : Int}
    (hreads : ctx.recv_buffer_pos = 0 ∨ status = SEC_E_INCOMPLETE_MESSAGE)
    (hroom : ctx.recv_buffer_pos < ctx.recv_buffer_length) :
    (∃ result ctx', ctx.fill status = some (result, ctx') ∧
      ctx.plain_comm.Interrupted result ctx'.plain_comm ∧
      ctx'.recv_buffer_length = ctx.recv_buffer_length ∧
      Streaming schannel ctx' block records pieces unsent) ∨
    ∃ bytes ctx' block', ctx.fill status = some (BOLT_SUCCESS, ctx') ∧
      ctx.plain_comm.Delivers bytes ctx'.plain_comm ∧ Settled ctx' ∧
      ctx'.recv_buffer_length = ctx.recv_buffer_length ∧
      ctx.recv_buffer_pos < ctx'.recv_buffer_pos ∧
      Streaming schannel ctx' block' records pieces unsent := by
  have hoffered : 0 < ctx.recv_buffer_length - ctx.recv_buffer_pos := by omega
  have hdelivers := ctx.plain_comm.recv_delivers (ctx.recv_buffer_length - ctx.recv_buffer_pos)
  have hbytes := ctx.plain_comm.recv_length hoffered
  have hcipher := h.cipher
  rw [hsettled.pendingCipher] at hcipher
  have hlen := h.length
  have hpieces := h.pieces
  rcases hrecv : ctx.plain_comm.recv (ctx.recv_buffer_length - ctx.recv_buffer_pos)
    with ⟨result, bytes, comm'⟩
  rw [hrecv] at hdelivers hbytes
  have hfill : ctx.fill status = some (result,
      { ctx with
        recv_buffer := some (memcpy block ctx.recv_buffer_pos bytes)
        recv_buffer_pos := ctx.recv_buffer_pos + bytes.length
        plain_comm := comm' }) := by
    rw [SChannelContext.fill, if_pos hreads, h.buffer]
    simp only [recvPlain, Nat.pos_iff_ne_zero.mp hoffered, if_false, hrecv]
  rcases hbytes with ⟨rfl, hpos, hle⟩ | ⟨hresult, rfl⟩
  · have hfit : ctx.recv_buffer_pos + bytes.length ≤ block.length := by
      dsimp only at hle
      omega
    refine .inr ⟨bytes, _, memcpy block ctx.recv_buffer_pos bytes, hfill, hdelivers,
      ⟨hsettled.plain, hsettled.cipher⟩, rfl, Nat.lt_add_of_pos_right hpos, ?_⟩
    exact { h with
      buffer := rfl
      length := (length_memcpy hfit).trans hlen
      pos := by
        show ctx.recv_buffer_pos + bytes.length ≤ ctx.recv_buffer_length
        omega
      pieces := by
        simp only [pendingPlain, hsettled.plain] at hpieces ⊢
        exact hpieces
      plain := fun _ hsome => nomatch hsettled.plain.symm.trans hsome
      cipher := by
        rw [hdelivers.incoming] at hcipher
        simp only [SChannelContext.pendingCipher, hsettled.cipher,
          take_memcpy block bytes (show ctx.recv_buffer_pos ≤ block.length by omega)]
        simpa only [List.append_assoc] using hcipher
      extra := fun _ hsome => nomatch hsettled.cipher.symm.trans hsome }
  · refine .inl ⟨result, _, hfill,
      ⟨hresult, [], ctx.plain_comm, _, hoffered, .refl _, hrecv⟩, rfl, ?_⟩
    have hsame : memcpy block ctx.recv_buffer_pos [] = block := by
      rw [memcpy, List.append_nil, List.length_nil, Nat.add_zero, List.take_append_drop]
    exact { h with
      buffer := congrArg some hsame
      cipher := by
        rw [hdelivers.incoming] at hcipher
        simp only [SChannelContext.pendingCipher, hsettled.cipher]
        exact hcipher }

/-! ## Decrypting -/

/-- What the provider says about the ciphertext at the start of the buffer: it is a
part of the first record, or begins with all of it. -/
theorem Streaming.decrypt (h : Streaming schannel ctx block records pieces unsent)
    (hsettled : Settled ctx) (hpos : 0 < ctx.recv_buffer_pos) :
    ∃ record rest, records = record :: rest ∧
      (ctx.recv_buffer_pos < record.cipher.length ∧
        (schannel.decryptMessage ctx.context_handle (block.take ctx.recv_buffer_pos)).Waits
          (block.take ctx.recv_buffer_pos) ctx.context_handle ∨
      ∃ behind, block.take ctx.recv_buffer_pos = record.cipher ++ behind) := by
  have hlength : (block.take ctx.recv_buffer_pos).length = ctx.recv_buffer_pos := by
    have hle := h.pos
    rw [← h.length] at hle
    exact List.length_take_of_le hle
  have hcipher := h.cipher
  rw [hsettled.pendingCipher, List.append_assoc] at hcipher
  cases records with
  | nil =>
    have hnone := congrArg List.length hcipher
    simp only [List.length_append, hlength, ciphertext, List.map_nil, List.flatten_nil,
      List.length_nil] at hnone
    omega
  | cons record rest =>
    refine ⟨record, rest, rfl, ?_⟩
    rw [ciphertext, List.map_cons, List.flatten_cons] at hcipher
    rcases List.append_eq_append_iff.mp hcipher with ⟨missing, hrecord, -⟩ | ⟨behind, htake, -⟩
    · rcases missing with _ | ⟨byte, missing⟩
      · exact .inr ⟨[], by rw [hrecord, List.append_nil, List.append_nil]⟩
      · have hlt : ctx.recv_buffer_pos < record.cipher.length := by
          rw [hrecord, List.length_append, hlength, List.length_cons]
          omega
        refine .inl ⟨hlt, h.decrypts.1 _ ⟨_, hrecord.symm⟩ fun hall => ?_⟩
        rw [← hall, hlength] at hlt
        exact Nat.lt_irrefl _ hlt
    · exact .inr ⟨behind, htake⟩

/-- Writing the start of a block back changes nothing. -/
theorem memcpy_take {n : Nat} (h : n ≤ block.length) : memcpy block 0 (block.take n) = block := by
  rw [memcpy, List.take_zero, List.nil_append, List.length_take_of_le h, Nat.zero_add,
    List.take_append_drop]

/-- A part of what is written to the start of a block. -/
theorem of_memcpy {region : Region} {src : List UInt8}
    (h : region.offset + region.length ≤ src.length) :
    region.of (memcpy block 0 src) = region.of src := by
  rw [Region.of, Region.of, memcpy, List.take_zero, List.nil_append,
    List.drop_append_of_le_length (by omega), List.take_append_of_le_length]
  rw [List.length_drop]
  omega

/-- Copying plaintext to the caller reads it as the first piece. -/
theorem Streaming.copyData (h : Streaming schannel ctx block records pieces unsent)
    (hplain : ctx.pt_pending_buffer = none) {region : Region}
    (hle : region.offset + region.length ≤ block.length) (n : Nat) (received : List UInt8) :
    ∃ bytes ctx' pieces', ctx.copyData n received block (some region) = (bytes, ctx') ∧
      Pieces.read n (region.of block :: pieces) = some (bytes, pieces') ∧
      ctx'.recv_buffer_length = ctx.recv_buffer_length ∧
      Streaming schannel ctx' block records pieces' unsent := by
  have hpieces := h.pieces
  simp only [pendingPlain, hplain, List.nil_append] at hpieces
  have hread : Pieces.read n (region.of block :: pieces) =
      some ((block.drop region.offset).take (min n region.length),
        if region.length ≤ n then pieces else (region.of block).drop n :: pieces) := by
    rw [Pieces.read, Region.length_of hle, Region.of, List.take_take]
  refine ⟨_, _, _, rfl, hread, ?_⟩
  by_cases hall : region.length ≤ n
  · rw [if_neg (show ¬min n region.length < region.length by omega), if_pos hall]
    exact ⟨rfl, { h with pieces := hpieces, plain := fun _ hnone => nomatch hnone }⟩
  · have hcopy : min n region.length = n := by omega
    rw [hcopy, if_pos (show n < region.length by omega), if_neg hall]
    refine ⟨rfl, { h with pieces := ?_, plain := ?_ }⟩
    · simp only [pendingPlain, Region.of, List.drop_take, List.drop_drop, List.singleton_append]
      rw [hpieces]
    · intro offset hoffset
      obtain rfl := Option.some.inj hoffset
      exact ⟨show n < region.length by omega, hle⟩

/-- The extra bytes are remembered apart from the plaintext. -/
theorem rememberExtra_copyData (ctx : SChannelContext σ) (n : Nat) (received : List UInt8)
    (data extra : Option Region) :
    ((ctx.copyData n received block data).1,
      { rememberExtra (ctx.copyData n received block data).2 extra with recv_buffer_pos := 0 }) =
    { ctx.rememberExtra extra with recv_buffer_pos := 0 }.copyData n received block data := by
  cases data with
  | none => rfl
  | some region =>
    by_cases hall : min n region.length < region.length
    · cases extra <;> simp only [copyData, rememberExtra, hall, if_true]
    · cases extra <;> simp only [copyData, rememberExtra, hall, if_false]

/-- What is left when the first record is decrypted. -/
theorem Streaming.behind (h : Streaming schannel ctx block records pieces unsent)
    (hsettled : Settled ctx) {record : Record} {rest : List Record}
    (hrecords : records = record :: rest) {behind : List UInt8}
    (hbehind : block.take ctx.recv_buffer_pos = record.cipher ++ behind)
    {answer : Decrypted σ} (hopens : answer.Opens record behind)
    (hdecrypts : schannel.Decrypts answer.state rest) :
    Streaming schannel
      { rememberExtra
          { ctx with
            context_handle := answer.state, recv_buffer := some (memcpy block 0 answer.buffer) }
          answer.extra with
        recv_buffer_pos := 0 }
      (memcpy block 0 answer.buffer) rest (rest.map Record.plain) unsent := by
  subst hrecords
  have hpos := h.pos
  have hlen := h.length
  have hbuffer := hopens.length
  have hblock : (memcpy block 0 answer.buffer).length = block.length :=
    length_memcpy (by rw [Nat.zero_add]; exact hopens.buffer_le hbehind)
  have hcipher := h.cipher
  rw [hsettled.pendingCipher, hbehind, ciphertext, List.map_cons, List.flatten_cons,
    List.append_assoc, List.append_assoc] at hcipher
  have hrest := List.append_cancel_left hcipher
  rw [← List.append_assoc] at hrest
  rw [hopens.extra]
  by_cases hnone : behind = []
  · subst hnone
    rw [if_pos rfl]
    exact
      { buffer := rfl
        length := hblock.trans hlen
        room := h.room
        pos := Nat.zero_le _
        pieces := by simp only [pendingPlain, rememberExtra, hsettled.plain, List.nil_append]
        plain := fun _ hsome => nomatch hsettled.plain.symm.trans hsome
        cipher := by
          simp only [SChannelContext.pendingCipher, rememberExtra, hsettled.cipher, List.take_zero]
          exact hrest
        extra := fun _ hsome => nomatch hsettled.cipher.symm.trans hsome
        decrypts := hdecrypts
        fits := fun record hrecord => h.fits record (List.mem_cons_of_mem _ hrecord) }
  · have hregion : Region.of ⟨record.cipher.length, behind.length⟩ (memcpy block 0 answer.buffer) =
        behind := by
      rw [of_memcpy (Nat.le_of_eq hbuffer.symm), Region.of, hopens.kept, List.take_length]
    rw [if_neg hnone]
    exact
      { buffer := rfl
        length := hblock.trans hlen
        room := h.room
        pos := Nat.zero_le _
        pieces := by simp only [pendingPlain, rememberExtra, hsettled.plain, List.nil_append]
        plain := fun _ hsome => nomatch hsettled.plain.symm.trans hsome
        cipher := by
          simp only [SChannelContext.pendingCipher, rememberExtra, hregion]
          exact hrest
        extra := fun offset hsome => by
          obtain rfl := Option.some.inj hsome
          refine ⟨List.length_pos_iff.mpr hnone, ?_⟩
          rw [hblock]
          show record.cipher.length + behind.length ≤ block.length
          rw [← hbuffer]
          exact hopens.buffer_le hbehind
        decrypts := hdecrypts
        fits := fun record hrecord => h.fits record (List.mem_cons_of_mem _ hrecord) }

section Round

variable {rounds n : Nat} {status : Int} {received : List UInt8} {filled : SChannelContext σ}

/-- A round that waits for more ciphertext. -/
theorem recvLoop_waits (hfill : ctx.fill status = some (BOLT_SUCCESS, filled))
    (h : Streaming schannel filled block records pieces unsent)
    (hwaits : (schannel.decryptMessage filled.context_handle
      (block.take filled.recv_buffer_pos)).Waits (block.take filled.recv_buffer_pos)
      filled.context_handle) :
    recvLoop schannel n (rounds + 1) received status ctx =
      recvLoop schannel n rounds received SEC_E_INCOMPLETE_MESSAGE filled := by
  have hpos := h.pos
  rw [← h.length] at hpos
  have hsame : { filled with context_handle := filled.context_handle, recv_buffer := some block } =
      filled := by
    rw [← h.buffer]
  rw [recvLoop, hfill]
  simp only [ne_eq, not_true_eq_false, if_false, h.buffer, hwaits.status, if_true, hwaits.state,
    hwaits.buffer, memcpy_take hpos, hsame]

/-- A round that decrypts a record returns its plaintext, as far as it is asked for. -/
theorem recvLoop_opens (hfill : ctx.fill status = some (BOLT_SUCCESS, filled))
    (h : Streaming schannel filled block records pieces unsent) (hsettled : Settled filled)
    {record : Record} {rest : List Record} (hrecords : records = record :: rest)
    {behind : List UInt8} (hbehind : block.take filled.recv_buffer_pos = record.cipher ++ behind) :
    ∃ bytes ctx' block' pieces',
      recvLoop schannel n (rounds + 1) received status ctx = some ((BOLT_SUCCESS, bytes), ctx') ∧
      Pieces.read n pieces = some (bytes, pieces') ∧
      ctx'.recv_buffer_length = filled.recv_buffer_length ∧
      Streaming schannel ctx' block' rest pieces' unsent := by
  subst hrecords
  obtain ⟨hopens, hnext⟩ := h.decrypts.2 behind
  rw [← hbehind] at hopens hnext
  have hpieces := h.pieces
  simp only [pendingPlain, hsettled.plain, List.nil_append, List.map_cons] at hpieces
  rw [recvLoop, hfill]
  simp only [ne_eq, not_true_eq_false, if_false, h.buffer]
  generalize schannel.decryptMessage filled.context_handle (block.take filled.recv_buffer_pos) =
    answer at hopens hnext ⊢
  obtain ⟨region, hdata, hplain, hle⟩ := hopens.data
  have hbehind' := h.behind hsettled rfl hbehind hopens hnext
  have hwithin : region.offset + region.length ≤ answer.buffer.length := by
    rw [hopens.length]
    omega
  have hblock : (memcpy block 0 answer.buffer).length = block.length :=
    length_memcpy (by rw [Nat.zero_add]; exact hopens.buffer_le hbehind)
  obtain ⟨bytes, ctx', pieces', hcopy, hread, hlen, hstreaming⟩ :=
    hbehind'.copyData (by rw [hopens.extra]; split_ifs <;> exact hsettled.plain)
      (by rw [hblock]; exact hwithin.trans (hopens.buffer_le hbehind)) n received
  rw [of_memcpy hwithin, hplain, ← hpieces] at hread
  rw [← hdata, ← rememberExtra_copyData] at hcopy
  obtain ⟨hbytes, hctx⟩ := Prod.mk.inj hcopy
  refine ⟨bytes, ctx', memcpy block 0 answer.buffer, pieces', ?_, hread, hlen.trans ?_, hstreaming⟩
  · have hcomplete : SEC_E_OK ≠ SEC_E_INCOMPLETE_MESSAGE := by decide
    have hvalid : SEC_E_OK ≠ SEC_I_CONTEXT_EXPIRED := by decide
    simp only [hopens.status, hcomplete, hvalid, not_true_eq_false, false_and, if_false, if_true,
      hbytes, hctx]
  · rw [hopens.extra]
    split_ifs <;> rfl

end Round

/-! ## One call -/

/-- The loop of `secure_schannel_recv` ends with an attempt to read.  Every round
after the first receives at least one byte, and a record fits into the buffer. -/
theorem Streaming.recvLoop (n rounds : Nat) :
    ∀ {ctx : SChannelContext σ} {block : List UInt8} {status : Int},
      Streaming schannel ctx block records pieces unsent → Settled ctx →
      (status = SEC_E_OK ∧ ctx.recv_buffer_length - ctx.recv_buffer_pos + 1 < rounds ∨
        status = SEC_E_INCOMPLETE_MESSAGE ∧ ctx.recv_buffer_pos < ctx.recv_buffer_length ∧
          ctx.recv_buffer_length - ctx.recv_buffer_pos < rounds) →
      ∃ result ctx' block' records' pieces',
        recvLoop schannel n rounds [] status ctx = some (result, ctx') ∧
        Attempt n ctx.plain_comm ctx'.plain_comm pieces result pieces' ∧
        ctx'.recv_buffer_length = ctx.recv_buffer_length ∧
        Streaming schannel ctx' block' records' pieces' unsent := by
  induction rounds with
  | zero =>
    intro ctx block status _ _ hrounds
    omega
  | succ rounds ih =>
    intro ctx block status h hsettled hrounds
    have hround : ∀ {bytes : List UInt8} {filled : SChannelContext σ} {block' : List UInt8},
        ctx.fill status = some (BOLT_SUCCESS, filled) →
        ctx.plain_comm.Delivers bytes filled.plain_comm → Settled filled →
        filled.recv_buffer_length = ctx.recv_buffer_length → 0 < filled.recv_buffer_pos →
        ctx.recv_buffer_length - filled.recv_buffer_pos < rounds →
        Streaming schannel filled block' records pieces unsent →
        ∃ result ctx' block' records' pieces',
          SChannelContext.recvLoop schannel n (rounds + 1) [] status ctx = some (result, ctx') ∧
          Attempt n ctx.plain_comm ctx'.plain_comm pieces result pieces' ∧
          ctx'.recv_buffer_length = ctx.recv_buffer_length ∧
          Streaming schannel ctx' block' records' pieces' unsent := by
      intro bytes filled block' hfill hdelivers hset hlen hpos hrest hfilled
      obtain ⟨record, rest, hrecords, ⟨hlt, hwaits⟩ | ⟨behind, hbehind⟩⟩ :=
        hfilled.decrypt hset hpos
      · have hfits := hfilled.fits record (by rw [hrecords]; exact List.mem_cons_self)
        obtain ⟨result, ctx', block'', records', pieces', hloop, hattempt, hlen', hstreaming⟩ :=
          ih hfilled hset (.inr ⟨rfl, hlt.trans_le hfits, by rw [hlen]; exact hrest⟩)
        rw [recvLoop_waits hfill hfilled hwaits]
        exact ⟨result, ctx', block'', records', pieces', hloop, hattempt.after hdelivers,
          hlen'.trans hlen, hstreaming⟩
      · obtain ⟨bytes', ctx', block'', pieces', hloop, hread, hlen', hstreaming⟩ :=
          recvLoop_opens hfill hfilled hset hrecords hbehind
        exact ⟨_, ctx', block'', rest, pieces', hloop, .taken hread, hlen'.trans hlen, hstreaming⟩
    by_cases hreads : ctx.recv_buffer_pos = 0 ∨ status = SEC_E_INCOMPLETE_MESSAGE
    · have hroom : ctx.recv_buffer_pos < ctx.recv_buffer_length := by
        have hsize := h.room
        rcases hreads with hzero | hstatus
        · omega
        · rcases hrounds with ⟨rfl, -⟩ | ⟨-, hlt, -⟩
          · cases hstatus
          · exact hlt
      rcases h.fill hsettled hreads hroom with ⟨result, ctx', hfill, hinterrupted, hlen, hstreaming⟩ |
        ⟨bytes, filled, block', hfill, hdelivers, hset, hlen, hmore, hfilled⟩
      · refine ⟨(result, []), ctx', block, records, pieces, ?_, .missed hinterrupted, hlen,
          hstreaming⟩
        rw [SChannelContext.recvLoop, hfill]
        exact if_pos hinterrupted.1
      · exact hround hfill hdelivers hset hlen (Nat.zero_lt_of_lt hmore) (by omega) hfilled
    · have hfill : ctx.fill status = some (BOLT_SUCCESS, ctx) := if_neg hreads
      rw [not_or] at hreads
      obtain ⟨hpos, hstatus⟩ := hreads
      exact hround hfill (.refl _) hsettled rfl (Nat.pos_of_ne_zero hpos) (by omega) h

/-- A call of `secure_schannel_recv` is an attempt to read. -/
theorem Streaming.recv (h : Streaming schannel ctx block records pieces unsent) {rounds : Nat}
    (hrounds : ctx.recv_buffer_length + 1 < rounds) (n : Nat) :
    ∃ result ctx' block' records' pieces',
      SChannelContext.recv schannel rounds n ctx = some (result, ctx') ∧
      Attempt n ctx.plain_comm ctx'.plain_comm pieces result pieces' ∧
      ctx'.recv_buffer_length = ctx.recv_buffer_length ∧
      Streaming schannel ctx' block' records' pieces' unsent := by
  unfold SChannelContext.recv
  rw [h.buffer]
  cases hplain : ctx.pt_pending_buffer with
  | some offset =>
    obtain ⟨bytes, ctx', pieces', hpending, hread, hlen, hstreaming⟩ := h.recvPending hplain n
    exact ⟨_, ctx', block, records, pieces', congrArg some hpending, .taken hread, hlen, hstreaming⟩
  | none =>
    obtain ⟨block', htaken, hsettled, hcomm, hlen⟩ := h.takePending hplain
    obtain ⟨result, ctx', block'', records', pieces', hloop, hattempt, hlen', hstreaming⟩ :=
      htaken.recvLoop n rounds hsettled (.inl ⟨rfl, by omega⟩)
    rw [hcomm] at hattempt
    exact ⟨result, ctx', block'', records', pieces', hloop, hattempt, hlen'.trans hlen, hstreaming⟩

/-! ## Successive calls -/

/-- The bytes that a call has returned. -/
def returned (result : Int × List UInt8) : Option (List UInt8) :=
  if result.1 = BOLT_SUCCESS then some result.2 else none

/-- A call fails only if the plain transport does. -/
def FailsAlone (_ : Nat) (ctx : SChannelContext σ) (result : Int × List UInt8)
    (ctx' : SChannelContext σ) : Prop :=
  result.1 ≠ BOLT_SUCCESS → ctx.plain_comm.Interrupted result.1 ctx'.plain_comm

/-- Whatever the calls ask for, they return, and what they return is read from the
stream in pieces: the pieces come in order, and none of their bytes is lost, repeated
or invented. -/
def Streams (schannel : Schannel σ) (rounds : Nat) (ctx : SChannelContext σ)
    (pieces : List (List UInt8)) : Prop :=
  ∀ lengths, ∃ results ctx' rest,
    Runs.run (recv schannel rounds) lengths ctx = some (results, ctx') ∧
    Pieces.Reads lengths pieces (results.map returned) rest ∧
    (results.map returned).reduceOption.flatten ++ rest.flatten = pieces.flatten ∧
    Runs.Meets (recv schannel rounds) FailsAlone lengths ctx

theorem Streaming.streams (h : Streaming schannel ctx block records pieces unsent) {rounds : Nat}
    (hrounds : ctx.recv_buffer_length + 1 < rounds) : Streams schannel rounds ctx pieces := by
  intro lengths
  suffices hall : ∃ results ctx' rest,
      Runs.run (SChannelContext.recv schannel rounds) lengths ctx = some (results, ctx') ∧
      Pieces.Reads lengths pieces (results.map returned) rest ∧
      Runs.Meets (SChannelContext.recv schannel rounds) FailsAlone lengths ctx by
    obtain ⟨results, ctx', rest, hrun, hreads, hmeets⟩ := hall
    exact ⟨results, ctx', rest, hrun, hreads, hreads.flatten, hmeets⟩
  induction lengths generalizing ctx block records pieces with
  | nil => exact ⟨[], ctx, pieces, rfl, .nil pieces, trivial⟩
  | cons n lengths ih =>
    obtain ⟨result, middle, block', records', pieces', hrecv, hattempt, hlen, hstreaming⟩ :=
      h.recv hrounds n
    obtain ⟨results, ctx', rest, hrun, hreads, hmeets⟩ := ih hstreaming (by rw [hlen]; exact hrounds)
    refine ⟨result :: results, ctx', rest, Runs.run_cons hrecv hrun, ?_, result, middle, hrecv, ?_,
      hmeets⟩
    · cases hattempt with
      | taken hread => exact .take hread hreads
      | missed hinterrupted =>
        rw [List.map_cons, returned, if_neg hinterrupted.1]
        exact .miss n hreads
    · intro hfailed
      cases hattempt with
      | taken hread => exact absurd rfl hfailed
      | missed hinterrupted => exact hinterrupted

/-! ## The handshake -/

/-- The handshake leaves the receive buffer and the pending regions alone. -/
structure Untouched (ctx ctx' : SChannelContext σ) : Prop where
  buffer : ctx'.recv_buffer = ctx.recv_buffer
  plain : ctx'.pt_pending_buffer = ctx.pt_pending_buffer
  cipher : ctx'.ct_pending_buffer = ctx.ct_pending_buffer

theorem Untouched.trans {middle ctx' : SChannelContext σ} (h : Untouched ctx middle)
    (h' : Untouched middle ctx') : Untouched ctx ctx' :=
  ⟨h'.buffer.trans h.buffer, h'.plain.trans h.plain, h'.cipher.trans h.cipher⟩

theorem readToken_untouched (ctx : SChannelContext σ) (doRead : Bool) (status : Int) :
    Untouched ctx (ctx.readToken doRead status).2.2 := by
  unfold readToken
  split_ifs <;> exact ⟨rfl, rfl, rfl⟩

theorem keepExtra_untouched (ctx : SChannelContext σ) (extra : Option (List UInt8)) :
    Untouched ctx (ctx.keepExtra extra) := by
  cases extra <;> exact ⟨rfl, rfl, rfl⟩

theorem setError_untouched (ctx : SChannelContext σ) (error : Int) :
    Untouched ctx (ctx.setError error).2 := ⟨rfl, rfl, rfl⟩

theorem greet_untouched (ctx : SChannelContext σ) : Untouched ctx (ctx.greet schannel).2 := by
  unfold greet
  dsimp only
  split_ifs <;> exact ⟨rfl, rfl, rfl⟩

theorem exchange_untouched (rounds : Nat) :
    ∀ {doRead : Bool} {status result : Int} {extra : Option (List UInt8)}
      {ctx ctx' : SChannelContext σ},
      exchange schannel rounds doRead status ctx = some (result, extra, ctx') →
      Untouched ctx ctx' := by
  induction rounds with
  | zero =>
    intro doRead status result extra ctx ctx' h
    cases h
  | succ rounds ih =>
    intro doRead status result extra ctx ctx' h
    rw [exchange] at h
    have hread := readToken_untouched ctx doRead status
    generalize ctx.readToken doRead status = read at h hread
    obtain ⟨result1, doRead1, ctx1⟩ := read
    dsimp only at h hread
    generalize schannel.initializeSecurityContext ctx1.context_handle
      (some (ctx1.hs_buffer.take ctx1.hs_buffer_pos)) = answer at h
    have hsent : Untouched ctx1
        (if answer.status = SEC_E_OK ∨ answer.status = SEC_I_CONTINUE_NEEDED ∨
            FAILED answer.status ∧ answer.extendedError = true then
          answerPeer { ctx1 with context_handle := answer.state } answer.token
        else (BOLT_SUCCESS, { ctx1 with context_handle := answer.state })).2 := by
      split_ifs <;> exact ⟨rfl, rfl, rfl⟩
    generalize (if answer.status = SEC_E_OK ∨ answer.status = SEC_I_CONTINUE_NEEDED ∨
            FAILED answer.status ∧ answer.extendedError = true then
          answerPeer { ctx1 with context_handle := answer.state } answer.token
        else (BOLT_SUCCESS, { ctx1 with context_handle := answer.state })) = sent at h hsent
    obtain ⟨result2, ctx2⟩ := sent
    have hctx2 := hread.trans hsent
    have hkept := hctx2.trans (keepExtra_untouched ctx2 answer.extra)
    dsimp only at h hctx2
    have hdone : ∀ {status' : Int} {extra' : Option (List UInt8)} {last : SChannelContext σ},
        Untouched ctx last → some (status', extra', last) = some (result, extra, ctx') →
        Untouched ctx ctx' := by
      intro status' extra' last hlast heq
      obtain ⟨-, htail⟩ := Prod.mk.inj (Option.some.inj heq)
      obtain ⟨-, rfl⟩ := Prod.mk.inj htail
      exact hlast
    split_ifs at h
    · exact hdone hread h
    · exact hdone hctx2 h
    · exact hctx2.trans (ih h)
    · exact hdone hctx2 h
    · exact hdone (hctx2.trans (setError_untouched ctx2 BOLT_TLS_ERROR)) h
    · exact hkept.trans (ih h)
    · exact hdone hkept h

/-! ## Opening -/

/-- The peer and the provider complete the handshake over the communication, and what
follows is the ciphertext of the records.  `extra` is the EXTRA buffer that the provider
reports with the last token. -/
structure Establishes (schannel : Schannel σ) (rounds : Nat) (comm : BoltCommunication) (state : σ)
    (extra : Option (List UInt8)) (sizes : StreamSizes) (records : List Record)
    (unsent : List UInt8) : Prop where
  connects : (create comm state).openPlain.1 = BOLT_SUCCESS
  greets : ((create comm state).openPlain.2.greet schannel).1 = BOLT_SUCCESS
  completes : ∃ done,
    exchange schannel rounds true SEC_I_CONTINUE_NEEDED
      ((create comm state).openPlain.2.greet schannel).2 = some (BOLT_SUCCESS, extra, done) ∧
    schannel.certificateChain done.context_handle = none ∧
    schannel.streamSizes done.context_handle = (SEC_E_OK, sizes) ∧
    schannel.Decrypts done.context_handle records ∧
    extra.getD [] ++ done.plain_comm.incoming ++ unsent = ciphertext records
  room : 0 < sizes.total
  fits : ∀ record ∈ records, record.cipher.length ≤ sizes.total

/-- The connection opens, and then delivers the plaintext of the records. -/
def Transparent (schannel : Schannel σ) (rounds : Nat) (comm : BoltCommunication) (state : σ)
    (sizes : StreamSizes) (records : List Record) : Prop :=
  ∃ ctx, (create comm state).open schannel rounds = some (BOLT_SUCCESS, ctx) ∧
    ∀ budget, sizes.total + 1 < budget →
      Streams schannel budget ctx (records.map Record.plain)

variable {rounds : Nat} {comm : BoltCommunication} {state : σ} {extra : Option (List UInt8)}
  {sizes : StreamSizes}

/-- The handshake is over when the bytes behind the last token are handed over. -/
theorem open_of_exchange (hconnects : (create comm state).openPlain.1 = BOLT_SUCCESS)
    (hgreets : ((create comm state).openPlain.2.greet schannel).1 = BOLT_SUCCESS) :
    (create comm state).open schannel rounds =
      Outcome.TRY (handshakeLoop schannel rounds true
        ((create comm state).openPlain.2.greet schannel).2) fun ctx =>
          Outcome.TRY (some (ctx.verifyChain schannel)) fun ctx =>
            some (ctx.allocateBuffers schannel) := by
  have hopened : (create comm state).openPlain = (BOLT_SUCCESS, (create comm state).openPlain.2) :=
    Prod.ext hconnects rfl
  have hgreeted : (create comm state).openPlain.2.greet schannel =
      (BOLT_SUCCESS, ((create comm state).openPlain.2.greet schannel).2) := Prod.ext hgreets rfl
  rw [SChannelContext.open, hopened, Outcome.TRY_success, handshake, hgreeted, Outcome.TRY_success]

/-- The receive buffer does not exist during the handshake. -/
theorem untouched_of_exchange {ctx done : SChannelContext σ} {result : Int} {doRead : Bool}
    {status : Int}
    (h : exchange schannel rounds doRead status (ctx.openPlain.2.greet schannel).2 =
      some (result, extra, done)) : Untouched ctx done :=
  have hopened : Untouched ctx ctx.openPlain.2 := ⟨rfl, rfl, rfl⟩
  (hopened.trans (greet_untouched _)).trans (exchange_untouched rounds h)

/-- Ciphertext behind the last token is written through the receive buffer, which
does not exist yet. -/
theorem Establishes.open_eq_none
    (h : Establishes schannel rounds comm state extra sizes records unsent)
    (hextra : extra.getD [] ≠ []) : (create comm state).open schannel rounds = none := by
  obtain ⟨done, hexchange, -⟩ := h.completes
  have hbuffer : done.recv_buffer = none := (untouched_of_exchange hexchange).buffer
  rw [open_of_exchange h.connects h.greets, handshakeLoop, hexchange]
  cases extra with
  | none => exact absurd rfl hextra
  | some bytes =>
    have hbytes : bytes ≠ [] := hextra
    simp only [handOver, hbuffer, hbytes, if_false, Option.map_none, Outcome.TRY_none]

/-- Without it, the connection opens and is ready to deliver. -/
theorem Establishes.open_eq_some
    (h : Establishes schannel rounds comm state extra sizes records unsent)
    (hextra : extra.getD [] = []) :
    ∃ ctx block, (create comm state).open schannel rounds = some (BOLT_SUCCESS, ctx) ∧
      ctx.recv_buffer_length = sizes.total ∧
      Streaming schannel ctx block records (records.map Record.plain) unsent := by
  obtain ⟨done, hexchange, hchain, hsizes, hdecrypts, hcipher⟩ := h.completes
  have huntouched := untouched_of_exchange hexchange
  have hbuffer : done.recv_buffer = none := huntouched.buffer
  have hplain : done.pt_pending_buffer = none := huntouched.plain
  have hpending : done.ct_pending_buffer = none := huntouched.cipher
  rw [hextra, List.nil_append] at hcipher
  obtain ⟨ready, hloop, hcomm, hstate, hsettled⟩ : ∃ ready,
      handshakeLoop schannel rounds true ((create comm state).openPlain.2.greet schannel).2 =
        some (BOLT_SUCCESS, ready) ∧ ready.plain_comm = done.plain_comm ∧
      ready.context_handle = done.context_handle ∧ Settled ready := by
    rw [handshakeLoop, hexchange]
    cases extra with
    | none => exact ⟨done, rfl, rfl, rfl, hplain, hpending⟩
    | some bytes =>
      obtain rfl : bytes = [] := hextra
      simp only [handOver, hbuffer, if_true, Option.map_some]
      exact ⟨_, rfl, rfl, rfl, hplain, rfl⟩
  rw [← hcomm] at hcipher
  rw [← hstate] at hchain hsizes hdecrypts
  have hverify : ready.verifyChain schannel = (BOLT_SUCCESS, ready) := by
    rw [SChannelContext.verifyChain, hchain]
    rfl
  have hallocate : ready.allocateBuffers schannel =
      (BOLT_SUCCESS,
        { ready with
          recv_buffer := some (List.replicate sizes.total 0)
          recv_buffer_length := sizes.total
          recv_buffer_pos := 0 }) := by
    rw [allocateBuffers, hsizes]
    rfl
  refine ⟨(ready.allocateBuffers schannel).2, List.replicate sizes.total 0, ?_, ?_, ?_⟩
  · rw [open_of_exchange h.connects h.greets, hloop, Outcome.TRY_success, hverify,
      Outcome.TRY_success, hallocate]
  · rw [hallocate]
  · rw [hallocate]
    exact
      { buffer := rfl
        length := List.length_replicate
        room := h.room
        pos := Nat.zero_le _
        pieces := by simp only [pendingPlain, hsettled.plain, List.nil_append]
        plain := fun _ hsome => nomatch hsettled.plain.symm.trans hsome
        cipher := by
          simp only [SChannelContext.pendingCipher, hsettled.cipher, List.take_zero]
          exact hcipher
        extra := fun _ hsome => nomatch hsettled.cipher.symm.trans hsome
        decrypts := hdecrypts
        fits := h.fits }

end SChannelContext

open SChannelContext

/-- The transport delivers the plaintext of the records exactly if no ciphertext has
arrived together with the last token of the handshake. -/
theorem schannel_iff {schannel : Schannel σ} {rounds : Nat} {comm : BoltCommunication} {state : σ}
    {extra : Option (List UInt8)} {sizes : StreamSizes} {records : List Record}
    {unsent : List UInt8}
    (h : Establishes schannel rounds comm state extra sizes records unsent) :
    Transparent schannel rounds comm state sizes records ↔ extra.getD [] = [] := by
  constructor
  · rintro ⟨ctx, hopen, -⟩
    by_contra hextra
    rw [h.open_eq_none hextra] at hopen
    cases hopen
  · intro hextra
    obtain ⟨ctx, block, hopen, hlength, hstreaming⟩ := h.open_eq_some hextra
    exact ⟨ctx, hopen, fun budget hbudget => hstreaming.streams (by rw [hlength]; exact hbudget)⟩

/-- A provider whose records are a length and as many bytes, and whose handshake is
one byte of the peer. -/
def plainly : Schannel Unit where
  initializeSecurityContext _ input :=
    match input with
    | none => ⟨SEC_I_CONTINUE_NEEDED, false, [1], none, ()⟩
    | some [] => ⟨SEC_E_INCOMPLETE_MESSAGE, false, [], none, ()⟩
    | some (_ :: rest) => ⟨SEC_E_OK, false, [], if rest = [] then none else some rest, ()⟩
  decryptMessage _ input :=
    match input with
    | [] => ⟨SEC_E_INCOMPLETE_MESSAGE, [], none, none, ()⟩
    | length :: rest =>
      if rest.length < length.toNat then
        ⟨SEC_E_INCOMPLETE_MESSAGE, length :: rest, none, none, ()⟩
      else
        ⟨SEC_E_OK, length :: rest, some ⟨1, length.toNat⟩,
          if rest.drop length.toNat = [] then none
          else some ⟨1 + length.toNat, (rest.drop length.toNat).length⟩, ()⟩
  certificateChain _ := none
  streamSizes _ := (SEC_E_OK, ⟨1, 4, 0⟩)

/-- A record of two bytes. -/
def twoBytes : Record := ⟨[2, 7, 8], [7, 8], by decide⟩

theorem plainly_decrypts : plainly.Decrypts () [twoBytes] := by
  refine ⟨?_, fun rest => ⟨?_, trivial⟩⟩
  · intro input hinput hne
    have hmem : input ∈ [[], [2], [2, 7], [2, 7, 8]] := (List.mem_inits input _).mpr hinput
    simp only [List.mem_cons, List.not_mem_nil, or_false] at hmem
    rcases hmem with rfl | rfl | rfl | rfl
    · exact ⟨rfl, rfl, rfl⟩
    · exact ⟨rfl, rfl, rfl⟩
    · exact ⟨rfl, rfl, rfl⟩
    · exact absurd rfl hne
  · exact
      { status := by simp [plainly, twoBytes]
        data := ⟨⟨1, 2⟩, by simp [plainly, twoBytes], by simp [plainly, twoBytes, Region.of], by decide⟩
        extra := by simp [plainly, twoBytes]
        length := by simp [plainly, twoBytes]; omega
        kept := by simp [plainly, twoBytes] }

/-- The peer has sent its token and a record. -/
def greeted (script : List TransferStep) : BoltCommunication :=
  { BoltCommunication.create with incoming := [1, 2, 7, 8], recvScript := script }

/-- The token arrives alone. -/
theorem establishes_apart :
    Establishes plainly 2 (greeted [.move 1]) () none ⟨1, 4, 0⟩ [twoBytes] [] where
  connects := rfl
  greets := rfl
  completes := ⟨_, rfl, rfl, rfl, plainly_decrypts, rfl⟩
  room := by decide
  fits := by decide

/-- The record arrives together with the token. -/
theorem establishes_together :
    Establishes plainly 2 (greeted []) () (some [2, 7, 8]) ⟨1, 4, 0⟩ [twoBytes] [] where
  connects := rfl
  greets := rfl
  completes := ⟨_, rfl, rfl, rfl, plainly_decrypts, rfl⟩
  room := by decide
  fits := by decide

theorem schannel_iff_apart : Transparent plainly 2 (greeted [.move 1]) () ⟨1, 4, 0⟩ [twoBytes] :=
  (schannel_iff establishes_apart).mpr rfl

/-- The connection does not survive its opening. -/
theorem schannel_together :
    Establishes plainly 2 (greeted []) () (some [2, 7, 8]) ⟨1, 4, 0⟩ [twoBytes] [] ∧
      ¬Transparent plainly 2 (greeted []) () ⟨1, 4, 0⟩ [twoBytes] := by
  refine ⟨establishes_together, ?_⟩
  rintro ⟨ctx, hopen, -⟩
  rw [establishes_together.open_eq_none (by decide)] at hopen
  cases hopen

end Seabolt
