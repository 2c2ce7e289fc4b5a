import Seabolt.Communication
import Seabolt.Memory

/-!
# The transport over SChannel

`communication-secure-schannel.c`: a transport that encrypts what another one
carries.  The security provider is not a part of the repository, so it is a
parameter: a record of the functions that the transport calls, over a type of
security contexts.

The pointers of the context point into its receive buffer, so they are offsets.
A pointer that is NULL is `none`, and so is the result of a call that writes
through it.

Certificates are checked by a function of the provider here, because the check
does not touch the buffers.  Sending, which has a buffer of its own, is left out.
-/

namespace Seabolt

/-! ## The security provider -/

abbrev SEC_E_OK : Int := 0
abbrev SEC_I_CONTINUE_NEEDED : Int := 0x00090312
abbrev SEC_I_CONTEXT_EXPIRED : Int := 0x00090317
abbrev SEC_I_INCOMPLETE_CREDENTIALS : Int := 0x00090320
abbrev SEC_I_RENEGOTIATE : Int := 0x00090321
abbrev SEC_E_INCOMPLETE_MESSAGE : Int := 0x80090318 - 2 ^ 32

/-- `FAILED`. -/
abbrev FAILED (status : Int) : Prop := status < 0

/-- A part of a buffer. -/
structure Region where
  offset : Nat
  length : Nat
  deriving DecidableEq, Repr

/-- The bytes of a part of a buffer. -/
def Region.of (region : Region) (bytes : List UInt8) : List UInt8 :=
  (bytes.drop region.offset).take region.length

/-- What `InitializeSecurityContext` answers: the status, whether
`ISC_RET_EXTENDED_ERROR` is granted, the token for the peer, and the bytes of the
EXTRA buffer, if there is one. -/
structure Initialized (σ : Type) where
  status : Int
  extendedError : Bool
  token : List UInt8
  extra : Option (List UInt8)
  state : σ

/-- What `DecryptMessage` answers: the status, what the input buffer holds then,
and the parts of it that the DATA buffer and the EXTRA buffer describe. -/
structure Decrypted (σ : Type) where
  status : Int
  buffer : List UInt8
  data : Option Region
  extra : Option Region
  state : σ

/-- `SecPkgContext_StreamSizes`. -/
structure StreamSizes where
  cbHeader : Nat
  cbMaximumMessage : Nat
  cbTrailer : Nat

/-- The size of the buffers. -/
def StreamSizes.total (sizes : StreamSizes) : Nat :=
  sizes.cbHeader + sizes.cbMaximumMessage + sizes.cbTrailer

/-- The functions of the security provider.  `InitializeSecurityContext` has no input
in the first call. -/
structure Schannel (σ : Type) where
  initializeSecurityContext : σ → Option (List UInt8) → Initialized σ
  decryptMessage : σ → List UInt8 → Decrypted σ
  certificateChain : σ → Option Failure
  streamSizes : σ → Int × StreamSizes

/-! ## The context -/

/-- `struct SChannelContext`, with the security context in the place of its
handle. -/
structure SChannelContext (σ : Type) where
  context_handle : σ
  recv_buffer : Option (List UInt8)
  recv_buffer_length : Nat
  recv_buffer_pos : Nat
  hs_buffer : List UInt8
  hs_buffer_length : Nat
  hs_buffer_pos : Nat
  pt_pending_buffer : Option Nat
  pt_pending_buffer_length : Nat
  pt_pending_buffer_pos : Nat
  ct_pending_buffer : Option Nat
  ct_pending_buffer_length : Nat
  plain_comm : BoltCommunication

namespace SChannelContext

variable {σ : Type}

/-- `BoltCommunication_create_secure`. -/
def create (plain_comm : BoltCommunication) (context_handle : σ) : SChannelContext σ where
  context_handle := context_handle
  recv_buffer := none
  recv_buffer_length := 0
  recv_buffer_pos := 0
  hs_buffer := List.replicate (16 * 1024) 0
  hs_buffer_length := 16 * 1024
  hs_buffer_pos := 0
  pt_pending_buffer := none
  pt_pending_buffer_length := 0
  pt_pending_buffer_pos := 0
  ct_pending_buffer := none
  ct_pending_buffer_length := 0
  plain_comm := plain_comm

/-- Set an error and return `BOLT_STATUS_SET`. -/
def setError (ctx : SChannelContext σ) (error : Int) : Int × SChannelContext σ :=
  (BOLT_STATUS_SET, { ctx with plain_comm := { ctx.plain_comm with error := error } })

/-- `plain_comm->recv`, which succeeds with nothing if nothing is asked for. -/
def recvPlain (offered : Nat) (comm : BoltCommunication) :
    Int × List UInt8 × BoltCommunication :=
  if offered = 0 then (BOLT_SUCCESS, [], comm) else comm.recv offered

/-- The loop that sends a token.  Every round sends at least one byte. -/
def sendToken : Nat → List UInt8 → BoltCommunication → Int × BoltCommunication
  | 0, _, comm => (BOLT_SUCCESS, comm)
  | rounds + 1, token, comm =>
    if token = [] then (BOLT_SUCCESS, comm)
    else
      let (result, sent, comm) := comm.send1 token
      if result = BOLT_SUCCESS then sendToken rounds (token.drop sent) comm else (result, comm)

/-- Send a token to the peer. -/
def answerPeer (ctx : SChannelContext σ) (token : List UInt8) : Int × SChannelContext σ :=
  let (result, comm) := sendToken token.length token ctx.plain_comm
  (result, { ctx with plain_comm := comm })

/-! ## The handshake -/

variable (schannel : Schannel σ)

/-- Whether the handshake goes on. -/
def Unfinished (status : Int) : Prop :=
  status = SEC_I_CONTINUE_NEEDED ∨ status = SEC_E_INCOMPLETE_MESSAGE ∨
    status = SEC_I_INCOMPLETE_CREDENTIALS

instance (status : Int) : Decidable (Unfinished status) :=
  inferInstanceAs (Decidable (_ ∨ _ ∨ _))

/-- What the loop of the handshake reads at the start of a round: the result, and
whether the next round reads. -/
def readToken (ctx : SChannelContext σ) (doRead : Bool) (status : Int) :
    Int × Bool × SChannelContext σ :=
  if ctx.hs_buffer_pos = 0 ∨ status = SEC_E_INCOMPLETE_MESSAGE then
    if doRead then
      let (result, bytes, comm) :=
        recvPlain (ctx.hs_buffer_length - ctx.hs_buffer_pos) ctx.plain_comm
      (result, doRead,
        { ctx with
          hs_buffer := memcpy ctx.hs_buffer ctx.hs_buffer_pos bytes
          hs_buffer_pos := ctx.hs_buffer_pos + bytes.length
          plain_comm := comm })
    else (BOLT_SUCCESS, true, ctx)
  else (BOLT_SUCCESS, doRead, ctx)

/-- Put the bytes of the EXTRA buffer at the start of the handshake buffer. -/
def keepExtra (ctx : SChannelContext σ) : Option (List UInt8) → SChannelContext σ
  | some bytes =>
    { ctx with hs_buffer := memcpy ctx.hs_buffer 0 bytes, hs_buffer_pos := bytes.length }
  | none => { ctx with hs_buffer_pos := 0 }

/-- The loop of `secure_schannel_handshake_loop`, up to what it does with the
bytes behind the last token: its result, these bytes, and the context.  Nothing
bounds the rounds, so there is fuel for them. -/
def exchange : Nat → Bool → Int → SChannelContext σ →
    Option (Int × Option (List UInt8) × SChannelContext σ)
  | 0, _, _, _ => none
  | rounds + 1, doRead, status, ctx =>
    let (result, doRead, ctx) := ctx.readToken doRead status
    if result ≠ BOLT_SUCCESS then some (result, none, ctx)
    else
      let answer :=
        schannel.initializeSecurityContext ctx.context_handle
          (some (ctx.hs_buffer.take ctx.hs_buffer_pos))
      let ctx := { ctx with context_handle := answer.state }
      let (result, ctx) :=
        if answer.status = SEC_E_OK ∨ answer.status = SEC_I_CONTINUE_NEEDED ∨
            FAILED answer.status ∧ answer.extendedError = true then
          ctx.answerPeer answer.token
        else (BOLT_SUCCESS, ctx)
      if result ≠ BOLT_SUCCESS then some (result, none, ctx)
      else if answer.status = SEC_E_INCOMPLETE_MESSAGE then
        exchange rounds doRead SEC_E_INCOMPLETE_MESSAGE ctx
      else if answer.status = SEC_E_OK then some (BOLT_SUCCESS, answer.extra, ctx)
      else if FAILED answer.status ∨ answer.status = SEC_I_INCOMPLETE_CREDENTIALS then
        let (result, ctx) := ctx.setError BOLT_TLS_ERROR
        some (result, none, ctx)
      else
        let ctx := ctx.keepExtra answer.extra
        if Unfinished answer.status then exchange rounds doRead answer.status ctx
        else some (BOLT_SUCCESS, none, ctx)

/-- Hand the bytes behind the last token over to the receive buffer. -/
def handOver (ctx : SChannelContext σ) (bytes : List UInt8) : Option (SChannelContext σ) :=
  match ctx.recv_buffer with
  | none =>
    if bytes = [] then
      some { ctx with ct_pending_buffer := none, ct_pending_buffer_length := 0 }
    else none
  | some block =>
    if ctx.recv_buffer_pos + bytes.length ≤ block.length then
      some
        { ctx with
          recv_buffer := some (memcpy block ctx.recv_buffer_pos bytes)
          ct_pending_buffer := some ctx.recv_buffer_pos
          ct_pending_buffer_length := bytes.length }
    else none

/-- `secure_schannel_handshake_loop`. -/
def handshakeLoop (rounds : Nat) (doInitialRead : Bool) (ctx : SChannelContext σ) :
    Outcome (SChannelContext σ) :=
  match exchange schannel rounds doInitialRead SEC_I_CONTINUE_NEEDED ctx with
  | none => none
  | some (result, none, ctx) => some (result, ctx)
  | some (result, some bytes, ctx) => (ctx.handOver bytes).map (result, ·)

/-- The first token of `secure_schannel_handshake`. -/
def greet (ctx : SChannelContext σ) : Int × SChannelContext σ :=
  let answer := schannel.initializeSecurityContext ctx.context_handle none
  let ctx := { ctx with context_handle := answer.state }
  if answer.status ≠ SEC_I_CONTINUE_NEEDED then ctx.setError BOLT_TLS_ERROR
  else ctx.answerPeer answer.token

/-- `secure_schannel_handshake`. -/
def handshake (rounds : Nat) (ctx : SChannelContext σ) : Outcome (SChannelContext σ) :=
  Outcome.TRY (some (ctx.greet schannel)) (handshakeLoop schannel rounds true)

/-! ## Opening -/

/-- `plain_comm->open`. -/
def openPlain (ctx : SChannelContext σ) : Int × SChannelContext σ :=
  let (status, comm) :=
    { ctx.plain_comm with openScript := ctx.plain_comm.openScript.tail }.report
      (ctx.plain_comm.openScript.headD none)
  (status, { ctx with plain_comm := comm })

/-- `secure_schannel_verify_chain`. -/
def verifyChain (ctx : SChannelContext σ) : Int × SChannelContext σ :=
  let (status, comm) := ctx.plain_comm.report (schannel.certificateChain ctx.context_handle)
  (status, { ctx with plain_comm := comm })

/-- The rest of `secure_schannel_open`: the sizes and the receive buffer.  A fresh
block is indeterminate; the model fills it with zeros, and nothing reads them. -/
def allocateBuffers (ctx : SChannelContext σ) : Int × SChannelContext σ :=
  let (status, sizes) := schannel.streamSizes ctx.context_handle
  if status ≠ SEC_E_OK then ctx.setError BOLT_TLS_ERROR
  else
    (BOLT_SUCCESS,
      { ctx with
        recv_buffer := some (List.replicate sizes.total 0)
        recv_buffer_length := sizes.total
        recv_buffer_pos := 0 })

/-- `secure_schannel_open`. -/
def «open» (rounds : Nat) (ctx : SChannelContext σ) : Outcome (SChannelContext σ) :=
  Outcome.TRY (some ctx.openPlain) fun ctx =>
    Outcome.TRY (ctx.handshake schannel rounds) fun ctx =>
      Outcome.TRY (some (ctx.verifyChain schannel)) fun ctx => some (ctx.allocateBuffers schannel)

/-! ## Receiving -/

/-- Hand out plaintext that is pending. -/
def recvPending (length offset : Nat) (block : List UInt8) (ctx : SChannelContext σ) :
    (Int × List UInt8) × SChannelContext σ :=
  let copyLength := min length (ctx.pt_pending_buffer_length - ctx.pt_pending_buffer_pos)
  let bytes := (block.drop (offset + ctx.pt_pending_buffer_pos)).take copyLength
  let pos := ctx.pt_pending_buffer_pos + copyLength
  ((BOLT_SUCCESS, bytes),
    if pos = ctx.pt_pending_buffer_length then
      { ctx with
        pt_pending_buffer := none, pt_pending_buffer_length := 0, pt_pending_buffer_pos := 0 }
    else { ctx with pt_pending_buffer_pos := pos })

/-- Move ciphertext that is pending to the start of the receive buffer. -/
def takePending (block : List UInt8) (ctx : SChannelContext σ) : SChannelContext σ :=
  match ctx.ct_pending_buffer with
  | some offset =>
    if 0 < ctx.ct_pending_buffer_length then
      { ctx with
        recv_buffer := some (memcpy block 0 (Region.of ⟨offset, ctx.ct_pending_buffer_length⟩ block))
        recv_buffer_pos := ctx.ct_pending_buffer_length
        ct_pending_buffer := none
        ct_pending_buffer_length := 0 }
    else ctx
  | none => ctx

/-- What the loop of `secure_schannel_recv` receives at the start of a round. -/
def fill (status : Int) (ctx : SChannelContext σ) : Outcome (SChannelContext σ) :=
  if ctx.recv_buffer_pos = 0 ∨ status = SEC_E_INCOMPLETE_MESSAGE then
    match ctx.recv_buffer with
    | none => none
    | some block =>
      let (result, bytes, comm) :=
        recvPlain (ctx.recv_buffer_length - ctx.recv_buffer_pos) ctx.plain_comm
      some (result,
        { ctx with
          recv_buffer := some (memcpy block ctx.recv_buffer_pos bytes)
          recv_buffer_pos := ctx.recv_buffer_pos + bytes.length
          plain_comm := comm })
  else some (BOLT_SUCCESS, ctx)

/-- Copy the DATA buffer to the caller, and remember what does not fit: the bytes
that the caller's buffer holds then, and the context. -/
def copyData (length : Nat) (received block : List UInt8) (ctx : SChannelContext σ) :
    Option Region → List UInt8 × SChannelContext σ
  | none => (received, ctx)
  | some data =>
    let copyLength := min length data.length
    ((block.drop data.offset).take copyLength,
      if copyLength < data.length then
        { ctx with
          pt_pending_buffer := some data.offset
          pt_pending_buffer_length := data.length
          pt_pending_buffer_pos := copyLength }
      else
        { ctx with
          pt_pending_buffer := none, pt_pending_buffer_length := 0, pt_pending_buffer_pos := 0 })

/-- Remember the EXTRA buffer. -/
def rememberExtra (ctx : SChannelContext σ) : Option Region → SChannelContext σ
  | none => ctx
  | some extra =>
    { ctx with ct_pending_buffer := some extra.offset, ct_pending_buffer_length := extra.length }

/-- The loop of `secure_schannel_recv`.  `received` are the bytes that have been
written to the caller's buffer.  Nothing bounds the rounds, so there is fuel. -/
def recvLoop (length : Nat) : Nat → List UInt8 → Int → SChannelContext σ →
    Option ((Int × List UInt8) × SChannelContext σ)
  | 0, _, _, _ => none
  | rounds + 1, received, status, ctx =>
    match ctx.fill status with
    | none => none
    | some (result, ctx) =>
      if result ≠ BOLT_SUCCESS then some ((result, received), ctx)
      else
        match ctx.recv_buffer with
        | none => none
        | some block =>
          let answer := schannel.decryptMessage ctx.context_handle (block.take ctx.recv_buffer_pos)
          let block := memcpy block 0 answer.buffer
          let ctx := { ctx with context_handle := answer.state, recv_buffer := some block }
          if answer.status = SEC_E_INCOMPLETE_MESSAGE then
            recvLoop length rounds received SEC_E_INCOMPLETE_MESSAGE ctx
          else if answer.status = SEC_I_CONTEXT_EXPIRED then
            let (result, ctx) := ctx.setError BOLT_END_OF_TRANSMISSION
            some ((result, received), ctx)
          else if answer.status ≠ SEC_E_OK ∧ answer.status ≠ SEC_I_RENEGOTIATE then
            let (result, ctx) := ctx.setError BOLT_TLS_ERROR
            some ((result, received), ctx)
          else
            let (received, ctx) := ctx.copyData length received block answer.data
            let ctx := ctx.rememberExtra answer.extra
            if answer.status = SEC_E_OK then
              some ((BOLT_SUCCESS, received), { ctx with recv_buffer_pos := 0 })
            else
              match handshakeLoop schannel rounds false ctx with
              | none => none
              | some (result, ctx) =>
                if result ≠ BOLT_SUCCESS then some ((result, received), ctx)
                else recvLoop length rounds received SEC_I_RENEGOTIATE ctx

/-- `secure_schannel_recv`, which asks for `length` bytes: the status with the
bytes that are written to the buffer, and the context. -/
def recv (rounds length : Nat) (ctx : SChannelContext σ) :
    Option ((Int × List UInt8) × SChannelContext σ) :=
  match ctx.recv_buffer, ctx.pt_pending_buffer with
  | some block, some offset => some (ctx.recvPending length offset block)
  | some block, none => recvLoop schannel length rounds [] SEC_E_OK (ctx.takePending block)
  | none, _ => none

end SChannelContext

end Seabolt
