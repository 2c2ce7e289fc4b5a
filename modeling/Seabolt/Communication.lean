import Seabolt.Error

/-!
# The transport

`communication.c` over a transport whose behaviour is a script.  `incoming`
is what the peer has sent and the transport has not delivered yet.  A call of
`comm->recv` takes the next step of its script: it delivers between one and
the offered number of bytes, or it fails.  A script that is used up delivers
or accepts all it is offered.

A transport function that fails either returns an error code, or records the
code in the status of the communication and returns `BOLT_STATUS_SET`.
-/

namespace Seabolt

/-- The codes that report an error: neither success nor a reference to a
recorded status. -/
abbrev ErrorCode := { code : Int // code ≠ BOLT_SUCCESS ∧ code ≠ BOLT_STATUS_SET }

/-- The two ways in which a transport function fails. -/
inductive Failure where
  | code (error : ErrorCode)
  | statusSet (error : ErrorCode)

/-- What a call of `comm->recv` or `comm->send` does. -/
inductive TransferStep where
  | move (n : Nat)
  | fail (failure : Failure)

/-- `struct BoltCommunication`: the error of its status, the bytes on either
side, and the scripts of its functions. -/
structure BoltCommunication where
  error : Int
  incoming : List UInt8
  outgoing : List UInt8
  recvScript : List TransferStep
  sendScript : List TransferStep
  ignoreScript : List (Option Failure)
  restoreScript : List (Option Failure)
  openScript : List (Option Failure)

namespace BoltCommunication

/-- A communication that has not exchanged anything and never fails. -/
def create : BoltCommunication where
  error := BOLT_SUCCESS
  incoming := []
  outgoing := []
  recvScript := []
  sendScript := []
  ignoreScript := []
  restoreScript := []
  openScript := []

/-! ## Transport functions -/

/-- Return from a transport function that fails. -/
def failWith (comm : BoltCommunication) : Failure → Int × BoltCommunication
  | .code error => (error, comm)
  | .statusSet error => (BOLT_STATUS_SET, { comm with error := error })

/-- Return from a transport function that only reports a status. -/
def report (comm : BoltCommunication) : Option Failure → Int × BoltCommunication
  | none => (BOLT_SUCCESS, comm)
  | some failure => comm.failWith failure

/-- `comm->ignore_sigpipe`. -/
def ignoreSigpipe (comm : BoltCommunication) : Int × BoltCommunication :=
  { comm with ignoreScript := comm.ignoreScript.tail }.report (comm.ignoreScript.headD none)

/-- `comm->restore_sigpipe`. -/
def restoreSigpipe (comm : BoltCommunication) : Int × BoltCommunication :=
  { comm with restoreScript := comm.restoreScript.tail }.report (comm.restoreScript.headD none)

/-- Deliver `n` of the incoming bytes, at least one and at most `offered`.
The end of the stream is an error. -/
def deliver (comm : BoltCommunication) (n offered : Nat) : Int × List UInt8 × BoltCommunication :=
  if comm.incoming = [] then
    (BOLT_STATUS_SET, [], { comm with error := BOLT_END_OF_TRANSMISSION })
  else
    let count := max 1 (min n offered)
    (BOLT_SUCCESS, comm.incoming.take count, { comm with incoming := comm.incoming.drop count })

/-- `comm->recv`: the status, and the bytes written to the buffer. -/
def recv (comm : BoltCommunication) (offered : Nat) : Int × List UInt8 × BoltCommunication :=
  match comm.recvScript with
  | [] => comm.deliver offered offered
  | .move n :: script => { comm with recvScript := script }.deliver n offered
  | .fail failure :: script =>
    let (status, comm) := { comm with recvScript := script }.failWith failure
    (status, [], comm)

/-- `comm->send`: the status, and the number of bytes that were accepted. -/
def send1 (comm : BoltCommunication) (bytes : List UInt8) : Int × Nat × BoltCommunication :=
  let accept n (comm : BoltCommunication) :=
    let count := max 1 (min n bytes.length)
    (BOLT_SUCCESS, count, { comm with outgoing := comm.outgoing ++ bytes.take count })
  match comm.sendScript with
  | [] => accept bytes.length comm
  | .move n :: script => accept n { comm with sendScript := script }
  | .fail failure :: script =>
    let (status, comm) := { comm with sendScript := script }.failWith failure
    (status, 0, comm)

/-! ## `communication.c` -/

/-- What `TRY_COMM` returns and records for a status that is not success. -/
def tryComm (status : Int) (comm : BoltCommunication) : Int × BoltCommunication :=
  if status = BOLT_STATUS_SET then (BOLT_STATUS_SET, comm)
  else (status, { comm with error := status })

/-- What the transfer loops do with a status that is not success: record the
code unless the transport did. -/
def transferFailed (status : Int) (comm : BoltCommunication) : Int × BoltCommunication :=
  if status = BOLT_STATUS_SET then (BOLT_STATUS_SET, comm)
  else (BOLT_STATUS_SET, { comm with error := status })

/-- The loop of `BoltCommunication_receive`: every round receives at least
one byte, so the bytes that are still missing bound the rounds. -/
def receiveLoop : Nat → Nat → Nat → BoltCommunication → Int × List UInt8 × BoltCommunication
  | 0, _, _, comm => (BOLT_SUCCESS, [], comm)
  | rounds + 1, missing, maxRemaining, comm =>
    if missing = 0 then (BOLT_SUCCESS, [], comm)
    else
      let (status, bytes, comm) := comm.recv maxRemaining
      if status = BOLT_SUCCESS then
        let (status, rest, comm) :=
          receiveLoop rounds (missing - bytes.length) (maxRemaining - bytes.length) comm
        (status, bytes ++ rest, comm)
      else
        let (status, comm) := transferFailed status comm
        (status, [], comm)

/-- `BoltCommunication_receive`: the status, and the bytes written to the
buffer. -/
def receive (comm : BoltCommunication) (minSize maxSize : Nat) :
    Int × List UInt8 × BoltCommunication :=
  if minSize = 0 then (BOLT_SUCCESS, [], comm)
  else
    let (status, comm) := comm.ignoreSigpipe
    if status ≠ BOLT_SUCCESS then
      let (status, comm) := tryComm status comm
      (status, [], comm)
    else
      let (status, bytes, comm) := receiveLoop minSize minSize maxSize comm
      let (restored, comm) := comm.restoreSigpipe
      if restored ≠ BOLT_SUCCESS then
        let (restored, comm) := tryComm restored comm
        (restored, bytes, comm)
      else (status, bytes, comm)

/-- The loop of `BoltCommunication_send`. -/
def sendLoop : Nat → List UInt8 → BoltCommunication → Int × BoltCommunication
  | 0, _, comm => (BOLT_SUCCESS, comm)
  | rounds + 1, bytes, comm =>
    if bytes = [] then (BOLT_SUCCESS, comm)
    else
      let (status, sent, comm) := comm.send1 bytes
      if status = BOLT_SUCCESS then sendLoop rounds (bytes.drop sent) comm
      else transferFailed status comm

/-- `BoltCommunication_send`. -/
def send (comm : BoltCommunication) (bytes : List UInt8) : Int × BoltCommunication :=
  if bytes = [] then (BOLT_SUCCESS, comm)
  else
    let (status, comm) := comm.ignoreSigpipe
    if status ≠ BOLT_SUCCESS then tryComm status comm
    else
      let (status, comm) := sendLoop bytes.length bytes comm
      let (restored, comm) := comm.restoreSigpipe
      if restored ≠ BOLT_SUCCESS then tryComm restored comm
      else (status, comm)

/-- `_open`, with the outcome of `comm->open`. -/
def openHost (comm : BoltCommunication) : Int × BoltCommunication :=
  let (status, comm) :=
    { comm with openScript := comm.openScript.tail }.report (comm.openScript.headD none)
  if status ≠ BOLT_SUCCESS then tryComm status comm else (BOLT_SUCCESS, comm)

/-- The loop of `BoltCommunication_open` over the resolved hosts: whether
each is of a supported address family.  It stops at the first success. -/
def openHosts (status : Int) : List Bool → BoltCommunication → Int × BoltCommunication
  | [], comm => (status, comm)
  | supported :: hosts, comm =>
    let (status, comm) := if supported then comm.openHost else (BOLT_UNSUPPORTED, comm)
    if status = BOLT_SUCCESS then (BOLT_SUCCESS, { comm with error := BOLT_SUCCESS })
    else openHosts status hosts comm

/-- `BoltCommunication_open`. -/
def openAddress (comm : BoltCommunication) (hosts : List Bool) : Int × BoltCommunication :=
  if hosts = [] then (BOLT_ADDRESS_NOT_RESOLVED, comm)
  else openHosts BOLT_SUCCESS hosts comm

/-! ## What a receive delivers -/

/-- No function that `BoltCommunication_receive` calls fails. -/
structure Reliable (comm : BoltCommunication) : Prop where
  recv : ∀ failure, .fail failure ∉ comm.recvScript
  ignore : ∀ failure, some failure ∉ comm.ignoreScript
  restore : ∀ failure, some failure ∉ comm.restoreScript

/-- The delivered bytes leave the incoming stream at its front, and nothing
is sent. -/
structure Delivers (comm : BoltCommunication) (bytes : List UInt8) (comm' : BoltCommunication) :
    Prop where
  incoming : comm.incoming = bytes ++ comm'.incoming
  outgoing : comm'.outgoing = comm.outgoing
  restore : comm'.restoreScript <:+ comm.restoreScript
  reliable : comm.Reliable → comm'.Reliable

variable {comm comm' comm'' : BoltCommunication} {bytes rest : List UInt8}

theorem Delivers.refl (comm : BoltCommunication) : Delivers comm [] comm :=
  ⟨rfl, rfl, List.suffix_rfl, id⟩

theorem Delivers.trans (h : Delivers comm bytes comm') (h' : Delivers comm' rest comm'') :
    Delivers comm (bytes ++ rest) comm'' where
  incoming := by rw [h.incoming, h'.incoming, List.append_assoc]
  outgoing := h'.outgoing.trans h.outgoing
  restore := h'.restore.trans h.restore
  reliable := h'.reliable ∘ h.reliable

/-- Recording an error delivers nothing. -/
theorem Delivers.withError (h : Delivers comm bytes comm') (error : Int) :
    Delivers comm bytes { comm' with error := error } where
  incoming := h.incoming
  outgoing := h.outgoing
  restore := h.restore
  reliable hr := ⟨(h.reliable hr).recv, (h.reliable hr).ignore, (h.reliable hr).restore⟩

theorem failWith_delivers (comm : BoltCommunication) (failure : Failure) :
    Delivers comm [] (comm.failWith failure).2 := by
  cases failure with
  | code error => exact .refl comm
  | statusSet error => exact (Delivers.refl comm).withError _

theorem report_delivers (comm : BoltCommunication) (failure : Option Failure) :
    Delivers comm [] (comm.report failure).2 := by
  cases failure with
  | none => exact .refl comm
  | some failure => exact failWith_delivers comm failure

theorem tryComm_delivers (status : Int) (comm : BoltCommunication) :
    Delivers comm [] (tryComm status comm).2 := by
  unfold tryComm
  split_ifs
  · exact .refl comm
  · exact (Delivers.refl comm).withError _

theorem transferFailed_delivers (status : Int) (comm : BoltCommunication) :
    Delivers comm [] (transferFailed status comm).2 := by
  unfold transferFailed
  split_ifs
  · exact .refl comm
  · exact (Delivers.refl comm).withError _

theorem failWith_ne_success (comm : BoltCommunication) (failure : Failure) :
    (comm.failWith failure).1 ≠ BOLT_SUCCESS := by
  cases failure with
  | code error => exact error.2.1
  | statusSet error => simp [failWith]

theorem ignoreSigpipe_delivers (comm : BoltCommunication) :
    Delivers comm [] comm.ignoreSigpipe.2 := by
  have hstep : Delivers comm [] { comm with ignoreScript := comm.ignoreScript.tail } :=
    ⟨rfl, rfl, List.suffix_rfl,
      fun hr => ⟨hr.recv, fun f hf => hr.ignore f (List.mem_of_mem_tail hf), hr.restore⟩⟩
  exact hstep.trans (report_delivers _ _)

theorem restoreSigpipe_delivers (comm : BoltCommunication) :
    Delivers comm [] comm.restoreSigpipe.2 := by
  have hstep : Delivers comm [] { comm with restoreScript := comm.restoreScript.tail } :=
    ⟨rfl, rfl, List.tail_suffix _,
      fun hr => ⟨hr.recv, hr.ignore, fun f hf => hr.restore f (List.mem_of_mem_tail hf)⟩⟩
  exact hstep.trans (report_delivers _ _)

/-- A script without failures has none at its head. -/
private theorem headD_eq_none {script : List (Option Failure)}
    (h : ∀ failure, some failure ∉ script) : script.headD none = none := by
  rcases script with _ | ⟨_ | failure, script⟩
  · rfl
  · rfl
  · exact absurd List.mem_cons_self (h failure)

theorem Reliable.ignoreSigpipe_eq (h : comm.Reliable) :
    comm.ignoreSigpipe.1 = BOLT_SUCCESS := by
  rw [BoltCommunication.ignoreSigpipe, headD_eq_none h.ignore]
  rfl

theorem restoreSigpipe_eq (h : ∀ failure, some failure ∉ comm.restoreScript) :
    comm.restoreSigpipe.1 = BOLT_SUCCESS := by
  rw [restoreSigpipe, headD_eq_none h]
  rfl

/-- One delivery. -/
theorem deliver_delivers (comm : BoltCommunication) (n offered : Nat) :
    Delivers comm (comm.deliver n offered).2.1 (comm.deliver n offered).2.2 := by
  unfold deliver
  split_ifs
  · exact (Delivers.refl comm).withError _
  · exact ⟨(List.take_append_drop _ _).symm, rfl, List.suffix_rfl,
      fun hr => ⟨hr.recv, hr.ignore, hr.restore⟩⟩

theorem recv_delivers (comm : BoltCommunication) (offered : Nat) :
    Delivers comm (comm.recv offered).2.1 (comm.recv offered).2.2 := by
  unfold recv
  have hstep : ∀ step script, comm.recvScript = step :: script →
      Delivers comm [] { comm with recvScript := script } := by
    intro step script hscript
    refine ⟨rfl, rfl, List.suffix_rfl,
      fun hr => ⟨fun f hf => hr.recv f ?_, hr.ignore, hr.restore⟩⟩
    rw [hscript]
    exact List.mem_cons_of_mem step hf
  split
  · exact deliver_delivers comm offered offered
  · rename_i hscript
    exact (hstep _ _ hscript).trans (deliver_delivers _ _ _)
  · rename_i hscript
    exact (hstep _ _ hscript).trans (failWith_delivers _ _)

/-- A delivery that succeeds has at least one byte and at most the offered
number; one that does not has none. -/
theorem deliver_length {n offered : Nat} (ho : 0 < offered) :
    ((comm.deliver n offered).1 = BOLT_SUCCESS ∧ 0 < (comm.deliver n offered).2.1.length ∧
      (comm.deliver n offered).2.1.length ≤ offered) ∨
    ((comm.deliver n offered).1 ≠ BOLT_SUCCESS ∧ (comm.deliver n offered).2.1 = []) := by
  unfold deliver
  split_ifs with hempty
  · exact .inr ⟨by simp, rfl⟩
  · have hpos := List.length_pos_iff.mpr hempty
    refine .inl ⟨rfl, ?_, ?_⟩
    · simp only [List.length_take]
      omega
    · simp only [List.length_take]
      omega

theorem recv_length (comm : BoltCommunication) {offered : Nat} (ho : 0 < offered) :
    ((comm.recv offered).1 = BOLT_SUCCESS ∧ 0 < (comm.recv offered).2.1.length ∧
      (comm.recv offered).2.1.length ≤ offered) ∨
    ((comm.recv offered).1 ≠ BOLT_SUCCESS ∧ (comm.recv offered).2.1 = []) := by
  unfold recv
  split
  · exact deliver_length ho
  · exact deliver_length ho
  · exact .inr ⟨failWith_ne_success _ _, rfl⟩

theorem Reliable.recv_eq (h : comm.Reliable) (hne : comm.incoming ≠ []) (offered : Nat) :
    (comm.recv offered).1 = BOLT_SUCCESS := by
  unfold BoltCommunication.recv
  split
  · simp [deliver, hne]
  · simp [deliver, hne]
  · rename_i hscript
    exact absurd (hscript ▸ List.mem_cons_self) (h.recv _)

theorem transferFailed_ne_success (status : Int) (comm : BoltCommunication) :
    (transferFailed status comm).1 ≠ BOLT_SUCCESS := by
  unfold transferFailed
  split_ifs <;> simp

theorem tryComm_ne_success {status : Int} (h : status ≠ BOLT_SUCCESS) (comm : BoltCommunication) :
    (tryComm status comm).1 ≠ BOLT_SUCCESS := by
  unfold tryComm
  split_ifs
  · simp
  · exact h

/-- What the receive loop delivers: on success at least what is missing,
never more than there is room for, and less than what is missing when a
`recv` fails. -/
theorem receiveLoop_spec (rounds missing maxRemaining : Nat) (comm : BoltCommunication)
    (hrounds : missing ≤ rounds) (hmax : missing ≤ maxRemaining) :
    let result := receiveLoop rounds missing maxRemaining comm
    Delivers comm result.2.1 result.2.2 ∧ result.2.1.length ≤ maxRemaining ∧
      (result.1 = BOLT_SUCCESS ∧ missing ≤ result.2.1.length ∨
        result.1 ≠ BOLT_SUCCESS ∧ result.2.1.length < missing) ∧
      (comm.Reliable → missing ≤ comm.incoming.length → result.1 = BOLT_SUCCESS) := by
  induction rounds generalizing missing maxRemaining comm with
  | zero =>
    obtain rfl := Nat.le_zero.mp hrounds
    exact ⟨.refl comm, Nat.zero_le _, .inl ⟨rfl, Nat.zero_le _⟩, fun _ _ => rfl⟩
  | succ rounds ih =>
    by_cases hzero : missing = 0
    · simp only [receiveLoop, hzero, if_true]
      exact ⟨.refl comm, Nat.zero_le _, .inl ⟨trivial, Nat.zero_le _⟩, fun _ _ => trivial⟩
    · have hdelivers := recv_delivers comm maxRemaining
      have hlength := recv_length comm (show 0 < maxRemaining by omega)
      have hreliable : comm.Reliable → missing ≤ comm.incoming.length →
          (comm.recv maxRemaining).1 = BOLT_SUCCESS :=
        fun hr hle => hr.recv_eq (List.ne_nil_of_length_pos (by omega)) maxRemaining
      rcases hrecv : comm.recv maxRemaining with ⟨status, bytes, comm'⟩
      simp only [hrecv] at hdelivers hlength hreliable
      rcases hlength with ⟨rfl, hpos, hle⟩ | ⟨hstatus, rfl⟩
      · obtain ⟨hd, hl, hcases, hrel⟩ :=
          ih (missing - bytes.length) (maxRemaining - bytes.length) comm' (by omega) (by omega)
        rcases hloop : receiveLoop rounds (missing - bytes.length) (maxRemaining - bytes.length)
          comm' with ⟨status, rest, comm''⟩
        simp only [hloop] at hd hl hcases hrel
        simp only [receiveLoop, hzero, if_false, hrecv, if_true, hloop]
        refine ⟨hdelivers.trans hd, ?_, ?_, ?_⟩
        · rw [List.length_append]
          omega
        · rcases hcases with ⟨hs, hge⟩ | ⟨hs, hlt⟩
          · exact .inl ⟨hs, by rw [List.length_append]; omega⟩
          · exact .inr ⟨hs, by rw [List.length_append]; omega⟩
        · intro hr hincoming
          refine hrel (hdelivers.reliable hr) ?_
          rw [hdelivers.incoming, List.length_append] at hincoming
          omega
      · simp only [receiveLoop, hzero, if_false, hrecv, hstatus]
        refine ⟨?_, Nat.zero_le _, .inr ⟨transferFailed_ne_success _ _, ?_⟩, ?_⟩
        · exact hdelivers.trans (transferFailed_delivers status comm')
        · simp only [List.length_nil]
          omega
        · exact fun hr hincoming => absurd (hreliable hr hincoming) hstatus

/-- What `BoltCommunication_receive` delivers.  On success it is at least
`minSize` bytes.  A failure comes with fewer, unless restoring the handler is
what failed. -/
theorem receive_spec (comm : BoltCommunication) {minSize maxSize : Nat}
    (hmax : minSize ≤ maxSize) :
    let result := comm.receive minSize maxSize
    Delivers comm result.2.1 result.2.2 ∧ result.2.1.length ≤ maxSize ∧
      (result.1 = BOLT_SUCCESS → minSize ≤ result.2.1.length) ∧
      (result.1 ≠ BOLT_SUCCESS → (∀ failure, some failure ∉ comm.restoreScript) →
        result.2.1.length < minSize) ∧
      (comm.Reliable → minSize ≤ comm.incoming.length → result.1 = BOLT_SUCCESS) := by
  by_cases hzero : minSize = 0
  · simp only [receive, hzero, if_true]
    exact ⟨.refl comm, Nat.zero_le _, fun _ => Nat.zero_le _, fun h => absurd rfl h,
      fun _ _ => trivial⟩
  · have hignore := ignoreSigpipe_delivers comm
    have hreliable : comm.Reliable → comm.ignoreSigpipe.1 = BOLT_SUCCESS :=
      Reliable.ignoreSigpipe_eq
    rcases hi : comm.ignoreSigpipe with ⟨ignored, comm1⟩
    simp only [hi] at hignore hreliable
    by_cases hignored : ignored = BOLT_SUCCESS
    · obtain ⟨hd, hl, hcases, hrel⟩ := receiveLoop_spec minSize minSize maxSize comm1 le_rfl hmax
      rcases hloop : receiveLoop minSize minSize maxSize comm1 with ⟨status, bytes, comm2⟩
      simp only [hloop] at hd hl hcases hrel
      have hrestore := restoreSigpipe_delivers comm2
      have hrestores : (∀ failure, some failure ∉ comm.restoreScript) →
          comm2.restoreSigpipe.1 = BOLT_SUCCESS := fun h =>
        restoreSigpipe_eq fun failure hf =>
          h failure ((hd.restore.trans hignore.restore).subset hf)
      rcases hr : comm2.restoreSigpipe with ⟨restored, comm3⟩
      simp only [hr] at hrestore hrestores
      have hall : Delivers comm bytes comm3 := by
        simpa using hignore.trans (hd.trans hrestore)
      by_cases hrestored : restored = BOLT_SUCCESS
      · simp only [receive, hzero, if_false, hi, hignored, ne_eq, not_true_eq_false, hloop, hr,
          hrestored]
        refine ⟨hall, hl, fun hs => ?_, fun hs _ => ?_, fun hrel' hincoming => ?_⟩
        · rcases hcases with ⟨-, hge⟩ | ⟨hne, -⟩
          · exact hge
          · exact absurd hs hne
        · rcases hcases with ⟨heq, -⟩ | ⟨-, hlt⟩
          · exact absurd heq hs
          · exact hlt
        · refine hrel (hignore.reliable hrel') ?_
          rwa [hignore.incoming] at hincoming
      · simp only [receive, hzero, if_false, hi, hignored, ne_eq, not_true_eq_false, hloop, hr,
          hrestored, not_false_eq_true, if_true]
        refine ⟨by simpa using hall.trans (tryComm_delivers restored comm3), hl, ?_, ?_, ?_⟩
        · exact fun hs => absurd hs (tryComm_ne_success hrestored comm3)
        · exact fun _ hnone => absurd (hrestores hnone) hrestored
        · exact fun hrel' _ => absurd (hrestores hrel'.restore) hrestored
    · simp only [receive, hzero, if_false, hi, ne_eq, hignored, not_false_eq_true, if_true]
      refine ⟨hignore.trans (tryComm_delivers ignored comm1), Nat.zero_le _, ?_, ?_, ?_⟩
      · exact fun hs => absurd hs (tryComm_ne_success hignored comm1)
      · exact fun _ _ => Nat.pos_of_ne_zero hzero
      · exact fun hrel' _ => absurd (hreliable hrel') hignored

end BoltCommunication

end Seabolt
