import Seabolt.PlainCommunication

/-!
# Opening a socket

What the parts of `plain_socket_open` do to the descriptors, the memory and the socket
itself, whatever the system calls answer.
-/

namespace Seabolt

namespace PlainCommunication

/-! ## Parts that work on the socket -/

/-- A part of `plain_socket_open` has worked on the socket only.  It has succeeded, or it
has recorded an error. -/
structure Settled (plain : PlainCommunication) (status : Int) (plain' : PlainCommunication) :
    Prop where
  keeps : plain.process.KeepsTable plain'.process
  context : plain'.context = plain.context
  sock_opts : plain'.sock_opts = plain.sock_opts
  outcome : status = BOLT_SUCCESS ∧ plain'.error = plain.error ∨
    status = BOLT_STATUS_SET ∧ ∃ error : ErrorCode, plain'.error = error

variable {plain plain' : PlainCommunication} {status : Int} {result : Int × Process}
  {process : Process}
  {next : PlainCommunication → Outcome PlainCommunication}

/-- The code of the last error, which is never one of the two that say something else. -/
def lastError (errno : Errno) : ErrorCode :=
  ⟨socketTransformError errno, by cases errno <;> simp [socketTransformError],
    by cases errno <;> simp [socketTransformError]⟩

theorem settled_success (hkeeps : plain.process.KeepsTable process) :
    Settled plain BOLT_SUCCESS { plain with process := process } :=
  ⟨hkeeps, rfl, rfl, .inl ⟨rfl, rfl⟩⟩

theorem settled_fail (hkeeps : plain.process.KeepsTable process) (error : ErrorCode) :
    Settled plain BOLT_STATUS_SET { plain with process := process, error := error } :=
  ⟨hkeeps, rfl, rfl, .inr ⟨rfl, error, rfl⟩⟩

/-- The `TRY_SOCKET` of a call on the socket. -/
theorem settled_TRY_SOCKET (hkeeps : plain.process.KeepsTable result.2)
    (hnext : ∀ {status plain'}, next { plain with process := result.2 } = some (status, plain') →
      Settled { plain with process := result.2 } status plain')
    (h : TRY_SOCKET result plain next = some (status, plain')) : Settled plain status plain' := by
  unfold TRY_SOCKET at h
  dsimp only at h
  split_ifs at h
  · obtain ⟨rfl, rfl⟩ := Prod.mk.inj (Option.some.inj h)
    exact settled_fail hkeeps (lastError result.2.errno)
  · have hrest := hnext h
    exact ⟨hkeeps.trans hrest.keeps, hrest.context, hrest.sock_opts, hrest.outcome⟩

theorem settled_done (hkeeps : plain.process.KeepsTable result.2)
    (h : TRY_SOCKET result plain (fun comm => some (BOLT_SUCCESS, comm)) = some (status, plain')) :
    Settled plain status plain' := by
  refine settled_TRY_SOCKET hkeeps (fun hnext => ?_) h
  obtain ⟨rfl, rfl⟩ := Prod.mk.inj (Option.some.inj hnext)
  exact settled_success (.refl _)

theorem setOptions_settled (h : plain.setOptions = some (status, plain')) :
    Settled plain status plain' := by
  unfold setOptions at h
  refine settled_TRY_SOCKET ?_ (fun h => ?_) h
  · exact Process.setOption_keepsTable _ _ _
  refine settled_TRY_SOCKET ?_ (fun h => ?_) h
  · exact Process.setOption_keepsTable _ _ _
  refine settled_done ?_ h
  exact Process.setOption_keepsTable _ _ _

/-- What is left to do when the connection has been made. -/
theorem settled_connected {sockfd : Int}
    (h : TRY_SOCKET (socketSetBlockingMode sockfd true plain.process) plain
      (fun comm => some (BOLT_SUCCESS, comm)) = some (status, plain')) :
    Settled plain status plain' :=
  settled_done (socketSetBlockingMode_keepsTable _ _ _) h

theorem Settled.after {process : Process} (hkeeps : plain.process.KeepsTable process)
    (h : Settled { plain with process := process } status plain') : Settled plain status plain' :=
  ⟨hkeeps.trans h.keeps, h.context, h.sock_opts, h.outcome⟩

theorem connectInTime_settled (h : plain.connectInTime = some (status, plain')) :
    Settled plain status plain' := by
  unfold connectInTime at h
  refine settled_TRY_SOCKET (socketSetBlockingMode_keepsTable _ _ _) (fun h => ?_) h
  generalize (socketSetBlockingMode plain.context.fd_socket false plain.process).2 = process at h ⊢
  have hconnect := socketConnect_keepsTable plain.context.fd_socket process
  rcases hconnected : socketConnect plain.context.fd_socket process with
    ⟨conn_status, in_progress, process1⟩
  simp only [hconnected] at h hconnect
  split_ifs at h with hfailed hzero
  · obtain ⟨rfl, rfl⟩ := Prod.mk.inj (Option.some.inj h)
    exact settled_fail hconnect (lastError process1.errno)
  · exact Settled.after hconnect (settled_connected h)
  · rcases hselect : socketSelect plain.context.fd_socket process1 with _ | ⟨selected, process2⟩
    · simp only [hselect] at h
      cases h
    · have hkeeps := hconnect.trans (socketSelect_keepsTable hselect)
      simp only [hselect] at h
      split_ifs at h
      · obtain ⟨rfl, rfl⟩ := Prod.mk.inj (Option.some.inj h)
        exact settled_fail hkeeps ⟨BOLT_TIMED_OUT, by decide⟩
      · exact Settled.after hkeeps (settled_connected h)
      · obtain ⟨rfl, rfl⟩ := Prod.mk.inj (Option.some.inj h)
        exact settled_fail hkeeps (lastError process2.errno)

theorem connect_settled (h : plain.connect = some (status, plain')) :
    Settled plain status plain' := by
  unfold connect at h
  split_ifs at h
  · exact connectInTime_settled h
  · exact settled_done (socketConnect_keepsTable _ _) h

/-! ## Endpoints -/

/-- The block of an address, unless it is NULL. -/
def slot (endpoint : Option Nat) : List (Nat × Nat) :=
  endpoint.toList.map fun pointer => (pointer, ADDRESS_SIZE)

/-- The pointer is what it was, or it points to a new address. -/
def Replaces (endpoint endpoint' : Option Nat) (heap heap' : Blocks) : Prop :=
  endpoint' = endpoint ∧ heap' = heap ∨
    endpoint' = some (heap.allocate ADDRESS_SIZE).1 ∧ heap' = (heap.allocate ADDRESS_SIZE).2

theorem Replaces.refl (endpoint : Option Nat) (heap : Blocks) :
    Replaces endpoint endpoint heap heap := .inl ⟨rfl, rfl⟩

/-- An address that was in the place of a new one stays allocated. -/
theorem Replaces.account {endpoint endpoint' : Option Nat} {heap heap' : Blocks}
    (h : Replaces endpoint endpoint' heap heap') {others : List (Nat × Nat)}
    (haccount : heap.Account (slot endpoint ++ others)) :
    ∃ lost, (lost = [] ∨ lost = slot endpoint) ∧
      heap'.Account (slot endpoint' ++ (lost ++ others)) := by
  rcases h with ⟨rfl, rfl⟩ | ⟨rfl, rfl⟩
  · exact ⟨[], .inl rfl, haccount⟩
  · exact ⟨slot endpoint, .inr rfl, haccount.allocate ADDRESS_SIZE⟩

/-- What a part of `plain_socket_open` does to everything but the endpoints. -/
structure Continues (plain : PlainCommunication) (status : Int) (plain' : PlainCommunication) :
    Prop where
  keeps : plain.process.Keeps plain'.process
  descriptors : plain'.process.descriptors = plain.process.descriptors
  opened : plain'.process.opened = plain.process.opened
  fd_socket : plain'.context.fd_socket = plain.context.fd_socket
  action : plain'.context.action_to_restore = plain.context.action_to_restore
  sock_opts : plain'.sock_opts = plain.sock_opts
  outcome : status = BOLT_SUCCESS ∧ plain'.error = plain.error ∨
    status = BOLT_STATUS_SET ∧ ∃ error : ErrorCode, plain'.error = error

theorem Settled.continues (h : Settled plain status plain') : Continues plain status plain' where
  keeps := h.keeps.toKeeps
  descriptors := h.keeps.descriptors
  opened := h.keeps.opened
  fd_socket := by rw [h.context]
  action := by rw [h.context]
  sock_opts := h.sock_opts
  outcome := h.outcome

theorem Continues.trans {middle : PlainCommunication} (h : Continues plain BOLT_SUCCESS middle)
    (h' : Continues middle status plain') : Continues plain status plain' where
  keeps := h.keeps.trans h'.keeps
  descriptors := h'.descriptors.trans h.descriptors
  opened := h'.opened.trans h.opened
  fd_socket := h'.fd_socket.trans h.fd_socket
  action := h'.action.trans h.action
  sock_opts := h'.sock_opts.trans h.sock_opts
  outcome := by
    rcases h.outcome with ⟨-, herror⟩ | ⟨hstatus, -⟩
    · rw [← herror]
      exact h'.outcome
    · exact absurd hstatus (by decide)

theorem getAddressComponents_settled (plain : PlainCommunication) :
    Settled plain BOLT_SUCCESS plain.getAddressComponents.2 := by
  have hask := plain.process.ask_keepsTable
  unfold getAddressComponents
  rcases hanswer : plain.process.ask with ⟨errno | value, process⟩
  · rw [hanswer] at hask
    exact settled_success hask
  · rw [hanswer] at hask
    exact settled_success hask

theorem nameRemote_continues (plain : PlainCommunication) :
    Continues plain plain.nameRemote.1 plain.nameRemote.2 ∧
      plain.nameRemote.2.context.local_endpoint = plain.context.local_endpoint ∧
      Replaces plain.context.remote_endpoint plain.nameRemote.2.context.remote_endpoint
        plain.process.heap plain.nameRemote.2.process.heap := by
  have hsettled := plain.getAddressComponents_settled
  unfold nameRemote
  rcases hcomponents : plain.getAddressComponents with ⟨status, plain1⟩
  rw [hcomponents] at hsettled
  dsimp only at hsettled ⊢
  have hheap := hsettled.keeps.heap
  have hlocal := congrArg PlainCommunicationContext.local_endpoint hsettled.context
  have hremote := congrArg PlainCommunicationContext.remote_endpoint hsettled.context
  have hcontinues := hsettled.continues
  split_ifs
  · refine ⟨⟨hcontinues.keeps, hcontinues.descriptors, hcontinues.opened, hcontinues.fd_socket,
      hcontinues.action, hcontinues.sock_opts,
      .inr ⟨rfl, ⟨BOLT_ADDRESS_NAME_INFO_FAILED, by decide⟩, rfl⟩⟩, hlocal, .inl ⟨hremote, hheap⟩⟩
  · refine ⟨⟨⟨hcontinues.keeps.incoming, hcontinues.keeps.outgoing, hcontinues.keeps.signals⟩,
      hcontinues.descriptors, hcontinues.opened, hcontinues.fd_socket, hcontinues.action,
      hcontinues.sock_opts, hcontinues.outcome⟩, hlocal, .inr ⟨?_, ?_⟩⟩
    · rw [← hheap]
    · rw [← hheap]

theorem nameLocal_continues (h : plain.nameLocal = some (status, plain')) :
    Continues plain status plain' ∧
      plain'.context.remote_endpoint = plain.context.remote_endpoint ∧
      Replaces plain.context.local_endpoint plain'.context.local_endpoint
        plain.process.heap plain'.process.heap := by
  have hkeeps := socketGetLocalAddr_keepsTable plain.context.fd_socket plain.process
  unfold nameLocal TRY_SOCKET at h
  rcases hresult : socketGetLocalAddr plain.context.fd_socket plain.process with ⟨result, process⟩
  simp only [hresult] at h hkeeps
  by_cases hminus : result = -1
  · rw [if_pos hminus] at h
    obtain ⟨rfl, rfl⟩ := Prod.mk.inj (Option.some.inj h)
    exact ⟨(settled_fail hkeeps (lastError process.errno)).continues, rfl, .inl ⟨rfl, hkeeps.heap⟩⟩
  rw [if_neg hminus] at h
  have hsettled := Settled.after hkeeps
    (getAddressComponents_settled { plain with process := process })
  rcases hcomponents : getAddressComponents { plain with process := process } with ⟨status1, plain1⟩
  simp only [hcomponents] at h hsettled
  have hheap := hsettled.keeps.heap
  have hlocal := congrArg PlainCommunicationContext.local_endpoint hsettled.context
  have hremote := congrArg PlainCommunicationContext.remote_endpoint hsettled.context
  have hcontinues := hsettled.continues
  split_ifs at h
  · obtain ⟨rfl, rfl⟩ := Prod.mk.inj (Option.some.inj h)
    refine ⟨⟨hcontinues.keeps, hcontinues.descriptors, hcontinues.opened, hcontinues.fd_socket,
      hcontinues.action, hcontinues.sock_opts,
      .inr ⟨rfl, ⟨BOLT_ADDRESS_NAME_INFO_FAILED, by decide⟩, rfl⟩⟩, hremote, .inl ⟨hlocal, hheap⟩⟩
  · obtain ⟨rfl, rfl⟩ := Prod.mk.inj (Option.some.inj h)
    refine ⟨⟨⟨hcontinues.keeps.incoming, hcontinues.keeps.outgoing, hcontinues.keeps.signals⟩,
      hcontinues.descriptors, hcontinues.opened, hcontinues.fd_socket, hcontinues.action,
      hcontinues.sock_opts, hcontinues.outcome⟩, hremote, .inr ⟨?_, ?_⟩⟩
    · rw [← hheap]
    · rw [← hheap]

/-! ## One attempt -/

/-- What an attempt to open a host does.  It asks for a descriptor, which takes the
place of the one before, and whatever happens then it leaves the descriptor open. -/
structure Attempted (plain : PlainCommunication) (status : Int) (plain' : PlainCommunication) :
    Prop where
  keeps : plain.process.Keeps plain'.process
  opened : plain'.process.opened = plain.process.opened ++ [plain'.context.fd_socket]
  descriptors : plain'.context.fd_socket = -1 ∧
      plain'.process.descriptors = plain.process.descriptors ∨
    ∃ sockfd : Nat, plain'.context.fd_socket = sockfd ∧ sockfd ∉ plain.process.descriptors ∧
      plain'.process.descriptors = sockfd :: plain.process.descriptors
  action : plain'.context.action_to_restore = plain.context.action_to_restore
  sock_opts : plain'.sock_opts = plain.sock_opts
  endpoints : ∃ heap, Replaces plain.context.remote_endpoint plain'.context.remote_endpoint
      plain.process.heap heap ∧
    Replaces plain.context.local_endpoint plain'.context.local_endpoint heap plain'.process.heap
  outcome : status = BOLT_SUCCESS ∧ plain'.error = plain.error ∨
    ∃ error : ErrorCode, plain'.error = error ∧ (status = BOLT_STATUS_SET ∨ status = error)

theorem plainSocketOpen_attempted (h : plain.plainSocketOpen = some (status, plain')) :
    Attempted plain status plain' := by
  obtain ⟨hkeeps, hheap, hopened, hdescriptors⟩ := socketOpen_cases plain.process
  unfold plainSocketOpen at h
  rcases hsocket : socketOpen plain.process with ⟨fd_socket, process⟩
  simp only [hsocket] at h hkeeps hheap hopened hdescriptors
  split_ifs at h with hfailed
  · subst hfailed
    obtain ⟨rfl, rfl⟩ := Prod.mk.inj (Option.some.inj h)
    have hsame : process.descriptors = plain.process.descriptors := by
      rcases hdescriptors with ⟨-, hsame⟩ | ⟨sockfd, hsockfd, -⟩
      · exact hsame
      · omega
    exact ⟨hkeeps, hopened, .inl ⟨rfl, hsame⟩, rfl, rfl,
      ⟨_, .refl _ _, .inl ⟨rfl, hheap⟩⟩, .inr ⟨lastError process.errno, rfl, .inr rfl⟩⟩
  have hopen : ∃ sockfd : Nat, fd_socket = sockfd ∧ sockfd ∉ plain.process.descriptors ∧
      process.descriptors = sockfd :: plain.process.descriptors := by
    rcases hdescriptors with ⟨hminus, -⟩ | hopen
    · exact absurd hminus hfailed
    · exact hopen
  have hattempted : ∀ {status plain' heap1},
      Continues { plain with
        context := { plain.context with fd_socket := fd_socket }
        process := process } status plain' →
      Replaces plain.context.remote_endpoint plain'.context.remote_endpoint process.heap heap1 →
      Replaces plain.context.local_endpoint plain'.context.local_endpoint heap1
        plain'.process.heap →
      Attempted plain status plain' := by
    intro status plain' heap1 hcontinues hremote hlocal
    obtain ⟨sockfd, hsockfd, hfresh, htable⟩ := hopen
    refine ⟨hkeeps.trans hcontinues.keeps, ?_, .inr ⟨sockfd, ?_, hfresh, ?_⟩, hcontinues.action,
      hcontinues.sock_opts, ⟨heap1, hheap ▸ hremote, hlocal⟩, ?_⟩
    · rw [hcontinues.opened, hcontinues.fd_socket]
      exact hopened
    · rw [hcontinues.fd_socket]
      exact hsockfd
    · rw [hcontinues.descriptors]
      exact htable
    · rcases hcontinues.outcome with hsuccess | ⟨hset, error, herror⟩
      · exact .inl hsuccess
      · exact .inr ⟨error, herror, .inl hset⟩
  unfold TRY_SOCKET socketDisableSigpipe at h
  dsimp only at h
  rw [if_neg (by decide)] at h
  rcases Outcome.TRY_cases h with ⟨-, hconnect⟩ | ⟨plain1, hconnect, h⟩
  · have hsettled := connect_settled hconnect
    have hlocal := congrArg PlainCommunicationContext.local_endpoint hsettled.context
    have hremote := congrArg PlainCommunicationContext.remote_endpoint hsettled.context
    exact hattempted hsettled.continues (.inl ⟨hremote, rfl⟩) (.inl ⟨hlocal, hsettled.keeps.heap⟩)
  have hsettled := connect_settled hconnect
  have hlocal1 := congrArg PlainCommunicationContext.local_endpoint hsettled.context
  have hremote1 := congrArg PlainCommunicationContext.remote_endpoint hsettled.context
  have hheap1 := hsettled.keeps.heap
  obtain ⟨hnamed, hlocal2, hremote2⟩ := plain1.nameRemote_continues
  dsimp only at hlocal1 hremote1 hheap1
  rw [hremote1, hheap1] at hremote2
  rw [hlocal1] at hlocal2
  rcases Outcome.TRY_cases h with ⟨-, hname⟩ | ⟨plain2, hname, h⟩
  · rw [Option.some.inj hname] at hnamed hlocal2 hremote2
    exact hattempted (hsettled.continues.trans hnamed) hremote2 (.inl ⟨hlocal2, rfl⟩)
  rw [Option.some.inj hname] at hnamed hlocal2 hremote2
  dsimp only at hnamed hlocal2 hremote2
  have hcontinues2 := hsettled.continues.trans hnamed
  rcases Outcome.TRY_cases h with ⟨-, hname⟩ | ⟨plain3, hname, h⟩
  · obtain ⟨hnamed3, hremote3, hlocal3⟩ := nameLocal_continues hname
    rw [hlocal2] at hlocal3
    rw [← hremote3] at hremote2
    exact hattempted (hcontinues2.trans hnamed3) hremote2 hlocal3
  · obtain ⟨hnamed3, hremote3, hlocal3⟩ := nameLocal_continues hname
    rw [hlocal2] at hlocal3
    rw [← hremote3] at hremote2
    have hoptions := setOptions_settled h
    have hlocal4 := congrArg PlainCommunicationContext.local_endpoint hoptions.context
    have hremote4 := congrArg PlainCommunicationContext.remote_endpoint hoptions.context
    rw [← hremote4] at hremote2
    rw [← hlocal4, ← hoptions.keeps.heap] at hlocal3
    exact hattempted ((hcontinues2.trans hnamed3).trans hoptions.continues) hremote2 hlocal3

/-! ## Attempts one after the other -/

theorem tryComm_eq (status : Int) (plain : PlainCommunication) :
    ∃ error, (tryComm status plain).2 = { plain with error := error } := by
  unfold tryComm
  split_ifs
  · exact ⟨plain.error, rfl⟩
  · exact ⟨status, rfl⟩

section Related

variable {R : PlainCommunication → PlainCommunication → Prop} (hrefl : ∀ plain, R plain plain)
  (htrans : ∀ {plain middle plain'}, R plain middle → R middle plain' → R plain plain')
  (hattempted : ∀ {plain status plain'}, Attempted plain status plain' → R plain plain')
  (herror : ∀ plain error, R plain { plain with error := error })

include htrans hattempted herror in
theorem openHost_related (h : plain.openHost = some (status, plain')) : R plain plain' := by
  obtain ⟨⟨result, plain1⟩, hattempt, hresult⟩ := Option.map_eq_some_iff.mp h
  have hfirst := hattempted (plainSocketOpen_attempted hattempt)
  dsimp only at hresult
  split_ifs at hresult
  · obtain ⟨error, hfailed⟩ := tryComm_eq result plain1
    obtain rfl : (tryComm result plain1).2 = plain' := by rw [hresult]
    rw [hfailed]
    exact htrans hfirst (herror plain1 error)
  · obtain ⟨-, rfl⟩ := Prod.mk.inj hresult
    exact hfirst

include hrefl htrans hattempted herror in
theorem openHosts_related (hosts : List Bool) : ∀ {status status' : Int}
    {plain : PlainCommunication}, openHosts status hosts plain = some (status', plain') →
      R plain plain' := by
  induction hosts with
  | nil =>
    intro status status' plain h
    obtain ⟨-, rfl⟩ := Prod.mk.inj (Option.some.inj h)
    exact hrefl plain
  | cons supported hosts ih =>
    intro status status' plain h
    rw [openHosts] at h
    rcases hattempt : (if supported then plain.openHost else some (BOLT_UNSUPPORTED, plain)) with
      _ | ⟨result, plain1⟩
    · rw [hattempt] at h
      cases h
    · have hfirst : R plain plain1 := by
        split_ifs at hattempt
        · exact openHost_related htrans hattempted herror hattempt
        · obtain ⟨-, rfl⟩ := Prod.mk.inj (Option.some.inj hattempt)
          exact hrefl plain
      simp only [hattempt] at h
      split_ifs at h
      · obtain ⟨-, rfl⟩ := Prod.mk.inj (Option.some.inj h)
        exact htrans hfirst (herror plain1 _)
      · exact htrans hfirst (ih h)

include hrefl htrans hattempted herror in
/-- What every attempt does, and what recording an error does, opening an address does. -/
theorem openAddress_related {hosts : List Bool}
    (h : plain.openAddress hosts = some (status, plain')) : R plain plain' := by
  unfold openAddress at h
  split_ifs at h
  · obtain ⟨-, rfl⟩ := Prod.mk.inj (Option.some.inj h)
    exact hrefl plain
  · exact openHosts_related hrefl htrans hattempted herror hosts h

end Related

/-! ## Success -/

/-- Clearing a flag that is set. -/
theorem nonblock_toggle {flags : BitVec 32} (h : flags &&& O_NONBLOCK ≠ 0) :
    (flags ^^^ O_NONBLOCK) &&& O_NONBLOCK = 0 := by
  have hbit : ∀ i < 32, O_NONBLOCK.getLsbD i = decide (i = 11) := by decide
  have hset : flags.getLsbD 11 = true := by
    by_contra hclear
    refine h (BitVec.eq_of_getLsbD_eq fun i hi => ?_)
    rw [BitVec.getLsbD_and, hbit i hi]
    by_cases hi' : i = 11
    · subst hi'
      rw [Bool.eq_false_of_not_eq_true hclear]
      rfl
    · simp [hi']
  refine BitVec.eq_of_getLsbD_eq fun i hi => ?_
  rw [BitVec.getLsbD_and, BitVec.getLsbD_xor, hbit i hi]
  by_cases hi' : i = 11
  · subst hi'
    simp [hset]
  · simp [hi']

theorem updateSocket_socket (sockfd : Int) (change : Socket → Socket) (process : Process) :
    (process.updateSocket sockfd change).socket sockfd = (process.socket sockfd).map change := by
  simp only [Process.socket, Process.updateSocket]
  induction process.sockets with
  | nil => rfl
  | cons entry sockets ih =>
    rw [List.map_cons, List.find?_cons, List.find?_cons]
    by_cases hsame : (entry.1 : Int) = sockfd
    · simp [hsame]
    · simp only [hsame, decide_false]
      exact ih

theorem ask_socket {answer : Answer} {process1 : Process} (h : process.ask = (answer, process1))
    (sockfd : Int) : process1.socket sockfd = process.socket sockfd := by
  rw [Process.ask, Prod.mk.injEq] at h
  rw [← h.2]
  rfl

/-- An option that could be set is set. -/
theorem setOption_socket {change : Socket → Socket} {sockfd : Int}
    (h : (process.setOption change sockfd).1 ≠ -1) :
    (process.setOption change sockfd).2.socket sockfd = (process.socket sockfd).map change := by
  unfold Process.setOption at h ⊢
  rcases hanswer : process.ask with ⟨errno | value, process1⟩
  · simp [hanswer, Process.failed] at h
  · dsimp only
    rw [updateSocket_socket, ask_socket hanswer]

/-- Changing the mode changes the flags only.  A socket that was made blocking is. -/
theorem socketSetBlockingMode_socket {sockfd : Int} {blocking : Bool} {socket : Socket}
    (hsocket : process.socket sockfd = some socket)
    (h : (socketSetBlockingMode sockfd blocking process).1 ≠ -1) :
    ∃ flags, (socketSetBlockingMode sockfd blocking process).2.socket sockfd =
        some { socket with flags := flags } ∧
      (blocking → flags &&& O_NONBLOCK = 0) := by
  obtain ⟨flags, process1, hflags, hsame, hgot⟩ : ∃ flags process1,
      process.getFlags sockfd = (flags, process1) ∧ process1.socket sockfd = some socket ∧
        (flags = socket.flags ∨ flags = -1) := by
    unfold Process.getFlags
    rcases hanswer : process.ask with ⟨errno | value, process1⟩
    · exact ⟨_, _, rfl, (ask_socket hanswer sockfd).trans hsocket, .inr rfl⟩
    · refine ⟨_, _, rfl, (ask_socket hanswer sockfd).trans hsocket, .inl ?_⟩
      rw [ask_socket hanswer, hsocket]
      rfl
  unfold socketSetBlockingMode at h ⊢
  simp only [hflags] at h ⊢
  cases blocking with
  | false =>
    simp only [Bool.not_false, and_true, Bool.false_eq_true, and_false, if_false] at h ⊢
    split_ifs at h ⊢
    · exact ⟨socket.flags, hsame, by simp⟩
    · rw [setOption_socket h, hsame]
      exact ⟨_, rfl, by simp⟩
  | true =>
    simp only [Bool.not_true, Bool.false_eq_true, and_false, if_false, and_true, if_true] at h ⊢
    split_ifs at h ⊢ with hclear
    · rcases hgot with rfl | rfl
      · exact ⟨socket.flags, hsame, fun _ => hclear⟩
      · exact absurd hclear (by decide)
    · rw [setOption_socket h, hsame]
      exact ⟨_, rfl, fun _ => nonblock_toggle hclear⟩

theorem socketConnect_socket {sockfd : Int} {socket : Socket}
    (hsocket : process.socket sockfd = some socket) :
    (socketConnect sockfd process).1 = 0 ∧ (socketConnect sockfd process).2.2.socket sockfd =
        some { socket with connected := true } ∨
      (socketConnect sockfd process).1 = -1 ∧
        (socketConnect sockfd process).2.2.socket sockfd = some socket := by
  unfold socketConnect
  rcases hanswer : process.ask with ⟨errno | value, process1⟩
  · exact .inr ⟨rfl, (ask_socket hanswer sockfd).trans hsocket⟩
  · refine .inl ⟨rfl, ?_⟩
    dsimp only
    rw [updateSocket_socket, ask_socket hanswer, hsocket]
    rfl

theorem socketSelect_socket {sockfd : Int} {socket : Socket} {process' : Process}
    (hsocket : process.socket sockfd = some socket)
    (h : socketSelect sockfd process = some (1, process')) :
    process'.socket sockfd = some { socket with connected := true } := by
  unfold socketSelect at h
  split_ifs at h
  rcases hanswer : process.ask with ⟨errno | _ | value, process1⟩
  · simp [hanswer, Process.failed] at h
  · simp [hanswer] at h
  · rcases hanswer' : process1.ask with ⟨so_error | value', process2⟩
    · simp [hanswer, hanswer', Process.failed] at h
    · simp only [hanswer, hanswer', Option.some.injEq, Prod.mk.injEq, true_and] at h
      subst h
      rw [updateSocket_socket, ask_socket hanswer', ask_socket hanswer, hsocket]
      rfl

/-- A `TRY_SOCKET` that succeeds has gone on. -/
theorem TRY_SOCKET_success (h : TRY_SOCKET result plain next = some (BOLT_SUCCESS, plain')) :
    result.1 ≠ -1 ∧ next { plain with process := result.2 } = some (BOLT_SUCCESS, plain') := by
  unfold TRY_SOCKET at h
  dsimp only at h
  split_ifs at h with hfailed
  · simp [failWithLastError, fail] at h
  · exact ⟨hfailed, h⟩

/-- The socket is connected, and reads and writes wait. -/
def Usable (plain : PlainCommunication) (socket : Socket) : Prop :=
  plain.process.socket plain.context.fd_socket = some socket ∧ socket.connected = true ∧
    socket.flags &&& O_NONBLOCK = 0

theorem connected_usable {socket : Socket}
    (hsocket : plain.process.socket plain.context.fd_socket = some socket)
    (hconnected : socket.connected = true)
    (h : TRY_SOCKET (socketSetBlockingMode plain.context.fd_socket true plain.process) plain
      (fun comm => some (BOLT_SUCCESS, comm)) = some (BOLT_SUCCESS, plain')) :
    ∃ socket', plain'.Usable socket' := by
  obtain ⟨hset, hdone⟩ := TRY_SOCKET_success h
  obtain ⟨flags, hsocket', hclear⟩ := socketSetBlockingMode_socket hsocket hset
  obtain ⟨-, rfl⟩ := Prod.mk.inj (Option.some.inj hdone)
  exact ⟨_, hsocket', hconnected, hclear rfl⟩

/-- A socket that could be connected is usable. -/
theorem connect_usable {socket : Socket}
    (hsocket : plain.process.socket plain.context.fd_socket = some socket)
    (hclear : socket.flags &&& O_NONBLOCK = 0)
    (h : plain.connect = some (BOLT_SUCCESS, plain')) : ∃ socket', plain'.Usable socket' := by
  unfold connect at h
  split_ifs at h with htimeout
  · unfold connectInTime at h
    obtain ⟨hset, h⟩ := TRY_SOCKET_success h
    obtain ⟨flags, hsocket1, -⟩ := socketSetBlockingMode_socket hsocket hset
    generalize (socketSetBlockingMode plain.context.fd_socket false plain.process).2 = process1
      at h hsocket1
    have hconnect := socketConnect_socket hsocket1
    rcases hconnected : socketConnect plain.context.fd_socket process1 with
      ⟨conn_status, in_progress, process2⟩
    simp only [hconnected] at h hconnect
    have hdone : ∀ {process : Process} {socket : Socket},
        process.socket plain.context.fd_socket = some socket → socket.connected = true →
        TRY_SOCKET (socketSetBlockingMode plain.context.fd_socket true process)
          { plain with process := process } (fun comm => some (BOLT_SUCCESS, comm)) =
            some (BOLT_SUCCESS, plain') → ∃ socket', plain'.Usable socket' :=
      fun {process} {socket} hsocket hconnected h =>
        @connected_usable { plain with process := process } plain' socket hsocket hconnected h
    split_ifs at h with hrefused hzero
    · simp [failWithLastError, fail] at h
    · rcases hconnect with ⟨-, hsocket2⟩ | ⟨hminus, -⟩
      · exact hdone hsocket2 rfl h
      · omega
    · have hsocket2 := (hconnect.resolve_left fun hconnect => hzero hconnect.1).2
      rcases hselect : socketSelect plain.context.fd_socket process2 with _ | ⟨selected, process3⟩
      · simp only [hselect] at h
        cases h
      · simp only [hselect] at h
        split_ifs at h with hzero hone
        · simp [fail] at h
        · subst hone
          exact hdone (socketSelect_socket hsocket2 hselect) rfl h
        · simp [failWithLastError, fail] at h
  · obtain ⟨hdone, h⟩ := TRY_SOCKET_success h
    obtain ⟨-, rfl⟩ := Prod.mk.inj (Option.some.inj h)
    rcases socketConnect_socket hsocket with ⟨-, hsocket'⟩ | ⟨hfailed, -⟩
    · exact ⟨_, hsocket', rfl, hclear⟩
    · exact absurd hfailed hdone

/-- The socket is usable, and its options are those of the configuration. -/
structure Configured (plain : PlainCommunication) (socket : Socket) : Prop where
  usable : plain.Usable socket
  nodelay : socket.nodelay = 1
  keepalive : socket.keepalive = plain.sock_opts.keep_alive
  recv_timeout : socket.recv_timeout =
    (plain.sock_opts.recv_timeout.tdiv 1000, plain.sock_opts.recv_timeout.tmod 1000 * 1000)

theorem setOptions_configured {socket : Socket} (husable : plain.Usable socket)
    (h : plain.setOptions = some (BOLT_SUCCESS, plain')) :
    ∃ socket', plain'.Configured socket' := by
  obtain ⟨hsocket, hconnected, hclear⟩ := husable
  unfold setOptions at h
  obtain ⟨hset, h⟩ := TRY_SOCKET_success h
  have hnodelay := setOption_socket hset
  rw [hsocket, Option.map_some] at hnodelay
  change (socketSetNodelay plain.context.fd_socket 1 plain.process).2.socket _ = _ at hnodelay
  generalize (socketSetNodelay plain.context.fd_socket 1 plain.process).2 = process1 at h hnodelay
  obtain ⟨hset, h⟩ := TRY_SOCKET_success h
  have htimeout := setOption_socket hset
  dsimp only at h htimeout
  rw [hnodelay, Option.map_some] at htimeout
  change (socketSetRecvTimeout plain.context.fd_socket plain.sock_opts.recv_timeout
    process1).2.socket _ = _ at htimeout
  generalize (socketSetRecvTimeout plain.context.fd_socket plain.sock_opts.recv_timeout
    process1).2 = process2 at h htimeout
  obtain ⟨hset, h⟩ := TRY_SOCKET_success h
  have hkeepalive := setOption_socket hset
  dsimp only at h hkeepalive
  rw [htimeout, Option.map_some] at hkeepalive
  obtain ⟨-, rfl⟩ := Prod.mk.inj (Option.some.inj h)
  exact ⟨_, ⟨hkeepalive, hconnected, hclear⟩, rfl, rfl, rfl⟩

theorem Usable.of_sockets {socket : Socket} (h : plain.Usable socket)
    (hsockets : plain'.process.sockets = plain.process.sockets)
    (hfd : plain'.context.fd_socket = plain.context.fd_socket) : plain'.Usable socket := by
  refine ⟨?_, h.2⟩
  rw [hfd, Process.socket, hsockets]
  exact h.1

theorem getAddressComponents_sockets (plain : PlainCommunication) :
    plain.getAddressComponents.2.process.sockets = plain.process.sockets ∧
      plain.getAddressComponents.2.context.fd_socket = plain.context.fd_socket := by
  unfold getAddressComponents
  dsimp only [Process.ask]
  cases plain.process.answers.headD (.succeed 0) with
  | fail errno => exact ⟨rfl, rfl⟩
  | succeed value => exact ⟨rfl, rfl⟩

theorem nameRemote_sockets (plain : PlainCommunication) :
    plain.nameRemote.2.process.sockets = plain.process.sockets ∧
      plain.nameRemote.2.context.fd_socket = plain.context.fd_socket := by
  have hcomponents := plain.getAddressComponents_sockets
  unfold nameRemote
  rcases hnamed : plain.getAddressComponents with ⟨status, plain1⟩
  rw [hnamed] at hcomponents
  dsimp only
  split_ifs
  · exact hcomponents
  · exact hcomponents

theorem nameLocal_sockets (h : plain.nameLocal = some (BOLT_SUCCESS, plain')) :
    plain'.process.sockets = plain.process.sockets ∧
      plain'.context.fd_socket = plain.context.fd_socket := by
  unfold nameLocal at h
  obtain ⟨-, h⟩ := TRY_SOCKET_success h
  have hsockets : (socketGetLocalAddr plain.context.fd_socket plain.process).2.sockets =
      plain.process.sockets := by
    unfold socketGetLocalAddr
    dsimp only [Process.ask]
    cases plain.process.answers.headD (.succeed 0) with
    | fail errno => rfl
    | succeed value => rfl
  generalize (socketGetLocalAddr plain.context.fd_socket plain.process).2 = process1 at h hsockets
  have hcomponents := getAddressComponents_sockets { plain with process := process1 }
  rcases hnamed : getAddressComponents { plain with process := process1 } with ⟨status, plain1⟩
  rw [hnamed] at h hcomponents
  dsimp only at h hcomponents
  split_ifs at h
  · simp [fail] at h
  · obtain ⟨-, rfl⟩ := Prod.mk.inj (Option.some.inj h)
    exact ⟨hcomponents.1.trans hsockets, hcomponents.2⟩

/-- An attempt that succeeds leaves a socket that is connected, that waits, and that has
the options of the configuration. -/
theorem plainSocketOpen_configured (h : plain.plainSocketOpen = some (BOLT_SUCCESS, plain')) :
    ∃ socket, plain'.Configured socket := by
  unfold plainSocketOpen at h
  rcases hopen : socketOpen plain.process with ⟨fd_socket, process⟩
  simp only [hopen] at h
  split_ifs at h with hfailed
  · have hstatus := (lastError process.errno).2.1
    exact absurd (congrArg Prod.fst (Option.some.inj h)) hstatus
  obtain ⟨socket, hsocket, hclear⟩ : ∃ socket, process.socket fd_socket = some socket ∧
      socket.flags &&& O_NONBLOCK = 0 := by
    unfold socketOpen at hopen
    rcases hanswer : plain.process.ask with ⟨errno | value, process1⟩
    · simp only [hanswer, Process.failed, Prod.mk.injEq] at hopen
      exact absurd hopen.1.symm hfailed
    · simp only [hanswer, Prod.mk.injEq] at hopen
      obtain ⟨rfl, rfl⟩ := hopen
      exact ⟨⟨0x2, false, 0, 0, (0, 0)⟩, by simp [Process.socket], by decide⟩
  unfold TRY_SOCKET socketDisableSigpipe at h
  dsimp only at h
  rw [if_neg (by decide)] at h
  obtain ⟨plain1, hconnect, h⟩ := Outcome.TRY_eq_success h
  obtain ⟨socket1, husable⟩ := connect_usable hsocket hclear hconnect
  obtain ⟨plain2, hremote, h⟩ := Outcome.TRY_eq_success h
  obtain ⟨plain3, hlocal, h⟩ := Outcome.TRY_eq_success h
  have hsockets2 := plain1.nameRemote_sockets
  rw [Option.some.inj hremote] at hsockets2
  have hsockets3 := nameLocal_sockets hlocal
  have husable2 := husable.of_sockets hsockets2.1 hsockets2.2
  exact setOptions_configured (husable2.of_sockets hsockets3.1 hsockets3.2) h

theorem openHost_configured (h : plain.openHost = some (BOLT_SUCCESS, plain')) :
    ∃ socket, plain'.Configured socket := by
  obtain ⟨⟨result, plain1⟩, hattempt, hresult⟩ := Option.map_eq_some_iff.mp h
  dsimp only at hresult
  split_ifs at hresult with hfailed
  · unfold tryComm at hresult
    split_ifs at hresult
    · exact absurd (congrArg Prod.fst hresult) (show BOLT_STATUS_SET ≠ BOLT_SUCCESS by decide)
    · exact absurd (congrArg Prod.fst hresult) hfailed
  · obtain ⟨-, rfl⟩ := Prod.mk.inj hresult
    rw [not_not.mp hfailed] at hattempt
    exact plainSocketOpen_configured hattempt

theorem openHosts_configured (hosts : List Bool) : ∀ {status : Int} {plain : PlainCommunication},
    hosts ≠ [] ∨ status ≠ BOLT_SUCCESS →
      openHosts status hosts plain = some (BOLT_SUCCESS, plain') →
      plain'.error = BOLT_SUCCESS ∧ ∃ socket, plain'.Configured socket := by
  induction hosts with
  | nil =>
    intro status plain hstatus h
    exact absurd (congrArg Prod.fst (Option.some.inj h)) (hstatus.resolve_left (by simp))
  | cons supported hosts ih =>
    intro status plain _ h
    rw [openHosts] at h
    rcases hattempt : (if supported then plain.openHost else some (BOLT_UNSUPPORTED, plain)) with
      _ | ⟨result, plain1⟩
    · rw [hattempt] at h
      cases h
    · simp only [hattempt] at h
      split_ifs at h with hsuccess
      · obtain ⟨-, rfl⟩ := Prod.mk.inj (Option.some.inj h)
        refine ⟨rfl, ?_⟩
        split_ifs at hattempt
        · rw [hsuccess] at hattempt
          obtain ⟨socket, hconfigured⟩ := openHost_configured hattempt
          exact ⟨socket, hconfigured.usable, hconfigured.nodelay, hconfigured.keepalive,
            hconfigured.recv_timeout⟩
        · exact absurd ((congrArg Prod.fst (Option.some.inj hattempt)).trans hsuccess)
            (show BOLT_UNSUPPORTED ≠ BOLT_SUCCESS by decide)
      · exact ih (.inr hsuccess) h

/-- However many hosts have been tried, and whatever the system calls have answered: when
an address could be opened, the socket in the context is connected, it waits, and it has
the options of the configuration. -/
theorem openAddress_configured {hosts : List Bool}
    (h : plain.openAddress hosts = some (BOLT_SUCCESS, plain')) :
    plain'.error = BOLT_SUCCESS ∧ ∃ socket, plain'.Configured socket := by
  unfold openAddress at h
  split_ifs at h with hempty
  · exact absurd (congrArg Prod.fst (Option.some.inj h))
      (show BOLT_ADDRESS_NOT_RESOLVED ≠ BOLT_SUCCESS by decide)
  · exact openHosts_configured hosts (.inl hempty) h

/-- With a limit of time, at the second host: the connection is in progress, and `select`
reports it. -/
theorem openAddress_configured_in_progress :
    let process : Process :=
      { answers :=
          [.fail .EMFILE, .succeed 7, .succeed 0, .succeed 0, .fail .EINPROGRESS, .succeed 1]
        errno := .other 0, sockets := [], opened := [], signals := ⟨[], false, 0⟩, heap := []
        incoming := [], outgoing := [] }
    ∃ plain', (create ⟨5000, 1500, 1⟩ process).openAddress [true, true] =
        some (BOLT_SUCCESS, plain') ∧
      plain'.context.fd_socket = 7 ∧ ∃ socket, plain'.Configured socket := by
  intro process
  have hrun : ((create ⟨5000, 1500, 1⟩ process).openAddress [true, true]).map (fun result =>
      (result.1, result.2.context.fd_socket)) = some (BOLT_SUCCESS, 7) := by decide +kernel
  obtain ⟨⟨status, plain'⟩, hopen, hresult⟩ := Option.map_eq_some_iff.mp hrun
  obtain ⟨rfl, hfd⟩ := Prod.mk.inj hresult
  exact ⟨plain', hopen, hfd, (openAddress_configured hopen).2⟩

end PlainCommunication

end Seabolt
