import Seabolt.Error
import Seabolt.Lib.Blocks

/-!
# Sockets

`communication-plain-posix.c` over the system calls of a process, where there is
no `SO_NOSIGPIPE`.  Every call that may fail takes the next answer of a script; a
script that is used up lets all calls succeed.  What a successful call does is
modelled: descriptors are in use or not, a signal that nobody blocks is delivered,
and one that is blocked stays pending.

`pthread_sigmask` does not fail for the two modes that the code uses.  A
descriptor that does not fit into an `fd_set` makes `FD_SET` write behind it, and
so does a `free` of what was not allocated: the result is `none`.
-/

namespace Seabolt

abbrev BOLT_UNKNOWN_ERROR : Int := 1
abbrev BOLT_OUT_OF_FILES : Int := 8
abbrev BOLT_OUT_OF_MEMORY : Int := 9
abbrev BOLT_ADDRESS_NAME_INFO_FAILED : Int := 0x701

abbrev FD_SETSIZE : Int := 1024
abbrev O_NONBLOCK : BitVec 32 := 0x800
abbrev SIGPIPE : Nat := 13

/-- `sizeof(sigset_t)` and the memory of a `BoltAddress`, which is counted as one
block. -/
abbrev SIGSET_SIZE : Nat := 128
abbrev ADDRESS_SIZE : Nat := 64

/-! ## The process -/

/-- The values of `errno` that are told apart. -/
inductive Errno where
  | EACCES | EPERM | EAFNOSUPPORT | EINVAL | EPROTONOSUPPORT | EMFILE | ENFILE | ENOBUFS | ENOMEM
  | ECONNREFUSED | ECONNRESET | EPIPE | EINTR | ENETUNREACH | EAGAIN | ETIMEDOUT | EINPROGRESS | EBADF
  | other (code : Nat)
  deriving DecidableEq

/-- What a system call answers.  A call that succeeds makes its own use of the
number. -/
inductive Answer where
  | fail (errno : Errno)
  | succeed (value : Nat)

/-- A socket, as the kernel keeps it. -/
structure Socket where
  flags : BitVec 32
  connected : Bool
  nodelay : Int
  keepalive : Int
  recv_timeout : Int × Int

/-- The signals of the thread, of which only SIGPIPE is raised. -/
structure Signals where
  mask : List Nat
  pending : Bool
  delivered : Nat
  deriving DecidableEq

/-- The process around the driver: the descriptors of its sockets, the results
that `socket` has returned so far, its signals and its memory, and the bytes on
either side of the connection. -/
structure Process where
  answers : List Answer
  errno : Errno
  sockets : List (Nat × Socket)
  opened : List Int
  signals : Signals
  heap : Blocks
  incoming : List UInt8
  outgoing : List UInt8

namespace Signals

/-- SIGPIPE is raised. -/
def raise (signals : Signals) : Signals :=
  if SIGPIPE ∈ signals.mask then { signals with pending := true }
  else { signals with delivered := signals.delivered + 1 }

/-- `pthread_sigmask` with SIG_SETMASK delivers a pending signal that is not blocked
any more. -/
def setMask (mask : List Nat) (signals : Signals) : Signals :=
  if signals.pending ∧ SIGPIPE ∉ mask then ⟨mask, false, signals.delivered + 1⟩
  else { signals with mask := mask }

/-- The mask that blocks SIGPIPE, too. -/
def blocking (mask : List Nat) : List Nat := if SIGPIPE ∈ mask then mask else SIGPIPE :: mask

end Signals

namespace Process

/-- The next answer. -/
def ask (process : Process) : Answer × Process :=
  (process.answers.headD (.succeed 0), { process with answers := process.answers.tail })

/-- Return from a call that fails. -/
def failed (errno : Errno) (process : Process) : Int × Process :=
  (-1, { process with errno := errno })

/-- The descriptors in use. -/
def descriptors (process : Process) : List Nat := process.sockets.map Prod.fst

/-- A descriptor that is not in use: the number, if it is free. -/
def freshDescriptor (process : Process) (value : Nat) : Nat :=
  if value ∈ process.descriptors then process.descriptors.foldr max 0 + 1 else value

/-- Change the socket with a descriptor. -/
def updateSocket (sockfd : Int) (change : Socket → Socket) (process : Process) : Process :=
  { process with sockets := process.sockets.map fun entry =>
      (entry.1, if (entry.1 : Int) = sockfd then change entry.2 else entry.2) }

/-- The socket with a descriptor. -/
def socket (process : Process) (sockfd : Int) : Option Socket :=
  (process.sockets.find? fun entry => (entry.1 : Int) = sockfd).map Prod.snd

/-- `setsockopt`, and `fcntl` with F_SETFL. -/
def setOption (change : Socket → Socket) (sockfd : Int) (process : Process) : Int × Process :=
  match process.ask with
  | (.fail errno, process) => process.failed errno
  | (.succeed _, process) => (0, process.updateSocket sockfd change)

/-- `fcntl` with F_GETFL. -/
def getFlags (sockfd : Int) (process : Process) : BitVec 32 × Process :=
  match process.ask with
  | (.fail errno, process) => (-1, { process with errno := errno })
  | (.succeed _, process) => (((process.socket sockfd).map Socket.flags).getD (-1), process)

end Process

/-! ## `communication-plain-posix.c` -/

/-- `socket_transform_error`. -/
def socketTransformError : Errno → Int
  | .EACCES | .EPERM => BOLT_PERMISSION_DENIED
  | .EAFNOSUPPORT | .EINVAL | .EPROTONOSUPPORT => BOLT_UNSUPPORTED
  | .EMFILE | .ENFILE => BOLT_OUT_OF_FILES
  | .ENOBUFS | .ENOMEM => BOLT_OUT_OF_MEMORY
  | .ECONNREFUSED => BOLT_CONNECTION_REFUSED
  | .ECONNRESET => BOLT_CONNECTION_RESET
  | .EPIPE => BOLT_CONNECTION_RESET
  | .EINTR => BOLT_INTERRUPTED
  | .ENETUNREACH => BOLT_NETWORK_UNREACHABLE
  | .EAGAIN | .ETIMEDOUT => BOLT_TIMED_OUT
  | .EINPROGRESS | .EBADF | .other _ => BOLT_UNKNOWN_ERROR

/-- A mask that was replaced, in memory that `malloc` has returned. -/
abbrev SavedMask := Option (Nat × List Nat)

/-- `socket_ignore_sigpipe`: the status, and what is in `*replaced_action`. -/
def socketIgnoreSigpipe (replaced_action : SavedMask) (process : Process) :
    Int × SavedMask × Process :=
  let sig_restore := process.signals.mask
  let process := { process with signals := process.signals.setMask (Signals.blocking sig_restore) }
  match process.ask with
  | (.fail errno, process) =>
    (-1, replaced_action, { process with
      errno := errno, signals := process.signals.setMask sig_restore })
  | (.succeed _, process) =>
    -- that SIGPIPE was pending is not looked at any more
    match replaced_action with
    | none =>
      let (pointer, heap) := process.heap.allocate SIGSET_SIZE
      (0, some (pointer, sig_restore), { process with heap := heap })
    | some (pointer, _) => (0, some (pointer, sig_restore), process)

/-- The loop around `sigtimedwait`: it goes on as long as it is interrupted, and takes
a signal that is pending. -/
def waitForSigpipe : List Answer → Process → Process
  | .fail .EINTR :: answers, process =>
    waitForSigpipe answers { process with answers := answers, errno := .EINTR }
  | answers, process =>
    { process with
      answers := answers.tail
      errno := if process.signals.pending then process.errno else .EAGAIN
      signals := { process.signals with pending := false } }

/-- `socket_restore_sigpipe`, with what `action_to_restore` points to. -/
def socketRestoreSigpipe (action_to_restore : SavedMask) (process : Process) :
    Option (Int × SavedMask × Process) :=
  let process := waitForSigpipe process.answers process
  match action_to_restore with
  | none => some (0, none, process)
  | some (pointer, mask) =>
    let process := { process with signals := process.signals.setMask mask }
    (process.heap.deallocate pointer SIGSET_SIZE).map fun heap =>
      (0, none, { process with heap := heap })

/-- `socket_disable_sigpipe`. -/
def socketDisableSigpipe (_sockfd : Int) (process : Process) : Int × Process := (0, process)

/-- `socket_set_blocking_mode`. -/
def socketSetBlockingMode (sockfd : Int) (blocking : Bool) (process : Process) : Int × Process :=
  let (flags, process) := process.getFlags sockfd
  if flags &&& O_NONBLOCK ≠ 0 ∧ !blocking then (0, process)
  else if flags &&& O_NONBLOCK = 0 ∧ blocking then (0, process)
  else
    let flags := if blocking then flags ^^^ O_NONBLOCK else flags ||| O_NONBLOCK
    process.setOption (fun socket => { socket with flags := flags }) sockfd

/-- `socket_set_recv_timeout`. -/
def socketSetRecvTimeout (sockfd : Int) (timeout : Int) : Process → Int × Process :=
  Process.setOption (fun socket => { socket with
    recv_timeout := (timeout.tdiv 1000, timeout.tmod 1000 * 1000) }) sockfd

/-- `socket_set_keepalive`. -/
def socketSetKeepalive (sockfd : Int) (keepalive : Int) : Process → Int × Process :=
  Process.setOption (fun socket => { socket with keepalive := keepalive }) sockfd

/-- `socket_set_nodelay`. -/
def socketSetNodelay (sockfd : Int) (nodelay : Int) : Process → Int × Process :=
  Process.setOption (fun socket => { socket with nodelay := nodelay }) sockfd

/-- `socket_open`. -/
def socketOpen (process : Process) : Int × Process :=
  match process.ask with
  | (.fail errno, process) => { process with opened := process.opened ++ [-1] }.failed errno
  | (.succeed value, process) =>
    let sockfd := process.freshDescriptor value
    (sockfd, { process with
      sockets := (sockfd, ⟨0x2, false, 0, 0, (0, 0)⟩) :: process.sockets
      opened := process.opened ++ [(sockfd : Int)] })

/-- `socket_shutdown`, of which nobody looks at the status. -/
def socketShutdown (sockfd : Int) (process : Process) : Process :=
  process.updateSocket sockfd fun socket => { socket with connected := false }

/-- `socket_close`, which returns a descriptor that is in use. -/
def socketClose (sockfd : Int) (process : Process) : Process :=
  { process with sockets := process.sockets.filter fun entry => (entry.1 : Int) ≠ sockfd }

/-- `socket_connect`: the status, and whether the connection is in progress. -/
def socketConnect (sockfd : Int) (process : Process) : Int × Bool × Process :=
  match process.ask with
  | (.fail errno, process) => (-1, errno = .EINPROGRESS, { process with errno := errno })
  | (.succeed _, process) =>
    (0, false, process.updateSocket sockfd fun socket => { socket with connected := true })

/-- `socket_select`: `select` on one descriptor, and the error of the socket that
`getsockopt` reports.  On a socket that `select` knows `getsockopt` itself does not fail. -/
def socketSelect (sockfd : Int) (process : Process) : Option (Int × Process) :=
  if sockfd < 0 ∨ FD_SETSIZE ≤ sockfd then none
  else
    match process.ask with
    | (.fail errno, process) => some (process.failed errno)
    | (.succeed 0, process) => some (0, process)
    | (.succeed _, process) =>
      match process.ask with
      | (.fail so_error, process) => some (process.failed so_error)
      | (.succeed _, process) =>
        some (1, process.updateSocket sockfd fun socket => { socket with connected := true })

/-- `socket_send`: the kernel takes at least one byte, or the call fails.  A peer that
is gone raises SIGPIPE. -/
def socketSend (sockfd : Int) (buf : List UInt8) (process : Process) : Int × Process :=
  if (process.socket sockfd).isNone then process.failed .EBADF
  else
    match process.ask with
    | (.fail .EPIPE, process) => { process with signals := process.signals.raise }.failed .EPIPE
    | (.fail errno, process) => process.failed errno
    | (.succeed value, process) =>
      let bytes := min (max 1 value) buf.length
      (bytes, { process with outgoing := process.outgoing ++ buf.take bytes })

/-- `socket_recv`: the status, and the bytes that are written to the buffer.  There are
none at the end of the stream. -/
def socketRecv (sockfd : Int) (len : Nat) (process : Process) : Int × List UInt8 × Process :=
  if (process.socket sockfd).isNone then (-1, [], { process with errno := .EBADF })
  else
    match process.ask with
    | (.fail errno, process) => (-1, [], { process with errno := errno })
    | (.succeed value, process) =>
      let bytes := min (max 1 value) (min len process.incoming.length)
      (bytes, process.incoming.take bytes, { process with incoming := process.incoming.drop bytes })

/-- `socket_get_local_addr`. -/
def socketGetLocalAddr (_sockfd : Int) (process : Process) : Int × Process :=
  match process.ask with
  | (.fail errno, process) => process.failed errno
  | (.succeed _, process) => (0, process)

/-! ## What the calls leave alone -/

/-- Outside of its memory and the table of its sockets, the process is as it was, apart
from what the last calls have answered. -/
structure Process.Keeps (process process' : Process) : Prop where
  incoming : process'.incoming = process.incoming
  outgoing : process'.outgoing = process.outgoing
  signals : process'.signals = process.signals

/-- The same descriptors are in use, and no memory was allocated or freed. -/
structure Process.KeepsTable (process process' : Process) : Prop extends
    process.Keeps process' where
  descriptors : process'.descriptors = process.descriptors
  opened : process'.opened = process.opened
  heap : process'.heap = process.heap

namespace Process

variable {process process' process'' : Process}

theorem Keeps.refl (process : Process) : process.Keeps process := ⟨rfl, rfl, rfl⟩

theorem Keeps.trans (h : process.Keeps process') (h' : process'.Keeps process'') :
    process.Keeps process'' :=
  ⟨h'.incoming.trans h.incoming, h'.outgoing.trans h.outgoing, h'.signals.trans h.signals⟩

theorem KeepsTable.refl (process : Process) : process.KeepsTable process :=
  ⟨.refl process, rfl, rfl, rfl⟩

theorem KeepsTable.trans (h : process.KeepsTable process') (h' : process'.KeepsTable process'') :
    process.KeepsTable process'' :=
  ⟨h.toKeeps.trans h'.toKeeps, h'.descriptors.trans h.descriptors, h'.opened.trans h.opened,
    h'.heap.trans h.heap⟩

theorem ask_keepsTable (process : Process) : process.KeepsTable process.ask.2 :=
  ⟨⟨rfl, rfl, rfl⟩, rfl, rfl, rfl⟩

theorem failed_keepsTable (errno : Errno) (process : Process) :
    process.KeepsTable (process.failed errno).2 :=
  ⟨⟨rfl, rfl, rfl⟩, rfl, rfl, rfl⟩

theorem updateSocket_keepsTable (sockfd : Int) (change : Socket → Socket) (process : Process) :
    process.KeepsTable (process.updateSocket sockfd change) := by
  refine ⟨⟨rfl, rfl, rfl⟩, ?_, rfl, rfl⟩
  simp only [descriptors, updateSocket, List.map_map]
  rfl

theorem setOption_keepsTable (change : Socket → Socket) (sockfd : Int) (process : Process) :
    process.KeepsTable (process.setOption change sockfd).2 := by
  have hask := process.ask_keepsTable
  unfold setOption
  rcases hanswer : process.ask with ⟨errno | value, process1⟩
  · rw [hanswer] at hask
    exact hask.trans (failed_keepsTable errno _)
  · rw [hanswer] at hask
    exact hask.trans (updateSocket_keepsTable sockfd change _)

theorem getFlags_keepsTable (sockfd : Int) (process : Process) :
    process.KeepsTable (process.getFlags sockfd).2 := by
  have hask := process.ask_keepsTable
  unfold getFlags
  rcases hanswer : process.ask with ⟨errno | value, process1⟩
  · rw [hanswer] at hask
    exact hask.trans (failed_keepsTable errno _)
  · rw [hanswer] at hask
    exact hask

end Process

theorem socketSetBlockingMode_keepsTable (sockfd : Int) (blocking : Bool) (process : Process) :
    process.KeepsTable (socketSetBlockingMode sockfd blocking process).2 := by
  have hflags := process.getFlags_keepsTable sockfd
  unfold socketSetBlockingMode
  rcases hgot : process.getFlags sockfd with ⟨flags, process1⟩
  rw [hgot] at hflags
  dsimp only at hflags ⊢
  split_ifs
  · exact hflags
  · exact hflags
  · exact hflags.trans (Process.setOption_keepsTable _ _ _)
  · exact hflags.trans (Process.setOption_keepsTable _ _ _)

theorem socketConnect_keepsTable (sockfd : Int) (process : Process) :
    process.KeepsTable (socketConnect sockfd process).2.2 := by
  have hask := process.ask_keepsTable
  unfold socketConnect
  rcases hanswer : process.ask with ⟨errno | value, process1⟩
  · rw [hanswer] at hask
    exact hask.trans (Process.failed_keepsTable errno _)
  · rw [hanswer] at hask
    dsimp only
    exact hask.trans (Process.updateSocket_keepsTable sockfd _ _)

theorem socketSelect_keepsTable {sockfd : Int} {process process' : Process} {status : Int}
    (h : socketSelect sockfd process = some (status, process')) : process.KeepsTable process' := by
  have hask := process.ask_keepsTable
  unfold socketSelect at h
  split_ifs at h
  rcases hanswer : process.ask with ⟨errno | _ | value, process1⟩
  · simp only [hanswer, Option.some.injEq] at h hask
    have hfailed := hask.trans (Process.failed_keepsTable errno _)
    rwa [h] at hfailed
  · simp only [hanswer, Option.some.injEq, Prod.mk.injEq] at h hask
    obtain ⟨-, rfl⟩ := h
    exact hask
  · simp only [hanswer] at h hask
    have hask' := hask.trans process1.ask_keepsTable
    rcases hanswer' : process1.ask with ⟨so_error | value', process2⟩
    · simp only [hanswer', Option.some.injEq] at h hask'
      have hfailed := hask'.trans (Process.failed_keepsTable so_error _)
      rwa [h] at hfailed
    · simp only [hanswer', Option.some.injEq, Prod.mk.injEq] at h hask'
      obtain ⟨-, rfl⟩ := h
      exact hask'.trans (Process.updateSocket_keepsTable sockfd _ _)

theorem socketGetLocalAddr_keepsTable (sockfd : Int) (process : Process) :
    process.KeepsTable (socketGetLocalAddr sockfd process).2 := by
  have hask := process.ask_keepsTable
  unfold socketGetLocalAddr
  rcases hanswer : process.ask with ⟨errno | value, process1⟩
  · rw [hanswer] at hask
    exact hask.trans (Process.failed_keepsTable errno _)
  · rw [hanswer] at hask
    exact hask

/-- `socket` opens a descriptor that was not in use, or none. -/
theorem socketOpen_cases (process : Process) :
    process.Keeps (socketOpen process).2 ∧ (socketOpen process).2.heap = process.heap ∧
      (socketOpen process).2.opened = process.opened ++ [(socketOpen process).1] ∧
      ((socketOpen process).1 = -1 ∧ (socketOpen process).2.descriptors = process.descriptors ∨
        ∃ sockfd : Nat, (socketOpen process).1 = sockfd ∧ sockfd ∉ process.descriptors ∧
          (socketOpen process).2.descriptors = sockfd :: process.descriptors) := by
  have hfresh : ∀ value, process.freshDescriptor value ∉ process.descriptors := by
    intro value
    unfold Process.freshDescriptor
    split_ifs with hused
    · intro hmem
      have hle : ∀ fds : List Nat, ∀ fd ∈ fds, fd ≤ fds.foldr max 0 := by
        intro fds
        induction fds with
        | nil => simp
        | cons fd fds ih =>
          intro other hother
          rcases List.mem_cons.mp hother with rfl | hrest
          · exact Nat.le_max_left _ _
          · exact (ih other hrest).trans (Nat.le_max_right _ _)
      have hbound := hle _ _ hmem
      omega
    · exact hused
  unfold socketOpen
  rcases hanswer : process.ask with ⟨errno | value, process1⟩
  · have hprocess : process1 = process.ask.2 := by rw [hanswer]
    subst hprocess
    exact ⟨⟨rfl, rfl, rfl⟩, rfl, rfl, .inl ⟨rfl, rfl⟩⟩
  · have hprocess : process1 = process.ask.2 := by rw [hanswer]
    subst hprocess
    exact ⟨⟨rfl, rfl, rfl⟩, rfl, rfl, .inr ⟨_, rfl, hfresh value, rfl⟩⟩

/-! ## Transfers -/

/-- `send` fails and takes nothing, or it takes bytes from the front of the buffer.  It
raises SIGPIPE or leaves the signals alone. -/
theorem socketSend_cases (sockfd : Int) (buf : List UInt8) (process : Process) :
    (socketSend sockfd buf process).2.incoming = process.incoming ∧
    (socketSend sockfd buf process).2.sockets = process.sockets ∧
    (socketSend sockfd buf process).2.opened = process.opened ∧
    (socketSend sockfd buf process).2.heap = process.heap ∧
    ((socketSend sockfd buf process).2.signals = process.signals ∨
      (socketSend sockfd buf process).2.signals = process.signals.raise) ∧
    ((socketSend sockfd buf process).1 = -1 ∧
        (socketSend sockfd buf process).2.outgoing = process.outgoing ∨
      ∃ value, (socketSend sockfd buf process).1 = (min (max 1 value) buf.length : Nat) ∧
        (socketSend sockfd buf process).2.outgoing =
          process.outgoing ++ buf.take (min (max 1 value) buf.length)) := by
  unfold socketSend
  split_ifs
  · exact ⟨rfl, rfl, rfl, rfl, .inl rfl, .inl ⟨rfl, rfl⟩⟩
  · dsimp only [Process.ask]
    rcases process.answers.headD (.succeed 0) with errno | value
    · cases errno with
      | EPIPE => exact ⟨rfl, rfl, rfl, rfl, .inr rfl, .inl ⟨rfl, rfl⟩⟩
      | _ => exact ⟨rfl, rfl, rfl, rfl, .inl rfl, .inl ⟨rfl, rfl⟩⟩
    · exact ⟨rfl, rfl, rfl, rfl, .inl rfl, .inr ⟨value, rfl, rfl⟩⟩

/-- `recv` fails and delivers nothing, or it delivers bytes from the front of those that
have arrived. -/
theorem socketRecv_cases (sockfd : Int) (len : Nat) (process : Process) :
    (socketRecv sockfd len process).2.2.outgoing = process.outgoing ∧
    (socketRecv sockfd len process).2.2.sockets = process.sockets ∧
    (socketRecv sockfd len process).2.2.opened = process.opened ∧
    (socketRecv sockfd len process).2.2.heap = process.heap ∧
    (socketRecv sockfd len process).2.2.signals = process.signals ∧
    ((socketRecv sockfd len process).1 = -1 ∧ (socketRecv sockfd len process).2.1 = [] ∧
        (socketRecv sockfd len process).2.2.incoming = process.incoming ∨
      ∃ value count, count = min (max 1 value) (min len process.incoming.length) ∧
        (socketRecv sockfd len process).1 = (count : Nat) ∧
        (socketRecv sockfd len process).2.1 = process.incoming.take count ∧
        (socketRecv sockfd len process).2.2.incoming = process.incoming.drop count) := by
  unfold socketRecv
  split_ifs
  · exact ⟨rfl, rfl, rfl, rfl, rfl, .inl ⟨rfl, rfl, rfl⟩⟩
  · dsimp only [Process.ask]
    rcases process.answers.headD (.succeed 0) with errno | value
    · exact ⟨rfl, rfl, rfl, rfl, rfl, .inl ⟨rfl, rfl, rfl⟩⟩
    · exact ⟨rfl, rfl, rfl, rfl, rfl, .inr ⟨value, _, rfl, rfl, rfl, rfl⟩⟩

/-! ## Signals -/

/-- What `socket_ignore_sigpipe` does when it succeeds and when it fails. -/
theorem socketIgnoreSigpipe_cases (replaced_action : SavedMask) (process : Process) :
    (socketIgnoreSigpipe replaced_action process).2.2.incoming = process.incoming ∧
    (socketIgnoreSigpipe replaced_action process).2.2.outgoing = process.outgoing ∧
    (socketIgnoreSigpipe replaced_action process).2.2.sockets = process.sockets ∧
    (socketIgnoreSigpipe replaced_action process).2.2.opened = process.opened ∧
    ((socketIgnoreSigpipe replaced_action process).1 = -1 ∧
        (socketIgnoreSigpipe replaced_action process).2.1 = replaced_action ∧
        (socketIgnoreSigpipe replaced_action process).2.2.heap = process.heap ∧
        (socketIgnoreSigpipe replaced_action process).2.2.signals =
          (process.signals.setMask (Signals.blocking process.signals.mask)).setMask
            process.signals.mask ∨
      (socketIgnoreSigpipe replaced_action process).1 = 0 ∧
        (socketIgnoreSigpipe replaced_action process).2.2.signals =
          process.signals.setMask (Signals.blocking process.signals.mask) ∧
        (replaced_action = none →
          (socketIgnoreSigpipe replaced_action process).2.1 =
              some ((process.heap.allocate SIGSET_SIZE).1, process.signals.mask) ∧
            (socketIgnoreSigpipe replaced_action process).2.2.heap =
              (process.heap.allocate SIGSET_SIZE).2)) := by
  unfold socketIgnoreSigpipe
  dsimp only [Process.ask]
  rcases process.answers.headD (.succeed 0) with errno | value
  · exact ⟨rfl, rfl, rfl, rfl, .inl ⟨rfl, rfl, rfl, rfl⟩⟩
  · rcases replaced_action with _ | ⟨pointer, mask⟩
    · exact ⟨rfl, rfl, rfl, rfl, .inr ⟨rfl, rfl, fun _ => ⟨rfl, rfl⟩⟩⟩
    · exact ⟨rfl, rfl, rfl, rfl, .inr ⟨rfl, rfl, fun h => by cases h⟩⟩

/-- The loop around `sigtimedwait` ends, with no SIGPIPE pending. -/
theorem waitForSigpipe_eq (answers : List Answer) : ∀ process : Process,
    ∃ answers' errno', waitForSigpipe answers process = { process with
      answers := answers', errno := errno', signals := { process.signals with pending := false } } := by
  induction answers with
  | nil => exact fun _ => ⟨_, _, rfl⟩
  | cons answer answers ih =>
    intro process
    rcases answer with errno | value
    · cases errno with
      | EINTR =>
        obtain ⟨answers', errno', heq⟩ := ih { process with answers := answers, errno := .EINTR }
        exact ⟨answers', errno', heq⟩
      | _ => exact ⟨_, _, rfl⟩
    · exact ⟨_, _, rfl⟩

/-- What `socket_restore_sigpipe` does. -/
theorem socketRestoreSigpipe_cases {action_to_restore saved : SavedMask} {status : Int}
    {process process' : Process}
    (h : socketRestoreSigpipe action_to_restore process = some (status, saved, process')) :
    status = 0 ∧ saved = none ∧ process'.incoming = process.incoming ∧
      process'.outgoing = process.outgoing ∧ process'.sockets = process.sockets ∧
      process'.opened = process.opened ∧
      (action_to_restore = none → process'.heap = process.heap ∧
        process'.signals = { process.signals with pending := false }) ∧
      ∀ {pointer mask}, action_to_restore = some (pointer, mask) →
        process.heap.deallocate pointer SIGSET_SIZE = some process'.heap ∧
          process'.signals = { process.signals with pending := false, mask := mask } := by
  obtain ⟨answers', errno', heq⟩ := waitForSigpipe_eq process.answers process
  unfold socketRestoreSigpipe at h
  rw [heq] at h
  rcases action_to_restore with _ | ⟨pointer, mask⟩
  · obtain ⟨rfl, rfl, rfl⟩ := Option.some.inj h
    exact ⟨rfl, rfl, rfl, rfl, rfl, rfl, fun _ => ⟨rfl, rfl⟩, by simp⟩
  · obtain ⟨heap, hheap, hresult⟩ := Option.map_eq_some_iff.mp h
    obtain ⟨rfl, rfl, rfl⟩ := hresult
    refine ⟨rfl, rfl, rfl, rfl, rfl, rfl, by simp, fun {pointer' mask'} hsaved => ?_⟩
    obtain ⟨rfl, rfl⟩ := Prod.mk.inj (Option.some.inj hsaved)
    exact ⟨hheap, by simp [Signals.setMask]⟩

end Seabolt
