import Seabolt.SocketRefinement

/-!
# Signals around the sockets

A call ignores SIGPIPE while it works on the socket and restores it at the end.  For the
thread this means: whatever the system calls answer, the mask is the same after each call,
and no SIGPIPE that a call raises is ever delivered.  A SIGPIPE that was pending before
the call, because the application blocks it, does not stay pending.
-/

namespace Seabolt

/-! ## Masks -/

namespace Signals

variable {signals : Signals} {mask : List Nat}

/-- What is pending is blocked. -/
def Held (signals : Signals) : Prop := signals.pending = true → SIGPIPE ∈ signals.mask

/-- Nothing is pending any more. -/
def cleared (signals : Signals) : Signals := { signals with pending := false }

theorem Held.cleared (signals : Signals) : signals.cleared.Held := by
  intro hpending
  cases hpending

theorem mem_blocking (mask : List Nat) : SIGPIPE ∈ blocking mask := by
  unfold blocking
  split_ifs with hmem
  · exact hmem
  · exact List.mem_cons_self

/-- A mask that blocks SIGPIPE delivers nothing. -/
theorem setMask_of_mem (h : SIGPIPE ∈ mask) :
    signals.setMask mask = { signals with mask := mask } := by
  simp [setMask, h]

/-- Nor does the mask from before. -/
theorem Held.setMask_self (h : signals.Held) (mask : List Nat) :
    Signals.setMask signals.mask { signals with mask := mask } = signals := by
  unfold setMask
  split_ifs with hdelivers
  · exact absurd (h hdelivers.1) hdelivers.2
  · rfl

end Signals

namespace PlainCommunication

variable {plain plain' plain1 plain2 : PlainCommunication} {status status' : Int}

/-! ## Ignoring and restoring -/

/-- SIGPIPE is blocked, and the mask from before is in a new block. -/
structure Ignores (plain plain' : PlainCommunication) : Prop where
  context : plain'.context = { plain.context with
    action_to_restore :=
      some ((plain.process.heap.allocate SIGSET_SIZE).1, plain.process.signals.mask) }
  heap : plain'.process.heap = (plain.process.heap.allocate SIGSET_SIZE).2
  signals : plain'.process.signals =
    { plain.process.signals with mask := Signals.blocking plain.process.signals.mask }
  sockets : plain'.process.sockets = plain.process.sockets
  opened : plain'.process.opened = plain.process.opened

/-- Nothing has happened but an error. -/
structure Untouched (plain plain' : PlainCommunication) : Prop where
  context : plain'.context = plain.context
  heap : plain'.process.heap = plain.process.heap
  signals : plain'.process.signals = plain.process.signals
  sockets : plain'.process.sockets = plain.process.sockets
  opened : plain'.process.opened = plain.process.opened

theorem ignoreSigpipe_ignores (hnone : plain.context.action_to_restore = none)
    (hheld : plain.process.signals.Held) :
    plain.ignoreSigpipe.1 = BOLT_SUCCESS ∧ Ignores plain plain.ignoreSigpipe.2 ∨
      plain.ignoreSigpipe.1 = BOLT_STATUS_SET ∧ Untouched plain plain.ignoreSigpipe.2 := by
  obtain ⟨-, -, hsockets, hopened, hcases⟩ :=
    socketIgnoreSigpipe_cases plain.context.action_to_restore plain.process
  unfold ignoreSigpipe
  rcases hignored : socketIgnoreSigpipe plain.context.action_to_restore plain.process with
    ⟨status, saved, process⟩
  simp only [hignored, Signals.setMask_of_mem (Signals.mem_blocking _)] at hsockets hopened hcases
  rcases hcases with ⟨rfl, rfl, hheap, hsignals⟩ | ⟨rfl, hsignals, hnew⟩
  · refine .inr ⟨rfl, rfl, hheap, ?_, hsockets, hopened⟩
    exact hsignals.trans (hheld.setMask_self _)
  · obtain ⟨rfl, hheap⟩ := hnew hnone
    exact .inl ⟨rfl, rfl, hheap, hsignals, hsockets, hopened⟩

/-- What is done while SIGPIPE is blocked: it may be raised, and the mask that is to be
restored stays where it is. -/
structure Works (plain plain' : PlainCommunication) : Prop where
  action : plain'.context.action_to_restore = plain.context.action_to_restore
  mask : plain'.process.signals.mask = plain.process.signals.mask
  delivered : SIGPIPE ∈ plain.process.signals.mask →
    plain'.process.signals.delivered = plain.process.signals.delivered

theorem Works.refl (plain : PlainCommunication) : Works plain plain := ⟨rfl, rfl, fun _ => rfl⟩

theorem Works.trans (h : Works plain plain1) (h' : Works plain1 plain') : Works plain plain' where
  action := h'.action.trans h.action
  mask := h'.mask.trans h.mask
  delivered hmem := (h'.delivered (by rwa [h.mask])).trans (h.delivered hmem)

/-- The mask is what it was, and nothing that was raised in between is left.  The block of
the mask has been returned. -/
theorem Ignores.restored (h : Ignores plain plain1) (hworks : Works plain1 plain2)
    (hrestored : plain2.restored status = some (status', plain')) :
    status' = status ∧ plain'.context = { plain2.context with action_to_restore := none } ∧
      plain'.process.signals = plain.process.signals.cleared ∧
      plain2.process.heap.deallocate (plain.process.heap.allocate SIGSET_SIZE).1 SIGSET_SIZE =
        some plain'.process.heap ∧
      plain'.process.sockets = plain2.process.sockets ∧
      plain'.process.opened = plain2.process.opened := by
  obtain ⟨rfl, hrestore⟩ := restored_eq hrestored
  have haction := hworks.action.trans
    (congrArg PlainCommunicationContext.action_to_restore h.context)
  have hdelivered := hworks.delivered (by rw [h.signals]; exact Signals.mem_blocking _)
  obtain ⟨⟨result, saved, process⟩, hsocket, hresult⟩ := Option.map_eq_some_iff.mp hrestore
  obtain ⟨rfl, rfl, -, -, hsockets, hopened, hcases⟩ := socketRestoreSigpipe_cases hsocket
  obtain ⟨-, rfl⟩ := Prod.mk.inj hresult
  obtain ⟨hheap, hsignals⟩ := hcases.2 haction
  refine ⟨rfl, rfl, hsignals.trans ?_, hheap, hsockets, hopened⟩
  rw [h.signals] at hdelivered
  simp only [hdelivered, Signals.cleared]

/-! ## Transfers -/

/-- The work of a transfer, which leaves the table and the memory alone. -/
structure Moves (plain plain' : PlainCommunication) : Prop extends Works plain plain' where
  context : plain'.context = plain.context
  heap : plain'.process.heap = plain.process.heap
  sockets : plain'.process.sockets = plain.process.sockets
  opened : plain'.process.opened = plain.process.opened

theorem Moves.refl (plain : PlainCommunication) : Moves plain plain :=
  ⟨.refl plain, rfl, rfl, rfl, rfl⟩

theorem Moves.trans (h : Moves plain plain1) (h' : Moves plain1 plain') : Moves plain plain' :=
  ⟨h.toWorks.trans h'.toWorks, h'.context.trans h.context, h'.heap.trans h.heap,
    h'.sockets.trans h.sockets, h'.opened.trans h.opened⟩

theorem transferFailed_moves (status : Int) (plain : PlainCommunication) :
    Moves plain (transferFailed status plain).2 := by
  unfold transferFailed
  split_ifs
  · exact .refl plain
  · exact ⟨⟨rfl, rfl, fun _ => rfl⟩, rfl, rfl, rfl, rfl⟩

theorem plainSocketSend_moves (buffer : List UInt8) (plain : PlainCommunication) :
    Moves plain (plain.plainSocketSend buffer).2.2 := by
  obtain ⟨-, hsockets, hopened, hheap, hsignals, -⟩ :=
    socketSend_cases plain.context.fd_socket buffer plain.process
  unfold plainSocketSend
  rcases hsend : socketSend plain.context.fd_socket buffer plain.process with ⟨sent, process⟩
  simp only [hsend] at hsockets hopened hheap hsignals
  have hworks : ∀ error, Works plain { plain with process := process, error := error } := by
    intro error
    rcases hsignals with hsame | hraised
    · exact ⟨rfl, congrArg Signals.mask hsame, fun _ => congrArg Signals.delivered hsame⟩
    · refine ⟨rfl, ?_, fun hmem => ?_⟩
      · show process.signals.mask = plain.process.signals.mask
        rw [hraised, Signals.raise]
        split_ifs <;> rfl
      · show process.signals.delivered = plain.process.signals.delivered
        rw [hraised, Signals.raise, if_pos hmem]
  dsimp only
  split_ifs
  · exact ⟨hworks _, rfl, hheap, hsockets, hopened⟩
  · exact ⟨hworks _, rfl, hheap, hsockets, hopened⟩

theorem plainSocketRecv_moves (length : Nat) (plain : PlainCommunication) :
    Moves plain (plain.plainSocketRecv length).2.2 := by
  obtain ⟨-, hsockets, hopened, hheap, hsignals, -⟩ :=
    socketRecv_cases plain.context.fd_socket length plain.process
  unfold plainSocketRecv
  rcases hrecv : socketRecv plain.context.fd_socket length plain.process with
    ⟨bytes, buffer, process⟩
  simp only [hrecv] at hsockets hopened hheap hsignals
  have hworks (error : Int) : Works plain { plain with process := process, error := error } :=
    ⟨rfl, congrArg Signals.mask hsignals, fun _ => congrArg Signals.delivered hsignals⟩
  dsimp only
  split_ifs
  · exact ⟨hworks _, rfl, hheap, hsockets, hopened⟩
  · exact ⟨hworks _, rfl, hheap, hsockets, hopened⟩
  · exact ⟨hworks _, rfl, hheap, hsockets, hopened⟩

theorem sendLoop_moves (rounds : Nat) : ∀ (bytes : List UInt8) (plain : PlainCommunication),
    Moves plain (sendLoop rounds bytes plain).2 := by
  induction rounds with
  | zero => exact fun _ plain => .refl plain
  | succ rounds ih =>
    intro bytes plain
    have hsend := plainSocketSend_moves bytes plain
    rcases hsent : plain.plainSocketSend bytes with ⟨status, sent, plain1⟩
    simp only [sendLoop, hsent] at hsend ⊢
    split_ifs
    · exact .refl plain
    · exact hsend.trans (ih _ _)
    · exact hsend.trans (transferFailed_moves _ _)

theorem receiveLoop_moves (rounds : Nat) :
    ∀ (missing maxRemaining : Nat) (plain : PlainCommunication),
    Moves plain (receiveLoop rounds missing maxRemaining plain).2.2 := by
  induction rounds with
  | zero => exact fun _ _ plain => .refl plain
  | succ rounds ih =>
    intro missing maxRemaining plain
    have hrecv := plainSocketRecv_moves maxRemaining plain
    rcases hreceived : plain.plainSocketRecv maxRemaining with ⟨status, bytes, plain1⟩
    simp only [receiveLoop, hreceived] at hrecv ⊢
    split_ifs
    · exact .refl plain
    · exact hrecv.trans (ih _ _ _)
    · exact hrecv.trans (transferFailed_moves _ _)

/-- What a transfer leaves behind.  If it has come as far as the socket, no SIGPIPE is
pending any more. -/
structure Transferred (plain : PlainCommunication) (status : Int) (plain' : PlainCommunication) :
    Prop where
  context : plain'.context = plain.context
  signals : plain'.process.signals = plain.process.signals.cleared ∨
    plain'.process.signals = plain.process.signals ∧ status = BOLT_STATUS_SET
  sockets : plain'.process.sockets = plain.process.sockets
  opened : plain'.process.opened = plain.process.opened
  account : ∀ {owned : List (Nat × Nat)}, plain.process.heap.Account owned →
    plain'.process.heap.Account owned

theorem Ignores.transferred (hnone : plain.context.action_to_restore = none)
    (h : Ignores plain plain1) (hmoves : Moves plain1 plain2)
    (hrestored : plain2.restored status = some (status', plain')) :
    Transferred plain status' plain' := by
  obtain ⟨-, hcontext, hsignals, hheap, hsockets, hopened⟩ := h.restored hmoves.toWorks hrestored
  refine ⟨?_, .inl hsignals, (hsockets.trans hmoves.sockets).trans h.sockets,
    (hopened.trans hmoves.opened).trans h.opened, fun {owned} haccount => ?_⟩
  · rw [hcontext, hmoves.context, h.context, ← hnone]
  · rw [hmoves.heap, h.heap] at hheap
    obtain ⟨heap, hheap', haccount'⟩ := (haccount.allocate SIGSET_SIZE).deallocate
    rwa [Option.some.inj (hheap.symm.trans hheap')]

theorem Untouched.transferred (h : Untouched plain plain') :
    Transferred plain BOLT_STATUS_SET plain' where
  context := h.context
  signals := .inr ⟨h.signals, rfl⟩
  sockets := h.sockets
  opened := h.opened
  account haccount := by rwa [h.heap]

theorem send_transferred (hnone : plain.context.action_to_restore = none)
    (hheld : plain.process.signals.Held) {bytes : List UInt8} (hbytes : bytes ≠ [])
    (h : plain.send bytes = some (status, plain')) : Transferred plain status plain' := by
  unfold send at h
  rw [if_neg hbytes] at h
  rcases hignored : plain.ignoreSigpipe with ⟨ignored, plain1⟩
  have hcases := ignoreSigpipe_ignores hnone hheld
  simp only [hignored] at h hcases
  rcases hcases with ⟨rfl, hignores⟩ | ⟨rfl, huntouched⟩
  · exact hignores.transferred hnone (sendLoop_moves _ _ _) h
  · obtain ⟨rfl, rfl⟩ := Prod.mk.inj (Option.some.inj h)
    exact huntouched.transferred

theorem receive_transferred (hnone : plain.context.action_to_restore = none)
    (hheld : plain.process.signals.Held) {minSize maxSize : Nat} (hsize : minSize ≠ 0)
    {bytes : List UInt8} (h : plain.receive minSize maxSize = some (status, bytes, plain')) :
    Transferred plain status plain' := by
  unfold receive at h
  rw [if_neg hsize] at h
  rcases hignored : plain.ignoreSigpipe with ⟨ignored, plain1⟩
  have hcases := ignoreSigpipe_ignores hnone hheld
  simp only [hignored] at h hcases
  rcases hcases with ⟨rfl, hignores⟩ | ⟨rfl, huntouched⟩
  · simp only [ne_eq, not_true_eq_false, if_false] at h
    obtain ⟨⟨status1, plain2⟩, hrestored, hresult⟩ := Option.map_eq_some_iff.mp h
    simp only [Prod.mk.injEq] at hresult
    obtain ⟨rfl, -, rfl⟩ := hresult
    exact hignores.transferred hnone (receiveLoop_moves _ _ _ _) hrestored
  · simp only [tryComm, ne_eq, show ¬(BOLT_STATUS_SET = BOLT_SUCCESS) by decide, not_false_eq_true,
      if_true, Option.some.injEq, Prod.mk.injEq] at h
    obtain ⟨rfl, -, rfl⟩ := h
    exact huntouched.transferred

/-! ## Opening and closing -/

/-- Opening leaves the signals alone, however many hosts are tried. -/
theorem openAddress_signals {hosts : List Bool}
    (h : plain.openAddress hosts = some (status, plain')) :
    plain'.context.action_to_restore = plain.context.action_to_restore ∧
      plain'.process.signals = plain.process.signals := by
  refine openAddress_related (R := fun plain plain' =>
    plain'.context.action_to_restore = plain.context.action_to_restore ∧
      plain'.process.signals = plain.process.signals) ?_ ?_ ?_ ?_ h
  · exact fun plain => ⟨rfl, rfl⟩
  · exact fun hfirst hrest => ⟨hrest.1.trans hfirst.1, hrest.2.trans hfirst.2⟩
  · exact fun hattempted => ⟨hattempted.action, hattempted.keeps.signals⟩
  · exact fun plain error => ⟨rfl, rfl⟩

theorem destroyAddress_eq {endpoint : Option Nat} {process process' : Process}
    (h : destroyAddress endpoint process = some process') :
    ∃ heap, process' = { process with heap := heap } := by
  cases endpoint with
  | none => exact ⟨process.heap, (Option.some.inj h).symm⟩
  | some pointer =>
    obtain ⟨heap, -, rfl⟩ := Option.map_eq_some_iff.mp h
    exact ⟨heap, rfl⟩

theorem plainSocketClose_works (h : plain.plainSocketClose = some (status, plain')) :
    status = BOLT_SUCCESS ∧ Works plain plain' := by
  obtain ⟨plain1, hdestroyed, hresult⟩ := Option.map_eq_some_iff.mp h
  obtain ⟨rfl, rfl⟩ := Prod.mk.inj hresult
  refine ⟨rfl, ?_⟩
  simp only [destroyEndpoints, Option.bind_eq_bind, Option.bind_eq_some_iff, Option.some.injEq]
    at hdestroyed
  obtain ⟨process1, hlocal, process2, hremote, rfl⟩ := hdestroyed
  obtain ⟨heap1, rfl⟩ := destroyAddress_eq hlocal
  obtain ⟨heap2, rfl⟩ := destroyAddress_eq hremote
  split_ifs
  · exact ⟨rfl, rfl, fun _ => rfl⟩
  · exact ⟨rfl, rfl, fun _ => rfl⟩

theorem close_signals (hnone : plain.context.action_to_restore = none)
    (hheld : plain.process.signals.Held) (h : plain.close = some (status, plain')) :
    plain'.context.action_to_restore = none ∧
      (plain'.process.signals = plain.process.signals.cleared ∨
        plain'.process.signals = plain.process.signals ∧ status = BOLT_STATUS_SET) := by
  unfold close at h
  rcases hignored : plain.ignoreSigpipe with ⟨ignored, plain1⟩
  have hcases := ignoreSigpipe_ignores hnone hheld
  simp only [hignored] at h hcases
  rcases hcases with ⟨rfl, hignores⟩ | ⟨rfl, huntouched⟩
  · rw [if_neg (by simp)] at h
    rcases hclose : plain1.plainSocketClose with _ | ⟨result, plain2⟩
    · simp only [hclose] at h
      cases h
    · obtain ⟨rfl, hworks⟩ := plainSocketClose_works hclose
      simp only [hclose, ne_eq, not_true_eq_false, if_false] at h
      obtain ⟨-, hcontext, hsignals, -⟩ := hignores.restored hworks h
      exact ⟨by rw [hcontext], .inl hsignals⟩
  · obtain ⟨rfl, rfl⟩ := Prod.mk.inj (Option.some.inj h)
    refine ⟨?_, .inr ⟨huntouched.signals, rfl⟩⟩
    exact (congrArg PlainCommunicationContext.action_to_restore huntouched.context).trans hnone

/-! ## Runs -/

/-- A use of a communication. -/
inductive Use where
  | call (call : Call)
  | close

/-- The use works on the socket, if it can ignore SIGPIPE. -/
def Use.Guarded : Use → Prop
  | .call (.openAddress _) => False
  | .call (.send bytes) => bytes ≠ []
  | .call (.receive minSize _) => minSize ≠ 0
  | .close => True

/-- A use, with what it returns. -/
def use : Runs.Step Use PlainCommunication (Int × List UInt8)
  | .call call, plain => step call plain
  | .close, plain => plain.close.map fun (status, plain) => ((status, []), plain)

theorem use_signals {action : Use} {result : Int × List UInt8}
    (hnone : plain.context.action_to_restore = none) (hheld : plain.process.signals.Held)
    (h : use action plain = some (result, plain')) :
    plain'.context.action_to_restore = none ∧
      (plain'.process.signals = plain.process.signals.cleared ∨
        plain'.process.signals = plain.process.signals ∧
          (action.Guarded → result.1 = BOLT_STATUS_SET)) := by
  have htransfer : ∀ {status}, Transferred plain status plain' → result.1 = status →
      plain'.context.action_to_restore = none ∧
        (plain'.process.signals = plain.process.signals.cleared ∨
          plain'.process.signals = plain.process.signals ∧
            (action.Guarded → result.1 = BOLT_STATUS_SET)) := by
    intro status htransferred hstatus
    refine ⟨by rw [htransferred.context, hnone], ?_⟩
    rcases htransferred.signals with hcleared | ⟨hsame, hset⟩
    · exact .inl hcleared
    · exact .inr ⟨hsame, fun _ => hstatus.trans hset⟩
  cases action with
  | call call =>
    cases call with
    | openAddress hosts =>
      obtain ⟨⟨status, plain1⟩, hopen, hresult⟩ := Option.map_eq_some_iff.mp h
      obtain ⟨-, rfl⟩ := Prod.mk.inj hresult
      obtain ⟨haction, hsignals⟩ := openAddress_signals hopen
      exact ⟨haction.trans hnone, .inr ⟨hsignals, False.elim⟩⟩
    | send bytes =>
      obtain ⟨⟨status, plain1⟩, hsend, hresult⟩ := Option.map_eq_some_iff.mp h
      obtain ⟨rfl, rfl⟩ := Prod.mk.inj hresult
      by_cases hempty : bytes = []
      · rw [PlainCommunication.send, if_pos hempty] at hsend
        obtain ⟨-, rfl⟩ := Prod.mk.inj (Option.some.inj hsend)
        exact ⟨hnone, .inr ⟨rfl, fun hguarded => absurd hempty hguarded⟩⟩
      · exact htransfer (send_transferred hnone hheld hempty hsend) rfl
    | receive minSize maxSize =>
      obtain ⟨⟨status, bytes, plain1⟩, hreceive, hresult⟩ := Option.map_eq_some_iff.mp h
      obtain ⟨rfl, rfl⟩ := Prod.mk.inj hresult
      by_cases hzero : minSize = 0
      · rw [PlainCommunication.receive, if_pos hzero] at hreceive
        obtain ⟨-, -, rfl⟩ := Option.some.inj hreceive
        exact ⟨hnone, .inr ⟨rfl, fun hguarded => absurd hzero hguarded⟩⟩
      · exact htransfer (receive_transferred hnone hheld hzero hreceive) rfl
  | close =>
    obtain ⟨⟨status, plain1⟩, hclose, hresult⟩ := Option.map_eq_some_iff.mp h
    obtain ⟨rfl, rfl⟩ := Prod.mk.inj hresult
    obtain ⟨haction, hcases⟩ := close_signals hnone hheld hclose
    refine ⟨haction, ?_⟩
    rcases hcases with hcleared | ⟨hsame, hset⟩
    · exact .inl hcleared
    · exact .inr ⟨hsame, fun _ => hset⟩

/-- In any run of calls the thread blocks the same signals after as before it, and no
SIGPIPE has been delivered to it.  One that was pending may be gone, and it is gone when a
send, a receive or a close has worked on the socket and succeeded. -/
theorem uses_signals (uses : List Use) : ∀ {plain : PlainCommunication}
    {results : List (Int × List UInt8)}, plain.context.action_to_restore = none →
      plain.process.signals.Held → Runs.run use uses plain = some (results, plain') →
      plain'.context.action_to_restore = none ∧
        (plain'.process.signals = plain.process.signals.cleared ∨
          plain'.process.signals = plain.process.signals ∧
            ∀ entry ∈ uses.zip results, entry.1.Guarded → entry.2.1 = BOLT_STATUS_SET) := by
  induction uses with
  | nil =>
    intro plain results hnone _ hrun
    obtain ⟨rfl, rfl⟩ := Prod.mk.inj (Option.some.inj hrun)
    exact ⟨hnone, .inr ⟨rfl, by simp⟩⟩
  | cons action uses ih =>
    intro plain results hnone hheld hrun
    obtain ⟨result, plain1, results1, hstep, hrest, rfl⟩ := Runs.run_uncons hrun
    obtain ⟨hnone1, hfirst⟩ := use_signals hnone hheld hstep
    have hheld1 : plain1.process.signals.Held := by
      rcases hfirst with hcleared | ⟨hsame, -⟩
      · rw [hcleared]
        exact .cleared _
      · rwa [hsame]
    obtain ⟨hnone', hothers⟩ := ih hnone1 hheld1 hrest
    refine ⟨hnone', ?_⟩
    rcases hfirst with hcleared | ⟨hsame, hset⟩
    · rw [hcleared] at hothers
      rcases hothers with hcleared' | ⟨hsame', -⟩
      · exact .inl hcleared'
      · exact .inl hsame'
    · rw [hsame] at hothers
      rcases hothers with hcleared' | ⟨hsame', hset'⟩
      · exact .inl hcleared'
      · refine .inr ⟨hsame', ?_⟩
        simp only [List.zip_cons_cons, List.forall_mem_cons]
        exact ⟨hset, hset'⟩

/-- The peer is gone, and the thread does not block SIGPIPE. -/
theorem uses_signals_peer_gone :
    let process : Process :=
      { answers := List.replicate 9 (.succeed 0) ++ [.fail .EPIPE], errno := .other 0, sockets := []
        opened := [], signals := ⟨[], false, 0⟩, heap := [], incoming := [], outgoing := [] }
    let uses : List Use := [.call (.openAddress [true]), .call (.send [1]), .close]
    ∃ (results : List (Int × List UInt8)) (plain' : PlainCommunication),
      Runs.run use uses (create ⟨0, 0, 0⟩ process) = some (results, plain') ∧
        results.map Prod.fst = [0, BOLT_STATUS_SET, 0] ∧
        plain'.process.signals = ⟨[], false, 0⟩ := by
  intro process uses
  have hrun : (Runs.run use uses (create ⟨0, 0, 0⟩ process)).map (fun run => run.1.map Prod.fst) =
      some [0, BOLT_STATUS_SET, 0] := by
    decide +kernel
  obtain ⟨⟨results, plain'⟩, hdone, hresults⟩ := Option.map_eq_some_iff.mp hrun
  obtain ⟨-, hcases⟩ := uses_signals uses rfl (by simp [Signals.Held, create, process]) hdone
  refine ⟨results, plain', hdone, hresults, ?_⟩
  rcases hcases with hcleared | ⟨hsame, -⟩
  · exact hcleared
  · exact hsame

end PlainCommunication

end Seabolt
