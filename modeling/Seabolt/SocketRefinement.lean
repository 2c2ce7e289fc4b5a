import Seabolt.SocketOpening

/-!
# Sockets behind the scripts

A `BoltCommunication` follows scripts that say what its transport does.  Over plain
sockets the system calls decide that.  `run_scripted` says that the scripts leave
nothing out: whatever a run of calls over sockets does, there are scripts with which
the same calls return the same statuses and bytes, record the same errors and leave
the same bytes on either side.

What a script must say is known when the call has been made, so the scripts are put
together from the end of the run to its front.
-/

namespace Seabolt

namespace PlainCommunication

/-- The error and the bytes are the same. -/
structure Abstracts (plain : PlainCommunication) (comm : BoltCommunication) : Prop where
  error : comm.error = plain.error
  incoming : comm.incoming = plain.process.incoming
  outgoing : comm.outgoing = plain.process.outgoing

/-- Whatever the scripts behind the call are, with some scripts in front of it the call
of the scripted communication has the result. -/
def Mirrored {α : Type} (plain plain' : PlainCommunication) (call result : BoltCommunication → α) :
    Prop :=
  ∀ comm', plain'.Abstracts comm' → ∃ comm, plain.Abstracts comm ∧ call comm = result comm'

/-- The status that a transport function reports. -/
def statusOf : Option Failure → Int
  | none => BOLT_SUCCESS
  | some (.code error) => error
  | some (.statusSet _) => BOLT_STATUS_SET

/-- A transport function has moved no bytes, and has recorded its failure. -/
structure Reports (plain : PlainCommunication) (failure : Option Failure)
    (plain' : PlainCommunication) : Prop where
  incoming : plain'.process.incoming = plain.process.incoming
  outgoing : plain'.process.outgoing = plain.process.outgoing
  error : plain'.error =
    match failure with
    | some (.statusSet error) => error
    | _ => plain.error

variable {plain plain' : PlainCommunication} {failure : Option Failure} {status : Int}

/-- The scripted communication reports the same. -/
theorem Reports.report (h : Reports plain failure plain') {comm' : BoltCommunication}
    (hcomm : plain'.Abstracts comm') :
    plain.Abstracts { comm' with error := plain.error } ∧
      BoltCommunication.report { comm' with error := plain.error } failure =
        (statusOf failure, comm') := by
  refine ⟨⟨rfl, hcomm.incoming.trans h.incoming, hcomm.outgoing.trans h.outgoing⟩, ?_⟩
  have herror := hcomm.error.trans h.error
  rcases failure with _ | ⟨error⟩ | ⟨error⟩
  · dsimp only at herror
    rw [← herror]
    rfl
  · dsimp only at herror
    rw [← herror]
    rfl
  · dsimp only at herror
    simp only [BoltCommunication.report, BoltCommunication.failWith, statusOf, ← herror]

/-! ## SIGPIPE -/

theorem ignoreSigpipe_reports (plain : PlainCommunication) :
    ∃ failure, plain.ignoreSigpipe.1 = statusOf failure ∧
      Reports plain failure plain.ignoreSigpipe.2 := by
  obtain ⟨hincoming, houtgoing, -, -, hcases⟩ :=
    socketIgnoreSigpipe_cases plain.context.action_to_restore plain.process
  unfold ignoreSigpipe
  rcases hignored : socketIgnoreSigpipe plain.context.action_to_restore plain.process with
    ⟨status, saved, process⟩
  simp only [hignored] at hincoming houtgoing hcases
  rcases hcases with ⟨rfl, -⟩ | ⟨rfl, -⟩
  · exact ⟨some (.statusSet (lastError process.errno)), rfl, hincoming, houtgoing, rfl⟩
  · exact ⟨none, rfl, hincoming, houtgoing, rfl⟩

theorem ignoreSigpipe_mirrored (plain : PlainCommunication) :
    Mirrored plain plain.ignoreSigpipe.2 BoltCommunication.ignoreSigpipe
      fun comm' => (plain.ignoreSigpipe.1, comm') := by
  intro comm' hcomm
  obtain ⟨failure, hstatus, hreports⟩ := plain.ignoreSigpipe_reports
  obtain ⟨habstracts, hreport⟩ := hreports.report hcomm
  refine ⟨{ comm' with error := plain.error, ignoreScript := failure :: comm'.ignoreScript },
    ⟨rfl, habstracts.incoming, habstracts.outgoing⟩, ?_⟩
  rw [hstatus]
  exact hreport

theorem restoreSigpipe_reports (h : plain.restoreSigpipe = some (status, plain')) :
    status = BOLT_SUCCESS ∧ Reports plain none plain' := by
  obtain ⟨⟨restored, saved, process⟩, hrestore, hresult⟩ := Option.map_eq_some_iff.mp h
  obtain ⟨rfl, -, hincoming, houtgoing, -⟩ := socketRestoreSigpipe_cases hrestore
  obtain ⟨rfl, rfl⟩ := Prod.mk.inj hresult
  exact ⟨rfl, hincoming, houtgoing, rfl⟩

theorem restoreSigpipe_mirrored (h : plain.restoreSigpipe = some (status, plain')) :
    Mirrored plain plain' BoltCommunication.restoreSigpipe fun comm' => (status, comm') := by
  intro comm' hcomm
  obtain ⟨rfl, hreports⟩ := restoreSigpipe_reports h
  obtain ⟨habstracts, hreport⟩ := hreports.report hcomm
  exact ⟨{ comm' with error := plain.error, restoreScript := none :: comm'.restoreScript },
    ⟨rfl, habstracts.incoming, habstracts.outgoing⟩, hreport⟩

/-! ## Transfers -/

/-- A transport function that records an error is a step of a script. -/
theorem abstracts_failed {errno : Errno} {process : Process} {comm' : BoltCommunication}
    (hincoming : process.incoming = plain.process.incoming)
    (houtgoing : process.outgoing = plain.process.outgoing)
    (hcomm : Abstracts { plain with error := lastError errno, process := process } comm') :
    plain.Abstracts { comm' with error := plain.error } ∧
      BoltCommunication.failWith { comm' with error := plain.error } (.statusSet (lastError errno)) =
        (BOLT_STATUS_SET, comm') := by
  refine ⟨⟨rfl, hcomm.incoming.trans hincoming, hcomm.outgoing.trans houtgoing⟩, ?_⟩
  have herror : comm'.error = lastError errno := hcomm.error
  rw [BoltCommunication.failWith, ← herror]

/-- A call of `plain_socket_recv` is a step of a script. -/
theorem plainSocketRecv_mirrored (plain : PlainCommunication) {length : Nat} (hlength : 0 < length) :
    Mirrored plain (plain.plainSocketRecv length).2.2 (BoltCommunication.recv · length)
      fun comm' => ((plain.plainSocketRecv length).1, (plain.plainSocketRecv length).2.1, comm') := by
  intro comm' hcomm
  obtain ⟨houtgoing, -, -, -, -, hcases⟩ :=
    socketRecv_cases plain.context.fd_socket length plain.process
  unfold plainSocketRecv at hcomm ⊢
  rcases hrecv : socketRecv plain.context.fd_socket length plain.process with ⟨bytes, buffer, process⟩
  simp only [hrecv] at houtgoing hcases hcomm ⊢
  rcases hcases with ⟨rfl, -, hincoming⟩ | ⟨value, count, hcount, rfl, rfl, hincoming⟩
  · simp only [if_true] at hcomm ⊢
    obtain ⟨habstracts, hfail⟩ := abstracts_failed hincoming houtgoing hcomm
    refine ⟨{ comm' with
      error := plain.error
      recvScript := .fail (.statusSet (lastError process.errno)) :: comm'.recvScript },
      ⟨rfl, habstracts.incoming, habstracts.outgoing⟩, ?_⟩
    simp only [BoltCommunication.recv, hfail]
    rfl
  have hnonneg : ((count : Nat) : Int) ≠ -1 := by omega
  simp only [hnonneg, if_false] at hcomm ⊢
  by_cases hend : plain.process.incoming = []
  · obtain rfl : count = 0 := by simp [hcount, hend]
    simp only [Nat.cast_zero, true_and, ne_eq, Nat.ne_of_gt hlength, not_false_eq_true, if_true,
      fail] at hcomm ⊢
    have herror : comm'.error = BOLT_END_OF_TRANSMISSION := hcomm.error
    have hleft : comm'.incoming = [] := hcomm.incoming.trans (by rw [hincoming, hend, List.drop_nil])
    refine ⟨{ comm' with error := plain.error, recvScript := .move 0 :: comm'.recvScript },
      ⟨rfl, hleft.trans hend.symm, hcomm.outgoing.trans houtgoing⟩, ?_⟩
    simp only [BoltCommunication.recv, BoltCommunication.deliver, hleft, if_true]
    rw [← herror, ← hleft]
  · have hpos := List.length_pos_iff.mpr hend
    have hsome : ((count : Nat) : Int) ≠ 0 := by omega
    simp only [hsome, false_and, if_false] at hcomm ⊢
    refine ⟨{ comm' with
      error := plain.error
      incoming := plain.process.incoming
      recvScript := .move value :: comm'.recvScript },
      ⟨rfl, rfl, hcomm.outgoing.trans houtgoing⟩, ?_⟩
    have herror : comm'.error = plain.error := hcomm.error
    have hleft : comm'.incoming = plain.process.incoming.drop count := hcomm.incoming.trans hincoming
    have htake : plain.process.incoming.take (max 1 (min value length)) =
        plain.process.incoming.take count := by
      rw [List.take_eq_take_iff]
      omega
    have hdrop : plain.process.incoming.drop (max 1 (min value length)) =
        plain.process.incoming.drop count := by
      rw [List.drop_eq_drop_iff]
      omega
    simp only [BoltCommunication.recv, BoltCommunication.deliver, hend, if_false, htake, hdrop]
    rw [← herror, ← hleft]

/-- A call of `plain_socket_send` is a step of a script. -/
theorem plainSocketSend_mirrored (plain : PlainCommunication) {bytes : List UInt8}
    (hbytes : bytes ≠ []) :
    Mirrored plain (plain.plainSocketSend bytes).2.2 (BoltCommunication.send1 · bytes)
      fun comm' => ((plain.plainSocketSend bytes).1, (plain.plainSocketSend bytes).2.1, comm') := by
  intro comm' hcomm
  have hpos := List.length_pos_iff.mpr hbytes
  obtain ⟨hincoming, -, -, -, -, hcases⟩ :=
    socketSend_cases plain.context.fd_socket bytes plain.process
  unfold plainSocketSend at hcomm ⊢
  rcases hsend : socketSend plain.context.fd_socket bytes plain.process with ⟨sent, process⟩
  simp only [hsend] at hincoming hcases hcomm ⊢
  rcases hcases with ⟨rfl, houtgoing⟩ | ⟨value, rfl, houtgoing⟩
  · simp only [if_true] at hcomm ⊢
    obtain ⟨habstracts, hfail⟩ := abstracts_failed hincoming houtgoing hcomm
    refine ⟨{ comm' with
      error := plain.error
      sendScript := .fail (.statusSet (lastError process.errno)) :: comm'.sendScript },
      ⟨rfl, habstracts.incoming, habstracts.outgoing⟩, ?_⟩
    simp only [BoltCommunication.send1, hfail]
    rfl
  · have hnonneg : ((min (max 1 value) bytes.length : Nat) : Int) ≠ -1 := by omega
    simp only [hnonneg, if_false, Int.toNat_natCast] at hcomm ⊢
    refine ⟨{ comm' with
      error := plain.error
      outgoing := plain.process.outgoing
      sendScript := .move value :: comm'.sendScript },
      ⟨rfl, hcomm.incoming.trans hincoming, rfl⟩, ?_⟩
    have herror : comm'.error = plain.error := hcomm.error
    have hcount : max 1 (min value bytes.length) = min (max 1 value) bytes.length := by omega
    have hmore : comm'.outgoing =
        plain.process.outgoing ++ bytes.take (min (max 1 value) bytes.length) :=
      hcomm.outgoing.trans houtgoing
    simp only [BoltCommunication.send1, hcount]
    rw [← herror, ← hmore]

theorem plainSocketRecv_status (plain : PlainCommunication) (length : Nat) :
    (plain.plainSocketRecv length).1 = BOLT_SUCCESS ∨
      (plain.plainSocketRecv length).1 = BOLT_STATUS_SET := by
  unfold plainSocketRecv
  rcases socketRecv plain.context.fd_socket length plain.process with ⟨bytes, buffer, process⟩
  dsimp only
  split_ifs
  · exact .inr rfl
  · exact .inr rfl
  · exact .inl rfl

theorem plainSocketSend_status (plain : PlainCommunication) (bytes : List UInt8) :
    (plain.plainSocketSend bytes).1 = BOLT_SUCCESS ∨
      (plain.plainSocketSend bytes).1 = BOLT_STATUS_SET := by
  unfold plainSocketSend
  rcases socketSend plain.context.fd_socket bytes plain.process with ⟨sent, process⟩
  dsimp only
  split_ifs
  · exact .inr rfl
  · exact .inl rfl

theorem receiveLoop_mirrored (rounds : Nat) : ∀ {missing maxRemaining : Nat}
    (plain : PlainCommunication), missing ≤ maxRemaining →
      Mirrored plain (receiveLoop rounds missing maxRemaining plain).2.2
        (BoltCommunication.receiveLoop rounds missing maxRemaining)
        fun comm' => ((receiveLoop rounds missing maxRemaining plain).1,
          (receiveLoop rounds missing maxRemaining plain).2.1, comm') := by
  induction rounds with
  | zero => exact fun plain _ comm' hcomm => ⟨comm', hcomm, rfl⟩
  | succ rounds ih =>
    intro missing maxRemaining plain hle comm' hcomm
    by_cases hzero : missing = 0
    · simp only [receiveLoop, hzero, if_true] at hcomm ⊢
      refine ⟨comm', hcomm, ?_⟩
      simp only [BoltCommunication.receiveLoop, if_true]
    have hrecv := plain.plainSocketRecv_mirrored (show 0 < maxRemaining by omega)
    have hstatus := plain.plainSocketRecv_status maxRemaining
    simp only [receiveLoop, hzero, if_false] at hcomm ⊢
    rcases hplain : plain.plainSocketRecv maxRemaining with ⟨status, bytes, plain1⟩
    simp only [hplain] at hrecv hstatus hcomm ⊢
    rcases hstatus with rfl | rfl
    · have hrest := ih plain1 (Nat.sub_le_sub_right hle bytes.length)
      simp only [if_true] at hcomm ⊢
      obtain ⟨comm1, hcomm1, hloop⟩ := hrest comm' hcomm
      obtain ⟨comm, hcomm0, hfirst⟩ := hrecv comm1 hcomm1
      refine ⟨comm, hcomm0, ?_⟩
      simp only [BoltCommunication.receiveLoop, hzero, if_false, hfirst, if_true, hloop]
    · simp only [transferFailed] at hcomm ⊢
      obtain ⟨comm, hcomm0, hfirst⟩ := hrecv comm' hcomm
      refine ⟨comm, hcomm0, ?_⟩
      simp only [BoltCommunication.receiveLoop, hzero, if_false, hfirst,
        BoltCommunication.transferFailed]
      rfl

theorem sendLoop_mirrored (rounds : Nat) : ∀ {bytes : List UInt8} (plain : PlainCommunication),
    Mirrored plain (sendLoop rounds bytes plain).2 (BoltCommunication.sendLoop rounds bytes)
      fun comm' => ((sendLoop rounds bytes plain).1, comm') := by
  induction rounds with
  | zero => exact fun plain comm' hcomm => ⟨comm', hcomm, rfl⟩
  | succ rounds ih =>
    intro bytes plain comm' hcomm
    by_cases hempty : bytes = []
    · simp only [sendLoop, hempty, if_true] at hcomm ⊢
      refine ⟨comm', hcomm, ?_⟩
      simp only [BoltCommunication.sendLoop, if_true]
    have hsend := plain.plainSocketSend_mirrored hempty
    have hstatus := plain.plainSocketSend_status bytes
    simp only [sendLoop, hempty, if_false] at hcomm ⊢
    rcases hplain : plain.plainSocketSend bytes with ⟨status, sent, plain1⟩
    simp only [hplain] at hsend hstatus hcomm ⊢
    rcases hstatus with rfl | rfl
    · simp only [if_true] at hcomm ⊢
      obtain ⟨comm1, hcomm1, hloop⟩ := ih plain1 comm' hcomm
      obtain ⟨comm, hcomm0, hfirst⟩ := hsend comm1 hcomm1
      refine ⟨comm, hcomm0, ?_⟩
      simp only [BoltCommunication.sendLoop, hempty, if_false, hfirst, if_true, hloop]
    · simp only [transferFailed] at hcomm ⊢
      obtain ⟨comm, hcomm0, hfirst⟩ := hsend comm' hcomm
      refine ⟨comm, hcomm0, ?_⟩
      simp only [BoltCommunication.sendLoop, hempty, if_false, hfirst,
        BoltCommunication.transferFailed]
      rfl

/-! ## Calls -/

theorem ignoreSigpipe_status (plain : PlainCommunication) :
    plain.ignoreSigpipe.1 = BOLT_SUCCESS ∨ plain.ignoreSigpipe.1 = BOLT_STATUS_SET := by
  unfold ignoreSigpipe
  rcases socketIgnoreSigpipe plain.context.action_to_restore plain.process with
    ⟨status, saved, process⟩
  dsimp only
  split_ifs
  · exact .inr rfl
  · exact .inl rfl

/-- Restoring SIGPIPE does not change the status of the call. -/
theorem restored_eq {status' : Int} (h : plain.restored status = some (status', plain')) :
    status' = status ∧ plain.restoreSigpipe = some (BOLT_SUCCESS, plain') := by
  unfold restored at h
  obtain ⟨⟨result, plain1⟩, hrestore, hresult⟩ := Option.map_eq_some_iff.mp h
  obtain ⟨rfl, -⟩ := restoreSigpipe_reports hrestore
  obtain ⟨rfl, rfl⟩ := Prod.mk.inj hresult
  exact ⟨rfl, hrestore⟩

theorem send_mirrored {bytes : List UInt8} (h : plain.send bytes = some (status, plain')) :
    Mirrored plain plain' (BoltCommunication.send · bytes) fun comm' => (status, comm') := by
  intro comm' hcomm
  unfold send at h
  by_cases hempty : bytes = []
  · rw [if_pos hempty] at h
    obtain ⟨rfl, rfl⟩ := Prod.mk.inj (Option.some.inj h)
    exact ⟨comm', hcomm, by simp only [BoltCommunication.send, hempty, if_true]⟩
  rw [if_neg hempty] at h
  have hignore := plain.ignoreSigpipe_mirrored
  have hstatus := plain.ignoreSigpipe_status
  rcases hignored : plain.ignoreSigpipe with ⟨ignored, plain1⟩
  simp only [hignored] at h hignore hstatus
  rcases hstatus with rfl | rfl
  · simp only [ne_eq, not_true_eq_false, if_false] at h
    have hloop := @sendLoop_mirrored bytes.length bytes plain1
    obtain ⟨rfl, hrestore⟩ := restored_eq h
    obtain ⟨comm2, hcomm2, hrestored⟩ := restoreSigpipe_mirrored hrestore comm' hcomm
    obtain ⟨comm1, hcomm1, hsent⟩ := hloop comm2 hcomm2
    obtain ⟨comm, hcomm0, hfirst⟩ := hignore comm1 hcomm1
    refine ⟨comm, hcomm0, ?_⟩
    simp only [BoltCommunication.send, hempty, if_false, hfirst, ne_eq, not_true_eq_false, hsent,
      hrestored]
  · simp only [ne_eq, show ¬(BOLT_STATUS_SET = BOLT_SUCCESS) by decide, not_false_eq_true, if_true,
      tryComm, Option.some.injEq, Prod.mk.injEq] at h
    obtain ⟨rfl, rfl⟩ := h
    obtain ⟨comm, hcomm0, hfirst⟩ := hignore comm' hcomm
    refine ⟨comm, hcomm0, ?_⟩
    simp only [BoltCommunication.send, hempty, if_false, hfirst, ne_eq,
      show ¬(BOLT_STATUS_SET = BOLT_SUCCESS) by decide, not_false_eq_true, if_true,
      BoltCommunication.tryComm]

theorem receive_mirrored {minSize maxSize : Nat} {bytes : List UInt8} (hle : minSize ≤ maxSize)
    (h : plain.receive minSize maxSize = some (status, bytes, plain')) :
    Mirrored plain plain' (BoltCommunication.receive · minSize maxSize)
      fun comm' => (status, bytes, comm') := by
  intro comm' hcomm
  unfold receive at h
  by_cases hzero : minSize = 0
  · rw [if_pos hzero] at h
    obtain ⟨rfl, rfl, rfl⟩ := Option.some.inj h
    exact ⟨comm', hcomm, by simp only [BoltCommunication.receive, hzero, if_true]⟩
  rw [if_neg hzero] at h
  have hignore := plain.ignoreSigpipe_mirrored
  have hstatus := plain.ignoreSigpipe_status
  rcases hignored : plain.ignoreSigpipe with ⟨ignored, plain1⟩
  simp only [hignored] at h hignore hstatus
  rcases hstatus with rfl | rfl
  · simp only [ne_eq, not_true_eq_false, if_false] at h
    have hloop := receiveLoop_mirrored minSize plain1 hle
    obtain ⟨⟨status', plain2⟩, hrestored, hresult⟩ := Option.map_eq_some_iff.mp h
    obtain ⟨rfl, hrestore⟩ := restored_eq hrestored
    simp only [Prod.mk.injEq] at hresult
    obtain ⟨rfl, rfl, rfl⟩ := hresult
    obtain ⟨comm2, hcomm2, hrestored⟩ := restoreSigpipe_mirrored hrestore comm' hcomm
    obtain ⟨comm1, hcomm1, hreceived⟩ := hloop comm2 hcomm2
    obtain ⟨comm, hcomm0, hfirst⟩ := hignore comm1 hcomm1
    refine ⟨comm, hcomm0, ?_⟩
    simp only [BoltCommunication.receive, hzero, if_false, hfirst, ne_eq, not_true_eq_false,
      hreceived, hrestored]
  · simp only [ne_eq, show ¬(BOLT_STATUS_SET = BOLT_SUCCESS) by decide, not_false_eq_true, if_true,
      tryComm, Option.some.injEq, Prod.mk.injEq] at h
    obtain ⟨rfl, rfl, rfl⟩ := h
    obtain ⟨comm, hcomm0, hfirst⟩ := hignore comm' hcomm
    refine ⟨comm, hcomm0, ?_⟩
    simp only [BoltCommunication.receive, hzero, if_false, hfirst, ne_eq,
      show ¬(BOLT_STATUS_SET = BOLT_SUCCESS) by decide, not_false_eq_true, if_true,
      BoltCommunication.tryComm]

/-! ## Opening -/

theorem openHost_mirrored (h : plain.openHost = some (status, plain')) :
    Mirrored plain plain' BoltCommunication.openHost fun comm' => (status, comm') := by
  intro comm' hcomm
  obtain ⟨⟨result, plain1⟩, hopen, hresult⟩ := Option.map_eq_some_iff.mp h
  have hattempted := plainSocketOpen_attempted hopen
  have habstracts : ∀ {comm1 : BoltCommunication}, plain1.Abstracts comm1 →
      ∀ openScript, plain.Abstracts { comm1 with error := plain.error, openScript := openScript } :=
    fun {comm1} hcomm1 openScript => ⟨rfl, hcomm1.incoming.trans hattempted.keeps.incoming,
      hcomm1.outgoing.trans hattempted.keeps.outgoing⟩
  rcases hattempted.outcome with ⟨rfl, herror⟩ | ⟨error, herror, rfl | rfl⟩
  · obtain ⟨rfl, rfl⟩ := Prod.mk.inj hresult
    refine ⟨_, habstracts hcomm (none :: comm'.openScript), ?_⟩
    have hsame := hcomm.error.trans herror
    simp only [BoltCommunication.openHost, List.headD_cons, List.tail_cons, BoltCommunication.report,
      ne_eq, not_true_eq_false, if_false]
    rw [← hsame]
  · obtain ⟨rfl, rfl⟩ := Prod.mk.inj hresult
    refine ⟨_, habstracts hcomm (some (.statusSet error) :: comm'.openScript), ?_⟩
    have hsame := hcomm.error.trans herror
    simp only [BoltCommunication.openHost, List.headD_cons, List.tail_cons, BoltCommunication.report,
      BoltCommunication.failWith, ne_eq, show ¬(BOLT_STATUS_SET = BOLT_SUCCESS) by decide,
      not_false_eq_true, if_true, BoltCommunication.tryComm]
    rw [← hsame]
  · have hne : (error : Int) ≠ BOLT_SUCCESS := error.2.1
    simp only [hne, ne_eq, not_false_eq_true, if_true, tryComm, error.2.2, if_false,
      Prod.mk.injEq] at hresult
    obtain ⟨rfl, rfl⟩ := hresult
    have hcomm1 : plain1.Abstracts { comm' with error := plain1.error } :=
      ⟨rfl, hcomm.incoming, hcomm.outgoing⟩
    refine ⟨_, habstracts hcomm1 (some (.code error) :: comm'.openScript), ?_⟩
    have hsame : comm'.error = error := hcomm.error
    simp only [BoltCommunication.openHost, List.headD_cons, List.tail_cons, BoltCommunication.report,
      BoltCommunication.failWith, ne_eq, hne, not_false_eq_true, if_true, BoltCommunication.tryComm,
      error.2.2, if_false]
    rw [← hsame]

theorem openHosts_mirrored (hosts : List Bool) : ∀ {status status' : Int}
    {plain plain' : PlainCommunication}, openHosts status hosts plain = some (status', plain') →
      Mirrored plain plain' (BoltCommunication.openHosts status hosts) fun comm' => (status', comm') := by
  induction hosts with
  | nil =>
    intro status status' plain plain' h comm' hcomm
    obtain ⟨rfl, rfl⟩ := Prod.mk.inj (Option.some.inj h)
    exact ⟨comm', hcomm, rfl⟩
  | cons supported hosts ih =>
    intro status status' plain plain' h comm' hcomm
    have hfirst : ∀ {status1 plain1}, (if supported then plain.openHost
          else some (BOLT_UNSUPPORTED, plain)) = some (status1, plain1) →
        Mirrored plain plain1 (fun comm => if supported then comm.openHost else (BOLT_UNSUPPORTED, comm))
          fun comm1 => (status1, comm1) := by
      intro status1 plain1 h1
      cases supported with
      | false =>
        obtain ⟨rfl, rfl⟩ := Prod.mk.inj (Option.some.inj h1)
        exact fun comm1 hcomm1 => ⟨comm1, hcomm1, rfl⟩
      | true => exact openHost_mirrored h1
    rw [openHosts] at h
    rcases hopen : (if supported then plain.openHost else some (BOLT_UNSUPPORTED, plain)) with
      _ | ⟨status1, plain1⟩
    · simp only [hopen] at h
      cases h
    simp only [hopen] at h
    by_cases hsuccess : status1 = BOLT_SUCCESS
    · rw [if_pos hsuccess] at h
      obtain ⟨rfl, rfl⟩ := Prod.mk.inj (Option.some.inj h)
      have hcomm1 : plain1.Abstracts { comm' with error := plain1.error } :=
        ⟨rfl, hcomm.incoming, hcomm.outgoing⟩
      obtain ⟨comm, hcomm0, hopened⟩ := hfirst hopen _ hcomm1
      refine ⟨comm, hcomm0, ?_⟩
      have herror : comm'.error = BOLT_SUCCESS := hcomm.error
      dsimp only at hopened
      simp only [BoltCommunication.openHosts, hopened, hsuccess, if_true]
      rw [← herror]
    · rw [if_neg hsuccess] at h
      obtain ⟨comm1, hcomm1, hrest⟩ := ih h comm' hcomm
      obtain ⟨comm, hcomm0, hopened⟩ := hfirst hopen comm1 hcomm1
      refine ⟨comm, hcomm0, ?_⟩
      dsimp only at hopened
      simp only [BoltCommunication.openHosts, hopened, hsuccess, if_false, hrest]

theorem openAddress_mirrored {hosts : List Bool}
    (h : plain.openAddress hosts = some (status, plain')) :
    Mirrored plain plain' (BoltCommunication.openAddress · hosts) fun comm' => (status, comm') := by
  intro comm' hcomm
  unfold openAddress at h
  split_ifs at h with hempty
  · obtain ⟨rfl, rfl⟩ := Prod.mk.inj (Option.some.inj h)
    exact ⟨comm', hcomm, by simp only [BoltCommunication.openAddress, hempty, if_true]⟩
  · obtain ⟨comm, hcomm0, hopened⟩ := openHosts_mirrored hosts h comm' hcomm
    refine ⟨comm, hcomm0, ?_⟩
    simp only [BoltCommunication.openAddress, hempty, if_false, hopened]

/-! ## Runs -/

/-- A call of a function of `communication.c`. -/
inductive Call where
  | openAddress (hosts : List Bool)
  | send (bytes : List UInt8)
  | receive (minSize maxSize : Nat)

/-- A receive has room for what it must get. -/
def Call.Roomy : Call → Prop
  | .receive minSize maxSize => minSize ≤ maxSize
  | _ => True

/-- A call over sockets: the status, and the bytes that were received. -/
def step : Runs.Step Call PlainCommunication (Int × List UInt8)
  | .openAddress hosts, plain =>
    (plain.openAddress hosts).map fun (status, plain) => ((status, []), plain)
  | .send bytes, plain => (plain.send bytes).map fun (status, plain) => ((status, []), plain)
  | .receive minSize maxSize, plain =>
    (plain.receive minSize maxSize).map fun (status, bytes, plain) => ((status, bytes), plain)

/-- The same call over scripts. -/
def scriptedStep : Runs.Step Call BoltCommunication (Int × List UInt8)
  | .openAddress hosts, comm =>
    let (status, comm) := comm.openAddress hosts
    some ((status, []), comm)
  | .send bytes, comm =>
    let (status, comm) := comm.send bytes
    some ((status, []), comm)
  | .receive minSize maxSize, comm =>
    let (status, bytes, comm) := comm.receive minSize maxSize
    some ((status, bytes), comm)

theorem step_scripted : Runs.SimulatesBackward step scriptedStep Abstracts Call.Roomy := by
  intro call plain result plain' comm' hroomy hstep hcomm
  cases call with
  | openAddress hosts =>
    obtain ⟨⟨status, plain1⟩, hopen, hresult⟩ := Option.map_eq_some_iff.mp hstep
    obtain ⟨rfl, rfl⟩ := Prod.mk.inj hresult
    obtain ⟨comm, hcomm0, hopened⟩ := openAddress_mirrored hopen comm' hcomm
    exact ⟨comm, hcomm0, by simp only [scriptedStep, hopened]⟩
  | send bytes =>
    obtain ⟨⟨status, plain1⟩, hsend, hresult⟩ := Option.map_eq_some_iff.mp hstep
    obtain ⟨rfl, rfl⟩ := Prod.mk.inj hresult
    obtain ⟨comm, hcomm0, hsent⟩ := send_mirrored hsend comm' hcomm
    exact ⟨comm, hcomm0, by simp only [scriptedStep, hsent]⟩
  | receive minSize maxSize =>
    obtain ⟨⟨status, bytes, plain1⟩, hreceive, hresult⟩ := Option.map_eq_some_iff.mp hstep
    obtain ⟨rfl, rfl⟩ := Prod.mk.inj hresult
    obtain ⟨comm, hcomm0, hreceived⟩ := receive_mirrored hroomy hreceive comm' hcomm
    exact ⟨comm, hcomm0, by simp only [scriptedStep, hreceived]⟩

/-- The scripts leave nothing out.  Whatever a run of calls over sockets does, in which no
receive asks for more than it has room for, there are scripts with which the same calls have
the same results, and leave the same error and the same bytes on either side. -/
theorem run_scripted (calls : List Call) (hroomy : ∀ call ∈ calls, call.Roomy)
    {plain plain' : PlainCommunication} {results : List (Int × List UInt8)}
    (hrun : Runs.run step calls plain = some (results, plain')) :
    ∃ comm comm', plain.Abstracts comm ∧ plain'.Abstracts comm' ∧
      Runs.run scriptedStep calls comm = some (results, comm') := by
  have hend : plain'.Abstracts { BoltCommunication.create with
      error := plain'.error
      incoming := plain'.process.incoming
      outgoing := plain'.process.outgoing } := ⟨rfl, rfl, rfl⟩
  obtain ⟨comm, hcomm, hscripted⟩ := step_scripted.run calls hroomy hrun hend
  exact ⟨comm, _, hcomm, hend, hscripted⟩

/-- A peer that goes away.  The second host can be connected, a part of the bytes is sent,
and then the peer is gone. -/
theorem run_scripted_peer_gone :
    let process : Process :=
      { answers := [.fail .EMFILE, .succeed 7, .succeed 0, .succeed 0, .succeed 0, .succeed 0,
          .succeed 0, .succeed 0, .succeed 0, .succeed 0, .succeed 2, .fail .EPIPE]
        errno := .other 0, sockets := [], opened := [], signals := ⟨[], false, 0⟩, heap := []
        incoming := [1, 2, 3], outgoing := [] }
    let plain := create ⟨0, 0, 0⟩ process
    let calls : List Call := [.openAddress [true, true], .send [4, 5, 6], .receive 2 8]
    ∃ (results : List (Int × List UInt8)) (plain' : PlainCommunication) (comm comm' : BoltCommunication),
      results.map Prod.fst = [0, BOLT_STATUS_SET, 0] ∧
      plain'.process.outgoing = [4, 5] ∧ plain.Abstracts comm ∧ plain'.Abstracts comm' ∧
      Runs.run scriptedStep calls comm = some (results, comm') := by
  intro process plain calls
  have hrun : (Runs.run step calls plain).map (fun run => (run.1.map Prod.fst,
      run.2.process.outgoing)) = some ([0, BOLT_STATUS_SET, 0], [4, 5]) := by decide +kernel
  obtain ⟨⟨results, plain'⟩, hdone, hresult⟩ := Option.map_eq_some_iff.mp hrun
  obtain ⟨hresults, houtgoing⟩ := Prod.mk.inj hresult
  obtain ⟨comm, comm', hcomm, hcomm', hscripted⟩ := 
    run_scripted calls (by simp [calls, Call.Roomy]) hdone
  exact ⟨results, plain', comm, comm', hresults, houtgoing, hcomm, hcomm', hscripted⟩

end PlainCommunication

end Seabolt
