import Seabolt.SocketSignals

/-!
# Lives of a communication

A communication is created, used, closed and destroyed.  `plain_socket_open` leaves its
descriptor and its endpoints behind when it fails, and the next attempt puts others in
their places, so what is left after a life depends on all of its attempts.  `Ledger` is
the invariant within a life: under it every call returns, because no block is freed twice,
as long as `select` has room for the descriptors that it is asked about.  `lives_account`
adds up what any number of lives leaves behind.
-/

namespace Seabolt

namespace PlainCommunication

variable {plain plain' : PlainCommunication} {process process' : Process} {status : Int}
  {fds : List Int} {owned : List (Nat × Nat)}

/-! ## Descriptors -/

/-- The descriptors among the results of `socket`. -/
def descriptorsOf (fds : List Int) : List Nat :=
  (fds.filter fun fd => decide (0 ≤ fd)).map Int.toNat

/-- What stays open after a life with these results of `socket`.  `plain_socket_close`
knows the last of them only, and does not close it if it is 0. -/
def leaked (closed : Bool) (fds : List Int) : List Nat :=
  if closed then descriptorsOf fds.dropLast ++ if fds.getLast? = some 0 then [0] else []
  else descriptorsOf fds

theorem descriptorsOf_append (fds fds' : List Int) :
    descriptorsOf (fds ++ fds') = descriptorsOf fds ++ descriptorsOf fds' := by
  simp [descriptorsOf]

theorem descriptorsOf_natCast (sockfd : Nat) : descriptorsOf [(sockfd : Int)] = [sockfd] := by
  simp [descriptorsOf]

theorem socketClose_descriptors (sockfd : Int) (process : Process) :
    (socketClose sockfd process).descriptors =
      process.descriptors.filter fun fd : Nat => decide ((fd : Int) ≠ sockfd) := by
  simp only [Process.descriptors, socketClose, List.filter_map]
  rfl

/-- Closing the last descriptor leaves the others. -/
theorem closed_descriptors {descriptors before : List Nat} {last : Int}
    (hnodup : descriptors.Nodup) (hlast : last = -1 ∨ 0 ≤ last)
    (hperm : descriptors.Perm (descriptorsOf (fds ++ [last]) ++ before)) :
    (descriptors.filter fun fd : Nat => decide ((fd : Int) ≠ last)).Perm
      (descriptorsOf fds ++ before) := by
  rcases hlast with rfl | hlast
  · have hall : (descriptors.filter fun fd : Nat => decide ((fd : Int) ≠ -1)) = descriptors := by
      refine List.filter_eq_self.mpr fun fd _ => ?_
      simp only [decide_eq_true_eq]
      omega
    rwa [hall, ← List.append_nil (descriptorsOf fds), ← show descriptorsOf [-1] = [] by rfl,
      ← descriptorsOf_append]
  · obtain ⟨sockfd, rfl⟩ := Int.eq_ofNat_of_zero_le hlast
    rw [descriptorsOf_append, descriptorsOf_natCast, List.append_assoc] at hperm
    have hmiddle : descriptors.Perm (sockfd :: (descriptorsOf fds ++ before)) :=
      hperm.trans List.perm_middle
    obtain ⟨hnew, -⟩ := List.nodup_cons.mp (hmiddle.nodup_iff.mp hnodup)
    have hfilter := hmiddle.filter fun fd : Nat => decide ((fd : Int) ≠ sockfd)
    have hrest : (descriptorsOf fds ++ before).filter
        (fun fd : Nat => decide ((fd : Int) ≠ sockfd)) = descriptorsOf fds ++ before := by
      refine List.filter_eq_self.mpr fun fd hfd => ?_
      simp only [ne_eq, Nat.cast_inj, decide_eq_true_eq]
      rintro rfl
      exact hnew hfd
    rwa [List.filter_cons_of_neg (by simp), hrest] at hfilter

/-! ## Within a life -/

/-- The blocks are at most so many addresses. -/
structure Addresses (count : Nat) (blocks : List (Nat × Nat)) : Prop where
  length_le : blocks.length ≤ count
  size : ∀ block ∈ blocks, block.2 = ADDRESS_SIZE

theorem Addresses.nil (count : Nat) : Addresses count [] := ⟨Nat.zero_le _, by simp⟩

theorem Addresses.append {count count' : Nat} {blocks blocks' : List (Nat × Nat)}
    (h : Addresses count blocks) (h' : Addresses count' blocks') :
    Addresses (count + count') (blocks ++ blocks') where
  length_le := by
    rw [List.length_append]
    exact Nat.add_le_add h.length_le h'.length_le
  size := List.forall_mem_append.mpr ⟨h.size, h'.size⟩

theorem Addresses.mono {count count' : Nat} {blocks : List (Nat × Nat)}
    (h : Addresses count blocks) (hle : count ≤ count') : Addresses count' blocks :=
  ⟨h.length_le.trans hle, h.size⟩

theorem addresses_slot (endpoint : Option Nat) : Addresses 1 (slot endpoint) := by
  cases endpoint <;> exact ⟨by simp [slot], by simp [slot]⟩

/-- The state of a communication that was created in the process, after attempts for which
`socket` has returned these results. -/
structure Ledger (process : Process) (owned : List (Nat × Nat)) (fds : List Int)
    (plain : PlainCommunication) : Prop where
  opened : plain.process.opened = process.opened ++ fds
  descriptors : plain.process.descriptors.Perm (descriptorsOf fds ++ process.descriptors)
  nodup : plain.process.descriptors.Nodup
  results : ∀ fd ∈ fds, fd = -1 ∨ 0 ≤ fd
  fd_socket : plain.context.fd_socket = fds.getLastD 0
  action : plain.context.action_to_restore = none
  signals : plain.process.signals.Held
  endpoints : fds = [] →
    plain.context.remote_endpoint = none ∧ plain.context.local_endpoint = none
  account : ∃ lost, Addresses (2 * (fds.length - 1)) lost ∧
    plain.process.heap.Account (slot plain.context.remote_endpoint ++
      (slot plain.context.local_endpoint ++ (lost ++ owned)))

theorem Ledger.create (sock_opts : BoltSocketOptions) (hnodup : process.descriptors.Nodup)
    (hheld : process.signals.Held) (haccount : process.heap.Account owned) :
    Ledger process owned [] (create sock_opts process) :=
  ⟨(List.append_nil _).symm, .refl _, hnodup, by simp, rfl, rfl, hheld, fun _ => ⟨rfl, rfl⟩,
    [], .nil _, haccount⟩

theorem Ledger.withError (h : Ledger process owned fds plain) (error : Int) :
    Ledger process owned fds { plain with error := error } :=
  ⟨h.opened, h.descriptors, h.nodup, h.results, h.fd_socket, h.action, h.signals, h.endpoints,
    h.account⟩

/-- An attempt loses the endpoints that were there before. -/
theorem Ledger.attempted (h : Ledger process owned fds plain)
    (hattempted : Attempted plain status plain') :
    Ledger process owned (fds ++ [plain'.context.fd_socket]) plain' := by
  obtain ⟨lost, hlost, haccount⟩ := h.account
  have hopened : plain'.process.opened = process.opened ++ (fds ++ [plain'.context.fd_socket]) := by
    rw [hattempted.opened, h.opened, List.append_assoc]
  have haction := hattempted.action.trans h.action
  have hsignals : plain'.process.signals.Held := by
    rw [hattempted.keeps.signals]
    exact h.signals
  have hempty : fds ++ [plain'.context.fd_socket] ≠ [] := by simp
  have hlast : plain'.context.fd_socket = (fds ++ [plain'.context.fd_socket]).getLastD 0 := by
    simp [List.getLastD_eq_getLast?]
  obtain ⟨heap, hremote, hlocal⟩ := hattempted.endpoints
  obtain ⟨lost1, hlost1, haccount1⟩ := hremote.account haccount
  have hperm1 : (slot plain'.context.remote_endpoint ++ (lost1 ++
      (slot plain.context.local_endpoint ++ (lost ++ owned)))).Perm
        (slot plain.context.local_endpoint ++
          (slot plain'.context.remote_endpoint ++ (lost1 ++ (lost ++ owned)))) := by
    grind
  obtain ⟨lost2, hlost2, haccount2⟩ := hlocal.account (haccount1.perm hperm1)
  have hperm2 : (slot plain'.context.local_endpoint ++ (lost2 ++
      (slot plain'.context.remote_endpoint ++ (lost1 ++ (lost ++ owned))))).Perm
        (slot plain'.context.remote_endpoint ++ (slot plain'.context.local_endpoint ++
          ((lost2 ++ (lost1 ++ lost)) ++ owned))) := by
    grind
  have hlength : Addresses (2 * ((fds ++ [plain'.context.fd_socket]).length - 1))
      (lost2 ++ (lost1 ++ lost)) := by
    cases fds with
    | nil =>
      obtain ⟨hremote0, hlocal0⟩ := h.endpoints rfl
      rw [hremote0] at hlost1
      rw [hlocal0] at hlost2
      obtain rfl : lost1 = [] := hlost1.elim id id
      obtain rfl : lost2 = [] := hlost2.elim id id
      exact hlost
    | cons fd fds =>
      have hone1 : Addresses 1 lost1 := by
        rcases hlost1 with rfl | rfl
        · exact .nil 1
        · exact addresses_slot _
      have hone2 : Addresses 1 lost2 := by
        rcases hlost2 with rfl | rfl
        · exact .nil 1
        · exact addresses_slot _
      refine (hone2.append (hone1.append hlost)).mono ?_
      simp only [List.length_cons, List.length_append, List.length_nil]
      omega
  rcases hattempted.descriptors with ⟨hminus, hsame⟩ | ⟨sockfd, hsockfd, hfresh, htable⟩
  · refine ⟨hopened, ?_, by rw [hsame]; exact h.nodup, ?_, hlast, haction, hsignals,
      fun hnil => absurd hnil hempty, _, hlength, haccount2.perm hperm2⟩
    · rw [hsame, hminus, descriptorsOf_append, show descriptorsOf [-1] = [] by rfl, List.append_nil]
      exact h.descriptors
    · intro fd hfd
      rcases List.mem_append.mp hfd with hfd | hfd
      · exact h.results fd hfd
      · exact .inl ((List.mem_singleton.mp hfd).trans hminus)
  · refine ⟨hopened, ?_, by rw [htable]; exact List.nodup_cons.mpr ⟨hfresh, h.nodup⟩, ?_, hlast,
      haction, hsignals, fun hnil => absurd hnil hempty, _, hlength, haccount2.perm hperm2⟩
    · rw [htable, hsockfd, descriptorsOf_append, descriptorsOf_natCast, List.append_assoc]
      exact (h.descriptors.cons sockfd).trans List.perm_middle.symm
    · intro fd hfd
      rcases List.mem_append.mp hfd with hfd | hfd
      · exact h.results fd hfd
      · rw [List.mem_singleton.mp hfd, hsockfd]
        exact .inr (Int.natCast_nonneg sockfd)

theorem Ledger.openAddress {hosts : List Bool} (h : Ledger process owned fds plain)
    (hopen : plain.openAddress hosts = some (status, plain')) :
    ∃ fds', Ledger process owned (fds ++ fds') plain' := by
  refine openAddress_related (R := fun plain plain' => ∀ {fds}, Ledger process owned fds plain →
    ∃ fds', Ledger process owned (fds ++ fds') plain') ?_ ?_ ?_ ?_ hopen h
  · intro plain fds h
    exact ⟨[], by rwa [List.append_nil]⟩
  · intro plain middle plain' hfirst hrest fds h
    obtain ⟨fds1, hledger⟩ := hfirst h
    obtain ⟨fds2, hledger'⟩ := hrest hledger
    exact ⟨fds1 ++ fds2, by rwa [← List.append_assoc]⟩
  · intro plain status plain' hattempted fds h
    exact ⟨_, h.attempted hattempted⟩
  · intro plain error fds h
    exact ⟨[], by rw [List.append_nil]; exact h.withError error⟩

theorem Ledger.transferred (h : Ledger process owned fds plain)
    (htransferred : Transferred plain status plain') :
    Ledger process owned fds plain' := by
  have hdescriptors : plain'.process.descriptors = plain.process.descriptors :=
    congrArg (List.map Prod.fst) htransferred.sockets
  have hheld : plain'.process.signals.Held := by
    rcases htransferred.signals with hcleared | ⟨hsame, -⟩
    · rw [hcleared]
      exact .cleared _
    · rw [hsame]
      exact h.signals
  obtain ⟨lost, hlost, haccount⟩ := h.account
  refine ⟨htransferred.opened.trans h.opened, ?_, ?_, h.results, ?_, ?_, hheld, ?_, lost, hlost, ?_⟩
  · rw [hdescriptors]
    exact h.descriptors
  · rw [hdescriptors]
    exact h.nodup
  · rw [htransferred.context]
    exact h.fd_socket
  · rw [htransferred.context]
    exact h.action
  · rw [htransferred.context]
    exact h.endpoints
  · rw [htransferred.context]
    exact htransferred.account haccount

/-- Every call keeps the books. -/
theorem Ledger.step {call : Call} {result : Int × List UInt8} (h : Ledger process owned fds plain)
    (hstep : step call plain = some (result, plain')) :
    ∃ fds', Ledger process owned (fds ++ fds') plain' := by
  cases call with
  | openAddress hosts =>
    obtain ⟨⟨status, plain1⟩, hopen, hresult⟩ := Option.map_eq_some_iff.mp hstep
    obtain ⟨-, rfl⟩ := Prod.mk.inj hresult
    exact h.openAddress hopen
  | send bytes =>
    obtain ⟨⟨status, plain1⟩, hsend, hresult⟩ := Option.map_eq_some_iff.mp hstep
    obtain ⟨-, rfl⟩ := Prod.mk.inj hresult
    refine ⟨[], ?_⟩
    rw [List.append_nil]
    by_cases hempty : bytes = []
    · rw [PlainCommunication.send, if_pos hempty] at hsend
      obtain ⟨-, rfl⟩ := Prod.mk.inj (Option.some.inj hsend)
      exact h
    · exact h.transferred (send_transferred h.action h.signals hempty hsend)
  | receive minSize maxSize =>
    obtain ⟨⟨status, bytes, plain1⟩, hreceive, hresult⟩ := Option.map_eq_some_iff.mp hstep
    obtain ⟨-, rfl⟩ := Prod.mk.inj hresult
    refine ⟨[], ?_⟩
    rw [List.append_nil]
    by_cases hzero : minSize = 0
    · rw [PlainCommunication.receive, if_pos hzero] at hreceive
      obtain ⟨-, -, rfl⟩ := Option.some.inj hreceive
      exact h
    · exact h.transferred (receive_transferred h.action h.signals hzero hreceive)

/-! ## Calls that return -/

/-- `select` has room for the descriptor that the next attempt gets, or the attempt does not
wait in `select`. -/
def Selectable (plain : PlainCommunication) : Prop :=
  0 < plain.sock_opts.connect_timeout → (socketOpen plain.process).1 < FD_SETSIZE

/-- So it is for all the attempts that are made for the hosts. -/
def AllSelectable : List Bool → PlainCommunication → Prop
  | [], _ => True
  | supported :: hosts, plain =>
    (supported = true → plain.Selectable) ∧
      ∀ status plain',
        (if supported then plain.openHost else some (BOLT_UNSUPPORTED, plain)) =
          some (status, plain') → status ≠ BOLT_SUCCESS → AllSelectable hosts plain'

instance (plain : PlainCommunication) : Decidable plain.Selectable := by
  unfold Selectable
  infer_instance

instance decidableAllSelectable : ∀ hosts plain, Decidable (AllSelectable hosts plain)
  | [], _ => .isTrue trivial
  | supported :: hosts, plain =>
    match hattempt : if supported then plain.openHost else some (BOLT_UNSUPPORTED, plain) with
    | none => decidable_of_iff (supported = true → plain.Selectable)
        (by simp [AllSelectable, hattempt])
    | some (status, plain') =>
      haveI : Decidable (AllSelectable hosts plain') := decidableAllSelectable hosts plain'
      decidable_of_iff ((supported = true → plain.Selectable) ∧
          (status ≠ BOLT_SUCCESS → AllSelectable hosts plain'))
        (by simp [AllSelectable, hattempt])

/-- What a call needs of the numbers of descriptors. -/
def Call.Selectable : Call → PlainCommunication → Prop
  | .openAddress hosts, plain => AllSelectable hosts plain
  | _, _ => True

instance (call : Call) (plain : PlainCommunication) : Decidable (call.Selectable plain) := by
  cases call <;> (unfold Call.Selectable; infer_instance)

theorem TRY_SOCKET_isSome {result : Int × Process}
    {next : PlainCommunication → Outcome PlainCommunication}
    (hnext : (next { plain with process := result.2 }).isSome) :
    (TRY_SOCKET result plain next).isSome := by
  unfold TRY_SOCKET
  dsimp only
  split_ifs
  · rfl
  · exact hnext

theorem socketSelect_isSome {sockfd : Int} (hnonneg : 0 ≤ sockfd) (hlt : sockfd < FD_SETSIZE)
    (process : Process) : (socketSelect sockfd process).isSome := by
  unfold socketSelect
  rw [if_neg (by omega)]
  split
  · rfl
  · rfl
  · split <;> rfl

theorem connect_isSome (hnonneg : 0 ≤ plain.context.fd_socket)
    (hlt : 0 < plain.sock_opts.connect_timeout → plain.context.fd_socket < FD_SETSIZE) :
    plain.connect.isSome := by
  unfold connect
  split_ifs with htimeout
  · have hlt := hlt htimeout
    unfold connectInTime
    refine TRY_SOCKET_isSome ?_
    dsimp only
    split_ifs
    · rfl
    · exact TRY_SOCKET_isSome rfl
    · obtain ⟨⟨status, process⟩, hselect⟩ := Option.isSome_iff_exists.mp (socketSelect_isSome hnonneg
        hlt (socketConnect plain.context.fd_socket
          (socketSetBlockingMode plain.context.fd_socket false plain.process).2).2.2)
      rw [hselect]
      dsimp only
      split_ifs
      · rfl
      · exact TRY_SOCKET_isSome rfl
      · rfl
  · exact TRY_SOCKET_isSome rfl

theorem nameLocal_isSome : plain.nameLocal.isSome := by
  refine TRY_SOCKET_isSome ?_
  dsimp only
  split_ifs <;> rfl

theorem setOptions_isSome : plain.setOptions.isSome := by
  unfold setOptions
  refine TRY_SOCKET_isSome ?_
  refine TRY_SOCKET_isSome ?_
  exact TRY_SOCKET_isSome rfl

/-- An attempt returns if `select` has room for its descriptor. -/
theorem plainSocketOpen_isSome (h : plain.Selectable) : plain.plainSocketOpen.isSome := by
  obtain ⟨-, -, -, hdescriptors⟩ := socketOpen_cases plain.process
  have hselectable := h
  unfold Selectable at hselectable
  unfold plainSocketOpen
  rcases hsocket : socketOpen plain.process with ⟨fd_socket, process⟩
  rw [hsocket] at hdescriptors hselectable
  dsimp only at hdescriptors hselectable ⊢
  split_ifs with hfailed
  · rfl
  · have hnonneg : 0 ≤ fd_socket := by
      rcases hdescriptors with ⟨hminus, -⟩ | ⟨sockfd, hsockfd, -⟩
      · exact absurd hminus hfailed
      · omega
    refine TRY_SOCKET_isSome (Outcome.TRY_isSome (connect_isSome hnonneg hselectable) fun plain1 _ =>
      Outcome.TRY_isSome rfl fun plain2 _ => Outcome.TRY_isSome nameLocal_isSome fun plain3 _ => ?_)
    exact setOptions_isSome

theorem openHosts_isSome (hosts : List Bool) : ∀ {status : Int} {plain : PlainCommunication},
    AllSelectable hosts plain → (openHosts status hosts plain).isSome := by
  induction hosts with
  | nil => exact fun _ => rfl
  | cons supported hosts ih =>
    rintro status plain ⟨hfirst, hrest⟩
    have hattempt : (if supported then plain.openHost
        else some (BOLT_UNSUPPORTED, plain)).isSome := by
      split_ifs with hsupported
      · rw [openHost, Option.isSome_map]
        exact plainSocketOpen_isSome (hfirst hsupported)
      · rfl
    obtain ⟨⟨result, plain1⟩, hattempt⟩ := Option.isSome_iff_exists.mp hattempt
    simp only [openHosts, hattempt]
    split_ifs with hsuccess
    · rfl
    · exact ih (hrest result plain1 hattempt hsuccess)

theorem restored_defined {pointer : Nat} {mask : List Nat} {rest : List (Nat × Nat)}
    (hsaved : plain.context.action_to_restore = some (pointer, mask))
    (h : plain.process.heap.Account ((pointer, SIGSET_SIZE) :: rest)) :
    ∃ plain', plain.restored status = some (status, plain') ∧ plain'.process.heap.Account rest := by
  obtain ⟨heap, hheap, haccount⟩ := h.deallocate
  obtain ⟨answers', errno', hwait⟩ := waitForSigpipe_eq plain.process.answers plain.process
  simp only [restored, restoreSigpipe, socketRestoreSigpipe, hwait, hsaved, hheap, Option.map_some]
  exact ⟨_, rfl, haccount⟩

/-- The block of the mask can be returned behind a transfer. -/
theorem Ledger.restored (h : Ledger process owned fds plain) {plain1 plain2 : PlainCommunication}
    (hignores : Ignores plain plain1) (hmoves : Moves plain1 plain2) (status : Int) :
    (plain2.restored status).isSome := by
  obtain ⟨lost, -, haccount⟩ := h.account
  have haction := hmoves.action.trans
    (congrArg PlainCommunicationContext.action_to_restore hignores.context)
  have hsaved := haccount.allocate SIGSET_SIZE
  rw [← hignores.heap, ← hmoves.heap] at hsaved
  obtain ⟨plain', hrestored, -⟩ := @restored_defined plain2 status _ _ _ haction hsaved
  rw [hrestored]
  rfl

/-- Every call returns. -/
theorem Ledger.returns {call : Call} (h : Ledger process owned fds plain)
    (hselectable : call.Selectable plain) :
    ∃ result plain', PlainCommunication.step call plain = some (result, plain') := by
  have hstep : (PlainCommunication.step call plain).isSome := by
    have hignored := ignoreSigpipe_ignores h.action h.signals
    cases call with
    | openAddress hosts =>
      rw [PlainCommunication.step, Option.isSome_map, PlainCommunication.openAddress]
      split_ifs
      · rfl
      · exact openHosts_isSome hosts hselectable
    | send bytes =>
      rw [PlainCommunication.step, Option.isSome_map, PlainCommunication.send]
      split_ifs
      · rfl
      rcases hsigpipe : plain.ignoreSigpipe with ⟨ignored, plain1⟩
      rw [hsigpipe] at hignored
      dsimp only at hignored ⊢
      rcases hignored with ⟨rfl, hignores⟩ | ⟨rfl, -⟩
      · rw [if_neg (by simp)]
        exact h.restored hignores (sendLoop_moves _ _ _) _
      · rfl
    | receive minSize maxSize =>
      rw [PlainCommunication.step, Option.isSome_map, PlainCommunication.receive]
      split_ifs
      · rfl
      rcases hsigpipe : plain.ignoreSigpipe with ⟨ignored, plain1⟩
      rw [hsigpipe] at hignored
      dsimp only at hignored ⊢
      rcases hignored with ⟨rfl, hignores⟩ | ⟨rfl, -⟩
      · rw [if_neg (by simp), Option.isSome_map]
        exact h.restored hignores (receiveLoop_moves _ _ _ _) _
      · rfl
  obtain ⟨⟨result, plain'⟩, hstep⟩ := Option.isSome_iff_exists.mp hstep
  exact ⟨result, plain', hstep⟩

/-- So do all the calls of a life, and the ledger is kept. -/
theorem Ledger.run (calls : List Call) : ∀ {fds : List Int} {plain : PlainCommunication},
    Ledger process owned fds plain →
      Runs.Admissible PlainCommunication.step Call.Selectable calls plain →
        ∃ results plain' fds', Runs.run PlainCommunication.step calls plain =
          some (results, plain') ∧ Ledger process owned fds' plain' := by
  induction calls with
  | nil => exact fun {fds plain} h _ => ⟨[], plain, fds, rfl, h⟩
  | cons call calls ih =>
    rintro fds plain h ⟨hselectable, hrest⟩
    obtain ⟨result, plain1, hstep⟩ := h.returns hselectable
    obtain ⟨fds1, hledger⟩ := h.step hstep
    obtain ⟨results, plain', fds', hrun, hledger'⟩ := ih hledger (hrest _ _ hstep)
    exact ⟨result :: results, plain', fds', Runs.run_cons hstep hrun, hledger'⟩

/-! ## The end of a life -/

theorem destroyAddress_account {endpoint : Option Nat} {rest : List (Nat × Nat)}
    (h : process.heap.Account (slot endpoint ++ rest)) :
    ∃ heap, destroyAddress endpoint process = some { process with heap := heap } ∧
      heap.Account rest := by
  cases endpoint with
  | none => exact ⟨process.heap, rfl, h⟩
  | some pointer =>
    obtain ⟨heap, hheap, haccount⟩ := Blocks.Account.deallocate h
    refine ⟨heap, ?_, haccount⟩
    rw [destroyAddress, hheap]
    rfl

/-- The endpoints are returned once. -/
theorem destroyEndpoints_account {rest : List (Nat × Nat)}
    (h : plain.process.heap.Account (slot plain.context.remote_endpoint ++
      (slot plain.context.local_endpoint ++ rest))) :
    ∃ heap, plain.destroyEndpoints = some { plain with
        context := { plain.context with local_endpoint := none, remote_endpoint := none }
        process := { plain.process with heap := heap } } ∧
      heap.Account rest := by
  have hperm : (slot plain.context.remote_endpoint ++
      (slot plain.context.local_endpoint ++ rest)).Perm
        (slot plain.context.local_endpoint ++ (slot plain.context.remote_endpoint ++ rest)) := by
    grind
  obtain ⟨heap1, hlocal, haccount1⟩ := destroyAddress_account (h.perm hperm)
  obtain ⟨heap, hremote, haccount⟩ :=
    @destroyAddress_account { plain.process with heap := heap1 } _ _ haccount1
  refine ⟨heap, ?_, haccount⟩
  simp only [destroyEndpoints, hlocal, hremote, Option.bind_eq_bind, Option.bind_some]

/-- What is left of the ledger when the communication has been closed. -/
structure Closed (process : Process) (owned : List (Nat × Nat)) (fds : List Int) (closed : Bool)
    (process' : Process) : Prop where
  opened : process'.opened = process.opened ++ fds
  descriptors : process'.descriptors.Perm (leaked closed fds ++ process.descriptors)
  nodup : process'.descriptors.Nodup
  signals : process'.signals.Held
  account : ∃ lost, Addresses (2 * (fds.length - 1)) lost ∧ process'.heap.Account (lost ++ owned)

/-- What is left open when the last descriptor is closed, unless it is 0. -/
theorem Ledger.closed (h : Ledger process owned fds plain) {descriptors : List Nat}
    (hdescriptors : descriptors =
      if plain.context.fd_socket = 0 then plain.process.descriptors
      else plain.process.descriptors.filter
        fun fd : Nat => decide ((fd : Int) ≠ plain.context.fd_socket)) :
    descriptors.Nodup ∧ descriptors.Perm (leaked true fds ++ process.descriptors) := by
  constructor
  · rw [hdescriptors]
    split_ifs
    · exact h.nodup
    · exact h.nodup.filter _
  rcases List.eq_nil_or_concat fds with rfl | ⟨before, last, rfl⟩
  · have hzero := h.fd_socket
    rw [List.getLastD_nil] at hzero
    rw [hdescriptors, if_pos hzero]
    exact h.descriptors
  · have hlast : plain.context.fd_socket = last := by
      rw [h.fd_socket]
      simp [List.getLastD_eq_getLast?]
    have hperm := h.descriptors
    rw [List.concat_eq_append] at hperm ⊢
    rw [hlast] at hdescriptors
    simp only [leaked, if_true, List.dropLast_concat, List.getLast?_concat]
    by_cases hzero : last = 0
    · rw [hdescriptors, if_pos hzero, if_pos (by rw [hzero])]
      rwa [hzero, descriptorsOf_append] at hperm
    · rw [hdescriptors, if_neg hzero, if_neg (by simp [hzero]), List.append_nil]
      exact closed_descriptors h.nodup (h.results last (by simp)) hperm

theorem destroy_untouched (h : Ledger process owned fds plain)
    (huntouched : Untouched plain plain') :
    ∃ process', plain'.destroy = some process' ∧ Closed process owned fds false process' := by
  obtain ⟨lost, hlost, haccount⟩ := h.account
  rw [← huntouched.heap, ← huntouched.context] at haccount
  obtain ⟨heap, hdestroyed, haccount'⟩ := destroyEndpoints_account haccount
  have hdescriptors : plain'.process.descriptors = plain.process.descriptors :=
    congrArg (List.map Prod.fst) huntouched.sockets
  refine ⟨{ plain'.process with heap := heap }, by rw [destroy, hdestroyed]; rfl,
    huntouched.opened.trans h.opened, ?_, ?_, ?_, lost, hlost, haccount'⟩
  · exact hdescriptors ▸ h.descriptors
  · exact hdescriptors ▸ h.nodup
  · exact huntouched.signals ▸ h.signals

/-- `plain_socket_close` returns the endpoints, and forgets the descriptor. -/
theorem plainSocketClose_account {rest : List (Nat × Nat)}
    (h : plain.process.heap.Account (slot plain.context.remote_endpoint ++
      (slot plain.context.local_endpoint ++ rest))) :
    ∃ plain', plain.plainSocketClose = some (BOLT_SUCCESS, plain') ∧
      plain'.context.remote_endpoint = none ∧ plain'.context.local_endpoint = none ∧
      plain'.process.opened = plain.process.opened ∧
      (plain'.process.descriptors =
        if plain.context.fd_socket = 0 then plain.process.descriptors
        else plain.process.descriptors.filter
          fun fd : Nat => decide ((fd : Int) ≠ plain.context.fd_socket)) ∧
      plain'.process.heap.Account rest := by
  unfold plainSocketClose
  by_cases hzero : plain.context.fd_socket = 0
  · obtain ⟨heap, hdestroyed, haccount⟩ := destroyEndpoints_account h
    dsimp only
    rw [if_neg (not_not_intro hzero), if_pos hzero, hdestroyed]
    exact ⟨_, rfl, rfl, rfl, rfl, rfl, haccount⟩
  · obtain ⟨heap, hdestroyed, haccount⟩ := @destroyEndpoints_account { plain with
      context := { plain.context with fd_socket := 0 }
      process := socketClose plain.context.fd_socket
        (socketShutdown plain.context.fd_socket plain.process) } rest h
    have hshutdown := plain.process.updateSocket_keepsTable plain.context.fd_socket
      fun socket => { socket with connected := false }
    dsimp only
    rw [if_pos hzero, if_neg hzero, hdestroyed, ← hshutdown.descriptors]
    refine ⟨_, rfl, rfl, rfl, rfl, ?_, haccount⟩
    exact socketClose_descriptors plain.context.fd_socket
      (socketShutdown plain.context.fd_socket plain.process)

/-- What `BoltCommunication_close` does when SIGPIPE is ignored, with something that works
on the socket in front of it. -/
theorem Ledger.closing (h : Ledger process owned fds plain) {plain1 plain2 : PlainCommunication}
    (hignores : Ignores plain plain1) (hmoves : Moves plain1 plain2) :
    ∃ plain3 plain4 process', plain2.plainSocketClose = some (BOLT_SUCCESS, plain3) ∧
      plain3.restored BOLT_SUCCESS = some (BOLT_SUCCESS, plain4) ∧
      plain4.destroy = some process' ∧ Closed process owned fds true process' := by
  obtain ⟨lost, hlost, haccount⟩ := h.account
  have hperm : (((plain.process.heap.allocate SIGSET_SIZE).1, SIGSET_SIZE) ::
      (slot plain.context.remote_endpoint ++
        (slot plain.context.local_endpoint ++ (lost ++ owned)))).Perm
      (slot plain.context.remote_endpoint ++ (slot plain.context.local_endpoint ++
        (((plain.process.heap.allocate SIGSET_SIZE).1, SIGSET_SIZE) :: (lost ++ owned)))) := by
    grind
  have hsaved := (haccount.allocate SIGSET_SIZE).perm hperm
  have hcontext := hmoves.context.trans hignores.context
  have hremote := congrArg PlainCommunicationContext.remote_endpoint hcontext
  have hlocal := congrArg PlainCommunicationContext.local_endpoint hcontext
  have hfd := congrArg PlainCommunicationContext.fd_socket hcontext
  have haction := congrArg PlainCommunicationContext.action_to_restore hcontext
  have htable : plain2.process.descriptors = plain.process.descriptors :=
    congrArg (List.map Prod.fst) (hmoves.sockets.trans hignores.sockets)
  dsimp only at hremote hlocal hfd haction
  rw [← hignores.heap, ← hmoves.heap, ← hremote, ← hlocal] at hsaved
  obtain ⟨plain3, hclose, hremote3, hlocal3, hopened3, hdescriptors3, haccount3⟩ :=
    plainSocketClose_account hsaved
  obtain ⟨-, hworks⟩ := plainSocketClose_works hclose
  obtain ⟨plain4, hrestored, haccount4⟩ :=
    @restored_defined plain3 BOLT_SUCCESS _ _ _ (hworks.action.trans haction) haccount3
  obtain ⟨-, hcontext4, hsignals4, -, hsockets4, hopened4⟩ :=
    hignores.restored (hmoves.toWorks.trans hworks) hrestored
  have htable4 : plain4.process.descriptors = plain3.process.descriptors :=
    congrArg (List.map Prod.fst) hsockets4
  obtain ⟨heap, hdestroyed, haccount'⟩ := @destroyEndpoints_account plain4 (lost ++ owned)
    (by rw [hcontext4, hremote3, hlocal3]; exact haccount4)
  rw [hfd, htable, ← htable4] at hdescriptors3
  obtain ⟨hnodup, hleft⟩ := h.closed hdescriptors3
  refine ⟨plain3, plain4, { plain4.process with heap := heap }, hclose, hrestored,
    by rw [destroy, hdestroyed]; rfl, ?_, hleft, hnodup, ?_, lost, hlost, haccount'⟩
  · calc plain4.process.opened
      _ = plain3.process.opened := hopened4
      _ = plain2.process.opened := hopened3
      _ = plain1.process.opened := hmoves.opened
      _ = plain.process.opened := hignores.opened
      _ = process.opened ++ fds := h.opened
  · show plain4.process.signals.Held
    rw [hsignals4]
    exact .cleared _

/-- A communication can be closed and destroyed, whatever has happened to it. -/
theorem Ledger.close_destroy (h : Ledger process owned fds plain) :
    ∃ status plain' process', plain.close = some (status, plain') ∧ plain'.destroy = some process' ∧
      Closed process owned fds (status = BOLT_SUCCESS) process' := by
  unfold close
  rcases hignored : plain.ignoreSigpipe with ⟨ignored, plain1⟩
  have hcases := ignoreSigpipe_ignores h.action h.signals
  simp only [hignored] at hcases ⊢
  rcases hcases with ⟨rfl, hignores⟩ | ⟨rfl, huntouched⟩
  · obtain ⟨plain2, plain3, process', hclose, hrestored, hdestroyed, hclosed⟩ :=
      h.closing hignores (.refl plain1)
    refine ⟨BOLT_SUCCESS, plain3, process', ?_, hdestroyed, hclosed⟩
    simp only [hclose, ne_eq, not_true_eq_false, if_false, hrestored]
  · obtain ⟨process', hdestroyed, hclosed⟩ := destroy_untouched h huntouched
    exact ⟨BOLT_STATUS_SET, plain1, process', rfl, hdestroyed, hclosed⟩

/-! ## Lives -/

/-- What a communication is created with, and what it is used for. -/
structure Life where
  sock_opts : BoltSocketOptions
  calls : List Call

/-- What is seen of a life: what the calls return, the status of the close, and what
`socket` has returned. -/
structure Lived where
  results : List (Int × List UInt8)
  status : Int
  opened : List Int

/-- A communication is created, used, closed and destroyed. -/
def live : Runs.Step Life Process Lived
  | life, process => do
    let (results, plain) ← Runs.run step life.calls (create life.sock_opts process)
    let (status, plain) ← plain.close
    let process' ← plain.destroy
    some (⟨results, status, process'.opened.drop process.opened.length⟩, process')

/-- What stays open after the life. -/
def Lived.leaked (lived : Lived) : List Nat :=
  PlainCommunication.leaked (lived.status = BOLT_SUCCESS) lived.opened

/-- What a life needs of the numbers of descriptors. -/
def Life.Selectable (life : Life) (process : Process) : Prop :=
  Runs.Admissible step Call.Selectable life.calls (create life.sock_opts process)

instance (life : Life) (process : Process) : Decidable (life.Selectable process) := by
  unfold Life.Selectable
  infer_instance

/-- A life is lived to its end. -/
theorem live_closed {life : Life} (hnodup : process.descriptors.Nodup)
    (hheld : process.signals.Held) (haccount : process.heap.Account owned)
    (hselectable : life.Selectable process) :
    ∃ lived process', live life process = some (lived, process') ∧
      Closed process owned lived.opened (lived.status = BOLT_SUCCESS) process' := by
  obtain ⟨results, plain, fds, hcalls, hledger⟩ :=
    Ledger.run life.calls (.create life.sock_opts hnodup hheld haccount) hselectable
  obtain ⟨status, plain', process', hclose, hdestroy, hclosed⟩ := hledger.close_destroy
  refine ⟨⟨results, status, fds⟩, process', ?_, hclosed⟩
  simp only [live, hcalls, hclose, hdestroy, Option.bind_eq_bind, Option.bind_some, hclosed.opened,
    List.drop_left]

/-- Any number of lives are lived to their ends, so no block is freed twice, and this is what
they leave behind in the process.  Every result of `socket` but the last of a life stays
open, the last one stays open if it is 0 or the close could not ignore SIGPIPE, and no other
descriptor has been touched.  Two addresses may be lost for every attempt but the first of a
life, and all other memory has been returned. -/
theorem lives_account (lives : List Life) : ∀ {process : Process} {owned : List (Nat × Nat)},
    process.descriptors.Nodup → process.signals.Held → process.heap.Account owned →
      Runs.Admissible live Life.Selectable lives process →
      ∃ lived process', Runs.run live lives process = some (lived, process') ∧
        process'.opened = process.opened ++ lived.flatMap Lived.opened ∧
        process'.descriptors.Perm (lived.flatMap Lived.leaked ++ process.descriptors) ∧
        ∃ lost, process'.heap.Account (lost ++ owned) ∧
          Addresses (lived.map fun life => 2 * (life.opened.length - 1)).sum lost := by
  induction lives with
  | nil =>
    intro process owned _ _ haccount _
    exact ⟨[], process, rfl, (List.append_nil _).symm, .refl _, [], haccount, .nil _⟩
  | cons life lives ih =>
    rintro process owned hnodup hheld haccount ⟨hselectable, hselectable'⟩
    obtain ⟨first, process1, hlive, hclosed⟩ := live_closed hnodup hheld haccount hselectable
    obtain ⟨lost1, hlost1, haccount1⟩ := hclosed.account
    obtain ⟨rest, process', hrest, hopened, hdescriptors, lost, haccount', hlost⟩ :=
      ih hclosed.nodup hclosed.signals haccount1 (hselectable' _ _ hlive)
    refine ⟨first :: rest, process', Runs.run_cons hlive hrest, ?_, ?_, lost ++ lost1, ?_, ?_⟩
    · rw [hopened, hclosed.opened, List.flatMap_cons, List.append_assoc]
    · have hfirst : (rest.flatMap Lived.leaked ++ process1.descriptors).Perm
          (rest.flatMap Lived.leaked ++ (first.leaked ++ process.descriptors)) :=
        hclosed.descriptors.append_left _
      have hswap : (rest.flatMap Lived.leaked ++ (first.leaked ++ process.descriptors)).Perm
          ((first :: rest).flatMap Lived.leaked ++ process.descriptors) := by
        rw [List.flatMap_cons]
        grind
      exact (hdescriptors.trans hfirst).trans hswap
    · rwa [List.append_assoc]
    · rw [List.map_cons, List.sum_cons, Nat.add_comm]
      exact hlost.append hlost1

/-- Two hosts, of which the first refuses the connection: its descriptor stays open.  The
second one is waited for in `select`. -/
theorem lives_account_refused :
    let process : Process :=
      { answers := [.succeed 7, .succeed 0, .succeed 0, .fail .ECONNREFUSED, .succeed 8, .succeed 0,
          .succeed 0, .fail .EINPROGRESS, .succeed 1]
        errno := .other 0, sockets := [], opened := [], signals := ⟨[], false, 0⟩, heap := []
        incoming := [], outgoing := [] }
    ∃ lived process', Runs.run live [⟨⟨5000, 0, 0⟩, [.openAddress [true, true], .send [1]]⟩] process =
        some ([lived], process') ∧
      lived.opened = [7, 8] ∧ process'.descriptors.Perm [7] ∧ ∃ lost, process'.heap.Account lost ∧
        Addresses 2 lost := by
  intro process
  have hrun : (Runs.run live [⟨⟨5000, 0, 0⟩, [.openAddress [true, true], .send [1]]⟩] process).map
      (fun run => run.1.map fun life => (life.status, life.opened)) = some [(0, [7, 8])] := by
    decide +kernel
  have hselectable : Runs.Admissible live Life.Selectable
      [⟨⟨5000, 0, 0⟩, [.openAddress [true, true], .send [1]]⟩] process := by
    decide +kernel
  have hnodup : process.descriptors.Nodup := List.nodup_nil
  have hheld : process.signals.Held := by simp [Signals.Held, process]
  obtain ⟨all, process', hdone, -, hdescriptors, lost, haccount, hlost⟩ :=
    lives_account _ hnodup hheld Blocks.Account.nil hselectable
  rw [hdone, Option.map_some, Option.some.injEq] at hrun
  obtain ⟨lived, rfl, hlived⟩ := List.map_eq_singleton_iff.mp hrun
  obtain ⟨hstatus, hopened⟩ := Prod.mk.inj hlived
  refine ⟨lived, process', hdone, hopened, ?_, lost, ?_, ?_⟩
  · simpa [Lived.leaked, hstatus, hopened, leaked, descriptorsOf, process, Process.descriptors]
      using hdescriptors
  · simpa using haccount
  · simpa [hopened] using hlost

end PlainCommunication

end Seabolt
