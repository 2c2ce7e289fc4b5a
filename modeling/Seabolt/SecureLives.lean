import Seabolt.SecureCommunication

/-!
# Lives of a secure communication

What becomes of the security contexts, the sessions and the descriptors when secure
communications are created, opened, closed and destroyed.  `SecureLedger` is the invariant
within a life.
-/

namespace Seabolt

/-- SIGPIPE may be raised by someone who does not block it. -/
theorem Signals.Held.raise {signals : Signals} (h : signals.Held) : signals.raise.Held := by
  unfold Signals.raise
  split_ifs with hmem
  · exact fun _ => hmem
  · exact h

namespace SecureCommunication

open PlainCommunication (Ledger Closed Moves)

variable {comm comm' : SecureCommunication} {process process' : Process} {status : Int}
  {fds : List Int} {owned contexts sessions : List (Nat × Nat)}

/-! ## What OpenSSL does to the process -/

/-- SIGPIPE may have been raised, and nothing else has happened. -/
structure Talks (process process' : Process) : Prop where
  sockets : process'.sockets = process.sockets
  opened : process'.opened = process.opened
  heap : process'.heap = process.heap
  signals : process'.signals = process.signals ∨ process'.signals = process.signals.raise

theorem sslSet_eq (process : Process) : (sslSet process).2 = process.ask.2 := by
  unfold sslSet
  rcases hanswer : process.ask with ⟨errno | value, process1⟩ <;> rfl

theorem sslTalk_talks (process : Process) : Talks process (sslTalk process).2 := by
  unfold sslTalk
  dsimp only [Process.ask]
  rcases process.answers.headD (.succeed 0) with errno | value
  · cases errno with
    | EPIPE => exact ⟨rfl, rfl, rfl, .inr rfl⟩
    | _ => exact ⟨rfl, rfl, rfl, .inl rfl⟩
  · exact ⟨rfl, rfl, rfl, .inl rfl⟩

theorem handshake_talks (process : Process) : Talks process (handshake process).2 := by
  have hset := sslSet_eq process
  have hnamed := sslSet_eq (sslSet process).2
  have htalks := sslTalk_talks (sslSet (sslSet process).2).2
  rw [hnamed, hset] at htalks
  unfold handshake
  dsimp only
  split_ifs
  · rw [hset]
    exact ⟨rfl, rfl, rfl, .inl rfl⟩
  · rw [hnamed, hset]
    exact ⟨rfl, rfl, rfl, .inl rfl⟩
  · rw [hnamed, hset]
    exact ⟨htalks.sockets, htalks.opened, htalks.heap, htalks.signals⟩

theorem ledger_talks {before : Process} {plain : PlainCommunication}
    (h : Ledger before owned fds plain) (htalks : Talks plain.process process) :
    Ledger before owned fds { plain with process := process } := by
  have hdescriptors : process.descriptors = plain.process.descriptors :=
    congrArg (List.map Prod.fst) htalks.sockets
  have hheld : process.signals.Held := by
    rcases htalks.signals with hsame | hraised
    · rw [hsame]
      exact h.signals
    · rw [hraised]
      exact h.signals.raise
  obtain ⟨lost, hlost, haccount⟩ := h.account
  exact ⟨htalks.opened.trans h.opened, hdescriptors ▸ h.descriptors, hdescriptors ▸ h.nodup,
    h.results, h.fd_socket, h.action, hheld, h.endpoints, lost, hlost, htalks.heap ▸ haccount⟩

/-! ## Within a life -/

/-- The block of an object, unless there is none. -/
def object (pointer : Option Nat) : List (Nat × Nat) :=
  pointer.toList.map fun pointer => (pointer, OBJECT_SIZE)

/-- A context that is owned is allocated, and one that is not owned is among those of
others.  The session is allocated. -/
structure Objects (contexts sessions : List (Nat × Nat)) (comm : SecureCommunication) : Prop where
  own : comm.contexts.Account
    ((if comm.owns_sec_ctx then object comm.sec_ctx else []) ++ contexts)
  shared : comm.owns_sec_ctx = false → ∀ pointer, comm.sec_ctx = some pointer →
    (pointer, OBJECT_SIZE) ∈ contexts
  session : comm.sessions.Account (object comm.ssl ++ sessions)

/-- The state of a communication that was created in the world. -/
structure SecureLedger (world : SecureProcess) (owned contexts sessions : List (Nat × Nat))
    (fds : List Int) (comm : SecureCommunication) : Prop extends
    Objects contexts sessions comm where
  plain : Ledger world.process owned fds comm.plain_comm

variable {world : SecureProcess}

theorem SecureLedger.create {sec_ctx : Option Nat} (sock_opts : BoltSocketOptions)
    (hnodup : world.process.descriptors.Nodup) (hheld : world.process.signals.Held)
    (hheap : world.process.heap.Account owned) (hcontexts : world.contexts.Account contexts)
    (hsessions : world.sessions.Account sessions)
    (hshared : ∀ pointer, sec_ctx = some pointer → (pointer, OBJECT_SIZE) ∈ contexts) :
    SecureLedger world owned contexts sessions [] (create sec_ctx sock_opts world) where
  plain := .create sock_opts hnodup hheld hheap
  own := by
    cases sec_ctx with
    | none => exact hcontexts
    | some pointer => exact hcontexts
  shared _ := hshared
  session := hsessions

theorem Objects.withPlain (h : Objects contexts sessions comm) (plain : PlainCommunication) :
    Objects contexts sessions { comm with plain_comm := plain } :=
  ⟨h.own, h.shared, h.session⟩

/-- There is a context when the session is made, and it is allocated. -/
theorem SecureLedger.ensureContext (h : SecureLedger world owned contexts sessions fds comm)
    {pointer : Nat} (hensure : comm.ensureContext = some (pointer, comm')) :
    SecureLedger world owned contexts sessions fds comm' ∧ comm'.sec_ctx = some pointer ∧
      comm'.ssl = comm.ssl ∧ comm'.contexts.read pointer = some OBJECT_SIZE := by
  unfold SecureCommunication.ensureContext at hensure
  rcases hcontext : comm.sec_ctx with _ | shared
  · simp only [hcontext] at hensure
    rcases hanswer : comm.plain_comm.process.ask with ⟨errno | value, process1⟩
    · simp only [hanswer] at hensure
      cases hensure
    · simp only [hanswer, Option.some.injEq, Prod.mk.injEq] at hensure
      obtain ⟨rfl, rfl⟩ := hensure
      have hprocess : process1 = comm.plain_comm.process.ask.2 := by rw [hanswer]
      have hown : comm.contexts.Account contexts := by
        have hown := h.own
        rw [hcontext] at hown
        split_ifs at hown <;> exact hown
      have hnew := hown.allocate OBJECT_SIZE
      refine ⟨⟨⟨hnew, by simp, h.session⟩, ?_⟩, rfl, rfl, (hnew.live _ _).mpr List.mem_cons_self⟩
      exact ledger_talks h.plain (hprocess ▸ ⟨rfl, rfl, rfl, .inl rfl⟩)
  · simp only [hcontext, Option.some.injEq, Prod.mk.injEq] at hensure
    obtain ⟨rfl, rfl⟩ := hensure
    refine ⟨h, hcontext, rfl, (h.own.live _ _).mpr ?_⟩
    cases howns : comm.owns_sec_ctx with
    | true => simp [hcontext, object]
    | false => simpa using h.shared howns _ hcontext

theorem Objects.openSession (h : Objects contexts sessions comm) (hnone : comm.ssl = none) :
    Objects contexts sessions { comm with
      ssl := some (comm.sessions.allocate OBJECT_SIZE).1
      sessions := (comm.sessions.allocate OBJECT_SIZE).2 } := by
  have hsession := h.session
  rw [hnone] at hsession
  exact ⟨h.own, h.shared, hsession.allocate OBJECT_SIZE⟩

/-- A failure returns the new session, and the context if it is owned. -/
theorem Objects.abandon {pointer ssl : Nat} (h : Objects contexts sessions comm)
    (hcontext : comm.sec_ctx = some pointer) (hssl : comm.ssl = some ssl) :
    ∃ comm', comm.abandon pointer ssl = some (comm.plain_comm.error, comm') ∧
      comm'.plain_comm = comm.plain_comm ∧ comm'.ssl = none ∧ Objects contexts sessions comm' := by
  have hsession := h.session
  rw [hssl] at hsession
  obtain ⟨sessions', hsessions, hsession'⟩ := Blocks.Account.deallocate hsession
  have hown := h.own
  rw [hcontext] at hown
  cases howns : comm.owns_sec_ctx with
  | true =>
    rw [howns, if_pos rfl] at hown
    obtain ⟨contexts', hcontexts, hown'⟩ := Blocks.Account.deallocate hown
    simp only [SecureCommunication.abandon, hsessions, howns, if_true, hcontexts,
      Option.bind_eq_bind, Option.bind_some]
    exact ⟨_, rfl, rfl, rfl, hown', by simp, hsession'⟩
  | false =>
    rw [howns] at hown
    simp only [SecureCommunication.abandon, hsessions, howns, Bool.false_eq_true, if_false,
      Option.bind_eq_bind, Option.bind_some]
    exact ⟨_, rfl, rfl, rfl, hown, by simp, hsession'⟩

/-! ## Opening -/

/-- One attempt.  There is a session afterwards exactly if it has succeeded. -/
theorem SecureLedger.attempted (h : SecureLedger world owned contexts sessions fds comm)
    (hnone : comm.ssl = none) (hopen : comm.secureOpensslOpen = some (status, comm')) :
    ∃ fd, SecureLedger world owned contexts sessions (fds ++ [fd]) comm' ∧
      (comm'.ssl = none ↔ status ≠ BOLT_SUCCESS) := by
  unfold secureOpensslOpen at hopen
  rcases hplain : comm.plain_comm.plainSocketOpen with _ | ⟨result, plain⟩
  · simp only [hplain] at hopen
    cases hopen
  have hplain0 := h.plain.attempted (PlainCommunication.plainSocketOpen_attempted hplain)
  have hledger : SecureLedger world owned contexts sessions _ { comm with plain_comm := plain } :=
    ⟨h.toObjects.withPlain plain, hplain0⟩
  simp only [hplain] at hopen
  split_ifs at hopen with hfailed
  · obtain ⟨rfl, rfl⟩ := Prod.mk.inj (Option.some.inj hopen)
    exact ⟨_, hledger, iff_of_true hnone hfailed⟩
  rcases hensure : SecureCommunication.ensureContext { comm with plain_comm := plain } with
    _ | ⟨pointer, comm1⟩
  · simp only [hensure] at hopen
    cases hopen
  obtain ⟨hledger1, hcontext, hssl, hlive⟩ := hledger.ensureContext hensure
  have hnone1 := hssl.trans hnone
  have htalks := handshake_talks comm1.plain_comm.process
  rcases hhandshake : handshake comm1.plain_comm.process with ⟨connected, process1⟩
  rw [hhandshake] at htalks
  simp only [hensure, hlive, Option.isNone_some, Bool.false_eq_true, if_false, hhandshake] at hopen
  have hplain1 := ledger_talks hledger1.plain htalks
  have hobjects := hledger1.toObjects.openSession hnone1
  cases connected with
  | true =>
    obtain ⟨rfl, rfl⟩ := Prod.mk.inj (Option.some.inj hopen)
    exact ⟨plain.context.fd_socket, ⟨hobjects.withPlain _, hplain1⟩, by simp⟩
  | false =>
    rw [if_neg (by simp)] at hopen
    obtain ⟨comm2, habandon, hsame, hnone2, hobjects2⟩ := (hobjects.withPlain
      { comm1.plain_comm with process := process1, error := BOLT_TLS_ERROR }).abandon hcontext rfl
    obtain ⟨rfl, rfl⟩ := Prod.mk.inj (Option.some.inj (hopen.symm.trans habandon))
    refine ⟨plain.context.fd_socket, ⟨hobjects2, ?_⟩, iff_of_true hnone2 ?_⟩
    · rw [hsame]
      exact hplain1.withError BOLT_TLS_ERROR
    · exact show BOLT_TLS_ERROR ≠ BOLT_SUCCESS by decide

theorem SecureLedger.openHost (h : SecureLedger world owned contexts sessions fds comm)
    (hnone : comm.ssl = none) (hopen : comm.openHost = some (status, comm')) :
    ∃ fd, SecureLedger world owned contexts sessions (fds ++ [fd]) comm' ∧
      (comm'.ssl = none ↔ status ≠ BOLT_SUCCESS) := by
  obtain ⟨⟨result, comm1⟩, hattempt, hresult⟩ := Option.map_eq_some_iff.mp hopen
  obtain ⟨fd, hledger, hssl⟩ := h.attempted hnone hattempt
  dsimp only at hresult
  split_ifs at hresult with hfailed
  · obtain ⟨error, herror⟩ := PlainCommunication.tryComm_eq result comm1.plain_comm
    have hstatus : (PlainCommunication.tryComm result comm1.plain_comm).1 = result := by
      unfold PlainCommunication.tryComm
      split_ifs with hset
      · exact hset.symm
      · rfl
    rcases htried : PlainCommunication.tryComm result comm1.plain_comm with ⟨result', plain⟩
    rw [htried] at herror hstatus hresult
    dsimp only at herror hstatus
    subst herror hstatus
    obtain ⟨rfl, rfl⟩ := Prod.mk.inj hresult
    exact ⟨fd, ⟨hledger.toObjects.withPlain _, hledger.plain.withError error⟩, hssl⟩
  · obtain ⟨rfl, rfl⟩ := Prod.mk.inj hresult
    rw [not_not.mp hfailed] at hssl
    exact ⟨fd, hledger, hssl⟩

theorem SecureLedger.openHosts (hosts : List Bool) : ∀ {status status' : Int} {fds : List Int}
    {comm : SecureCommunication}, hosts ≠ [] ∨ status ≠ BOLT_SUCCESS → comm.ssl = none →
      SecureLedger world owned contexts sessions fds comm →
      openHosts status hosts comm = some (status', comm') →
      ∃ fds', SecureLedger world owned contexts sessions (fds ++ fds') comm' ∧
        (comm'.ssl = none ↔ status' ≠ BOLT_SUCCESS) := by
  induction hosts with
  | nil =>
    intro status status' fds comm hstatus hnone h hopen
    obtain ⟨rfl, rfl⟩ := Prod.mk.inj (Option.some.inj hopen)
    exact ⟨[], by rwa [List.append_nil], iff_of_true hnone (hstatus.resolve_left (by simp))⟩
  | cons supported hosts ih =>
    intro status status' fds comm _ hnone h hopen
    have hfirst : ∀ {result comm1},
        (if supported then comm.openHost else some (BOLT_UNSUPPORTED, comm)) =
            some (result, comm1) →
          ∃ fds', SecureLedger world owned contexts sessions (fds ++ fds') comm1 ∧
            (comm1.ssl = none ↔ result ≠ BOLT_SUCCESS) := by
      intro result comm1 hattempt
      split_ifs at hattempt
      · obtain ⟨fd, hledger, hssl⟩ := h.openHost hnone hattempt
        exact ⟨[fd], hledger, hssl⟩
      · obtain ⟨rfl, rfl⟩ := Prod.mk.inj (Option.some.inj hattempt)
        refine ⟨[], by rwa [List.append_nil], iff_of_true hnone ?_⟩
        exact show BOLT_UNSUPPORTED ≠ BOLT_SUCCESS by decide
    rw [SecureCommunication.openHosts] at hopen
    rcases hattempt : (if supported then comm.openHost else some (BOLT_UNSUPPORTED, comm)) with
      _ | ⟨result, comm1⟩
    · rw [hattempt] at hopen
      cases hopen
    · obtain ⟨fds', hledger, hssl⟩ := hfirst hattempt
      simp only [hattempt] at hopen
      split_ifs at hopen with hsuccess
      · obtain ⟨rfl, rfl⟩ := Prod.mk.inj (Option.some.inj hopen)
        rw [hsuccess] at hssl
        exact ⟨fds', ⟨hledger.toObjects.withPlain _, hledger.plain.withError _⟩, hssl⟩
      · obtain ⟨fds'', hledger', hssl'⟩ := ih (.inr hsuccess) (hssl.mpr hsuccess) hledger hopen
        exact ⟨fds' ++ fds'', by rwa [← List.append_assoc], hssl'⟩

theorem SecureLedger.openAddress {hosts : List Bool}
    (h : SecureLedger world owned contexts sessions fds comm) (hnone : comm.ssl = none)
    (hopen : comm.openAddress hosts = some (status, comm')) :
    ∃ fds', SecureLedger world owned contexts sessions (fds ++ fds') comm' ∧
      (comm'.ssl = none ↔ status ≠ BOLT_SUCCESS) := by
  unfold SecureCommunication.openAddress at hopen
  split_ifs at hopen with hempty
  · obtain ⟨rfl, rfl⟩ := Prod.mk.inj (Option.some.inj hopen)
    refine ⟨[], by rwa [List.append_nil], iff_of_true hnone ?_⟩
    exact show BOLT_ADDRESS_NOT_RESOLVED ≠ BOLT_SUCCESS by decide
  · exact SecureLedger.openHosts hosts (.inl hempty) hnone h hopen

/-! ## Openings that return -/

/-- `BoltSecurityContext_create` returns a context. -/
def createsContext (process : Process) : Bool :=
  match process.ask with
  | (.fail _, _) => false
  | (.succeed _, _) => true

/-- `select` has room for the descriptor of the next attempt, and the attempt gets a security
context if it has to make one. -/
def Openable (comm : SecureCommunication) : Prop :=
  comm.plain_comm.Selectable ∧ (comm.sec_ctx = none →
    ∀ result ∈ comm.plain_comm.plainSocketOpen, result.1 = BOLT_SUCCESS →
      createsContext result.2.process)

/-- So it is for all the attempts that are made for the hosts. -/
def AllOpenable : List Bool → SecureCommunication → Prop
  | [], _ => True
  | supported :: hosts, comm =>
    (supported = true → comm.Openable) ∧
      ∀ status comm',
        (if supported then comm.openHost else some (BOLT_UNSUPPORTED, comm)) =
          some (status, comm') → status ≠ BOLT_SUCCESS → AllOpenable hosts comm'

instance (comm : SecureCommunication) : Decidable comm.Openable := by
  unfold Openable
  infer_instance

instance decidableAllOpenable : ∀ hosts comm, Decidable (AllOpenable hosts comm)
  | [], _ => .isTrue trivial
  | supported :: hosts, comm =>
    match hattempt : if supported then comm.openHost else some (BOLT_UNSUPPORTED, comm) with
    | none => decidable_of_iff (supported = true → comm.Openable) (by simp [AllOpenable, hattempt])
    | some (status, comm') =>
      haveI : Decidable (AllOpenable hosts comm') := decidableAllOpenable hosts comm'
      decidable_of_iff ((supported = true → comm.Openable) ∧
          (status ≠ BOLT_SUCCESS → AllOpenable hosts comm'))
        (by simp [AllOpenable, hattempt])

/-- An attempt that can be made returns. -/
theorem SecureLedger.attempt_isSome (h : SecureLedger world owned contexts sessions fds comm)
    (hnone : comm.ssl = none) (hopenable : comm.Openable) : comm.secureOpensslOpen.isSome := by
  obtain ⟨hselectable, hcreates⟩ := hopenable
  obtain ⟨⟨result, plain⟩, hplain⟩ :=
    Option.isSome_iff_exists.mp (PlainCommunication.plainSocketOpen_isSome hselectable)
  have hplain0 := h.plain.attempted (PlainCommunication.plainSocketOpen_attempted hplain)
  have hledger : SecureLedger world owned contexts sessions _ { comm with plain_comm := plain } :=
    ⟨h.toObjects.withPlain plain, hplain0⟩
  unfold secureOpensslOpen
  simp only [hplain]
  split_ifs with hfailed
  · rfl
  rw [not_not] at hfailed
  subst hfailed
  have hensured : (SecureCommunication.ensureContext { comm with plain_comm := plain }).isSome := by
    unfold SecureCommunication.ensureContext
    dsimp only
    rcases hcontext : comm.sec_ctx with _ | pointer
    · have hcreates := hcreates hcontext _ hplain rfl
      unfold createsContext at hcreates
      rcases hanswer : plain.process.ask with ⟨errno | value, process1⟩
      · rw [hanswer] at hcreates
        cases hcreates
      · rfl
    · rfl
  obtain ⟨⟨pointer, comm1⟩, hensure⟩ := Option.isSome_iff_exists.mp hensured
  obtain ⟨hledger1, hcontext, hssl, hlive⟩ := hledger.ensureContext hensure
  have hobjects := hledger1.toObjects.openSession (hssl.trans hnone)
  rcases hhandshake : handshake comm1.plain_comm.process with ⟨connected, process1⟩
  simp only [hensure, hlive, Option.isNone_some, Bool.false_eq_true, if_false, hhandshake]
  cases connected with
  | true => rfl
  | false =>
    obtain ⟨comm2, habandon, -⟩ := (hobjects.withPlain
      { comm1.plain_comm with process := process1, error := BOLT_TLS_ERROR }).abandon hcontext rfl
    rw [if_neg (by simp)]
    exact Option.isSome_iff_exists.mpr ⟨_, habandon⟩

theorem SecureLedger.openHosts_isSome (hosts : List Bool) : ∀ {status : Int} {fds : List Int}
    {comm : SecureCommunication}, SecureLedger world owned contexts sessions fds comm →
      comm.ssl = none → AllOpenable hosts comm →
        (SecureCommunication.openHosts status hosts comm).isSome := by
  induction hosts with
  | nil => exact fun _ _ _ => rfl
  | cons supported hosts ih =>
    rintro status fds comm h hnone ⟨hfirst, hrest⟩
    have hattempt : (if supported then comm.openHost
        else some (BOLT_UNSUPPORTED, comm)).isSome := by
      split_ifs with hsupported
      · rw [SecureCommunication.openHost, Option.isSome_map]
        exact h.attempt_isSome hnone (hfirst hsupported)
      · rfl
    obtain ⟨⟨result, comm1⟩, hattempt⟩ := Option.isSome_iff_exists.mp hattempt
    simp only [SecureCommunication.openHosts, hattempt]
    split_ifs with hsuccess
    · rfl
    · have hopenable := hrest result comm1 hattempt hsuccess
      split_ifs at hattempt
      · obtain ⟨fd, hledger, hssl⟩ := h.openHost hnone hattempt
        exact ih hledger (hssl.mpr hsuccess) hopenable
      · obtain ⟨-, rfl⟩ := Prod.mk.inj (Option.some.inj hattempt)
        exact ih h hnone hopenable

/-! ## Closing -/

/-- The context is destroyed if it is owned, and only once. -/
theorem Objects.dropContext (h : Objects contexts sessions comm) :
    ∃ comm', comm.dropContext = some comm' ∧ comm'.plain_comm = comm.plain_comm ∧
      comm'.ssl = comm.ssl ∧ comm'.contexts.Account contexts ∧ Objects contexts sessions comm' := by
  have hown := h.own
  unfold SecureCommunication.dropContext
  rcases hcontext : comm.sec_ctx with _ | pointer
  · refine ⟨comm, rfl, rfl, rfl, ?_, h⟩
    rw [hcontext] at hown
    split_ifs at hown <;> exact hown
  · rw [hcontext] at hown
    dsimp only
    cases howns : comm.owns_sec_ctx with
    | true =>
      rw [howns, if_pos rfl] at hown
      obtain ⟨contexts', hcontexts, hown'⟩ := Blocks.Account.deallocate hown
      rw [if_pos rfl, hcontexts]
      exact ⟨_, rfl, rfl, rfl, hown', hown', by simp, h.session⟩
    | false =>
      rw [howns] at hown
      exact ⟨comm, rfl, rfl, rfl, hown, h⟩

/-- The session is returned.  What works on the socket may raise SIGPIPE. -/
theorem Objects.dropSession (h : Objects contexts sessions comm) :
    ∃ comm', comm.dropSession = some comm' ∧ Moves comm.plain_comm comm'.plain_comm ∧
      comm'.ssl = none ∧ Objects contexts sessions comm' := by
  have hsession := h.session
  unfold SecureCommunication.dropSession
  rcases hssl : comm.ssl with _ | ssl
  · exact ⟨comm, rfl, .refl _, hssl, h⟩
  · rw [hssl] at hsession
    obtain ⟨sessions', hsessions, hsession'⟩ := Blocks.Account.deallocate hsession
    have htalks := sslTalk_talks comm.plain_comm.process
    dsimp only
    rw [hsessions]
    refine ⟨_, rfl, ⟨⟨rfl, ?_, fun hmem => ?_⟩, rfl, htalks.heap, htalks.sockets, htalks.opened⟩,
      rfl, h.own, h.shared, hsession'⟩
    · rcases htalks.signals with hsame | hraised
      · exact congrArg Signals.mask hsame
      · exact (congrArg Signals.mask hraised).trans (by rw [Signals.raise]; split_ifs <;> rfl)
    · rcases htalks.signals with hsame | hraised
      · exact congrArg Signals.delivered hsame
      · exact (congrArg Signals.delivered hraised).trans (by rw [Signals.raise, if_pos hmem])

/-- What is left of the ledger when the communication has been closed and destroyed. -/
structure SecureClosed (world : SecureProcess) (owned contexts sessions : List (Nat × Nat))
    (fds : List Int) (closed opened : Bool) (world' : SecureProcess) : Prop where
  plain : Closed world.process owned fds closed world'.process
  contexts : world'.contexts.Account contexts
  sessions : ∃ lost, world'.sessions.Account (lost ++ sessions) ∧
    lost.length = if opened ∧ closed = false then 1 else 0

theorem Objects.destroy (h : Objects contexts sessions comm) (hdestroyed :
    comm.plain_comm.destroy = some process') :
    ∃ world', comm.secureOpensslDestroy = some world' ∧ world'.process = process' ∧
      world'.contexts.Account contexts ∧ world'.sessions.Account (object comm.ssl ++ sessions) := by
  obtain ⟨comm', hdrop, hplain, hssl, hcontexts, hobjects⟩ := h.dropContext
  refine ⟨⟨process', comm'.contexts, comm'.sessions⟩, ?_, rfl, hcontexts, ?_⟩
  · simp only [secureOpensslDestroy, hdrop, Option.bind_eq_bind, Option.bind_some, hplain,
      hdestroyed]
  · rw [← hssl]
    exact hobjects.session

/-- A secure communication can be closed and destroyed, whether it could be opened or not. -/
theorem SecureLedger.close_destroy (h : SecureLedger world owned contexts sessions fds comm) :
    ∃ status comm' world', comm.close = some (status, comm') ∧
      comm'.secureOpensslDestroy = some world' ∧
      SecureClosed world owned contexts sessions fds (status = BOLT_SUCCESS) comm.ssl.isSome
        world' := by
  unfold close
  rcases hignored : comm.plain_comm.ignoreSigpipe with ⟨ignored, plain1⟩
  have hcases := PlainCommunication.ignoreSigpipe_ignores h.plain.action h.plain.signals
  simp only [hignored] at hcases ⊢
  rcases hcases with ⟨rfl, hignores⟩ | ⟨rfl, huntouched⟩
  · obtain ⟨comm2, hsession, hmoves, hnone, hobjects2⟩ :=
      (h.toObjects.withPlain plain1).dropSession
    obtain ⟨comm3, hcontext, hplain3, hssl3, -, hobjects3⟩ := hobjects2.dropContext
    rw [← hplain3] at hmoves
    obtain ⟨plain4, plain5, process', hclose, hrestored, hdestroyed, hclosed⟩ :=
      h.plain.closing hignores hmoves
    obtain ⟨world', hdestroy, hprocess, hcontexts, hsessions⟩ :=
      (hobjects3.withPlain plain5).destroy hdestroyed
    refine ⟨BOLT_SUCCESS, { comm3 with plain_comm := plain5 }, world', ?_, hdestroy,
      hprocess ▸ hclosed, hcontexts, [], ?_, by simp⟩
    · simp only [ne_eq, not_true_eq_false, if_false, secureOpensslClose, hsession,
        Option.bind_eq_bind, Option.bind_some, hcontext, hclose, hrestored, Option.map_some]
    · rwa [hssl3, hnone] at hsessions
  · obtain ⟨process', hdestroyed, hclosed⟩ :=
      PlainCommunication.destroy_untouched h.plain huntouched
    obtain ⟨world', hdestroy, hprocess, hcontexts, hsessions⟩ :=
      (h.toObjects.withPlain plain1).destroy hdestroyed
    refine ⟨BOLT_STATUS_SET, { comm with plain_comm := plain1 }, world', rfl, hdestroy,
      hprocess ▸ hclosed, hcontexts, object comm.ssl, hsessions, ?_⟩
    cases comm.ssl with
    | none => rfl
    | some ssl => rfl

/-! ## Lives -/

/-- A context of others or none, what a secure communication is created with, and the
hosts of the address that it is opened for. -/
structure SecureLife where
  sec_ctx : Option Nat
  sock_opts : BoltSocketOptions
  hosts : List Bool

/-- What is seen of a life: the status of the opening, that of the close, and what `socket`
has returned. -/
structure SecureLived where
  openStatus : Int
  closeStatus : Int
  opened : List Int

/-- A secure communication is created, opened, closed and destroyed.  The transfers in
between leave the objects alone. -/
def live : Runs.Step SecureLife SecureProcess SecureLived
  | life, world => do
    let (openStatus, comm) ← (create life.sec_ctx life.sock_opts world).openAddress life.hosts
    let (closeStatus, comm) ← comm.close
    let world' ← comm.secureOpensslDestroy
    some (⟨openStatus, closeStatus, world'.process.opened.drop world.process.opened.length⟩, world')

/-- The descriptors that stay open after the life. -/
def SecureLived.leaked (lived : SecureLived) : List Nat :=
  PlainCommunication.leaked (lived.closeStatus = BOLT_SUCCESS) lived.opened

/-- What a life needs of the numbers of descriptors and of OpenSSL. -/
def SecureLife.Openable (life : SecureLife) (world : SecureProcess) : Prop :=
  AllOpenable life.hosts (create life.sec_ctx life.sock_opts world)

instance (life : SecureLife) (world : SecureProcess) : Decidable (life.Openable world) := by
  unfold SecureLife.Openable
  infer_instance

theorem live_closed {life : SecureLife} (hnodup : world.process.descriptors.Nodup)
    (hheld : world.process.signals.Held) (hheap : world.process.heap.Account owned)
    (hcontexts : world.contexts.Account contexts) (hsessions : world.sessions.Account sessions)
    (hshared : ∀ pointer, life.sec_ctx = some pointer → (pointer, OBJECT_SIZE) ∈ contexts)
    (hopenable : life.Openable world) :
    ∃ lived world', live life world = some (lived, world') ∧
      SecureClosed world owned contexts sessions lived.opened (lived.closeStatus = BOLT_SUCCESS)
        (lived.openStatus = BOLT_SUCCESS) world' := by
  have hcreated := SecureLedger.create life.sock_opts hnodup hheld hheap hcontexts hsessions hshared
  have hopens : ((create life.sec_ctx life.sock_opts world).openAddress life.hosts).isSome := by
    unfold SecureCommunication.openAddress
    split_ifs
    · rfl
    · exact SecureLedger.openHosts_isSome life.hosts hcreated rfl hopenable
  obtain ⟨⟨status, comm⟩, hopen⟩ := Option.isSome_iff_exists.mp hopens
  obtain ⟨fds, hledger, hssl⟩ := hcreated.openAddress rfl hopen
  rw [List.nil_append] at hledger
  obtain ⟨closeStatus, comm', world', hclose, hdestroy, hclosed⟩ := hledger.close_destroy
  have hopened : comm.ssl.isSome = decide (status = BOLT_SUCCESS) := by
    rw [Bool.eq_iff_iff, Option.isSome_iff_ne_none, ne_eq, hssl, not_not, decide_eq_true_iff]
  rw [hopened] at hclosed
  refine ⟨⟨status, closeStatus, fds⟩, world', ?_, hclosed⟩
  simp only [live, hopen, hclose, hdestroy, Option.bind_eq_bind, Option.bind_some,
    hclosed.plain.opened, List.drop_left]

end SecureCommunication

end Seabolt
