import Seabolt.Effects

/-!
# Statuses

Which statuses the operations of a connection can leave behind.

A call of `BoltConnection_fetch` is a call of the protocol's `fetch`, and what
its result and the last message then mean for the status.  `Reads` is a row
of calls of the protocol's `fetch` up to the summary of a response, or up to an
error; `BoltConnection_fetch_summary` is one such row.
-/

namespace Seabolt

/-- The statuses that agree: there is an error exactly in the states `DEFUNCT`
and `FAILED`. -/
def BoltStatus.Consistent (status : BoltStatus) : Prop :=
  (status.state = .defunct ∨ status.state = .failed) ↔ status.error ≠ BOLT_SUCCESS

/-- The status stays as it is, or becomes `DEFUNCT` with an error. -/
def BoltStatus.Moves (status status' : BoltStatus) : Prop :=
  status' = status ∨ status'.state = .defunct ∧ status'.error ≠ BOLT_SUCCESS

/-- The status that a summary sets, which is none for an IGNORED without
failure data. -/
def BoltProtocolState.summaryStatus (state : BoltProtocolState) : Option BoltStatus :=
  if state.data_type = BOLT_V1_SUCCESS then some ⟨.ready, BOLT_SUCCESS⟩
  else if state.data_type = BOLT_V1_IGNORED then
    if state.failure_data.isSome then some ⟨.failed, BOLT_SERVER_FAILURE⟩ else none
  else if state.data_type = BOLT_V1_FAILURE then some ⟨.failed, BOLT_SERVER_FAILURE⟩
  else some ⟨.defunct, BOLT_PROTOCOL_VIOLATION⟩

namespace BoltStatus

variable {s s' s'' : BoltStatus}

theorem Moves.refl (s : BoltStatus) : s.Moves s := .inl rfl

theorem Moves.trans (h : s.Moves s') (h' : s'.Moves s'') : s.Moves s'' := by
  rcases h' with rfl | hdefunct
  · exact h
  · exact .inr hdefunct

theorem Moves.consistent (h : s.Moves s') (hs : s.Consistent) : s'.Consistent := by
  rcases h with rfl | ⟨hstate, herror⟩
  · exact hs
  · exact iff_of_true (.inl hstate) herror

theorem Moves.defunct (h : s.Moves s') (hs : s.state = .defunct) : s'.state = .defunct := by
  rcases h with rfl | ⟨hstate, -⟩
  · exact hs
  · exact hstate

end BoltStatus

theorem BoltProtocolState.summaryStatus_consistent {state : BoltProtocolState}
    {status : BoltStatus} (h : state.summaryStatus = some status) : status.Consistent := by
  unfold summaryStatus at h
  split_ifs at h
  all_goals
    obtain rfl := Option.some.inj h
    simp [BoltStatus.Consistent]

/-- A request changes nothing of the connection but the transmit buffer. -/
theorem Handles.connection {version : ProtocolVersion} {request : Request}
    {session session' : Session} {status : Int}
    (h : Handles version request session status session') :
    session'.1 = { session.1 with tx_buffer := session'.1.tx_buffer } := by
  cases h with
  | set run_request begin_request => rfl
  | load run_request begin_request hload => exact (loadMessages_same _ hload).connection

namespace BoltConnection

variable {connection connection' : BoltConnection} {result : Int} {request : Nat}

/-! ## Sending and requests -/

theorem send_moves (connection : BoltConnection) :
    connection.status.Moves connection.send.2.status := by
  unfold send
  dsimp only
  split_ifs with hstatus
  · exact .inr ⟨by rw [setStatusFromComm, setStatus_status],
      by rw [setStatusFromComm, setStatus_status]; exact BoltCommunication.send_error hstatus⟩
  · exact .refl _

theorem tryStatus_moves (status : Int) (connection : BoltConnection) :
    connection.status.Moves (tryStatus status connection).2.status := by
  rcases tryStatus_cases status connection with ⟨-, heq⟩ | ⟨-, -, heq⟩ | ⟨hstatus, -, heq⟩
  · rw [heq]
    exact .refl _
  · rw [heq]
    exact .refl _
  · rw [heq]
    exact .inr ⟨by rw [setStatus_status], by rw [setStatus_status]; exact hstatus⟩

theorem request_moves {request : Request} (h : connection.request request = some (result, connection')) :
    connection.status.Moves connection'.status := by
  obtain ⟨version, state, status, session', -, hhandles, htry⟩ := request_cases h
  have hmoves := tryStatus_moves status { session'.1 with protocol := some ⟨version, session'.2⟩ }
  rw [← htry] at hmoves
  have hstatus : session'.1.status = connection.status := by rw [hhandles.connection]
  rwa [show ({ session'.1 with protocol := some ⟨version, session'.2⟩ } : BoltConnection).status =
    connection.status from hstatus] at hmoves

/-- So does loading a message that is not one of the prepared ones. -/
theorem loadMessage_same {message : BoltMessage} {status : Int}
    (h : connection.loadMessage message = some (status, connection')) :
    connection' = { connection with
      tx_buffer := connection'.tx_buffer, protocol := connection'.protocol } ∧
    connection'.protocol.map BoltProtocol.version = connection.protocol.map BoltProtocol.version := by
  unfold loadMessage at h
  split at h
  · cases h
  · rename_i protocol hprotocol
    obtain ⟨⟨status', connection1, state⟩, hload, hresult⟩ := Option.map_eq_some_iff.mp h
    obtain ⟨-, rfl⟩ := Prod.mk.inj hresult
    have hsame := (Seabolt.loadMessage_same hload).connection
    dsimp only at hsame
    rw [hsame, hprotocol]
    exact ⟨rfl, rfl⟩

/-! ## Fetching -/

/-- The call of `protocol->fetch` in `BoltConnection_fetch`. -/
def protocolFetch (request : Nat) (connection : BoltConnection) : Outcome BoltConnection :=
  match connection.protocol with
  | none => none
  | some protocol =>
    (protocol.version.fetch ({ connection with protocol := none }, protocol.state) request).map
      fun (result, connection, state) =>
        (result, { connection with protocol := some { protocol with state := state } })

/-- What `BoltConnection_fetch` does with the result of that call. -/
def reported (result : Int) (connection : BoltConnection) : Int × BoltConnection :=
  match connection.protocol with
  | none => (result, connection)
  | some protocol => fetched result connection protocol.state

theorem fetch_eq (connection : BoltConnection) (request : Nat) :
    connection.fetch request =
      (connection.protocolFetch request).map fun (result, connection) =>
        reported result connection := by
  rcases hprotocol : connection.protocol with _ | protocol
  · simp only [fetch, protocolFetch, hprotocol, Option.map_none]
  · simp only [fetch, protocolFetch, hprotocol, Option.map_map]
    rfl

/-- The session that the protocol's `fetch` works on. -/
theorem protocolFetch_session {version : ProtocolVersion} {state : BoltProtocolState}
    (hprotocol : connection.protocol = some ⟨version, state⟩)
    (h : connection.protocolFetch request = some (result, connection')) :
    ∃ state', connection'.protocol = some ⟨version, state'⟩ ∧
      version.fetch ({ connection with protocol := none }, state) request =
        some (result, { connection' with protocol := none }, state') := by
  simp only [protocolFetch, hprotocol] at h
  obtain ⟨⟨result', connection1, state'⟩, hfetch, hresult⟩ := Option.map_eq_some_iff.mp h
  obtain ⟨rfl, rfl⟩ := Prod.mk.inj hresult
  have hsame := (ProtocolVersion.fetch_steady hfetch).connection.same
  have hnone : connection1.protocol = none := congrArg BoltConnection.protocol hsame
  refine ⟨state', rfl, ?_⟩
  rw [hfetch]
  dsimp only
  rw [← hnone]

/-- The protocol's `fetch` does not touch the prepared messages, the transmit
buffers and the ids, and it sets no status but `DEFUNCT`. -/
theorem protocolFetch_steady (h : connection.protocolFetch request = some (result, connection')) :
    ∃ version state state', connection.protocol = some ⟨version, state⟩ ∧
      connection'.protocol = some ⟨version, state'⟩ ∧
      Session.Steady ({ connection with protocol := none }, state)
        ({ connection' with protocol := none }, state') := by
  rcases hprotocol : connection.protocol with _ | ⟨version, state⟩
  · simp only [protocolFetch, hprotocol] at h
    cases h
  · obtain ⟨state', hprotocol', hfetch⟩ := protocolFetch_session hprotocol h
    exact ⟨version, state, state', rfl, hprotocol', ProtocolVersion.fetch_steady hfetch⟩

theorem protocolFetch_recorded (h : connection.protocolFetch request = some (result, connection')) :
    Recorded connection connection' := by
  rcases hprotocol : connection.protocol with _ | ⟨version, state⟩
  · simp only [protocolFetch, hprotocol] at h
    cases h
  · obtain ⟨state', -, hfetch⟩ := protocolFetch_session hprotocol h
    have hrecorded := ProtocolVersion.fetch_recorded hfetch
    exact ⟨hrecorded.on_error_cb, hrecorded.grows, hrecorded.quiet⟩

/-- Only a fetch that fails sets a status. -/
theorem protocolFetch_quiet (h : connection.protocolFetch request = some (result, connection')) :
    result = FETCH_ERROR ∨ Quiet connection connection' := by
  rcases hprotocol : connection.protocol with _ | ⟨version, state⟩
  · simp only [protocolFetch, hprotocol] at h
    cases h
  · obtain ⟨state', -, hfetch⟩ := protocolFetch_session hprotocol h
    rcases ProtocolVersion.fetch_quiet hfetch with herror | hquiet
    · exact .inl herror
    · exact .inr ⟨hquiet.status, hquiet.calls⟩

theorem protocolFetch_moves (h : connection.protocolFetch request = some (result, connection')) :
    connection.status.Moves connection'.status := by
  obtain ⟨version, state, state', -, -, hsteady⟩ := protocolFetch_steady h
  exact hsteady.connection.status

/-- The status that the last message sets, if it is a summary. -/
def summaryStatus (connection : BoltConnection) : Option BoltStatus :=
  connection.protocol.bind fun protocol => protocol.state.summaryStatus

/-- Only a summary sets the status, and only a message that is no summary makes
the result another one. -/
theorem reported_cases (result : Int) (connection : BoltConnection) :
    (result ≠ FETCH_SUMMARY ∧ reported result connection = (result, connection)) ∨
    (result = FETCH_SUMMARY ∧ connection.summaryStatus = none ∧
      reported result connection = (FETCH_SUMMARY, connection)) ∨
    ∃ status, result = FETCH_SUMMARY ∧ connection.summaryStatus = some status ∧
      reported result connection = (if status.state = .defunct then FETCH_ERROR else FETCH_SUMMARY,
        connection.setStatus status.state status.error) := by
  unfold reported summaryStatus
  rcases connection.protocol with _ | protocol
  · by_cases hresult : result = FETCH_SUMMARY
    · exact .inr (.inl ⟨hresult, rfl, by rw [hresult]⟩)
    · exact .inl ⟨hresult, rfl⟩
  · by_cases hresult : result = FETCH_SUMMARY
    · subst hresult
      simp only [Option.bind_some, fetched, BoltProtocolState.summaryStatus, if_true]
      split_ifs
      · exact .inr (.inr ⟨_, trivial, rfl, rfl⟩)
      · exact .inr (.inr ⟨_, trivial, rfl, rfl⟩)
      · exact .inr (.inl ⟨trivial, rfl, rfl⟩)
      · exact .inr (.inr ⟨_, trivial, rfl, rfl⟩)
      · exact .inr (.inr ⟨_, trivial, rfl, rfl⟩)
    · exact .inl ⟨hresult, by simp only [fetched, hresult, if_false]⟩

theorem reported_consistent (result : Int) (h : connection.status.Consistent) :
    (reported result connection).2.status.Consistent := by
  rcases reported_cases result connection with ⟨-, heq⟩ | ⟨-, -, heq⟩ | ⟨status, -, hsummary, heq⟩
  · rwa [heq]
  · rwa [heq]
  · rw [heq, setStatus_status]
    obtain ⟨protocol, -, hstatus⟩ := Option.bind_eq_some_iff.mp hsummary
    exact BoltProtocolState.summaryStatus_consistent hstatus

/-- The last message is a summary that makes a defunct connection usable. -/
def Revived (connection : BoltConnection) : Prop :=
  ∃ status, connection.summaryStatus = some status ∧ status.state ≠ .defunct

theorem reported_defunct (h : connection.status.state = .defunct) :
    (reported result connection).2.status.state = .defunct ↔
      ¬(result = FETCH_SUMMARY ∧ connection.Revived) := by
  rcases reported_cases result connection with
    ⟨hresult, heq⟩ | ⟨-, hnone, heq⟩ | ⟨status, hresult, hsummary, heq⟩
  · rw [heq]
    exact iff_of_true h fun hrevived => hresult hrevived.1
  · rw [heq]
    refine iff_of_true h ?_
    rintro ⟨-, status, hsummary, -⟩
    rw [hnone] at hsummary
    cases hsummary
  · rw [heq, setStatus_status]
    constructor
    · rintro hdefunct ⟨-, status', hsummary', hstatus'⟩
      rw [hsummary] at hsummary'
      obtain rfl := Option.some.inj hsummary'
      exact hstatus' hdefunct
    · intro hnot
      by_contra hdefunct
      exact hnot ⟨hresult, status, hsummary, hdefunct⟩

/-! ## Rows of calls -/

/-- A call of the protocol's `fetch`, as a step of a run. -/
def protocolStep : Runs.Step Nat BoltConnection Int :=
  fun request connection => connection.protocolFetch request

/-- The protocol fetches messages of a response until a summary or an error:
`results` are those of the calls before the last. -/
structure Reads (request : Nat) (connection : BoltConnection) (results : List Int) (last : Int)
    (final : BoltConnection) : Prop where
  run : Runs.run protocolStep (List.replicate (results.length + 1) request) connection =
    some (results ++ [last], final)
  positive : ∀ r ∈ results, 0 < r
  last_le : last ≤ 0

/-- The number that `BoltConnection_fetch_summary` adds the results up to. -/
def total (results : List Int) : Int := Int.bmod results.sum 0x100000000

theorem Reads.moves {results : List Int} {last : Int}
    (h : Reads request connection results last connection') :
    connection.status.Moves connection'.status := by
  exact Runs.related_of_run (R := fun c c' : BoltConnection => c.status.Moves c'.status)
    (fun _ => .refl _) (fun _ _ _ h h' => h.trans h')
    (fun _ _ _ _ hstep => protocolFetch_moves hstep) _ h.run

theorem addInt_eq (records data : Int) : addInt records data = Int.bmod (records + data) 0x100000000 :=
  rfl

/-- `BoltConnection_fetch_summary` reads one response.  Its result is that of
the last call if this is an error, and otherwise what the results add up to. -/
theorem fetchSummaryLoop_reads (fuel : Nat) :
    ∀ {connection connection' : BoltConnection} {records result : Int},
      fetchSummaryLoop request fuel records connection = some (result, connection') →
      ∃ results last final, Reads request connection results last final ∧
        connection' = (reported last final).2 ∧
        result = if (reported last final).1 < 0 then (reported last final).1
          else addInt records results.sum := by
  induction fuel with
  | zero =>
    intro connection connection' records result h
    cases h
  | succ fuel ih =>
    intro connection connection' records result h
    rcases hfetch : connection.protocolFetch request with _ | ⟨data, fetched⟩
    · simp only [fetchSummaryLoop, fetch_eq, hfetch, Option.map_none] at h
      cases h
    · simp only [fetchSummaryLoop, fetch_eq, hfetch, Option.map_some] at h
      by_cases hlast : data ≤ 0
      · refine ⟨[], data, fetched, ⟨Runs.run_cons hfetch rfl, by simp, hlast⟩, ?_⟩
        have hresult : (reported data fetched).1 ≤ 0 := by
          rcases reported_cases data fetched with ⟨-, heq⟩ | ⟨-, -, heq⟩ | ⟨status, -, -, heq⟩
          · rw [heq]
            exact hlast
          · rw [heq]
          · rw [heq]
            dsimp only
            split_ifs
            · decide
            · decide
        split_ifs at h with hneg hmore
        · obtain ⟨rfl, rfl⟩ := Prod.mk.inj (Option.some.inj h)
          exact ⟨rfl, by rw [if_pos hneg]⟩
        · omega
        · obtain ⟨rfl, rfl⟩ := Prod.mk.inj (Option.some.inj h)
          have hzero : (reported data fetched).1 = 0 := by omega
          exact ⟨rfl, by rw [if_neg hneg, hzero, List.sum_nil]⟩
      · have hsame : reported data fetched = (data, fetched) := by
          rcases reported_cases data fetched with ⟨-, heq⟩ | ⟨hzero, -, -⟩ | ⟨status, hzero, -, -⟩
          · exact heq
          · exact absurd hzero.le hlast
          · exact absurd hzero.le hlast
        have hnonneg : ¬data < 0 := by omega
        have hmore : data ≠ 0 := by omega
        simp only [hsame, hnonneg, if_false, hmore, ne_eq, not_false_eq_true, if_true] at h
        obtain ⟨results, last, final, hreads, hconnection, hresult⟩ := ih h
        refine ⟨data :: results, last, final,
          ⟨Runs.run_cons hfetch hreads.run, ?_, hreads.last_le⟩, hconnection, ?_⟩
        · exact List.forall_mem_cons.mpr ⟨by omega, hreads.positive⟩
        · rw [hresult, List.sum_cons, addInt_addInt]

/-- The same for the whole call. -/
theorem fetchSummary_reads (h : connection.fetchSummary request = some (result, connection')) :
    ∃ results last final, Reads request connection results last final ∧
      connection' = (reported last final).2 ∧
      result = if (reported last final).1 < 0 then (reported last final).1 else total results := by
  obtain ⟨results, last, final, hreads, hconnection, hresult⟩ := fetchSummaryLoop_reads _ h
  refine ⟨results, last, final, hreads, hconnection, ?_⟩
  rw [hresult, addInt_eq, Int.zero_add]
  rfl

/-- Only one row of calls reads a response. -/
theorem Reads.unique {results results' : List Int} {last last' : Int}
    {final final' : BoltConnection} (h : Reads request connection results last final)
    (h' : Reads request connection results' last' final') :
    results = results' ∧ last = last' ∧ final = final' := by
  have hgo : ∀ results : List Int, (∀ r ∈ results, 0 < r) → ∀ r ∈ results, ¬r ≤ 0 :=
    fun _ hpositive r hr => not_le.mpr (hpositive r hr)
  exact Runs.stopped_unique (fun r => r ≤ 0) h.last_le h'.last_le results h.run
    (hgo results h.positive) h'.run (hgo results' h'.positive)

end BoltConnection

end Seabolt
