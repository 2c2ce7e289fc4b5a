import Seabolt.Authentication

/-!
# Lives of connections

A connection lives through calls of its public functions and of the `reset` of
its pool, in any order.  The question that is asked of every life here is whether
the state and the error of the status agree.
-/

namespace Seabolt

/-- A call of a public function of a connection, or of the `reset` of its pool. -/
inductive Operation where
  | openAt (target : BoltConnection.Target)
  | init (user_agent : List UInt8) (auth_token : BoltValue)
  | request (request : Request)
  | send
  | fetch (request : Nat)
  | fetchSummary (request : Nat)
  | reset
  | close

namespace BoltConnection

/-- The call of an operation.  Sending reads the transmit buffer, which a closed
connection does not have. -/
def perform : Runs.Step Operation BoltConnection Int
  | .openAt target, connection => connection.openAt target
  | .init user_agent auth_token, connection => connection.init user_agent auth_token
  | .request request, connection => connection.request request
  | .send, connection => if connection.tx_buffer.size = 0 then none else some connection.send
  | .fetch request, connection => connection.fetch request
  | .fetchSummary request, connection => connection.fetchSummary request
  | .reset, connection => connection.reset
  | .close, connection => connection.close.map fun connection => (BOLT_SUCCESS, connection)

/-! ## The status after every operation -/

variable {connection connection' : BoltConnection} {result : Int}

theorem status_of_close_ (h : connection.close_ = some connection') :
    connection'.status = ⟨.disconnected, BOLT_SUCCESS⟩ := by
  obtain ⟨connection1, -, rfl⟩ := Option.map_eq_some_iff.mp h
  exact setStatus_status _ _ _

theorem close_status (h : connection.close = some connection') :
    connection'.status = connection.status ∨
      connection'.status = ⟨.disconnected, BOLT_SUCCESS⟩ := by
  obtain ⟨connection1, hclose, rfl⟩ := Option.map_eq_some_iff.mp h
  split_ifs at hclose
  · have hstatus : connection1.status = _ := status_of_close_ hclose
    exact .inr hstatus
  · obtain rfl := Option.some.inj hclose
    exact .inl rfl

theorem negotiated_status {protocol_version status : Int}
    (h : connection.negotiated protocol_version = some (status, connection')) :
    status = BOLT_SUCCESS ∨ status = BOLT_PROTOCOL_UNSUPPORTED := by
  unfold negotiated at h
  dsimp only at h
  split at h
  · exact .inl (Prod.mk.inj (Option.some.inj h)).1.symm
  · obtain ⟨closed, -, hresult⟩ := Option.map_eq_some_iff.mp h
    exact .inr (Prod.mk.inj hresult).1.symm

/-- The handshake succeeds, or its transport fails, or it ends with a closed
connection. -/
theorem handshakeB_status {v1 v2 v3 v4 : Nat} {status : Int}
    (h : connection.handshakeB v1 v2 v3 v4 = some (status, connection')) :
    status = BOLT_SUCCESS ∨
    status = BOLT_STATUS_SET ∧ connection'.status.state = .defunct ∧
      connection'.status.error ≠ BOLT_SUCCESS ∨
    status = BOLT_PROTOCOL_UNSUPPORTED := by
  unfold handshakeB at h
  dsimp only at h
  split_ifs at h with hsend hreceive
  · obtain ⟨rfl, rfl⟩ := Prod.mk.inj (Option.some.inj h)
    rw [setStatusFromComm, setStatus_status]
    exact .inr (.inl ⟨rfl, rfl, BoltCommunication.send_error hsend⟩)
  · obtain ⟨rfl, rfl⟩ := Prod.mk.inj (Option.some.inj h)
    rw [setStatusFromComm, setStatus_status]
    exact .inr (.inl ⟨rfl, rfl, BoltCommunication.receive_error hreceive⟩)
  · rcases negotiated_status h with hsuccess | hunsupported
    · exact .inl hsuccess
    · exact .inr (.inr hunsupported)

/-- Opening leaves a consistent status, unless none of the hosts was tried. -/
theorem openDisconnected_consistent {target : Target}
    (h : connection.openDisconnected target = some (result, connection')) :
    connection'.status.Consistent ↔ true ∈ target.hosts ∨ target.comm.error ≠ BOLT_SUCCESS := by
  unfold openDisconnected at h
  dsimp only at h
  rcases BoltCommunication.openAddress_cases target.comm target.hosts with
    ⟨hopened, hhost⟩ | ⟨hfailed, herror⟩
  · refine iff_of_true ?_ (.inl hhost)
    rw [if_pos hopened] at h
    obtain ⟨⟨status, connection1⟩, hhandshake, hresult⟩ := Option.map_eq_some_iff.mp h
    dsimp only at hresult
    rcases tryStatus_cases status connection1 with
      ⟨-, heq⟩ | ⟨hset, hstatus, heq⟩ | ⟨hfail, hset, heq⟩
    · simp only [heq, ne_eq, not_true_eq_false, if_false] at hresult
      obtain ⟨-, rfl⟩ := Prod.mk.inj hresult
      rw [setStatus_status]
      simp [BoltStatus.Consistent]
    · have hne : (-1 : Int) ≠ BOLT_SUCCESS := by decide
      simp only [heq, hne, ne_eq, not_false_eq_true, if_true] at hresult
      obtain ⟨-, rfl⟩ := Prod.mk.inj hresult
      rcases handshakeB_status hhandshake with hsuccess | ⟨-, hstate, herror⟩ | hunsupported
      · exact absurd hsuccess hset
      · exact iff_of_true (.inl hstate) herror
      · rw [hunsupported] at hstatus
        exact absurd hstatus (by decide)
    · simp only [heq, hfail, ne_eq, not_false_eq_true, if_true] at hresult
      obtain ⟨-, rfl⟩ := Prod.mk.inj hresult
      rw [setStatus_status]
      exact iff_of_true (.inl rfl) hfail
  · rw [if_neg hfailed] at h
    obtain ⟨-, rfl⟩ := Prod.mk.inj (Option.some.inj h)
    rw [setStatusFromComm, setStatus_status]
    simpa [BoltStatus.Consistent] using herror

theorem openAt_consistent {target : Target}
    (h : connection.openAt target = some (result, connection')) :
    connection'.status.Consistent ↔ true ∈ target.hosts ∨ target.comm.error ≠ BOLT_SUCCESS := by
  unfold openAt at h
  split_ifs at h
  · obtain ⟨closed, -, hopen⟩ := Option.bind_eq_some_iff.mp h
    exact openDisconnected_consistent hopen
  · exact openDisconnected_consistent h

theorem init_consistent {user_agent : List UInt8} {auth_token : BoltValue}
    (h : connection.init user_agent auth_token = some (result, connection')) :
    connection'.status.Consistent := by
  unfold init at h
  split_ifs at h
  · split at h
    · cases h
    · obtain ⟨⟨code, connection1⟩, -, hresult⟩ := Option.map_eq_some_iff.mp h
      dsimp only at hresult
      rcases initialised_status code connection1 with ⟨-, -, hstatus⟩ | ⟨-, -, hstate, herror⟩
      · rw [hresult] at hstatus
        rw [show connection'.status = _ from hstatus]
        simp [BoltStatus.Consistent]
      · rw [hresult] at hstate herror
        exact iff_of_true (.inl hstate) herror
  · obtain ⟨-, rfl⟩ := Prod.mk.inj (Option.some.inj h)
    rw [setStatus_status]
    simp [BoltStatus.Consistent]

theorem fetch_consistent {request : Nat} (hconsistent : connection.status.Consistent)
    (h : connection.fetch request = some (result, connection')) :
    connection'.status.Consistent := by
  rw [fetch_eq] at h
  obtain ⟨⟨fetched, connection1⟩, hfetch, hresult⟩ := Option.map_eq_some_iff.mp h
  dsimp only at hresult
  have hreported := reported_consistent fetched
    ((protocolFetch_moves hfetch).consistent hconsistent)
  rwa [hresult] at hreported

theorem fetchSummary_consistent {request : Nat} (hconsistent : connection.status.Consistent)
    (h : connection.fetchSummary request = some (result, connection')) :
    connection'.status.Consistent := by
  obtain ⟨results, last, final, hreads, rfl, -⟩ := fetchSummary_reads h
  exact reported_consistent last (hreads.moves.consistent hconsistent)

/-- A reset loads its request, sends it and reads the response.  It has
succeeded if the response ends in a SUCCESS. -/
theorem reset_cases (h : connection.reset = some (result, connection')) :
    ∃ status loaded, connection.loadResetRequest = some (status, loaded) ∧
      (status ≠ BOLT_SUCCESS ∧ result = -1 ∧ connection' = loaded ∨
        status = BOLT_SUCCESS ∧ ∃ request_id records, loaded.lastRequest = some request_id ∧
          (loaded.send.1 < 0 ∧ result = -1 ∧ connection' = loaded.send.2 ∨
            loaded.send.2.fetchSummary request_id = some (records, connection') ∧
            result = if ¬records < 0 ∧ connection'.isSummary BOLT_V1_SUCCESS then 0 else -1)) := by
  unfold reset at h
  obtain ⟨⟨status, loaded⟩, hload, h⟩ := Option.bind_eq_some_iff.mp h
  refine ⟨status, loaded, hload, ?_⟩
  by_cases hstatus : status = 0
  · rcases hsend : loaded.send with ⟨sent, connection1⟩
    simp only [hstatus, if_true, hsend] at h
    obtain ⟨request_id, hlast, h⟩ := Option.bind_eq_some_iff.mp h
    by_cases hsent : sent < 0
    · rw [if_pos hsent] at h
      obtain ⟨rfl, rfl⟩ := Prod.mk.inj (Option.some.inj h)
      exact .inr ⟨hstatus, request_id, 0, hlast, .inl ⟨hsent, rfl, rfl⟩⟩
    · rw [if_neg hsent] at h
      obtain ⟨⟨records, connection2⟩, hfetch, hresult⟩ := Option.map_eq_some_iff.mp h
      have hresult : (if ¬records < 0 ∧ connection2.isSummary BOLT_V1_SUCCESS then (0 : Int) else -1,
          connection2) = (result, connection') := by
        rw [← hresult]
        by_cases hrecords : records < 0
        · simp only [hrecords, not_true_eq_false, false_and, if_false, if_true]
        · simp only [hrecords, not_false_eq_true, true_and, if_false]
          split_ifs <;> rfl
      obtain ⟨rfl, rfl⟩ := Prod.mk.inj hresult
      exact .inr ⟨hstatus, request_id, records, hlast, .inr ⟨hfetch, rfl⟩⟩
  · simp only [hstatus, if_false] at h
    obtain ⟨rfl, rfl⟩ := Prod.mk.inj (Option.some.inj h)
    exact .inl ⟨hstatus, rfl, rfl⟩

theorem reset_consistent (hconsistent : connection.status.Consistent)
    (h : connection.reset = some (result, connection')) : connection'.status.Consistent := by
  obtain ⟨status, loaded, hload, hcase⟩ := reset_cases h
  have hloaded := (request_moves hload).consistent hconsistent
  rcases hcase with ⟨-, -, rfl⟩ | ⟨-, request_id, records, -, ⟨-, -, rfl⟩ | ⟨hfetch, -⟩⟩
  · exact hloaded
  · exact loaded.send_moves.consistent hloaded
  · exact fetchSummary_consistent (loaded.send_moves.consistent hloaded) hfetch

end BoltConnection

/-! ## Consistent statuses -/

/-- An operation that opens has a host that it can try, or a communication that
holds an error already. -/
def Operation.HasHost : Operation → Prop
  | .openAt target => true ∈ target.hosts ∨ target.comm.error ≠ BOLT_SUCCESS
  | _ => True

namespace BoltConnection

variable {connection connection' : BoltConnection} {result : Int} {operation : Operation}

/-- An operation keeps the status consistent, unless it opens an address without
a host that it can try. -/
theorem perform_consistent (hconsistent : connection.status.Consistent)
    (h : perform operation connection = some (result, connection')) :
    connection'.status.Consistent ↔ operation.HasHost := by
  cases operation with
  | openAt target => exact openAt_consistent h
  | init user_agent auth_token => exact iff_of_true (init_consistent h) trivial
  | request request =>
    exact iff_of_true ((request_moves h).consistent hconsistent) trivial
  | send =>
    simp only [perform] at h
    split_ifs at h
    obtain ⟨-, rfl⟩ := Prod.mk.inj (Option.some.inj h)
    exact iff_of_true (connection.send_moves.consistent hconsistent) trivial
  | fetch request => exact iff_of_true (fetch_consistent hconsistent h) trivial
  | fetchSummary request => exact iff_of_true (fetchSummary_consistent hconsistent h) trivial
  | reset => exact iff_of_true (reset_consistent hconsistent h) trivial
  | close =>
    obtain ⟨connection1, hclose, hresult⟩ := Option.map_eq_some_iff.mp h
    obtain ⟨-, rfl⟩ := Prod.mk.inj hresult
    refine iff_of_true ?_ trivial
    rcases close_status hclose with hstatus | hstatus
    · rwa [hstatus]
    · rw [hstatus]
      simp [BoltStatus.Consistent]

/-- The state and the error of the status agree all through a life, if and only
if each of its opens has a host that it can try. -/
theorem meets_consistent_iff (operations : List Operation) (connection final : BoltConnection)
    (results : List Int) (hconsistent : connection.status.Consistent)
    (hrun : Runs.run perform operations connection = some (results, final)) :
    Runs.Meets perform (fun _ _ _ connection' => connection'.status.Consistent) operations
        connection ↔
      Runs.Admissible perform (fun operation _ => operation.HasHost) operations connection := by
  have hstep : ∀ operation (c : BoltConnection) result c', c.status.Consistent →
      perform operation c = some (result, c') →
      (c'.status.Consistent ↔ operation.HasHost) ∧ (c'.status.Consistent → c'.status.Consistent) :=
    fun operation c result c' hconsistent h => ⟨perform_consistent hconsistent h, fun h => h⟩
  exact Runs.meets_iff_admissible hstep operations hconsistent hrun

/-- A target whose peer answers the handshake with the first version and then
sends the given bytes. -/
def answering (bytes : List UInt8) : Target where
  comm := { BoltCommunication.create with incoming := [0, 0, 0, 1] ++ bytes }
  hosts := [true]
  id := []

theorem meets_consistent_iff_open :
    Runs.Meets perform (fun _ _ _ connection' => connection'.status.Consistent)
      [.openAt (answering [])] .create := by
  have hrun : (Runs.run perform [.openAt (answering [])] .create).isSome := by decide +kernel
  obtain ⟨⟨results, final⟩, hrun⟩ := Option.isSome_iff_exists.mp hrun
  have hconsistent : BoltStatus.Consistent create.status := by simp [BoltStatus.Consistent, create]
  refine (meets_consistent_iff _ _ final results hconsistent hrun).mpr ⟨?_, fun _ _ _ => trivial⟩
  exact .inl List.mem_cons_self

/-- An open of an address without hosts fails with a code that is recorded
nowhere. -/
theorem open_unresolved :
    (perform (.openAt ⟨.create, [], []⟩) create).map (fun (result, connection) =>
      (result, connection.status)) = some (BOLT_STATUS_SET, ⟨.defunct, BOLT_SUCCESS⟩) ∧
    ∃ result connection', perform (.openAt ⟨.create, [], []⟩) create = some (result, connection') ∧
      ¬connection'.status.Consistent := by
  have hopen : (perform (.openAt ⟨.create, [], []⟩) create).map (fun (result, connection) =>
      (result, connection.status)) = some (BOLT_STATUS_SET, ⟨.defunct, BOLT_SUCCESS⟩) := by
    decide +kernel
  refine ⟨hopen, ?_⟩
  obtain ⟨⟨result, connection'⟩, hperform, hresult⟩ := Option.map_eq_some_iff.mp hopen
  obtain ⟨-, hstatus⟩ := Prod.mk.inj hresult
  refine ⟨result, connection', hperform, ?_⟩
  rw [hstatus]
  simp [BoltStatus.Consistent]

end BoltConnection

end Seabolt
