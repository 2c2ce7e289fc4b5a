import Seabolt.Statuses
import Seabolt.Violations

/-!
# Authentication

`BoltConnection_init` sends one request and reads its response.  The number of
records, the errors and the type of the summary come to it through one integer.

`Requested` says how far the call gets before it reads, `Survives` that no
message of the response ends the process, and `Sound` for which responses the
integer says what the summary is.
-/

namespace Seabolt

open BoltValue PackStream

/-! ## The request -/

/-- A token that the callers can build: a dictionary with Strings for keys. -/
structure IsAuthToken (token : BoltValue) : Prop where
  dictionary : ∃ entries, token = .dictionary entries ∧ entries.length + 1 < 0x80000000
  regular : Regular token
  copyable : token.Copyable

theorem regular_canon (v : BoltValue) (h : Regular v) : Regular v.canon := by
  induction h with
  | null => exact .null
  | boolean data => exact .boolean _
  | integer data => exact .integer data
  | float data => exact .float data
  | string data hsize => exact .string data hsize
  | bytes data hsize => exact .bytes data hsize
  | list elements hsize _ ih =>
    rw [canon, canonElements_eq_map]
    exact .list _ (by rwa [List.length_map]) (List.forall_mem_map.mpr ih)
  | dictionary entries hsize hstrings _ _ ihkeys ihvalues =>
    rw [canon, canonEntries_eq_map]
    refine .dictionary _ (by rwa [List.length_map]) (List.forall_mem_map.mpr fun e he => ?_)
      (List.forall_mem_map.mpr ihkeys) (List.forall_mem_map.mpr ihvalues)
    have hstring := hstrings e he
    rcases e with ⟨key, value⟩
    cases key with
    | negative type n =>
      cases type with
      | string => rfl
      | bytes => cases hstring
      | struct code => cases hstring
    | string data => rfl
    | _ => cases hstring
  | struct code fields hsize _ ih =>
    rw [canon, canonElements_eq_map]
    exact .struct code _ (by rwa [List.length_map]) (List.forall_mem_map.mpr ih)
  | negative type n => exact .negative type n

/-- The INIT of the first version is compiled from a copy of the token. -/
theorem compileINIT_spec (user_agent : List UInt8) {token : BoltValue} (htoken : IsAuthToken token)
    (mask : Bool) {message : BoltMessage} (hlength : message.fields.length = 2) :
    ∃ message', BoltProtocolV1.compileINIT user_agent token mask message = some message' ∧
      message'.fields.length = 2 ∧
      (mask = false → message'.fields = [string user_agent, token.canon]) := by
  obtain ⟨code, fields⟩ := message
  obtain ⟨first, second, rfl⟩ := List.length_eq_two.mp hlength
  obtain ⟨entries, rfl, -⟩ := htoken.dictionary
  have hcopy := copy_eq_canon _ second htoken.copyable
  cases mask with
  | false =>
    refine ⟨⟨code, [string user_agent, (BoltValue.dictionary entries).canon]⟩, ?_, rfl, fun _ => rfl⟩
    simp [BoltProtocolV1.compileINIT, hcopy]
  | true =>
    refine ⟨⟨code, [string user_agent, BoltValue.dictionary (changeIfPresent CREDENTIALS_KEY
      (fun _ => string MASK) (canonEntries entries))]⟩, ?_, rfl, nofun⟩
    simp [BoltProtocolV1.compileINIT, hcopy, canon, maskCredentials]

/-- The HELLO of the third version has the user agent as one entry more. -/
theorem compileHELLO_spec (user_agent : List UInt8) {token : BoltValue}
    {entries : List (BoltValue × BoltValue)} (htoken : token = .dictionary entries)
    (hcopyable : token.Copyable) (mask : Bool) {message : BoltMessage}
    (hlength : message.fields.length = 1) :
    ∃ message', BoltProtocolV3.compileHELLO user_agent token mask message = some message' ∧
      message'.fields.length = 1 ∧
      (mask = false → message'.fields =
        [.dictionary (canonEntries entries ++ [(string USER_AGENT_KEY, string user_agent)])]) := by
  obtain ⟨code, fields⟩ := message
  obtain ⟨first, rfl⟩ := List.length_eq_one_iff.mp hlength
  subst htoken
  have hcopy := copyEntries_eq_canon entries (first.dictionaryEntries (entries.length + 1)) hcopyable
  cases mask with
  | false =>
    refine ⟨⟨code, [.dictionary (canonEntries entries ++
      [(string USER_AGENT_KEY, string user_agent)])]⟩, ?_, rfl, fun _ => rfl⟩
    simp [BoltProtocolV3.compileHELLO, hcopy]
  | true =>
    refine ⟨⟨code, [.dictionary (changeIfPresent CREDENTIALS_KEY (fun _ => string MASK)
      (canonEntries entries ++ [(string USER_AGENT_KEY, string user_agent)]))]⟩, ?_, rfl, nofun⟩
    simp [BoltProtocolV3.compileHELLO, hcopy, maskCredentials]

/-- The request of the initialisation can be compiled. -/
theorem initMessage_regular (version : ProtocolVersion) {user_agent : List UInt8} {token : BoltValue}
    (hagent : user_agent.length < 0x80000000) (htoken : IsAuthToken token) :
    ∃ message, version.initMessage user_agent token = some message ∧ Regular message.value := by
  have hcanon := regular_canon token htoken.regular
  have hagent : Regular (string user_agent) := .string _ hagent
  have hfirst : ∃ message, version ≠ .v3 →
      version.initMessage user_agent token = some message ∧ Regular message.value := by
    have hcreate : (BoltMessage.create BOLT_V1_INIT 2).fields.length = 2 := rfl
    obtain ⟨logged, hlogged, hlength, -⟩ := compileINIT_spec user_agent htoken true hcreate
    obtain ⟨message, hmessage, -, hfields⟩ :=
      compileINIT_spec user_agent htoken false hlength
    refine ⟨message, fun hversion => ⟨?_, ?_⟩⟩
    · cases version with
      | v1 | v2 => simp [ProtocolVersion.initMessage, hlogged, hmessage]
      | v3 => exact absurd rfl hversion
    · rw [BoltMessage.value, hfields rfl]
      exact .struct _ _ (by simp) (by simp [hagent, hcanon])
  by_cases hversion : version = .v3
  · subst hversion
    obtain ⟨entries, rfl, hsize⟩ := htoken.dictionary
    have hcreate : (BoltMessage.create BOLT_V3_HELLO 1).fields.length = 1 := rfl
    obtain ⟨logged, hlogged, hlength, -⟩ :=
      compileHELLO_spec user_agent rfl htoken.copyable true hcreate
    obtain ⟨message, hmessage, -, hfields⟩ :=
      compileHELLO_spec user_agent rfl htoken.copyable false hlength
    refine ⟨message, by simp [ProtocolVersion.initMessage, hlogged, hmessage], ?_⟩
    rw [BoltMessage.value, hfields rfl]
    rw [canon] at hcanon
    cases hcanon with
    | dictionary _ _ hstrings hkeys hvalues =>
      have hagentkey : Regular (string USER_AGENT_KEY) := .string _ (by decide)
      refine .struct _ _ (by simp) fun v hv => ?_
      rw [List.mem_singleton.mp hv]
      refine .dictionary _ ?_ ?_ ?_ ?_
      · rw [List.length_append, canonEntries_eq_map, List.length_map]
        exact hsize
      · exact List.forall_mem_append.mpr ⟨hstrings, by simp [BoltValue.type]⟩
      · exact List.forall_mem_append.mpr ⟨hkeys, by simp [hagentkey]⟩
      · exact List.forall_mem_append.mpr ⟨hvalues, by simp [hagent]⟩
  · obtain ⟨message, hmessage⟩ := hfirst
    exact ⟨message, hmessage hversion⟩

namespace BoltConnection

variable {connection connection' loaded sent final : BoltConnection} {user_agent : List UInt8}
  {auth_token : BoltValue} {request : Nat} {results : List Int} {result last : Int}

/-- `protocol->init` compiles, loads and sends its request. -/
def Requested (user_agent : List UInt8) (auth_token : BoltValue) (connection : BoltConnection)
    (request : Nat) (sent : BoltConnection) : Prop :=
  (connection.protocol_version = 1 ∨ connection.protocol_version = 2 ∨
    connection.protocol_version = 3) ∧
  ∃ protocol message loaded, connection.protocol = some protocol ∧
    protocol.version.initMessage user_agent auth_token = some message ∧
    connection.loadMessage message = some (BOLT_SUCCESS, loaded) ∧
    loaded.lastRequest = some request ∧ loaded.send = (BOLT_SUCCESS, sent)

/-- Sending changes the transport, the transmit buffer and the status. -/
theorem send_same (connection : BoltConnection) :
    connection.send.2 = { connection with
      comm := connection.send.2.comm
      tx_buffer := connection.send.2.tx_buffer
      status := connection.send.2.status
      on_error_calls := connection.send.2.on_error_calls } := by
  unfold send
  dsimp only
  split_ifs
  · rw [setStatusFromComm, setStatus_eq]
  · rfl

/-- It fails with `BOLT_STATUS_SET`. -/
theorem send_status (connection : BoltConnection) :
    connection.send.1 = BOLT_SUCCESS ∨ connection.send.1 = BOLT_STATUS_SET := by
  unfold send
  dsimp only
  split_ifs with hstatus
  · exact .inr rfl
  · exact .inl (not_not.mp hstatus)

/-- Loading a message fails with a status of the encoder. -/
theorem loadMessage_status {message : BoltMessage} {status : Int}
    (h : connection.loadMessage message = some (status, loaded)) : EncoderStatus status := by
  unfold loadMessage at h
  split at h
  · cases h
  · rename_i protocol hprotocol
    obtain ⟨⟨status', connection1, state⟩, hload, hresult⟩ := Option.map_eq_some_iff.mp h
    obtain ⟨rfl, -⟩ := Prod.mk.inj hresult
    rcases hwrite : writeMessage message protocol.version.checkWritableStruct
      protocol.state.tx_buffer with _ | ⟨written, tx_buffer⟩
    · simp only [Seabolt.loadMessage, hwrite] at hload
      cases hload
    · have hwritten := returns_load _ _ written tx_buffer
        ((writeMessage_eq_load _ _ _).symm.trans hwrite)
      simp only [Seabolt.loadMessage, hwrite] at hload
      split_ifs at hload
      · obtain ⟨buffers, -, hresult⟩ := Option.map_eq_some_iff.mp hload
        rwa [← (Prod.mk.inj hresult).1]
      · rwa [← (Prod.mk.inj (Option.some.inj hload)).1]

/-- A message can be loaded on a prepared connection. -/
theorem loadMessage_isSome {message : BoltMessage} (h : connection.Prepared)
    (hregular : Regular message.value) :
    ∃ status loaded, connection.loadMessage message = some (status, loaded) := by
  obtain ⟨version, state, hprotocol, hready, -⟩ := h
  have htaken : Session.TxReady ({ connection with protocol := none }, state) :=
    ⟨hready.connection, hready.state, hready.drained⟩
  obtain ⟨status, session', hload, -⟩ :=
    loadMessage_spec (fun _ => version.checkWritableStruct_range) htaken hregular
  refine ⟨status, { session'.1 with protocol := some ⟨version, session'.2⟩ }, ?_⟩
  simp only [loadMessage, hprotocol, hload, Option.map_some]

/-! ## Reading to the end -/

/-- No message that is read for the response ends the process: none makes the
decoder, or the extraction of metadata, copy a negative number of bytes. -/
def Survives (request : Nat) (connection : BoltConnection) : Prop :=
  ∀ version state, connection.protocol = some ⟨version, state⟩ → ∀ n outcomes session',
    Runs.run version.roundStep (List.replicate n request)
        ({ connection with protocol := none }, state) = some (outcomes, session') →
      (∀ r, some r ∈ outcomes → 0 < r) →
      (fetchRound version.fetchFunctions version.checkReadableStruct request session').isSome

/-- A call that returns is a run of rounds. -/
theorem protocolFetch_rounds {version : ProtocolVersion} {state : BoltProtocolState}
    (hprotocol : connection.protocol = some ⟨version, state⟩)
    (h : connection.protocolFetch request = some (result, connection')) :
    ∃ n state', connection'.protocol = some ⟨version, state'⟩ ∧
      Runs.run version.roundStep (List.replicate (n + 1) request)
        ({ connection with protocol := none }, state) =
        some (List.replicate n none ++ [some result],
          ({ connection' with protocol := none }, state')) := by
  obtain ⟨state', hprotocol', hfetch⟩ := protocolFetch_session hprotocol h
  rw [version.fetch_eq] at hfetch
  obtain ⟨n, hrounds⟩ := fetchLoop_rounds _ hfetch
  exact ⟨n, state', hprotocol', hrounds⟩

/-- So is a row of calls, with the results of the calls. -/
theorem Reads.rounds (h : Reads request connection results last final) :
    ∀ {version state}, connection.protocol = some ⟨version, state⟩ →
      ∃ outcomes state', final.protocol = some ⟨version, state'⟩ ∧
        Runs.run version.roundStep (List.replicate (outcomes.length + 1) request)
          ({ connection with protocol := none }, state) =
          some (outcomes ++ [some last], ({ final with protocol := none }, state')) ∧
        outcomes.reduceOption = results := by
  induction results generalizing connection with
  | nil =>
    intro version state hprotocol
    obtain ⟨b, c1, bs, hstep, hrest, hbs⟩ := Runs.run_uncons h.run
    obtain ⟨rfl, rfl⟩ := Prod.mk.inj (Option.some.inj hrest)
    obtain ⟨rfl, -⟩ := List.cons.inj hbs
    obtain ⟨n, state', hprotocol', hrun⟩ := protocolFetch_rounds hprotocol hstep
    have hlength : (List.replicate n (none : Option Int)).length = n := List.length_replicate
    refine ⟨List.replicate n none, state', hprotocol', ?_, by simp [List.reduceOption]⟩
    rwa [hlength]
  | cons r rs ih =>
    intro version state hprotocol
    obtain ⟨b, c1, bs, hstep, hrest, hbs⟩ := Runs.run_uncons h.run
    obtain ⟨rfl, rfl⟩ := List.cons.inj hbs
    have htail : Reads request c1 rs last final :=
      ⟨hrest, fun x hx => h.positive x (List.mem_cons_of_mem _ hx), h.last_le⟩
    obtain ⟨n, state', hprotocol', hrun⟩ := protocolFetch_rounds hprotocol hstep
    obtain ⟨outcomes, state'', hprotocol'', hrun', rfl⟩ := ih htail hprotocol'
    refine ⟨List.replicate n none ++ some r :: outcomes, state'', hprotocol'', ?_, ?_⟩
    · have hboth := Runs.run_append hrun hrun'
      rw [← List.replicate_add] at hboth
      simpa [List.length_append, Nat.add_comm, Nat.add_left_comm] using hboth
    · have hskipped : (List.replicate n (none : Option Int)).reduceOption = [] := by
        simp [List.reduceOption]
      rw [List.reduceOption_append, hskipped, List.nil_append, List.reduceOption_cons_of_some]

/-- The results in between are those of records, and the statuses of messages that cannot
be decoded. -/
theorem Reads.outcome_pos (h : Reads request connection results last final)
    {outcomes : List (Option Int)} (houtcomes : outcomes.reduceOption = results) :
    ∀ r, some r ∈ outcomes → 0 < r := by
  intro r hr
  rw [← List.reduceOption_mem_iff, houtcomes] at hr
  exact h.positive r hr

/-- A run of rounds that has not come to a summary or an error yet can go on, if
one that goes on does come to one. -/
theorem survives_of_rounds {version : ProtocolVersion} {state : BoltProtocolState} {N : Nat}
    {before : List (Option Int)} {end' : Session} (hprotocol : connection.protocol = some ⟨version, state⟩)
    (hstopped : Runs.run version.roundStep (List.replicate (N + 1) request)
      ({ connection with protocol := none }, state) = some (before ++ [some last], end'))
    (hlast : last ≤ 0) : Survives request connection := by
  intro version' state' hprotocol' n outcomes session' hrun hpositive
  obtain ⟨rfl, rfl⟩ := BoltProtocol.mk.inj (Option.some.inj (hprotocol.symm.trans hprotocol'))
  have hstop : ∃ r, some last = some r ∧ r ≤ 0 := ⟨last, rfl, hlast⟩
  have hgo : ∀ outcome ∈ outcomes, ¬∃ r, outcome = some r ∧ r ≤ 0 := by
    rintro outcome houtcome ⟨r, rfl, hr⟩
    have := hpositive r houtcome
    omega
  obtain ⟨outcome, session1, hround⟩ := Runs.step_of_stopped n hstopped hstop hrun hgo
  obtain ⟨round, hround, -⟩ := Option.map_eq_some_iff.mp hround
  rw [hround, Option.isSome_some]

/-- A response that is read to its summary, or to an error, is survived. -/
theorem Reads.survives (h : Reads request connection results last final) :
    Survives request connection := by
  intro version state hprotocol
  obtain ⟨before, state', -, hstopped, -⟩ := h.rounds hprotocol
  exact survives_of_rounds hprotocol hstopped h.last_le version state hprotocol

/-- Only a result that is no summary and no error makes the call return more
than 0. -/
theorem reported_positive (h : 0 < (reported result connection).1) :
    0 < result ∧ reported result connection = (result, connection) := by
  rcases reported_cases result connection with ⟨-, heq⟩ | ⟨-, -, heq⟩ | ⟨status, -, -, heq⟩
  · rw [heq] at h
    exact ⟨h, heq⟩
  · rw [heq] at h
    exact absurd h (by decide : ¬0 < FETCH_SUMMARY)
  · rw [heq] at h
    dsimp only at h
    split_ifs at h
    · exact absurd h (by decide : ¬0 < FETCH_ERROR)
    · exact absurd h (by decide : ¬0 < FETCH_SUMMARY)

/-- A response that is survived is read, with more fuel than there are bytes. -/
theorem fetchSummaryLoop_isSome (fuel : Nat) :
    ∀ {connection : BoltConnection} {records : Int} {version : ProtocolVersion}
      {state : BoltProtocolState}, connection.protocol = some ⟨version, state⟩ →
      connection.rx_buffer.Wf → connection.pending.length < fuel → Survives request connection →
      (fetchSummaryLoop request fuel records connection).isSome := by
  induction fuel with
  | zero => exact fun _ _ hfuel => absurd hfuel (Nat.not_lt_zero _)
  | succ fuel ih =>
    intro connection records version state hprotocol hwf hfuel hsurvives
    have hfetch : (version.fetch ({ connection with protocol := none }, state) request).isSome := by
      rw [version.fetch_eq]
      refine fetchLoop_isSome _ hwf (Nat.lt_succ_self _) fun n session' hrun => ?_
      exact hsurvives version state hprotocol n _ session' hrun (by simp)
    obtain ⟨⟨data, connection1, state1⟩, hfetch⟩ := Option.isSome_iff_exists.mp hfetch
    have hcall : connection.protocolFetch request =
        some (data, { connection1 with protocol := some ⟨version, state1⟩ }) := by
      simp only [protocolFetch, hprotocol, hfetch, Option.map_some]
    rw [version.fetch_eq] at hfetch
    obtain ⟨hwf1, htakes⟩ := fetchLoop_takes _ hwf hfetch
    simp only [fetchSummaryLoop, fetch_eq, hcall, Option.map_some]
    split_ifs with hneg hmore
    · rfl
    · obtain ⟨hpositive, hsame⟩ := reported_positive ((not_lt.mp hneg).lt_of_ne (Ne.symm hmore))
      have hlt : connection1.pending.length < connection.pending.length := by
        rcases htakes with rfl | hlt
        · exact absurd hpositive (by decide)
        · exact hlt
      rw [hsame]
      refine ih rfl hwf1 (show connection1.pending.length < fuel by omega) ?_
      intro version' state' hprotocol' n outcomes session' hrun houtcomes
      obtain ⟨rfl, rfl⟩ := BoltProtocol.mk.inj (Option.some.inj hprotocol')
      obtain ⟨m, state2, hprotocol2, hfirst⟩ := protocolFetch_rounds hprotocol hcall
      obtain ⟨-, rfl⟩ := BoltProtocol.mk.inj (Option.some.inj hprotocol2)
      have hboth := Runs.run_append hfirst hrun
      rw [← List.replicate_add] at hboth
      refine hsurvives version state hprotocol _ _ session' hboth fun r hr => ?_
      rcases List.mem_append.mp hr with hr | hr
      · rcases List.mem_append.mp hr with hr | hr
        · exact absurd (List.eq_of_mem_replicate hr) (by simp)
        · obtain rfl := Option.some.inj (List.mem_singleton.mp hr)
          exact hpositive
      · exact houtcomes r hr
    · rfl

/-! ## The result -/

/-- The type of the last message. -/
def lastCode (connection : BoltConnection) : Option Int16 :=
  connection.protocol.map fun protocol => protocol.state.data_type

/-- What the response has to be for `protocol->init` to return the number of a
SUCCESS. -/
def Accepted (results : List Int) (code : Int16) : Prop :=
  IsSummaryCode code ∧ (total results = BOLT_V1_SUCCESS.toInt ∨
    total results = 0 ∧ code = BOLT_V1_SUCCESS)

/-- For such a response the number is that of a SUCCESS exactly if the summary is
one, behind nothing but records: their number, or what else the results before
the summary add up to, is not mistaken for the type of a message. -/
def Sound (results : List Int) (code : Int16) : Prop :=
  if code = BOLT_V1_SUCCESS ∧ ∀ r ∈ results, r = FETCH_RECORD then
    total results = 0 ∨ total results = BOLT_V1_SUCCESS.toInt
  else
    IsSummaryCode code → total results ≠ BOLT_V1_SUCCESS.toInt ∧
      (code = BOLT_V1_SUCCESS → total results ≠ 0)

instance (results : List Int) (code : Int16) : Decidable (Sound results code) := by
  unfold Sound
  infer_instance

theorem sound_iff (results : List Int) (code : Int16) :
    Sound results code ↔
      (Accepted results code ↔ code = BOLT_V1_SUCCESS ∧ ∀ r ∈ results, r = FETCH_RECORD) := by
  unfold Sound Accepted
  split_ifs with hgranted
  · rw [iff_true_right hgranted]
    obtain ⟨rfl, -⟩ := hgranted
    have hsummary : IsSummaryCode BOLT_V1_SUCCESS := .inl rfl
    simp only [hsummary, true_and, and_true, or_comm]
  · simp only [hgranted, iff_false]
    tauto

/-- A FAILURE behind 112 records is taken for a SUCCESS. -/
example : ¬Sound (List.replicate 112 FETCH_RECORD) BOLT_V1_FAILURE := by decide +kernel

theorem lastCode_reported (result : Int) (connection : BoltConnection) :
    (reported result connection).2.lastCode = connection.lastCode := by
  rcases reported_cases result connection with ⟨-, heq⟩ | ⟨-, -, heq⟩ | ⟨status, -, -, heq⟩
  · rw [heq]
  · rw [heq]
  · rw [heq, lastCode, setStatus_protocol, lastCode]

/-- A summary is reported as one if it has the type of one. -/
theorem reported_result {code : Int16} (hcode : connection.lastCode = some code) (result : Int) :
    (reported result connection).1 =
      if result = FETCH_SUMMARY ∧ ¬IsSummaryCode code then FETCH_ERROR else result := by
  obtain ⟨protocol, hprotocol, rfl⟩ := Option.map_eq_some_iff.mp hcode
  by_cases hresult : result = FETCH_SUMMARY
  · simp only [reported, hprotocol, fetched, hresult, if_true, true_and, IsSummaryCode, not_or]
    by_cases hsuccess : protocol.state.data_type = BOLT_V1_SUCCESS
    · simp only [eq_true hsuccess, if_true, not_true_eq_false, false_and, if_false]
    by_cases hignored : protocol.state.data_type = BOLT_V1_IGNORED
    · simp only [hsuccess, eq_true hignored, if_true, not_true_eq_false, false_and, and_false,
        if_false]
      split_ifs <;> rfl
    by_cases hfailure : protocol.state.data_type = BOLT_V1_FAILURE
    · simp only [hsuccess, hignored, eq_true hfailure, if_true, not_true_eq_false, and_false,
        if_false]
    · simp only [hsuccess, hignored, hfailure, if_false, not_false_eq_true, and_self, if_true]
  · simp only [reported, hprotocol, fetched, hresult, if_false, false_and]

/-- The last message of a row of calls has a type. -/
theorem Reads.lastCode (h : Reads request connection results last final)
    (hprotocol : connection.protocol.isSome) : ∃ code, final.lastCode = some code := by
  have hfinal : connection.protocol.isSome → final.protocol.isSome := by
    refine Runs.related_of_run (R := fun c c' : BoltConnection =>
      c.protocol.isSome → c'.protocol.isSome) (fun _ h => h) (fun _ _ _ h h' => h' ∘ h) ?_ _ h.run
    intro request c result c' hstep _
    obtain ⟨version, state, state', -, hprotocol', -⟩ := protocolFetch_steady hstep
    rw [hprotocol', Option.isSome_some]
  obtain ⟨protocol, hprotocol⟩ := Option.isSome_iff_exists.mp (hfinal hprotocol)
  exact ⟨_, by rw [BoltConnection.lastCode, hprotocol, Option.map_some]⟩

/-- The request is sent once. -/
theorem Requested.unique {request' : Nat} {sent' : BoltConnection}
    (h : Requested user_agent auth_token connection request sent)
    (h' : Requested user_agent auth_token connection request' sent') :
    request = request' ∧ sent = sent' := by
  obtain ⟨-, protocol, message, loaded, hprotocol, hmessage, hload, hlast, hsend⟩ := h
  obtain ⟨-, protocol', message', loaded', hprotocol', hmessage', hload', hlast', hsend'⟩ := h'
  obtain rfl := Option.some.inj (hprotocol.symm.trans hprotocol')
  obtain rfl := Option.some.inj (hmessage.symm.trans hmessage')
  obtain rfl := (Prod.mk.inj (Option.some.inj (hload.symm.trans hload'))).2
  obtain rfl := Option.some.inj (hlast.symm.trans hlast')
  exact ⟨rfl, (Prod.mk.inj (hsend.symm.trans hsend')).2⟩

/-- Loading and sending leave a protocol, and the receive buffer as it was. -/
theorem Requested.kept (h : Requested user_agent auth_token connection request sent) :
    (∃ version state, sent.protocol = some ⟨version, state⟩) ∧
      sent.rx_buffer = connection.rx_buffer := by
  obtain ⟨-, protocol, message, loaded, hprotocol, -, hload, -, hsend⟩ := h
  obtain ⟨hsame, hversion⟩ := loadMessage_same hload
  have hsent := loaded.send_same
  rw [hsend] at hsent
  dsimp only at hsent
  rw [hprotocol, Option.map_some] at hversion
  obtain ⟨protocol', hprotocol', -⟩ := Option.map_eq_some_iff.mp hversion
  refine ⟨⟨protocol'.version, protocol'.state, ?_⟩, ?_⟩
  · rw [hsent]
    exact hprotocol'
  · rw [hsent]
    dsimp only
    rw [hsame]

/-- `BoltConnection_fetch_summary` returns what the results before a summary add
up to, or it fails. -/
theorem fetchSummary_cases {records : Int} (hprotocol : connection.protocol.isSome)
    (h : connection.fetchSummary request = some (records, connection')) :
    ∃ results last final code, Reads request connection results last final ∧
      final.lastCode = some code ∧ connection'.lastCode = some code ∧
      (last = FETCH_SUMMARY ∧ IsSummaryCode code ∧ records = total results ∨
        ¬(last = FETCH_SUMMARY ∧ IsSummaryCode code) ∧ records < 0) := by
  obtain ⟨results, last, final, hreads, rfl, hrecords⟩ := fetchSummary_reads h
  obtain ⟨code, hcode⟩ := hreads.lastCode hprotocol
  refine ⟨results, last, final, code, hreads, hcode, (lastCode_reported last final).trans hcode, ?_⟩
  rw [reported_result hcode] at hrecords
  by_cases hlast : last = FETCH_SUMMARY
  · subst hlast
    by_cases hsummary : IsSummaryCode code
    · simp only [hsummary, not_true_eq_false, and_false, if_false, lt_irrefl] at hrecords
      exact .inl ⟨rfl, hsummary, hrecords⟩
    · simp only [hsummary, not_false_eq_true, and_self, if_true,
        show FETCH_ERROR < 0 by decide] at hrecords
      refine .inr ⟨fun h => hsummary h.2, ?_⟩
      rw [hrecords]
      decide
  · have hneg : last < 0 := hreads.last_le.lt_of_ne hlast
    simp only [hlast, false_and, if_false, hneg, if_true] at hrecords
    refine .inr ⟨fun h => hlast h.1, ?_⟩
    rwa [hrecords]

/-- The number that `protocol->init` returns for a summary: that of its type, unless the results
before it add up to something. -/
def summaryNumber (results : List Int) (type : Int16) : Int :=
  if total results = 0 then type.toInt else total results

/-- The number is that of a SUCCESS for an accepted response. -/
theorem summaryNumber_success {type : Int16} (hsummary : IsSummaryCode type) :
    summaryNumber results type = BOLT_V1_SUCCESS.toInt ↔ Accepted results type := by
  unfold summaryNumber Accepted
  split_ifs with hzero
  · have hne : ¬(0 : Int) = BOLT_V1_SUCCESS.toInt := by decide
    rw [Int16.toInt_inj]
    simp only [hsummary, hzero, hne, true_and, false_or]
  · simp only [hsummary, hzero, true_and, false_and, or_false]

/-- What `protocol->init` makes of the response. -/
theorem summaryNumber_of_TRY {records code : Int} {type : Int16} {protocol : BoltProtocol}
    (hprotocol : connection.protocol = some protocol) (htype : connection.lastCode = some type)
    (h : Outcome.TRY (some (records, connection)) (fun connection => connection.protocol.map
      fun protocol => (protocol.state.data_type.toInt, connection)) = some (code, connection'))
    (hcase : last = FETCH_SUMMARY ∧ IsSummaryCode type ∧ records = total results ∨
      ¬(last = FETCH_SUMMARY ∧ IsSummaryCode type) ∧ records < 0) :
    last = FETCH_SUMMARY ∧ IsSummaryCode type ∧ code = summaryNumber results type ∨
      ¬(last = FETCH_SUMMARY ∧ IsSummaryCode type) ∧ code < 0 := by
  rcases hcase with ⟨hlast, hsummary, rfl⟩ | ⟨hnot, hneg⟩
  · refine .inl ⟨hlast, hsummary, ?_⟩
    by_cases hzero : total results = BOLT_SUCCESS
    · rw [hzero, Outcome.TRY_success, hprotocol] at h
      rw [lastCode, hprotocol] at htype
      obtain rfl := Option.some.inj htype
      rw [summaryNumber, if_pos hzero]
      exact (Prod.mk.inj (Option.some.inj h)).1.symm
    · rw [Outcome.TRY_error hzero] at h
      rw [summaryNumber, if_neg hzero]
      exact (Prod.mk.inj (Option.some.inj h)).1.symm
  · rw [Outcome.TRY_error hneg.ne] at h
    rw [← (Prod.mk.inj (Option.some.inj h)).1]
    exact .inr ⟨hnot, hneg⟩

/-- What `protocol->init` returns: an error of the encoder, that of the transport, or what it makes
of the response. -/
theorem protocolInit_spec {protocol : BoltProtocol} {code : Int}
    (hprotocol : connection.protocol = some protocol)
    (hversion : connection.protocol_version = 1 ∨ connection.protocol_version = 2 ∨
      connection.protocol_version = 3)
    (h : connection.protocolInit protocol.version user_agent auth_token =
      some (code, connection')) :
    ∃ message status loaded, protocol.version.initMessage user_agent auth_token = some message ∧
      connection.loadMessage message = some (status, loaded) ∧
      ((status ≠ BOLT_SUCCESS ∧ code = status ∨
        status = BOLT_SUCCESS ∧ loaded.send.1 = BOLT_STATUS_SET ∧ code = BOLT_STATUS_SET) ∧
        (∀ request sent, ¬Requested user_agent auth_token connection request sent) ∨
      ∃ request sent results last final type,
        Requested user_agent auth_token connection request sent ∧
        Reads request sent results last final ∧ final.lastCode = some type ∧
        (last = FETCH_SUMMARY ∧ IsSummaryCode type ∧ code = summaryNumber results type ∨
          ¬(last = FETCH_SUMMARY ∧ IsSummaryCode type) ∧ code < 0)) := by
  obtain ⟨message, hmessage, h⟩ := Option.bind_eq_some_iff.mp h
  rcases hload : connection.loadMessage message with _ | ⟨status, loaded⟩
  · rw [hload] at h
    cases h
  refine ⟨message, status, loaded, hmessage, hload, ?_⟩
  have hloaded : ∀ request sent, Requested user_agent auth_token connection request sent →
      status = BOLT_SUCCESS ∧ loaded.send = (BOLT_SUCCESS, sent) := by
    rintro request sent ⟨-, protocol', message', loaded', hprotocol', hmessage', hload', -, hsend⟩
    obtain rfl := Option.some.inj (hprotocol.symm.trans hprotocol')
    obtain rfl := Option.some.inj (hmessage.symm.trans hmessage')
    obtain ⟨hstatus, rfl⟩ := Prod.mk.inj (Option.some.inj (hload.symm.trans hload'))
    exact ⟨hstatus, hsend⟩
  by_cases hstatus : status = BOLT_SUCCESS
  · subst hstatus
    rw [hload, Outcome.TRY_success] at h
    obtain ⟨request, hlast, h⟩ := Option.bind_eq_some_iff.mp h
    rcases hsend : loaded.send with ⟨sent_status, sent⟩
    have hsent := loaded.send_status
    rw [hsend] at h hsent hloaded
    rcases hsent with hsuccess | hset
    · dsimp only at hsuccess
      subst hsuccess
      have hrequested : Requested user_agent auth_token connection request sent :=
        ⟨hversion, protocol, message, loaded, hprotocol, hmessage, hload, hlast, hsend⟩
      obtain ⟨⟨version, state, hsentprotocol⟩, -⟩ := hrequested.kept
      rw [Outcome.TRY_success] at h
      rcases hfetch : sent.fetchSummary request with _ | ⟨records, fetched⟩
      · rw [hfetch] at h
        cases h
      rw [hfetch] at h
      obtain ⟨results, last, final, type, hreads, htype, htype', hcase⟩ :=
        fetchSummary_cases (by rw [hsentprotocol, Option.isSome_some]) hfetch
      obtain ⟨protocol', hprotocol', -⟩ := Option.map_eq_some_iff.mp htype'
      exact .inr ⟨request, sent, results, last, final, type, hrequested, hreads, htype,
        summaryNumber_of_TRY hprotocol' htype' h hcase⟩
    · dsimp only at hset
      subst hset
      rw [Outcome.TRY_error (by decide)] at h
      refine .inl ⟨.inr ⟨rfl, rfl, (Prod.mk.inj (Option.some.inj h)).1.symm⟩, ?_⟩
      intro request' sent' hrequested
      exact absurd (Prod.mk.inj (hloaded request' sent' hrequested).2).1 (by decide)
  · rw [hload, Outcome.TRY_error hstatus] at h
    refine .inl ⟨.inl ⟨hstatus, (Prod.mk.inj (Option.some.inj h)).1.symm⟩, ?_⟩
    exact fun request sent hrequested => hstatus (hloaded request sent hrequested).1

/-- `protocol->init` returns the number of a SUCCESS exactly if its request was
sent and the response is accepted. -/
theorem protocolInit_cases {protocol : BoltProtocol} {code : Int}
    (hprotocol : connection.protocol = some protocol)
    (hversion : connection.protocol_version = 1 ∨ connection.protocol_version = 2 ∨
      connection.protocol_version = 3)
    (h : connection.protocolInit protocol.version user_agent auth_token =
      some (code, connection')) :
    (code ≠ BOLT_V1_SUCCESS.toInt ∧
      ∀ request sent, ¬Requested user_agent auth_token connection request sent) ∨
    ∃ request sent results last final type,
      Requested user_agent auth_token connection request sent ∧
      Reads request sent results last final ∧ final.lastCode = some type ∧
      (code = BOLT_V1_SUCCESS.toInt ↔ last = FETCH_SUMMARY ∧ Accepted results type) := by
  have hnever : ∀ status : Int, EncoderStatus status ∨ status = BOLT_STATUS_SET →
      status ≠ BOLT_V1_SUCCESS.toInt := by
    rintro status ((rfl | rfl | rfl) | rfl)
    all_goals decide
  obtain ⟨message, status, loaded, -, hload, hcase⟩ := protocolInit_spec hprotocol hversion h
  rcases hcase with ⟨⟨-, rfl⟩ | ⟨-, -, rfl⟩, hnone⟩ |
    ⟨request, sent, results, last, final, type, hrequested, hreads, htype, hcode⟩
  · exact .inl ⟨hnever _ (.inl (loadMessage_status hload)), hnone⟩
  · exact .inl ⟨hnever _ (.inr rfl), hnone⟩
  · refine .inr ⟨request, sent, results, last, final, type, hrequested, hreads, htype, ?_⟩
    rcases hcode with ⟨rfl, hsummary, rfl⟩ | ⟨hnot, hneg⟩
    · rw [summaryNumber_success hsummary, eq_self, true_and]
    · refine iff_of_false (fun hsuccess => ?_) fun h => hnot ⟨h.1, h.2.1⟩
      rw [hsuccess] at hneg
      exact absurd hneg (by decide)

/-- What the number makes of the status. -/
theorem initialised_cases (code : Int) (connection : BoltConnection) :
    (code = BOLT_V1_SUCCESS.toInt ∧ (initialised code connection).1 = 0 ∧
      (initialised code connection).2.status = ⟨.ready, BOLT_SUCCESS⟩) ∨
    (code = BOLT_V1_FAILURE.toInt ∧ (initialised code connection).1 = -1 ∧
      (initialised code connection).2.status = ⟨.defunct, BOLT_PERMISSION_DENIED⟩) ∨
    (code ≠ BOLT_V1_SUCCESS.toInt ∧ code ≠ BOLT_V1_FAILURE.toInt ∧
      (initialised code connection).1 = -1 ∧
      (initialised code connection).2.status = ⟨.defunct, BOLT_PROTOCOL_VIOLATION⟩) := by
  unfold initialised
  split_ifs with hsuccess hfailure
  · exact .inl ⟨hsuccess, rfl, setStatus_status _ _ _⟩
  · exact .inr (.inl ⟨hfailure, rfl, setStatus_status _ _ _⟩)
  · exact .inr (.inr ⟨hsuccess, hfailure, rfl, setStatus_status _ _ _⟩)

theorem initialised_status (code : Int) (connection : BoltConnection) :
    (code = BOLT_V1_SUCCESS.toInt ∧ (initialised code connection).1 = 0 ∧
      (initialised code connection).2.status = ⟨.ready, BOLT_SUCCESS⟩) ∨
    (code ≠ BOLT_V1_SUCCESS.toInt ∧ (initialised code connection).1 = -1 ∧
      (initialised code connection).2.status.state = .defunct ∧
      (initialised code connection).2.status.error ≠ BOLT_SUCCESS) := by
  rcases initialised_cases code connection with
    hready | ⟨rfl, hresult, hstatus⟩ | ⟨hcode, -, hresult, hstatus⟩
  · exact .inl hready
  · refine .inr ⟨by decide, hresult, ?_⟩
    rw [hstatus]
    exact ⟨rfl, by decide⟩
  · refine .inr ⟨hcode, hresult, ?_⟩
    rw [hstatus]
    exact ⟨rfl, by decide⟩

/-- The response to the request was fully decoded: nothing but records before its
summary, which is a SUCCESS. -/
def Granted (user_agent : List UInt8) (auth_token : BoltValue) (connection : BoltConnection) :
    Prop :=
  ∃ request sent results final, Requested user_agent auth_token connection request sent ∧
    Reads request sent results FETCH_SUMMARY final ∧ final.lastCode = some BOLT_V1_SUCCESS ∧
    ∀ r ∈ results, r = FETCH_RECORD

/-- The initialisation returns 0 and makes the connection ready exactly if it was
granted.  Otherwise it returns something else and the connection is defunct. -/
def Authenticates (user_agent : List UInt8) (auth_token : BoltValue) (connection : BoltConnection) :
    Prop :=
  ∃ result connection', connection.init user_agent auth_token = some (result, connection') ∧
    (result = 0 ∧ connection'.status.state = .ready ↔ Granted user_agent auth_token connection) ∧
    (¬Granted user_agent auth_token connection →
      result ≠ 0 ∧ connection'.status.state = .defunct)

/-- `protocol->init` returns, if the response to its request is survived. -/
theorem protocolInit_isSome {protocol : BoltProtocol} (hprotocol : connection.protocol = some protocol)
    (hversion : connection.protocol_version = 1 ∨ connection.protocol_version = 2 ∨
      connection.protocol_version = 3)
    (hprepared : connection.Prepared) (hwf : connection.rx_buffer.Wf)
    (hagent : user_agent.length < 0x80000000) (htoken : IsAuthToken auth_token)
    (hsurvives : ∀ request sent, Requested user_agent auth_token connection request sent →
      Survives request sent) :
    (connection.protocolInit protocol.version user_agent auth_token).isSome := by
  obtain ⟨message, hmessage, hregular⟩ := initMessage_regular protocol.version hagent htoken
  obtain ⟨status, loaded, hload⟩ := loadMessage_isSome hprepared hregular
  simp only [protocolInit, hmessage, Option.bind_some, hload]
  by_cases hstatus : status = BOLT_SUCCESS
  · subst hstatus
    have hkept := (loadMessage_same hload).2
    rw [hprotocol, Option.map_some] at hkept
    obtain ⟨protocol', hprotocol', -⟩ := Option.map_eq_some_iff.mp hkept
    have hlast : loaded.lastRequest = some (protocol'.state.next_request_id - 1) := by
      rw [lastRequest, hprotocol', Option.map_some]
    rcases hsend : loaded.send with ⟨sent_status, sent⟩
    rw [Outcome.TRY_success, hlast, Option.bind_some, hsend]
    by_cases hsuccess : sent_status = BOLT_SUCCESS
    · subst hsuccess
      have hrequested : Requested user_agent auth_token connection
          (protocol'.state.next_request_id - 1) sent :=
        ⟨hversion, protocol, message, loaded, hprotocol, hmessage, hload, hlast, hsend⟩
      obtain ⟨⟨version, state, hsent⟩, hrx⟩ := hrequested.kept
      have hreturns : (sent.fetchSummary (protocol'.state.next_request_id - 1)).isSome :=
        fetchSummaryLoop_isSome (sent.pending.length + 1) hsent (by rwa [hrx])
          (Nat.lt_succ_self _) (hsurvives _ _ hrequested)
      obtain ⟨⟨records, fetched⟩, hcall⟩ := Option.isSome_iff_exists.mp hreturns
      obtain ⟨-, -, -, code, -, -, hcode, -⟩ :=
        fetchSummary_cases (by rw [hsent, Option.isSome_some]) hcall
      obtain ⟨protocol2, hprotocol2, -⟩ := Option.map_eq_some_iff.mp hcode
      rw [Outcome.TRY_success, hcall]
      by_cases hrecords : records = BOLT_SUCCESS
      · rw [hrecords, Outcome.TRY_success, hprotocol2, Option.map_some, Option.isSome_some]
      · rw [Outcome.TRY_error hrecords, Option.isSome_some]
    · rw [Outcome.TRY_error hsuccess, Option.isSome_some]
  · rw [Outcome.TRY_error hstatus, Option.isSome_some]

theorem init_eq {protocol : BoltProtocol} (hprotocol : connection.protocol = some protocol)
    (hversion : connection.protocol_version = 1 ∨ connection.protocol_version = 2 ∨
      connection.protocol_version = 3) :
    connection.init user_agent auth_token =
      (connection.protocolInit protocol.version user_agent auth_token).map
        fun (code, connection) => initialised code connection := by
  rw [init, if_pos hversion]
  simp only [hprotocol]

/-- What the initialisation does depends on the number that `protocol->init`
returns. -/
theorem authenticates_iff_code {code : Int}
    (h : connection.init user_agent auth_token = some (initialised code connection')) :
    Authenticates user_agent auth_token connection ↔
      (code = BOLT_V1_SUCCESS.toInt ↔ Granted user_agent auth_token connection) := by
  rcases initialised_status code connection' with
    ⟨hcode, hresult, hstatus⟩ | ⟨hcode, hresult, hstate, -⟩
  · have hstate : (initialised code connection').2.status.state = .ready := by rw [hstatus]
    rw [iff_true_left hcode]
    constructor
    · rintro ⟨result, final, hinit, hgranted, -⟩
      obtain ⟨rfl, rfl⟩ := Prod.mk.inj (Option.some.inj (h.symm.trans hinit))
      exact hgranted.mp ⟨hresult, hstate⟩
    · exact fun hgranted => ⟨_, _, h, iff_of_true ⟨hresult, hstate⟩ hgranted,
        fun hnot => absurd hgranted hnot⟩
  · have hnonzero : (initialised code connection').1 ≠ 0 := by
      rw [hresult]
      decide
    rw [iff_false_left hcode]
    constructor
    · rintro ⟨result, final, hinit, hgranted, -⟩ hyes
      obtain ⟨rfl, rfl⟩ := Prod.mk.inj (Option.some.inj (h.symm.trans hinit))
      exact hnonzero (hgranted.mpr hyes).1
    · exact fun hnot => ⟨_, _, h, iff_of_false (fun h => hnonzero h.1) hnot,
        fun _ => ⟨hnonzero, hstate⟩⟩

/-- For the one response that is read, being granted is a matter of its results
and its summary. -/
theorem granted_iff {code : Int16} (hrequested : Requested user_agent auth_token connection request sent)
    (hreads : Reads request sent results last final) (hcode : final.lastCode = some code) :
    Granted user_agent auth_token connection ↔
      last = FETCH_SUMMARY ∧ code = BOLT_V1_SUCCESS ∧ ∀ r ∈ results, r = FETCH_RECORD := by
  constructor
  · rintro ⟨request', sent', results', final', hrequested', hreads', hcode', hrecords⟩
    obtain ⟨rfl, rfl⟩ := hrequested.unique hrequested'
    obtain ⟨rfl, hlast, rfl⟩ := hreads.unique hreads'
    exact ⟨hlast, Option.some.inj (hcode.symm.trans hcode'), hrecords⟩
  · rintro ⟨rfl, rfl, hrecords⟩
    exact ⟨request, sent, results, final, hrequested, hreads, hcode, hrecords⟩

/-- The initialisation is right about an answer that was granted or not, if and
only if the process survives the response and the response is sound. -/
theorem authenticates_iff (connection : BoltConnection) (user_agent : List UInt8)
    (auth_token : BoltValue) (hprepared : connection.Prepared) (hintact : connection.Intact)
    (hagent : user_agent.length < 0x80000000) (htoken : IsAuthToken auth_token) :
    Authenticates user_agent auth_token connection ↔
      ∀ request sent, Requested user_agent auth_token connection request sent →
        Survives request sent ∧ ∀ results final code,
          Reads request sent results FETCH_SUMMARY final → final.lastCode = some code →
          Sound results code := by
  obtain ⟨version, state, hprotocol, hwf, -⟩ := hintact
  by_cases hversion : connection.protocol_version = 1 ∨ connection.protocol_version = 2 ∨
    connection.protocol_version = 3
  · rcases hinit : connection.protocolInit version user_agent auth_token with _ | ⟨code, connection'⟩
    · refine iff_of_false ?_ fun hsound => ?_
      · rintro ⟨result, final, h, -⟩
        rw [init_eq hprotocol hversion, hinit] at h
        cases h
      · have hreturns := protocolInit_isSome hprotocol hversion hprepared hwf hagent htoken
          fun request sent h => (hsound request sent h).1
        rw [hinit] at hreturns
        cases hreturns
    · have hresult : connection.init user_agent auth_token =
          some (initialised code connection') := by
        rw [init_eq hprotocol hversion, hinit, Option.map_some]
      rw [authenticates_iff_code hresult]
      rcases protocolInit_cases hprotocol hversion hinit with
        ⟨hcode, hnone⟩ | ⟨request, sent, results, last, final, type, hrequested, hreads, htype, hcode⟩
      · refine iff_of_true (iff_of_false hcode ?_) fun request sent h => absurd h (hnone request sent)
        rintro ⟨request, sent, -, -, hrequested, -⟩
        exact hnone request sent hrequested
      · rw [granted_iff hrequested hreads htype, hcode, and_congr_right_iff, ← sound_iff]
        constructor
        · intro hsound request' sent' hrequested'
          obtain ⟨rfl, rfl⟩ := hrequested.unique hrequested'
          refine ⟨hreads.survives, fun results' final' type' hreads' htype' => ?_⟩
          obtain ⟨rfl, hlast, rfl⟩ := hreads.unique hreads'
          obtain rfl := Option.some.inj (htype.symm.trans htype')
          exact hsound hlast
        · rintro hsound rfl
          exact (hsound request sent hrequested).2 results final type hreads htype
  · have hnone : ∀ request sent, ¬Requested user_agent auth_token connection request sent :=
      fun request sent h => hversion h.1
    have hnot : ¬Granted user_agent auth_token connection := by
      rintro ⟨request, sent, -, -, hrequested, -⟩
      exact hnone request sent hrequested
    refine iff_of_true ?_ fun request sent h => absurd h (hnone request sent)
    refine ⟨-1, _, if_neg hversion, ?_, fun _ => ⟨by decide, ?_⟩⟩
    · exact iff_of_false (fun h => absurd h.1 (by decide)) hnot
    · rw [setStatus_status]

/-- A connection behind its handshake, to which the server answers with the given
payloads. -/
def greeted (payloads : List (List UInt8)) : BoltConnection :=
  { idle .v1 with
    protocol_version := 1
    comm := { BoltCommunication.create with incoming := frames (payloads.map chunksOf) } }

theorem isAuthToken_empty : IsAuthToken (.dictionary []) where
  dictionary := ⟨[], rfl, by decide⟩
  regular := .dictionary [] (by decide) (by simp) (by simp) (by simp)
  copyable := trivial

/-- A SUCCESS without records. -/
theorem authenticates_iff_greeted :
    Authenticates (ascii "agent") (.dictionary []) (greeted [[0xB1, 0x70, 0xA0]]) ↔
      ∀ request sent, Requested (ascii "agent") (.dictionary []) (greeted [[0xB1, 0x70, 0xA0]])
          request sent →
        Survives request sent ∧ ∀ results final code,
          Reads request sent results FETCH_SUMMARY final → final.lastCode = some code →
          Sound results code :=
  authenticates_iff _ _ _
    ⟨.v1, BoltProtocolV1.createState, rfl,
      ⟨BoltBuffer.wf_create _, BoltBuffer.wf_create _, BoltBuffer.content_create _⟩, rfl⟩
    ⟨.v1, BoltProtocolV1.createState, rfl, BoltBuffer.wf_create _, BoltBuffer.wf_create _⟩
    (by decide) isAuthToken_empty

/-- One record before the SUCCESS is taken for an error. -/
theorem init_counted :
    ((greeted [[0xB1, 0x71, 0x90], [0xB1, 0x70, 0xA0]]).init (ascii "agent") (.dictionary [])).map
      (fun (result, connection) => (result, connection.status)) =
      some (-1, ⟨.defunct, BOLT_PROTOCOL_VIOLATION⟩) ∧
    Granted (ascii "agent") (.dictionary []) (greeted [[0xB1, 0x71, 0x90], [0xB1, 0x70, 0xA0]]) ∧
    ¬Authenticates (ascii "agent") (.dictionary [])
      (greeted [[0xB1, 0x71, 0x90], [0xB1, 0x70, 0xA0]]) := by
  have hinit : ((greeted [[0xB1, 0x71, 0x90], [0xB1, 0x70, 0xA0]]).init (ascii "agent")
      (.dictionary [])).map (fun (result, connection) => (result, connection.status)) =
      some (-1, ⟨.defunct, BOLT_PROTOCOL_VIOLATION⟩) := by
    decide +kernel
  have hcalls : ((ProtocolVersion.v1.initMessage (ascii "agent") (.dictionary [])).bind fun message =>
      ((greeted [[0xB1, 0x71, 0x90], [0xB1, 0x70, 0xA0]]).loadMessage message).bind
        fun (status, loaded) => loaded.lastRequest.bind fun request =>
          (Runs.run protocolStep (List.replicate 2 request) loaded.send.2).map
            fun (results, final) => (status, loaded.send.1, results, final.lastCode)) =
      some (BOLT_SUCCESS, BOLT_SUCCESS, [FETCH_RECORD, FETCH_SUMMARY], some BOLT_V1_SUCCESS) := by
    decide +kernel
  have hgranted : Granted (ascii "agent") (.dictionary [])
      (greeted [[0xB1, 0x71, 0x90], [0xB1, 0x70, 0xA0]]) := by
    obtain ⟨message, hmessage, hcalls⟩ := Option.bind_eq_some_iff.mp hcalls
    obtain ⟨⟨status, loaded⟩, hload, hcalls⟩ := Option.bind_eq_some_iff.mp hcalls
    obtain ⟨request, hlast, hcalls⟩ := Option.bind_eq_some_iff.mp hcalls
    obtain ⟨⟨results, final⟩, hrun, hresult⟩ := Option.map_eq_some_iff.mp hcalls
    simp only [Prod.mk.injEq] at hresult
    obtain ⟨rfl, hsent, rfl, hcode⟩ := hresult
    refine ⟨request, loaded.send.2, [FETCH_RECORD], final, ?_, ?_, hcode, by simp⟩
    · exact ⟨.inl rfl, _, message, loaded, rfl, hmessage, hload, hlast, Prod.ext hsent rfl⟩
    · exact ⟨hrun, by decide, by decide⟩
  refine ⟨hinit, hgranted, ?_⟩
  rintro ⟨result, connection', h, hiff, -⟩
  rw [h, Option.map_some] at hinit
  have hzero := (hiff.mpr hgranted).1
  rw [hzero] at hinit
  exact absurd (Prod.mk.inj (Option.some.inj hinit)).1 (by decide)

end BoltConnection

end Seabolt
