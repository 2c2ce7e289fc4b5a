import Mathlib.Data.List.ReduceOption
import Seabolt.Correlation
import Seabolt.PackStream.Extent

/-!
# Isolation of messages

The chunks of a message are appended to what the protocol's receive buffer
holds, so a byte that is left of one message becomes the first byte of the
next.  `Fills` says of which payloads nothing is left.

`fetch_isolates` is the guarantee for every run of rounds of `fetch` that
receive such payloads only: after each of them the buffer is empty, and what
was decoded is what a fresh protocol state decodes from the payload alone.
-/

namespace Seabolt

open PackStream Chunking

/-! ## One message -/

/-- The payloads of a message that decoding reads to their end: nothing, one
byte, or a marker and a code with the fields that the marker announces.  When
decoding stops at a field, the payload ends with it. -/
inductive Fills (check : CheckStructSignature) : List UInt8 → Prop where
  | empty : Fills check []
  | short (marker : UInt8) : Fills check [marker]
  | complete {marker code : UInt8} (hmarker : markerType marker.toNat = .struct)
      (parts : List (List UInt8)) (hlength : parts.length = marker.toNat &&& 0x0F)
      (hparts : ∀ p ∈ parts, Takes check p true) : Fills check (marker :: code :: parts.flatten)
  | stopped {marker code : UInt8} (hmarker : markerType marker.toNat = .struct)
      (parts : List (List UInt8)) {last : List UInt8}
      (hlength : parts.length < marker.toNat &&& 0x0F) (hparts : ∀ p ∈ parts, Takes check p true)
      (hlast : Takes check last false) :
      Fills check (marker :: code :: (parts.flatten ++ last))

/-- A protocol state that holds the payload of one message. -/
def holding (payload : List UInt8) : BoltProtocolState :=
  { BoltProtocolV1.createState with rx_buffer := (BoltBuffer.create 0).load payload }

variable {check : CheckStructSignature} {payload : List UInt8}

/-- The outcome of decoding is a function of the payload: its status, and when
that is a success, the type and the data of the message.  Nothing is left of
the payload. -/
def Decodes (check : CheckStructSignature) (payload : List UInt8) (status : Int) (type : Int16)
    (data : BoltValue) : Prop :=
  ∀ (state : BoltProtocolState) (garbage : List UInt8), state.rx_buffer.Wf →
    state.rx_buffer.content = payload →
    ∃ state', unloadMessage check state garbage = some (status, state', garbage) ∧
      state'.rx_buffer.Wf ∧ state'.rx_buffer.content = [] ∧
      (status = BOLT_SUCCESS → payload ≠ [] → state'.data_type = type ∧ state'.data = data)

theorem decodes_of_fills (h : Fills check payload) :
    ∃ status type data, Decodes check payload status type data := by
  cases h with
  | empty =>
    refine ⟨BOLT_SUCCESS, 0, .null, fun state garbage hwf hcontent => ⟨state, ?_, hwf, hcontent,
      fun _ hne => absurd rfl hne⟩⟩
    have hlength := hwf.length_content
    rw [hcontent, List.length_nil] at hlength
    simp only [unloadMessage, ← hlength, if_true]
  | short marker =>
    have hread (state : BoltProtocolState) (hwf : state.rx_buffer.Wf)
        (hcontent : state.rx_buffer.content = [marker]) :
        state.rx_buffer.unloadable ≠ 0 ∧ ∃ rx_buffer, state.rx_buffer.unloadU8 =
          some (marker.toNat, rx_buffer) ∧ rx_buffer.Wf ∧ rx_buffer.content = [] := by
      refine ⟨?_, BoltBuffer.unloadU8_of_content hwf hcontent⟩
      rw [← hwf.length_content, hcontent]
      simp
    by_cases hmarker : markerType marker.toNat = .struct
    · refine ⟨-1, 0, .null, fun state garbage hwf hcontent => ?_⟩
      obtain ⟨hnonempty, rx_buffer, hread, hwf', hrest⟩ := hread state hwf hcontent
      have hnone := BoltBuffer.unloadU8_eq_none hwf' hrest
      refine ⟨{ state with rx_buffer := rx_buffer }, ?_, hwf', hrest, by simp⟩
      simp only [unloadMessage, hnonempty, if_false, hread, hmarker, ne_eq, not_true_eq_false,
        hnone]
    · refine ⟨BOLT_PROTOCOL_VIOLATION, 0, .null, fun state garbage hwf hcontent => ?_⟩
      obtain ⟨hnonempty, rx_buffer, hread, hwf', hrest⟩ := hread state hwf hcontent
      refine ⟨{ state with rx_buffer := rx_buffer }, ?_, hwf', hrest, by simp⟩
      simp only [unloadMessage, hnonempty, if_false, hread, hmarker, ne_eq, not_false_eq_true,
        if_true]
  | @complete marker code hmarker parts hlength hparts =>
    obtain ⟨vs, hloop⟩ := unloadElements_complete parts
      fun p hp => yields_of_takes (hparts p hp)
    refine ⟨BOLT_SUCCESS, Int16.ofNat code.toNat, .list vs, fun state garbage hwf hcontent => ?_⟩
    obtain ⟨d, hd, hunload⟩ := unloadMessage_struct check hmarker state garbage hwf hcontent
    rw [← List.append_nil parts.flatten] at hd
    obtain ⟨d', helements, hd'⟩ := hloop d (state.data.listElements (marker.toNat &&& 0x0F))
      garbage [] (by rw [BoltValue.length_listElements, hlength]) hd
    simp only [helements, Option.map_some, if_true, countRecord_eq, hd'.garbage_eq] at hunload
    exact ⟨_, hunload, hd'.wf, hd'.content_eq, fun _ _ => ⟨rfl, rfl⟩⟩
  | @stopped marker code hmarker parts last hlength hparts hlast =>
    obtain ⟨status, result, hstatus, hloop⟩ := unloadElements_stopped parts
      (fun p hp => yields_of_takes (hparts p hp)) (yields_of_takes hlast)
    refine ⟨status, 0, .null, fun state garbage hwf hcontent => ?_⟩
    obtain ⟨d, hd, hunload⟩ := unloadMessage_struct check hmarker state garbage hwf hcontent
    rw [← List.append_nil (parts.flatten ++ last)] at hd
    obtain ⟨d', helements, hd'⟩ := hloop d (state.data.listElements (marker.toNat &&& 0x0F))
      garbage [] (by rwa [BoltValue.length_listElements]) hd
    simp only [helements, Option.map_some, hstatus, if_false, hd'.garbage_eq] at hunload
    exact ⟨_, hunload, hd'.wf, hd'.content_eq, fun hsuccess => absurd hsuccess hstatus⟩

/-! ## One round -/

/-- The session at the end of a round, and the result of a call that it ends. -/
def Round.outcome : Round → Option Int × Session
  | .again session => (none, session)
  | .done fetched session => (some fetched, session)

namespace ProtocolVersion

/-- A round of `fetch`. -/
def roundStep (version : ProtocolVersion) : Runs.Step Nat Session (Option Int) :=
  fun request session =>
    (fetchRound version.fetchFunctions version.checkReadableStruct request session).map
      Round.outcome

/-- A call of `fetch`. -/
def fetchStep (version : ProtocolVersion) : Runs.Step Nat Session Int :=
  fun request session => version.fetch session request

/-- If the connection has a message to give, its payload is one that decoding
reads to its end.  A defunct connection is not used any more. -/
def Contained (version : ProtocolVersion) (_request : Nat) (session : Session) : Prop :=
  session.1.status.state ≠ .defunct ∧ ∀ chunks rest, StartsWith chunks session.1.pending rest →
    Fills version.checkReadableStruct chunks.flatten

/-- A round isolates its message: nothing of it is left, and what it has
decoded is what a state decodes that holds the payload only.  Otherwise the
transport has failed before the end of the message. -/
def Isolated (version : ProtocolVersion) (_request : Nat) (session : Session)
    (fetched : Option Int) (session' : Session) : Prop :=
  (fetched = some FETCH_ERROR ∧ TransportFailed session session') ∨
  ∃ chunks, StartsWith chunks session.1.pending session'.1.pending ∧
    session'.2.rx_buffer.content = [] ∧
    ∃ status alone, unloadMessage version.checkReadableStruct (holding chunks.flatten) [] =
        some (status, alone, []) ∧
      (status ≠ BOLT_SUCCESS → fetched = some status) ∧
      (status = BOLT_SUCCESS → chunks.flatten ≠ [] →
        session'.2.data_type = alone.data_type ∧ session'.2.data = alone.data)

end ProtocolVersion

/-- Extracting the metadata changes nothing but the summary data. -/
theorem readSummary_same {functions : FetchFunctions} {session session' : Session}
    (h : readSummary functions session = some session') :
    session'.1 = { session.1 with garbage := session'.1.garbage } ∧
    session'.2 = { session.2 with
      toSummaryData := session'.2.toSummaryData
      response_counter := session'.2.response_counter } := by
  obtain ⟨connection, state⟩ := session
  by_cases hrecord : state.data_type = BOLT_V1_RECORD
  · simp only [readSummary, ne_eq, eq_true hrecord, not_true_eq_false, if_false,
      Option.some.injEq] at h
    subst h
    exact ⟨rfl, rfl⟩
  simp only [readSummary, ne_eq, hrecord, not_false_eq_true, if_true] at h
  split_ifs at h with hsize
  · split at h
    · obtain ⟨⟨summary, garbage⟩, -, rfl⟩ := Option.map_eq_some_iff.mp h
      exact ⟨rfl, rfl⟩
    · cases h
  · obtain rfl := Option.some.inj h
    exact ⟨rfl, rfl⟩

/-- The end of a round that has decoded a message reads its summary. -/
theorem finishRound_outcome {functions : FetchFunctions} {request_id response_id : Nat}
    {session : Session} {round : Round}
    (h : finishRound functions request_id response_id session = some round) :
    readSummary functions session = some round.outcome.2 := by
  obtain ⟨⟨connection, state⟩, hread, rfl⟩ := Option.map_eq_some_iff.mp h
  rw [hread]
  dsimp only
  split_ifs <;> rfl

/-- Between two rounds: the receive buffers are intact, and nothing of a
message is left unless the transport has failed. -/
structure Session.Clean (session : Session) : Prop where
  wf : session.Wf
  empty : session.1.status.state ≠ .defunct → session.2.rx_buffer.content = []

section Rounds

variable {version : ProtocolVersion} {request : Nat} {session session' : Session}
  {fetched : Option Int}

/-- A round over contained messages isolates its message. -/
theorem roundStep_isolated (h : session.Clean) (hcontained : version.Contained request session)
    (hround : version.roundStep request session = some (fetched, session')) :
    version.Isolated request session fetched session' ∧ session'.Clean := by
  obtain ⟨hopen, hfills⟩ := hcontained
  obtain ⟨round, hround, houtcome⟩ := Option.map_eq_some_iff.mp hround
  obtain ⟨connection, state⟩ := session
  rcases reassemble_cases h.wf with
    ⟨chunks, ⟨connection1, state1⟩, hmessage, hstarts, hread⟩ | ⟨session1, hmessage, hfailed, -⟩
  · have hcontent : state1.rx_buffer.content = chunks.flatten := by
      rw [hread.content, h.empty hopen, List.nil_append]
    obtain ⟨status, type, data, hdecodes⟩ := decodes_of_fills (hfills chunks _ hstarts)
    obtain ⟨state2, hunload, hwf, hempty, hdecoded⟩ :=
      hdecodes state1 connection1.garbage hread.wf.state hcontent
    obtain ⟨alone, halone, -, -, hdecoded'⟩ := hdecodes (holding chunks.flatten) []
      ((BoltBuffer.wf_create 0).load _) (by
        rw [holding, BoltBuffer.content_load (BoltBuffer.wf_create 0), BoltBuffer.content_create,
          List.nil_append])
    rw [fetchRound, version.unload_eq] at hround
    simp only [hmessage, ne_eq, not_true_eq_false, if_false, hunload] at hround
    by_cases hstatus : status = BOLT_SUCCESS
    · simp only [hstatus, not_true_eq_false, if_false] at hround
      obtain ⟨hconnection, hstate⟩ := readSummary_same (finishRound_outcome hround)
      rw [houtcome] at hconnection hstate
      dsimp only at hconnection hstate
      have hpending : session'.1.pending = connection1.pending := by rw [hconnection]; rfl
      have hleft : session'.2.rx_buffer = state2.rx_buffer := by rw [hstate]
      refine ⟨.inr ⟨chunks, by rw [hpending]; exact hstarts, by rw [hleft, hempty], status, alone,
        halone, fun hne => absurd hstatus hne, fun _ hne => ?_⟩, ⟨?_, ?_⟩, fun _ => ?_⟩
      · obtain ⟨htype, hdata⟩ := hdecoded hstatus hne
        obtain ⟨htype', hdata'⟩ := hdecoded' hstatus hne
        rw [hstate, htype', hdata']
        exact ⟨htype, hdata⟩
      · rw [hconnection]
        exact hread.wf.connection
      · rw [hleft]
        exact hwf
      · rw [hleft, hempty]
    · simp only [hstatus, not_false_eq_true, if_true, Option.some.injEq] at hround
      obtain rfl := hround
      obtain ⟨rfl, rfl⟩ := Prod.mk.inj houtcome
      exact ⟨.inr ⟨chunks, hstarts, hempty, status, alone, halone, fun _ => rfl,
        fun hsuccess => absurd hsuccess hstatus⟩, ⟨hread.wf.connection, hwf⟩, fun _ => hempty⟩
  · rw [fetchRound] at hround
    simp only [hmessage, ne_eq, show FETCH_ERROR ≠ BOLT_SUCCESS by decide, not_false_eq_true,
      if_true, Option.some.injEq] at hround
    obtain rfl := hround
    obtain ⟨rfl, rfl⟩ := Prod.mk.inj houtcome
    refine ⟨.inl ⟨rfl, hfailed⟩, hfailed.wf, fun hopen' => absurd ?_ hopen'⟩
    obtain ⟨connection, -, hconnection⟩ := hfailed.connection
    rw [hconnection, BoltConnection.setStatusFromComm, BoltConnection.setStatus_status]

/-- A call of `fetch` is a run of rounds. -/
theorem fetchLoop_rounds (fuel : Nat) :
    ∀ {session session' : Session} {fetched : Int},
      fetchLoop version.fetchFunctions version.checkReadableStruct request fuel session =
        some (fetched, session') →
      ∃ n, Runs.run version.roundStep (List.replicate (n + 1) request) session =
        some (List.replicate n none ++ [some fetched], session') := by
  induction fuel with
  | zero =>
    intro session session' fetched hloop
    cases hloop
  | succ fuel ih =>
    intro session session' fetched hloop
    rcases hround : fetchRound version.fetchFunctions version.checkReadableStruct request session
      with _ | ⟨session1⟩ | ⟨fetched1, session1⟩
    · simp only [fetchLoop, hround] at hloop
      cases hloop
    · simp only [fetchLoop, hround] at hloop
      obtain ⟨n, hrun⟩ := ih hloop
      have hstep : version.roundStep request session = some (none, session1) := by
        rw [ProtocolVersion.roundStep, hround]
        rfl
      exact ⟨n + 1, Runs.run_cons hstep hrun⟩
    · simp only [fetchLoop, hround, Option.some.injEq, Prod.mk.injEq] at hloop
      obtain ⟨rfl, rfl⟩ := hloop
      have hstep : version.roundStep request session = some (some fetched1, session1) := by
        rw [ProtocolVersion.roundStep, hround]
        rfl
      exact ⟨0, Runs.run_cons hstep rfl⟩

/-- A run of calls is a run of rounds, with the results of the calls. -/
theorem run_rounds (requests : List Nat) :
    ∀ {session final : Session} {results : List Int},
      Runs.run version.fetchStep requests session = some (results, final) →
      ∃ ids outcomes, Runs.run version.roundStep ids session = some (outcomes, final) ∧
        outcomes.reduceOption = results := by
  induction requests with
  | nil =>
    intro session final results hrun
    obtain ⟨rfl, rfl⟩ := Prod.mk.inj (Option.some.inj hrun)
    exact ⟨[], [], rfl, rfl⟩
  | cons request requests ih =>
    intro session final results hrun
    rcases hcall : version.fetchStep request session with _ | ⟨fetched, session1⟩
    · simp only [Runs.run, hcall] at hrun
      cases hrun
    · simp only [Runs.run, hcall, Option.map_eq_some_iff] at hrun
      obtain ⟨⟨results1, final1⟩, hrest, hresult⟩ := hrun
      obtain ⟨rfl, rfl⟩ := Prod.mk.inj hresult
      rw [ProtocolVersion.fetchStep, version.fetch_eq] at hcall
      obtain ⟨n, hrounds⟩ := fetchLoop_rounds _ hcall
      obtain ⟨ids, outcomes, hids, hresults⟩ := ih hrest
      refine ⟨_, _, Runs.run_append hrounds hids, ?_⟩
      have hskipped : (List.replicate n (none : Option Int)).reduceOption = [] := by
        simp [List.reduceOption]
      rw [List.reduceOption_append, List.reduceOption_append, hskipped, hresults]
      rfl

/-- Framing isolates messages in every run of `fetch` whose messages are read
to their end.  A run of calls is a run of rounds, and in a run of rounds
nothing of a message is left when it has been decoded, and what was decoded
depends on its payload alone. -/
theorem fetch_isolates (version : ProtocolVersion) (session : Session) (h : session.Wf)
    (hempty : session.2.rx_buffer.content = []) :
    (∀ requests results final, Runs.run version.fetchStep requests session = some (results, final) →
      ∃ ids outcomes, Runs.run version.roundStep ids session = some (outcomes, final) ∧
        outcomes.reduceOption = results) ∧
    ∀ ids outcomes final, Runs.run version.roundStep ids session = some (outcomes, final) →
      Runs.Admissible version.roundStep version.Contained ids session →
      Runs.Meets version.roundStep version.Isolated ids session :=
  ⟨fun requests _ _ hrun => run_rounds requests hrun, fun ids _ _ hrun hcontained =>
    Runs.meets_of_run (fun _ _ _ _ => roundStep_isolated) ids ⟨h, fun _ => hempty⟩ hcontained hrun⟩

end Rounds

/-! ## Leftovers -/

/-- The session of a connection of the first version to which the server has
sent the payloads. -/
def answeredSession (payloads : List (List UInt8)) : Session :=
  ({ answered payloads with protocol := none }, BoltProtocolV1.createState)

/-- A record whose only field is a List that ends in an error. -/
theorem fetch_isolates_error :
    Runs.Meets ProtocolVersion.v1.roundStep ProtocolVersion.v1.Isolated [0]
      (answeredSession [[0xB1, 0x71, 0x91, 0xDC], [0xB1, 0x70, 0xA0]]) := by
  have hrun : (Runs.run ProtocolVersion.v1.roundStep [0]
      (answeredSession [[0xB1, 0x71, 0x91, 0xDC], [0xB1, 0x70, 0xA0]])).isSome := by decide +kernel
  obtain ⟨⟨outcomes, final⟩, hrun⟩ := Option.isSome_iff_exists.mp hrun
  refine (fetch_isolates .v1 _ ⟨BoltBuffer.wf_create _, BoltBuffer.wf_create _⟩
    (BoltBuffer.content_create _)).2 [0] outcomes final hrun ⟨⟨nofun, ?_⟩, fun _ _ _ => trivial⟩
  intro chunks rest hstarts
  have hframe : StartsWith (chunksOf [0xB1, 0x71, 0x91, 0xDC])
      (answeredSession [[0xB1, 0x71, 0x91, 0xDC], [0xB1, 0x70, 0xA0]]).1.pending
      (frames [chunksOf [0xB1, 0x70, 0xA0]]) := by
    refine ⟨validChunks_pieces chunkLength.max_pos _, ?_⟩
    simp [answeredSession, answered, BoltConnection.pending, frames]
  obtain ⟨rfl, -⟩ := hstarts.unique hframe
  rw [chunksOf, flatten_pieces]
  have hheader : Announces 1 [0x91] := .list (.tiny rfl (by decide))
  exact .stopped rfl [] (by decide) (by simp)
    (.stopped hheader [] (by decide) (by simp) (.wide (.inl rfl)))

/-- A server that sends three bytes behind a record, in the same message.
They are decoded as a record, and not the summary that comes next. -/
theorem fetch_leftover :
    let session := answeredSession
      [[0xB1, 0x71, 0x90, 0xB1, 0x71, 0xC0], [0xB1, 0x70, 0xA0]]
    ((ProtocolVersion.v1.fetchStep 0 session).map fun (fetched, session) =>
      (fetched, session.2.rx_buffer.content)) = some (FETCH_RECORD, [0xB1, 0x71, 0xC0]) ∧
    ((Runs.run ProtocolVersion.v1.fetchStep [0, 0] session).map fun (results, session) =>
      (results, session.2.data_type)) = some ([FETCH_RECORD, FETCH_RECORD], BOLT_V1_RECORD) ∧
    ((unloadMessage ProtocolVersion.v1.checkReadableStruct (holding [0xB1, 0x70, 0xA0]) []).map
      fun (status, state, _) => (status, state.data_type)) =
        some (BOLT_SUCCESS, BOLT_V1_SUCCESS) := by
  refine ⟨?_, ?_, ?_⟩ <;> decide +kernel

end Seabolt
