import Seabolt.Isolation

/-!
# The response paths of the versions

`v1.c` and `v3.c` keep a copy each of the reassembly loop, of the message
decoder and of the extraction of metadata.  The copies differ in the
`connection_id` entry, which only the third version takes out of the metadata.

A run of `BoltProtocolV1_fetch` and a run of `BoltProtocolV3_fetch` that start
from states with the same response part give the same results and states with
the same response part, until a summary arrives with that entry in it.
-/

namespace Seabolt

open BoltValue

/-! ## The response part of a state -/

/-- The sessions agree in the connection and in everything that `fetch` reads
and writes of the protocol state in both versions. -/
structure Agree (first third : Session) : Prop where
  connection : first.1 = third.1
  rx_buffer : first.2.rx_buffer = third.2.rx_buffer
  response_counter : first.2.response_counter = third.2.response_counter
  record_counter : first.2.record_counter = third.2.record_counter
  data_type : first.2.data_type = third.2.data_type
  data : first.2.data = third.2.data
  server : first.2.server = third.2.server
  result_field_names : first.2.result_field_names = third.2.result_field_names
  result_metadata : first.2.result_metadata = third.2.result_metadata
  failure_data : first.2.failure_data = third.2.failure_data
  last_bookmark : first.2.last_bookmark = third.2.last_bookmark

/-- The summary data with another connection id. -/
def SummaryData.withConnectionId (connection_id : List UInt8) (summary : SummaryData) :
    SummaryData :=
  { summary with connection_id := connection_id }

/-- The state with the response part of another one. -/
def BoltProtocolState.respond (base state : BoltProtocolState) : BoltProtocolState :=
  { base with
    toSummaryData := state.toSummaryData.withConnectionId base.connection_id
    rx_buffer := state.rx_buffer
    response_counter := state.response_counter
    record_counter := state.record_counter
    data_type := state.data_type
    data := state.data }

/-- The session with its response part in another state. -/
def Session.over (base : BoltProtocolState) (session : Session) : Session :=
  (session.1, base.respond session.2)

theorem Session.agree_over (base : BoltProtocolState) (session : Session) :
    Agree session (session.over base) := by
  constructor <;> rfl

theorem Agree.eq_over {first third : Session} (h : Agree first third) :
    third = first.over third.2 := by
  obtain ⟨connection1, state1⟩ := first
  obtain ⟨connection3, state3⟩ := third
  obtain ⟨h1, h2, h3, h4, h5, h6, h7, h8, h9, h10, h11⟩ := h
  dsimp only at h1 h2 h3 h4 h5 h6 h7 h8 h9 h10 h11
  rw [Session.over, BoltProtocolState.respond, SummaryData.withConnectionId]
  dsimp only
  rw [h1, h2, h3, h4, h5, h6, h7, h8, h9, h10, h11]

/-! ## Metadata -/

/-- Whether the value is a dictionary with an entry under the key. -/
def hasKey (key : List UInt8) : BoltValue → Bool
  | dictionary entries => entries.any fun entry => entry.1.stringEquals key
  | _ => false

/-- The extraction with another connection id. -/
def withId (connection_id : List UInt8) : Extraction → Extraction
  | (summary, garbage) => (summary.withConnectionId connection_id, garbage)

theorem onString_withId (connection_id : List UInt8) (value : BoltValue) (state : Extraction)
    (f g : List UInt8 → Extraction) (hf : ∀ data, g data = withId connection_id (f data)) :
    onString value (withId connection_id state) g =
      (onString value state f).map (withId connection_id) := by
  unfold onString
  split
  · rw [hf, Option.map_some]
  · rfl
  · rfl

/-- An entry under another key than `connection_id` is extracted alike. -/
theorem extractEntry_agrees (connection_id id : List UInt8) (data_type : Int16)
    {key : BoltValue} (hkey : key.stringEquals CONNECTION_ID_KEY = false) (value : BoltValue)
    (state : Extraction) :
    extractEntry true id data_type key value (withId connection_id state) =
      (extractEntry false id data_type key value state).map (withId connection_id) := by
  obtain ⟨summary, garbage⟩ := state
  simp only [extractEntry, withId, hkey, Bool.and_false, Bool.false_eq_true, if_false]
  split_ifs
  · exact onString_withId connection_id value (summary, garbage) _ _ fun _ => rfl
  · cases value with
    | list elements =>
      simp only [Option.map_map]
      rfl
    | _ => rfl
  · exact onString_withId connection_id value (summary, garbage) _ _ fun _ => rfl
  · exact onString_withId connection_id value (summary, garbage) _ _ fun _ => rfl
  · exact onString_withId connection_id value (summary, garbage) _ _ fun _ => rfl
  · simp only [appendMetadata]
    cases copy null key with
    | none => rfl
    | some dest_key => cases copy null value <;> rfl

/-- Metadata without the entry is extracted alike. -/
theorem extractMetadata_agrees (connection_id id : List UInt8) (data_type : Int16)
    {metadata : BoltValue} (h : hasKey CONNECTION_ID_KEY metadata = false) (state : Extraction) :
    BoltProtocolV3.extractMetadata id data_type metadata (withId connection_id state) =
      (BoltProtocolV1.extractMetadata id data_type metadata state).map (withId connection_id) := by
  rw [BoltProtocolV1.extractMetadata, BoltProtocolV3.extractMetadata]
  cases metadata with
  | dictionary entries =>
    simp only [hasKey, List.any_eq_false, Bool.not_eq_true] at h
    simp only [extractMetadata]
    induction entries generalizing state with
    | nil => rfl
    | cons entry entries ih =>
      obtain ⟨key, value⟩ := entry
      have hkey := h (key, value) List.mem_cons_self
      have hrest := fun state => ih state fun e he => h e (List.mem_cons_of_mem _ he)
      rw [extractEntries, extractEntries, extractEntry_agrees connection_id id data_type hkey]
      cases extractEntry false id data_type key value state with
      | none => rfl
      | some state' => exact hrest state'
  | _ => rfl

/-! ## One message -/

variable {check : CheckStructSignature} (base : BoltProtocolState)

/-- The outcome of a step that the protocol state follows. -/
def overOutcome (outcome : Outcome Session) : Outcome Session :=
  outcome.map fun (status, session) => (status, session.over base)

theorem readChunks_over (fuel : Nat) : ∀ (chunk_size : Nat) (session : Session),
    readChunks fuel chunk_size (session.over base) =
      overOutcome base (readChunks fuel chunk_size session) := by
  induction fuel with
  | zero => exact fun _ _ => rfl
  | succ fuel ih =>
    intro chunk_size session
    obtain ⟨connection, state⟩ := session
    by_cases hsize : chunk_size = 0
    · simp only [readChunks, Session.over, hsize, ne_eq, not_true_eq_false, if_false]
      rfl
    · rcases hbytes : connection.receive chunk_size with ⟨status1, bytes, connection1⟩
      rcases hheader : connection1.receive 2 with ⟨status2, header, connection2⟩
      simp only [readChunks, Session.over, hsize, ne_eq, not_false_eq_true, if_true,
        BoltProtocolState.respond, hbytes, hheader]
      by_cases hstatus1 : status1 = BOLT_SUCCESS
      · by_cases hstatus2 : status2 = BOLT_SUCCESS
        · simp only [hstatus1, hstatus2, not_true_eq_false, if_false]
          exact ih (charToUint16be header) (connection2, { state with
            rx_buffer := (state.rx_buffer.loadPointer chunk_size).2.write
              (state.rx_buffer.loadPointer chunk_size).1 bytes })
        · simp only [hstatus1, hstatus2, not_true_eq_false, if_false, not_false_eq_true, if_true]
          rfl
      · simp only [hstatus1, not_false_eq_true, if_true]
        rfl

theorem reassemble_over (session : Session) :
    reassemble (session.over base) = overOutcome base (reassemble session) := by
  obtain ⟨connection, state⟩ := session
  rcases hheader : connection.receive 2 with ⟨status, header, connection1⟩
  simp only [reassemble, Session.over, hheader]
  split_ifs
  · rfl
  · exact readChunks_over base _ _ (connection1, { state with rx_buffer := state.rx_buffer.compact })

theorem unloadMessage_over (state : BoltProtocolState) (garbage : List UInt8) :
    unloadMessage check (base.respond state) garbage =
      (unloadMessage check state garbage).map
        fun (status, state, garbage) => (status, base.respond state, garbage) := by
  by_cases hempty : state.rx_buffer.unloadable = 0
  · simp only [unloadMessage, BoltProtocolState.respond, hempty, if_true]
    rfl
  rcases hmarker : state.rx_buffer.unloadU8 with _ | ⟨marker, rx_buffer⟩
  · simp only [unloadMessage, BoltProtocolState.respond, hempty, if_false, hmarker]
    rfl
  by_cases htype : markerType marker = .struct
  · rcases hcode : rx_buffer.unloadU8 with _ | ⟨code, rx_buffer'⟩
    · simp only [unloadMessage, BoltProtocolState.respond, hempty, if_false, hmarker, htype, ne_eq,
        not_true_eq_false, hcode]
      rfl
    · simp only [unloadMessage, BoltProtocolState.respond, hempty, if_false, hmarker, htype, ne_eq,
        not_true_eq_false, hcode, Option.map_map]
      refine congrFun (congrArg Option.map (funext fun result => ?_)) _
      simp only [Function.comp_apply, countRecord]
      split_ifs <;> rfl
  · simp only [unloadMessage, BoltProtocolState.respond, hempty, if_false, hmarker, ne_eq, htype,
      not_false_eq_true, if_true]
    rfl

/-- The metadata of the summary that a round of the loop decodes. -/
def roundMetadata (check : CheckStructSignature) (session : Session) : Option BoltValue :=
  match reassemble session with
  | none => none
  | some (status, connection, state) =>
    if status ≠ BOLT_SUCCESS then none
    else
      match unloadMessage check state connection.garbage with
      | none => none
      | some (status, state, _) =>
        if status ≠ BOLT_SUCCESS then none
        else if state.data_type = BOLT_V1_RECORD then none
        else
          match state.data with
          | list (metadata :: _) => some metadata
          | _ => none

/-- A summary without the entry is read alike. -/
theorem readSummary_over (connection : BoltConnection) (state : BoltProtocolState)
    (h : state.data_type ≠ BOLT_V1_RECORD → ∀ metadata rest, state.data = list (metadata :: rest) →
      hasKey CONNECTION_ID_KEY metadata = false) :
    readSummary BoltProtocolV3.fetchFunctions (connection, base.respond state) =
      (readSummary BoltProtocolV1.fetchFunctions (connection, state)).map (Session.over base) := by
  by_cases hrecord : state.data_type = BOLT_V1_RECORD
  · simp only [readSummary, BoltProtocolState.respond, ne_eq, eq_true hrecord, not_true_eq_false,
      if_false]
    rfl
  by_cases hsize : 1 ≤ state.data.size
  · simp only [readSummary, BoltProtocolState.respond, hrecord, ne_eq, not_false_eq_true, if_true,
      hsize]
    split
    · rename_i metadata rest hdata
      have hextract := extractMetadata_agrees base.connection_id connection.id state.data_type
        (h hrecord metadata rest hdata) ({ state.toSummaryData with
          result_metadata := state.result_metadata.formatAsDictionary 0 }, connection.garbage)
      have hcongr := congrArg (Option.map fun result : Extraction =>
        (({ connection with garbage := result.2 }, { base.respond state with
          toSummaryData := result.1
          response_counter := state.response_counter + 1 }) : Session)) hextract
      refine hcongr.trans ?_
      simp only [Option.map_map]
      rfl
    · rfl
  · simp only [readSummary, BoltProtocolState.respond, hrecord, ne_eq, not_false_eq_true, if_true,
      hsize, if_false]
    rfl

/-! ## The loop -/

/-- The round with its session over another state. -/
def Round.over (base : BoltProtocolState) : Round → Round
  | .again session => .again (session.over base)
  | .done fetched session => .done fetched (session.over base)

theorem finishRound_over (request_id response_id : Nat) {connection : BoltConnection}
    {state : BoltProtocolState}
    (hread : readSummary BoltProtocolV3.fetchFunctions (connection, base.respond state) =
      (readSummary BoltProtocolV1.fetchFunctions (connection, state)).map (Session.over base)) :
    finishRound BoltProtocolV3.fetchFunctions request_id response_id
        (connection, base.respond state) =
      (finishRound BoltProtocolV1.fetchFunctions request_id response_id
        (connection, state)).map (Round.over base) := by
  simp only [finishRound, hread, Option.map_map]
  refine congrFun (congrArg Option.map (funext fun session => ?_)) _
  obtain ⟨connection', state'⟩ := session
  have htype : (base.respond state').data_type = state'.data_type := rfl
  simp only [Function.comp_apply, Session.over, htype]
  split_ifs <;> rfl

/-- A round whose summary, if it decodes one, is without the entry. -/
theorem fetchRound_over (request_id : Nat) (session : Session)
    (h : ∀ metadata ∈ roundMetadata check session, hasKey CONNECTION_ID_KEY metadata = false) :
    fetchRound BoltProtocolV3.fetchFunctions check request_id (session.over base) =
      (fetchRound BoltProtocolV1.fetchFunctions check request_id session).map
        (Round.over base) := by
  rw [fetchRound, fetchRound, reassemble_over]
  rcases hmessage : reassemble session with _ | ⟨status, connection, state⟩
  · rfl
  by_cases hstatus : status = BOLT_SUCCESS
  · simp only [roundMetadata, hmessage, hstatus, ne_eq, not_true_eq_false, if_false] at h
    simp only [overOutcome, Option.map_some, Session.over, hstatus, ne_eq, not_true_eq_false,
      if_false, BoltProtocolV1.fetchFunctions, BoltProtocolV3.fetchFunctions,
      BoltProtocolV1.unload, BoltProtocolV3.unload, unloadMessage_over]
    rcases hunload : unloadMessage check state connection.garbage with _ | ⟨decoded, state', garbage⟩
    · rfl
    by_cases hdecoded : decoded = BOLT_SUCCESS
    · simp only [Option.map_some, hdecoded, not_true_eq_false, if_false]
      refine finishRound_over base request_id _ (readSummary_over base _ state' ?_)
      intro hrecord metadata rest hdata
      refine h metadata ?_
      simp only [hunload, hdecoded, not_true_eq_false, if_false, hrecord, hdata,
        Option.mem_def]
    · simp only [Option.map_some, hdecoded, not_false_eq_true, if_true]
      rfl
  · simp only [overOutcome, Option.map_some, hstatus, ne_eq, not_false_eq_true, if_true]
    rfl

/-- The metadata of the summaries that a call of `BoltProtocolV1_fetch`
decodes. -/
def loopMetadata (check : CheckStructSignature) (request_id : Nat) : Nat → Session → List BoltValue
  | 0, _ => []
  | fuel + 1, session =>
    (roundMetadata check session).toList ++
      match fetchRound BoltProtocolV1.fetchFunctions check request_id session with
      | some (.again session) => loopMetadata check request_id fuel session
      | _ => []

theorem fetchLoop_over (request_id : Nat) (fuel : Nat) : ∀ session : Session,
    (∀ metadata ∈ loopMetadata check request_id fuel session,
      hasKey CONNECTION_ID_KEY metadata = false) →
    fetchLoop BoltProtocolV3.fetchFunctions check request_id fuel (session.over base) =
      overOutcome base (fetchLoop BoltProtocolV1.fetchFunctions check request_id fuel session) := by
  induction fuel with
  | zero => exact fun _ _ => rfl
  | succ fuel ih =>
    intro session h
    have hround := fetchRound_over base request_id session fun metadata hmetadata =>
      h metadata (List.mem_append_left _ (Option.mem_toList.mpr hmetadata))
    rw [fetchLoop, fetchLoop, hround]
    rcases hfirst : fetchRound BoltProtocolV1.fetchFunctions check request_id session with
      _ | ⟨session1⟩ | ⟨fetched, session1⟩
    · rfl
    · refine ih session1 fun metadata hmetadata => h metadata (List.mem_append_right _ ?_)
      simpa only [hfirst] using hmetadata
    · rfl

/-! ## Runs of calls -/

/-- A call of `BoltProtocolV1_fetch`. -/
def BoltProtocolV1.fetchStep (check : CheckStructSignature) : Runs.Step Nat Session Int :=
  fun request session => BoltProtocolV1.fetch check session request

/-- A call of `BoltProtocolV3_fetch`. -/
def BoltProtocolV3.fetchStep (check : CheckStructSignature) : Runs.Step Nat Session Int :=
  fun request session => BoltProtocolV3.fetch check session request

/-- No summary that the call decodes has a `connection_id` entry. -/
def WithoutConnectionId (check : CheckStructSignature) (request : Nat) (session : Session) : Prop :=
  ∀ metadata ∈ loopMetadata check request (session.1.pending.length + 1) session,
    hasKey CONNECTION_ID_KEY metadata = false

instance (check : CheckStructSignature) (request : Nat) (session : Session) :
    Decidable (WithoutConnectionId check request session) := by
  unfold WithoutConnectionId
  infer_instance

/-- A call on sessions that agree. -/
theorem fetchStep_agrees {first third : Session} (hagree : Agree first third) (request : Nat)
    (h : WithoutConnectionId check request first) :
    Runs.Alike Agree (BoltProtocolV1.fetchStep check request first)
      (BoltProtocolV3.fetchStep check request third) := by
  have hloop := fetchLoop_over third.2 request _ first h
  rw [← hagree.eq_over] at hloop
  rw [BoltProtocolV1.fetchStep, BoltProtocolV3.fetchStep, BoltProtocolV1.fetch,
    BoltProtocolV3.fetch, ← hagree.connection, hloop]
  cases fetchLoop BoltProtocolV1.fetchFunctions check request (first.1.pending.length + 1) first with
  | none => exact .none
  | some result => exact .some ⟨rfl, result.2.agree_over third.2⟩

/-- The response paths agree.  Over every run of fetch calls on one stream of
bytes, whatever it holds and however the transport cuts it, the two versions
give the same results and leave the same response part, as long as no summary
with a `connection_id` entry has been received. -/
theorem fetch_agrees (check : CheckStructSignature) (requests : List Nat) {first third : Session}
    (hagree : Agree first third)
    (h : Runs.Admissible (BoltProtocolV1.fetchStep check) (WithoutConnectionId check) requests
      first) :
    Runs.Alike Agree (Runs.run (BoltProtocolV1.fetchStep check) requests first)
      (Runs.run (BoltProtocolV3.fetchStep check) requests third) :=
  Runs.alike_of_admissible (fun request _ _ hagree h => fetchStep_agrees hagree request h) requests
    hagree h

/-- A record, and a success that names the server. -/
theorem fetch_agrees_server :
    let connection := (answeredSession [[0xB1, 0x71, 0x91, 0x01],
      [0xB1, 0x70, 0xA1, 0x86, 0x73, 0x65, 0x72, 0x76, 0x65, 0x72, 0x81, 0x78]]).1
    Runs.Alike Agree
      (Runs.run (BoltProtocolV1.fetchStep BoltProtocolV1.checkReadableStructSignature) [0, 0]
        (connection, BoltProtocolV1.createState))
      (Runs.run (BoltProtocolV3.fetchStep BoltProtocolV1.checkReadableStructSignature) [0, 0]
        (connection, BoltProtocolV3.createState)) :=
  fetch_agrees _ [0, 0] (by constructor <;> rfl) (by decide +kernel)

end Seabolt
