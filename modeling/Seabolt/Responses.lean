import Seabolt.Messages

/-!
# Messages and responses

A response is counted by its summary, so the counter and the next messages
of the stream say which response a message belongs to.  `seek` skips to a
response; `fetchItems_messages` says that `BoltConnection_fetch` does, and
what it makes of the message that it finds.
-/

namespace Seabolt

open PackStream

/-- The counter of responses after a message with this code. -/
def nextCounter (counter : Nat) (code : Int16) : Nat :=
  if code = BOLT_V1_RECORD then counter else counter + 1

/-- Skip to the response that is asked for. -/
def seek (request : Nat) : Nat → List BoltMessage → Nat × List BoltMessage
  | counter, [] => (counter, [])
  | counter, message :: messages =>
    if counter = request then (counter, message :: messages)
    else seek request (nextCounter counter message.code) messages

@[simp] theorem seek_self (request : Nat) (messages : List BoltMessage) :
    seek request request messages = (request, messages) := by
  cases messages <;> simp [seek]

/-- What `seek` skips is the front of the stream. -/
theorem seek_suffix (request : Nat) (messages : List BoltMessage) :
    ∀ counter, (seek request counter messages).2 <:+ messages := by
  induction messages with
  | nil => exact fun _ => List.suffix_rfl
  | cons message messages ih =>
    intro counter
    rw [seek]
    split_ifs
    · exact List.suffix_rfl
    · exact (ih _).trans (List.suffix_cons _ _)

/-- Whether a summary with this code is one that the protocol knows. -/
def IsSummaryCode (code : Int16) : Prop :=
  code = BOLT_V1_SUCCESS ∨ code = BOLT_V1_IGNORED ∨ code = BOLT_V1_FAILURE

instance (code : Int16) : Decidable (IsSummaryCode code) :=
  inferInstanceAs (Decidable (_ ∨ _))

/-- What `BoltConnection_fetch` returns for a message of the response that is
asked for. -/
def fetchResult (code : Int16) : Int :=
  if code = BOLT_V1_RECORD then FETCH_RECORD
  else if IsSummaryCode code then FETCH_SUMMARY
  else FETCH_ERROR

/-! ## One message -/

/-- What the decoding of a message, and the extraction of its metadata,
change. -/
structure AfterMessage (message : BoltMessage) (session session' : Session) : Prop where
  connection : session'.1 = { session.1 with garbage := session'.1.garbage }
  state : session'.2 = { session.2 with
    toSummaryData := session'.2.toSummaryData
    response_counter := nextCounter session.2.response_counter message.code
    record_counter := session'.2.record_counter
    data_type := message.code
    data := .list message.fields }

variable {version : ProtocolVersion} {message : BoltMessage} {session : Session} {request : Nat}

/-- Reading a message whose metadata can be copied. -/
theorem readSummary_decoded (version : ProtocolVersion)
    (hcopyable : ∀ v ∈ message.fields, v.Copyable)
    (connection : BoltConnection) (state : BoltProtocolState) :
    ∃ session', readSummary version.fetchFunctions (connection, decoded (some message) state) =
      some session' ∧ AfterMessage message (connection, state) session' := by
  simp only [readSummary, decoded, countRecord_eq]
  by_cases hrecord : message.code = BOLT_V1_RECORD
  · simp only [ne_eq, eq_true hrecord, not_true_eq_false, if_false]
    refine ⟨_, rfl, rfl, ?_⟩
    simp only [nextCounter, eq_true hrecord, if_true]
  simp only [ne_eq, hrecord, not_false_eq_true, if_true]
  rcases hfields : message.fields with _ | ⟨metadata, fields⟩
  · refine ⟨_, rfl, rfl, ?_⟩
    simp only [nextCounter, hrecord, if_false, hfields]
  · have hsize : 1 ≤ (BoltValue.list (metadata :: fields)).size := by
      simp [BoltValue.size]
    obtain ⟨⟨summary, garbage⟩, hextract⟩ := version.extractMetadata_isSome connection.id
      message.code (hcopyable metadata (hfields ▸ List.mem_cons_self))
      ({ state.toSummaryData with
          result_metadata := state.result_metadata.formatAsDictionary 0 }, connection.garbage)
    simp only [hsize, if_true, hextract, Option.map_some]
    refine ⟨_, rfl, rfl, ?_⟩
    simp only [nextCounter, hrecord, if_false, hfields]

/-- A round with a message: it is skipped unless its response is the one that
is asked for. -/
theorem itemRound_message (version : ProtocolVersion) (request : Nat)
    (hcopyable : ∀ v ∈ message.fields, v.Copyable) (session : Session) :
    ∃ session', AfterMessage message session session' ∧
      itemRound version.fetchFunctions request (some message) session =
        some (if session.2.response_counter = request then
            .done (if message.code = BOLT_V1_RECORD then FETCH_RECORD else FETCH_SUMMARY) session'
          else .again session') := by
  obtain ⟨connection, state⟩ := session
  obtain ⟨⟨connection', state'⟩, hread, hafter⟩ :=
    readSummary_decoded version hcopyable connection state
  refine ⟨(connection', state'), hafter, ?_⟩
  have htype : state'.data_type = message.code :=
    congrArg BoltProtocolState.data_type hafter.state
  simp only [itemRound, finishRound, hread, Option.map_some, ne_eq, htype]
  by_cases hid : state.response_counter = request
  · by_cases hrecord : message.code = BOLT_V1_RECORD
    · simp only [hid, not_true_eq_false, if_false, eq_true hrecord, if_true]
    · simp only [hid, not_true_eq_false, if_false, hrecord, not_false_eq_true, if_true]
  · simp only [hid, not_false_eq_true, if_true, if_false]

/-! ## The next message of a response -/

/-- The loop of `fetch` skips to the response that is asked for, and reads its
next message.  It runs out of messages where `seek` does. -/
theorem fetchItems_seek (version : ProtocolVersion) (request : Nat) (messages : List BoltMessage)
    (hcopyable : ∀ m ∈ messages, ∀ v ∈ m.fields, v.Copyable) :
    ∀ session : Session,
      (∀ counter, seek request session.2.response_counter messages = (counter, []) →
        ∃ session', fetchItems version.fetchFunctions request (messages.map some) session =
            some (none, session', []) ∧ session'.2.response_counter = counter) ∧
      (∀ counter message unread,
        seek request session.2.response_counter messages = (counter, message :: unread) →
        counter = request ∧ ∃ before session', before.2.response_counter = request ∧
          AfterMessage message before session' ∧
          fetchItems version.fetchFunctions request (messages.map some) session =
            some (some (if message.code = BOLT_V1_RECORD then FETCH_RECORD else FETCH_SUMMARY),
              session', unread.map some)) := by
  induction messages with
  | nil =>
    intro session
    constructor
    · intro counter hseek
      obtain ⟨rfl, -⟩ := Prod.mk.inj hseek
      exact ⟨session, rfl, rfl⟩
    · intro counter message unread hseek
      simp [seek] at hseek
  | cons first messages ih =>
    intro session
    obtain ⟨hfirst, hmessages⟩ := List.forall_mem_cons.mp hcopyable
    obtain ⟨session1, hafter, hround⟩ :=
      itemRound_message version request hfirst session
    by_cases hid : session.2.response_counter = request
    · simp only [seek, hid, if_true, Prod.mk.injEq, reduceCtorEq, and_false, false_imp_iff,
        implies_true, true_and]
      rintro counter message unread ⟨rfl, hhead⟩
      obtain ⟨rfl, rfl⟩ := List.cons.inj hhead
      refine ⟨rfl, session, session1, hid, hafter, ?_⟩
      simp only [List.map_cons, fetchItems, hround, hid, if_true]
    · have hcounter : session1.2.response_counter =
          nextCounter session.2.response_counter first.code :=
        congrArg BoltProtocolState.response_counter hafter.state
      have hstep : fetchItems version.fetchFunctions request ((first :: messages).map some) session =
          fetchItems version.fetchFunctions request (messages.map some) session1 := by
        simp only [List.map_cons, fetchItems, hround, hid, if_false]
      simp only [seek, hid, if_false, hstep, ← hcounter]
      exact ih hmessages session1

/-! ## The connection -/

namespace BoltConnection

variable {connection : BoltConnection} {state : BoltProtocolState}
  {messages : List BoltMessage}

/-- The end of `BoltConnection_fetch` for a message of the response that is
asked for. -/
theorem fetched_result (connection : BoltConnection) (state : BoltProtocolState) :
    (fetched (if state.data_type = BOLT_V1_RECORD then FETCH_RECORD else FETCH_SUMMARY) connection
      state).1 = fetchResult state.data_type ∧
    (fetchResult state.data_type = FETCH_ERROR →
      (fetched (if state.data_type = BOLT_V1_RECORD then FETCH_RECORD else FETCH_SUMMARY) connection
        state).2.status.state = .defunct) := by
  have h1 : FETCH_RECORD ≠ FETCH_SUMMARY := by decide
  have h2 : FETCH_RECORD ≠ FETCH_ERROR := by decide
  have h3 : FETCH_SUMMARY ≠ FETCH_ERROR := by decide
  by_cases hrecord : state.data_type = BOLT_V1_RECORD
  · simp only [fetched, fetchResult, eq_true hrecord, if_true, h1, if_false, h2, false_imp_iff,
      and_self]
  simp only [fetched, fetchResult, IsSummaryCode, hrecord, if_false, if_true]
  by_cases hsuccess : state.data_type = BOLT_V1_SUCCESS
  · simp only [eq_true hsuccess, true_or, if_true, h3, false_imp_iff, and_self]
  by_cases hignored : state.data_type = BOLT_V1_IGNORED
  · simp only [hsuccess, eq_true hignored, true_or, or_true, if_true, if_false, h3, false_imp_iff,
      and_true]
    split_ifs <;> rfl
  by_cases hfailure : state.data_type = BOLT_V1_FAILURE
  · simp only [hsuccess, hignored, eq_true hfailure, or_true, if_true, if_false, h3, false_imp_iff,
      and_self]
  · simp only [hsuccess, hignored, hfailure, or_self, if_false, setStatus_status, implies_true,
      and_self]

/-- What `BoltConnection_fetch` finds, and what it makes of it. -/
theorem fetchItems_messages (request : Nat)
    (hprotocol : connection.protocol = some ⟨version, state⟩)
    (hcopyable : ∀ m ∈ messages, ∀ v ∈ m.fields, v.Copyable) :
    (∀ counter, seek request state.response_counter messages = (counter, []) →
      ∃ connection' state', connection.fetchItems request (messages.map some) =
          some (none, connection', []) ∧
        connection'.protocol = some ⟨version, state'⟩ ∧ state'.response_counter = counter) ∧
    (∀ counter message unread,
      seek request state.response_counter messages = (counter, message :: unread) →
      ∃ connection' state', connection.fetchItems request (messages.map some) =
          some (some (fetchResult message.code), connection', unread.map some) ∧
        connection'.protocol = some ⟨version, state'⟩ ∧
        state'.response_counter = nextCounter request message.code ∧
        state'.data_type = message.code ∧ state'.data = .list message.fields ∧
        (fetchResult message.code = FETCH_ERROR → connection'.status.state = .defunct)) := by
  obtain ⟨hover, hfound⟩ := fetchItems_seek version request messages hcopyable
    ({ connection with protocol := none }, state)
  constructor
  · intro counter hseek
    obtain ⟨⟨connection', state'⟩, hloop, hcounter⟩ := hover counter hseek
    refine ⟨{ connection' with protocol := some ⟨version, state'⟩ }, state', ?_, rfl, hcounter⟩
    simp only [fetchItems, hprotocol, hloop, Option.map_some]
  · intro counter message unread hseek
    obtain ⟨rfl, before, ⟨connection', state'⟩, hbefore, hafter, hloop⟩ := hfound _ _ _ hseek
    have htype : state'.data_type = message.code :=
      congrArg BoltProtocolState.data_type hafter.state
    have hdata : state'.data = .list message.fields :=
      congrArg BoltProtocolState.data hafter.state
    have hcounter : state'.response_counter = nextCounter counter message.code := by
      rw [← hbefore]
      exact congrArg BoltProtocolState.response_counter hafter.state
    have hresult := fetched_result { connection' with protocol := some ⟨version, state'⟩ } state'
    have hend := fetched_protocol
      (if message.code = BOLT_V1_RECORD then FETCH_RECORD else FETCH_SUMMARY)
      { connection' with protocol := some ⟨version, state'⟩ } state'
    rw [htype] at hresult
    refine ⟨_, state', ?_, hend, hcounter, htype, hdata, hresult.2⟩
    simp only [fetchItems, hprotocol, hloop, Option.map_some, hresult.1]

/-- Counting in an `int` wraps around once, however many terms there are. -/
theorem addInt_addInt (total first rest : Int) :
    addInt (addInt total first) rest = addInt total (first + rest) := by
  simp only [addInt, Int.bmod_add_bmod, add_assoc]

/-- `BoltConnection_fetch_summary` counts the records of the response and
reads its summary. -/
theorem fetchSummaryLoop_messages (records : List BoltMessage) :
    ∀ (total : Int) {connection : BoltConnection} {state : BoltProtocolState}
      {messages after : List BoltMessage} {fuel counter : Nat}, connection.protocol = some ⟨version, state⟩ →
      (∀ m ∈ messages, ∀ v ∈ m.fields, v.Copyable) → messages.length < fuel →
      (∀ r ∈ records, r.code = BOLT_V1_RECORD) →
      seek request state.response_counter messages = (counter, records ++ after) →
      (after = [] → ∃ connection' state',
        fetchSummaryItemsLoop request fuel total (messages.map some) connection =
          some (none, connection', []) ∧
        connection'.protocol = some ⟨version, state'⟩) ∧
      (∀ summary unread, after = summary :: unread → summary.code ≠ BOLT_V1_RECORD →
        ∃ connection' state',
          fetchSummaryItemsLoop request fuel total (messages.map some) connection =
            some (some (if IsSummaryCode summary.code then addInt total records.length
              else FETCH_ERROR), connection', unread.map some) ∧
          connection'.protocol = some ⟨version, state'⟩ ∧
          state'.response_counter = request + 1 ∧ state'.data_type = summary.code ∧
          (¬IsSummaryCode summary.code → connection'.status.state = .defunct)) := by
  induction records with
  | nil =>
    intro total connection state messages after fuel counter hprotocol hcopyable hfuel _ hseek
    obtain ⟨fuel, rfl⟩ := Nat.exists_eq_add_one.mpr (Nat.zero_lt_of_lt hfuel)
    obtain ⟨hover, hfound⟩ := fetchItems_messages request hprotocol hcopyable
    rw [List.nil_append] at hseek
    constructor
    · rintro rfl
      obtain ⟨connection', state', hfetch, hprotocol', -⟩ := hover _ hseek
      exact ⟨connection', state', by simp only [fetchSummaryItemsLoop, hfetch], hprotocol'⟩
    · rintro summary unread rfl hsummary
      obtain ⟨connection', state', hfetch, hprotocol', hcounter, htype, -, hdefunct⟩ :=
        hfound _ _ _ hseek
      refine ⟨connection', state', ?_, hprotocol', ?_, htype, ?_⟩
      · by_cases hknown : IsSummaryCode summary.code
        · have hresult : fetchResult summary.code = 0 := by
            simp only [fetchResult, hsummary, hknown, if_false, if_true]
          simp [fetchSummaryItemsLoop, hfetch, hresult, hknown]
        · have hresult : fetchResult summary.code = -1 := by
            simp only [fetchResult, hsummary, hknown, if_false]
          simp [fetchSummaryItemsLoop, hfetch, hresult, hknown]
      · rw [hcounter, nextCounter, if_neg hsummary]
      · intro hunknown
        exact hdefunct (by simp only [fetchResult, hsummary, hunknown, if_false])
  | cons record records ih =>
    intro total connection state messages after fuel counter hprotocol hcopyable hfuel hrecords hseek
    obtain ⟨fuel, rfl⟩ := Nat.exists_eq_add_one.mpr (Nat.zero_lt_of_lt hfuel)
    obtain ⟨hrecord, hrecords⟩ := List.forall_mem_cons.mp hrecords
    have hsuffix : record :: (records ++ after) <:+ messages := by
      have := seek_suffix request messages state.response_counter
      rwa [hseek] at this
    have hlength := hsuffix.length_le
    rw [List.length_cons] at hlength
    obtain ⟨connection1, state1, hfetch, hprotocol1, hcounter1, -⟩ :=
      (fetchItems_messages request hprotocol hcopyable).2 _ _ _ hseek
    have hresult : fetchResult record.code = 1 := by
      simp only [fetchResult, hrecord, if_true]
    have hstep : fetchSummaryItemsLoop request (fuel + 1) total (messages.map some) connection =
        fetchSummaryItemsLoop request fuel (addInt total 1) ((records ++ after).map some)
          connection1 := by
      simp [fetchSummaryItemsLoop, hfetch, hresult]
    have hseek1 : seek request state1.response_counter (records ++ after) =
        (request, records ++ after) := by
      rw [hcounter1, nextCounter, if_pos hrecord, seek_self]
    have hcopyable1 : ∀ m ∈ records ++ after, ∀ v ∈ m.fields, v.Copyable := fun m hm =>
      hcopyable m (hsuffix.subset (List.mem_cons_of_mem _ hm))
    have hfuel1 : (records ++ after).length < fuel := by omega
    obtain ⟨hover, hfound⟩ := ih (addInt total 1) hprotocol1 hcopyable1 hfuel1 hrecords hseek1
    rw [hstep]
    refine ⟨hover, fun summary unread hafter hsummary => ?_⟩
    obtain ⟨connection', state', hloop, hrest⟩ := hfound summary unread hafter hsummary
    refine ⟨connection', state', ?_, hrest⟩
    rw [hloop, addInt_addInt, List.length_cons, Nat.cast_succ, add_comm (1 : Int)]

theorem fetchSummaryItems_messages {records after : List BoltMessage} {counter : Nat}
    (hprotocol : connection.protocol = some ⟨version, state⟩)
    (hcopyable : ∀ m ∈ messages, ∀ v ∈ m.fields, v.Copyable)
    (hrecords : ∀ r ∈ records, r.code = BOLT_V1_RECORD)
    (hseek : seek request state.response_counter messages = (counter, records ++ after)) :
    (after = [] → ∃ connection' state',
      connection.fetchSummaryItems request (messages.map some) = some (none, connection', []) ∧
        connection'.protocol = some ⟨version, state'⟩) ∧
    (∀ summary unread, after = summary :: unread → summary.code ≠ BOLT_V1_RECORD →
      ∃ connection' state',
        connection.fetchSummaryItems request (messages.map some) =
          some (some (if IsSummaryCode summary.code then addInt 0 records.length
            else FETCH_ERROR), connection', unread.map some) ∧
        connection'.protocol = some ⟨version, state'⟩ ∧
        state'.response_counter = request + 1 ∧ state'.data_type = summary.code ∧
        (¬IsSummaryCode summary.code → connection'.status.state = .defunct)) := by
  rw [fetchSummaryItems]
  exact fetchSummaryLoop_messages records 0 hprotocol hcopyable (by simp) hrecords hseek

end BoltConnection

end Seabolt
