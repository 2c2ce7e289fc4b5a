import Seabolt.Violations

/-!
# Empty messages

A frame without chunks carries no message, and the decoder takes it for a
message that it has decoded: what `fetch` goes on to test are the type and the
data of the message before it.  That does nothing when that message is a
record of a response that is being skipped, and in no other case.

`Harmless` says that every empty frame that a run of calls reads is of that
kind.  Such a run sees the same as over the stream without empty frames.
-/

namespace Seabolt

open PackStream Chunking

/-- Whether the message is the last one that the call reads. -/
def Call.EndsWith : Call → Nat → Int16 → Prop
  | .fetch request, counter, _ => counter = request
  | .fetchSummary request, counter, code => counter = request ∧ code ≠ BOLT_V1_RECORD

instance (call : Call) (counter : Nat) (code : Int16) : Decidable (call.EndsWith counter code) := by
  cases call <;> unfold Call.EndsWith <;> infer_instance

/-- The calls that are left when a fetch on behalf of this one has returned. -/
def Call.remaining (call : Call) (calls : List Call) (fetched : Int) : List Call :=
  match call with
  | .fetch _ => calls
  | .fetchSummary _ => if 0 < fetched then call :: calls else calls

/-- Every empty frame that the calls read comes while the call still skips
responses, behind a record.  A call that outruns the stream is the last. -/
def Harmless : List Call → Nat → Int16 → List (Option BoltMessage) → Prop
  | [], _, _, _ => True
  | _ :: calls, _, _, [] => calls = []
  | call :: calls, counter, code, none :: items =>
    counter ≠ call.request ∧ code = BOLT_V1_RECORD ∧ Harmless (call :: calls) counter code items
  | call :: calls, counter, _, some message :: items =>
    if call.EndsWith counter message.code then
      Harmless calls (nextCounter counter message.code) message.code items
    else Harmless (call :: calls) (nextCounter counter message.code) message.code items

/-- The items that are messages. -/
def withoutEmpty (items : List (Option BoltMessage)) : List (Option BoltMessage) :=
  items.filter Option.isSome

/-- What a client can see of a connection after a call. -/
structure Observation where
  result : Int
  state : BoltConnectionState
  protocol : Option (Nat × Int16 × BoltValue × SummaryData)

namespace BoltConnection

/-- The response counter, the type and the data of the last message, and the
data of the last summaries. -/
def observed (connection : BoltConnection) : Option (Nat × Int16 × BoltValue × SummaryData) :=
  connection.protocol.map fun protocol =>
    (protocol.state.response_counter, protocol.state.data_type, protocol.state.data,
      protocol.state.toSummaryData)

/-- The outcome of a call. -/
def call (call : Call) (connection : BoltConnection) : Outcome BoltConnection :=
  match call with
  | .fetch request => connection.fetch request
  | .fetchSummary request => connection.fetchSummary request

/-- A call, and what a client can see after it. -/
def observe (call : Call) (connection : BoltConnection) :
    Option (Observation × BoltConnection) :=
  (connection.call call).map fun (result, connection) =>
    (⟨result, connection.status.state, connection.observed⟩, connection)

theorem observed_setInput (input : Input) (connection : BoltConnection) :
    (connection.setInput input).observed = connection.observed := by
  simp only [observed, setInput, Option.map_map]
  rfl

theorem Lost.observed {view connection : BoltConnection} (h : Lost view connection) :
    connection.observed = view.observed := by
  obtain ⟨input, error, calls, -, rfl⟩ := h
  exact observed_setInput input view

end BoltConnection

/-! ## The loop over the items -/

section Loop

variable {version : ProtocolVersion} {request : Nat}

/-- An empty frame behind a record of a response that is skipped changes
nothing. -/
theorem itemRound_none (functions : FetchFunctions) {session : Session}
    (hskips : session.2.response_counter ≠ request)
    (hrecord : session.2.data_type = BOLT_V1_RECORD) :
    itemRound functions request none session = some (.again session) := by
  obtain ⟨connection, state⟩ := session
  simp only [itemRound, finishRound, readSummary, decoded, ne_eq, eq_true hrecord,
    not_true_eq_false, if_false, Option.map_some, hskips, not_false_eq_true, if_true]

/-- What the loop has read is at the front of the items. -/
theorem fetchItems_suffix (functions : FetchFunctions) (items : List (Option BoltMessage)) :
    ∀ {session session' : Session} {fetched : Int} {items'},
      fetchItems functions request items session = some (some fetched, session', items') →
      items' <:+ items ∧ items'.length < items.length := by
  induction items with
  | nil =>
    intro session session' fetched items' h
    simp [fetchItems] at h
  | cons item items ih =>
    intro session session' fetched items' h
    rw [fetchItems] at h
    split at h
    · cases h
    · obtain ⟨hsuffix, hlength⟩ := ih h
      exact ⟨hsuffix.trans (List.suffix_cons _ _), hlength.trans (Nat.lt_succ_self _)⟩
    · simp only [Option.some.injEq, Prod.mk.injEq] at h
      obtain ⟨-, -, rfl⟩ := h
      exact ⟨List.suffix_cons _ _, Nat.lt_succ_self _⟩

/-- Over harmless items the loop does what it does over the messages among
them. -/
theorem fetchItems_harmless (version : ProtocolVersion) (call : Call) (calls : List Call)
    (items : List (Option BoltMessage)) :
    ∀ {session : Session}, (∀ m, some m ∈ items → ∀ v ∈ m.fields, v.Copyable) →
      Harmless (call :: calls) session.2.response_counter session.2.data_type items →
      ∃ result session' items',
        fetchItems version.fetchFunctions call.request items session =
          some (result, session', items') ∧
        fetchItems version.fetchFunctions call.request (withoutEmpty items) session =
          some (result, session', withoutEmpty items') ∧
        (result = none → calls = []) ∧
        (∀ fetched, result = some fetched →
          Harmless (call.remaining calls fetched) session'.2.response_counter
            session'.2.data_type items') := by
  induction items with
  | nil =>
    intro session _ hharmless
    exact ⟨none, session, [], rfl, rfl, fun _ => hharmless, by simp⟩
  | cons item items ih =>
    intro session hcopyable hharmless
    cases item with
    | none =>
      obtain ⟨hskips, hrecord, hharmless⟩ := hharmless
      have hround := itemRound_none version.fetchFunctions hskips hrecord
      obtain ⟨result, session', items', hloop, hloop', hrest⟩ :=
        ih (fun m hm => hcopyable m (List.mem_cons_of_mem _ hm)) hharmless
      refine ⟨result, session', items', ?_, hloop', hrest⟩
      simp only [fetchItems, hround, hloop]
    | some message =>
      obtain ⟨session1, hafter, hround⟩ := itemRound_message version call.request
        (hcopyable message List.mem_cons_self) session
      have hcounter : session1.2.response_counter =
          nextCounter session.2.response_counter message.code :=
        congrArg BoltProtocolState.response_counter hafter.state
      have htype : session1.2.data_type = message.code :=
        congrArg BoltProtocolState.data_type hafter.state
      have hfilter : withoutEmpty (some message :: items) = some message :: withoutEmpty items :=
        rfl
      rw [Harmless] at hharmless
      by_cases hid : session.2.response_counter = call.request
      · refine ⟨some (if message.code = BOLT_V1_RECORD then FETCH_RECORD else FETCH_SUMMARY),
          session1, items, by simp only [fetchItems, hround, hid, if_true],
          by simp only [hfilter, fetchItems, hround, hid, if_true], (by simp), ?_⟩
        rintro _ ⟨rfl⟩
        rw [hcounter, htype]
        cases call with
        | fetch request =>
          have hends : (Call.fetch request).EndsWith session.2.response_counter message.code := hid
          rwa [if_pos hends] at hharmless
        | fetchSummary request =>
          by_cases hrecord : message.code = BOLT_V1_RECORD
          · simpa [Call.EndsWith, Call.remaining, hrecord] using hharmless
          · simpa [Call.EndsWith, Call.remaining, hrecord, show _ = request from hid] using hharmless
      · have hends : ¬call.EndsWith session.2.response_counter message.code := by
          cases call with
          | fetch request => exact hid
          | fetchSummary request => exact fun h => hid h.1
        rw [if_neg hends, ← hcounter, ← htype] at hharmless
        obtain ⟨result, session', items', hloop, hloop', hrest⟩ :=
          ih (fun m hm => hcopyable m (List.mem_cons_of_mem _ hm)) hharmless
        refine ⟨result, session', items', ?_, ?_, hrest⟩
        · simp only [fetchItems, hround, hid, if_false, hloop]
        · simp only [hfilter, fetchItems, hround, hid, if_false, hloop']

end Loop

/-! ## The connection -/

namespace BoltConnection

variable {version : ProtocolVersion} {connection : BoltConnection} {state : BoltProtocolState}
  {items : List (Option BoltMessage)} {call : Call} {calls : List Call}

/-- The end of `BoltConnection_fetch` passes a record on, and nothing else
for one. -/
theorem fetched_remaining (fetched : Int) (connection : BoltConnection)
    (state : BoltProtocolState) (call : Call) (calls : List Call) :
    call.remaining calls (BoltConnection.fetched fetched connection state).1 =
      call.remaining calls fetched := by
  cases call with
  | fetch request => rfl
  | fetchSummary request =>
    by_cases hsummary : fetched = FETCH_SUMMARY
    · have hlast : ¬0 < (BoltConnection.fetched fetched connection state).1 := by
        simp only [BoltConnection.fetched, hsummary, if_true]
        split_ifs <;> simp
      rw [Call.remaining, if_neg hlast, Call.remaining, if_neg (by simp [hsummary])]
    · simp only [BoltConnection.fetched, hsummary, if_false]

/-- Over harmless items a fetch does what it does over the messages among
them. -/
theorem fetchItems_withoutEmpty (hprotocol : connection.protocol = some ⟨version, state⟩)
    (hcopyable : ∀ m, some m ∈ items → ∀ v ∈ m.fields, v.Copyable)
    (hharmless : Harmless (call :: calls) state.response_counter state.data_type items) :
    ∃ result connection' state' items',
      connection.fetchItems call.request items = some (result, connection', items') ∧
      connection.fetchItems call.request (withoutEmpty items) =
        some (result, connection', withoutEmpty items') ∧
      connection'.protocol = some ⟨version, state'⟩ ∧ (result = none → calls = []) ∧
      (∀ fetched, result = some fetched →
        Harmless (call.remaining calls fetched) state'.response_counter state'.data_type items' ∧
        items' <:+ items ∧ items'.length < items.length ∧
        (withoutEmpty items').length < (withoutEmpty items).length) := by
  obtain ⟨result, ⟨connection', state'⟩, items', hloop, hloop', hlast, hrest⟩ :=
    @Seabolt.fetchItems_harmless version call calls items
      ({ connection with protocol := none }, state) hcopyable hharmless
  rcases result with _ | fetched1
  · refine ⟨none, { connection' with protocol := some ⟨version, state'⟩ }, state', items', ?_, ?_,
      rfl, hlast, by simp⟩
    · simp only [fetchItems, hprotocol, hloop, Option.map_some]
    · simp only [fetchItems, hprotocol, hloop', Option.map_some]
  · have hend := fetched_protocol fetched1
      { connection' with protocol := some ⟨version, state'⟩ } state'
    have hremaining := fetched_remaining fetched1
      { connection' with protocol := some ⟨version, state'⟩ } state' call calls
    obtain ⟨hsuffix, hshorter⟩ := fetchItems_suffix _ items hloop
    rcases hfetched : fetched fetched1
      { connection' with protocol := some ⟨version, state'⟩ } state' with ⟨fetched2, end2⟩
    simp only [hfetched] at hend hremaining
    refine ⟨some fetched2, end2, state', items', ?_, ?_, hend, (by simp), ?_⟩
    · simp only [fetchItems, hprotocol, hloop, Option.map_some, hfetched]
    · simp only [fetchItems, hprotocol, hloop', Option.map_some, hfetched]
    · rintro _ ⟨rfl⟩
      rw [hremaining]
      exact ⟨hrest fetched1 rfl, hsuffix, hshorter, (fetchItems_suffix _ _ hloop').2⟩

/-- So does a fetch of a summary. -/
theorem fetchSummaryLoop_withoutEmpty {request : Nat} (fuel : Nat) :
    ∀ {connection : BoltConnection} {state : BoltProtocolState}
      {items : List (Option BoltMessage)} {fuel' : Nat} (total : Int),
      connection.protocol = some ⟨version, state⟩ →
      (∀ m, some m ∈ items → ∀ v ∈ m.fields, v.Copyable) →
      Harmless (.fetchSummary request :: calls) state.response_counter state.data_type items →
      items.length < fuel → (withoutEmpty items).length < fuel' →
      ∃ result connection' state' items',
        fetchSummaryItemsLoop request fuel total items connection =
          some (result, connection', items') ∧
        fetchSummaryItemsLoop request fuel' total (withoutEmpty items) connection =
          some (result, connection', withoutEmpty items') ∧
        connection'.protocol = some ⟨version, state'⟩ ∧ (result = none → calls = []) ∧
        (∀ fetched, result = some fetched →
          Harmless calls state'.response_counter state'.data_type items' ∧ items' <:+ items) := by
  induction fuel with
  | zero =>
    intro connection state items fuel' total _ _ _ hfuel
    exact absurd hfuel (Nat.not_lt_zero _)
  | succ fuel ih =>
    intro connection state items fuel' total hprotocol hcopyable hharmless hfuel hfuel'
    obtain ⟨fuel', rfl⟩ := Nat.exists_eq_add_one.mpr (Nat.zero_lt_of_lt hfuel')
    obtain ⟨result, connection1, state1, items1, hfetch, hfetch', hprotocol1, hlast, hrest⟩ :=
      fetchItems_withoutEmpty hprotocol hcopyable hharmless
    simp only [Call.request] at hfetch hfetch'
    rcases result with _ | data
    · refine ⟨none, connection1, state1, items1, ?_, ?_, hprotocol1, hlast, by simp⟩
      · simp only [fetchSummaryItemsLoop, hfetch]
      · simp only [fetchSummaryItemsLoop, hfetch']
    obtain ⟨hharmless1, hsuffix, hshorter, hshorter'⟩ := hrest data rfl
    simp only [Call.remaining] at hharmless1
    by_cases hrecord : 0 < data
    · rw [if_pos hrecord] at hharmless1
      have hcopyable1 : ∀ m, some m ∈ items1 → ∀ v ∈ m.fields, v.Copyable :=
        fun m hm => hcopyable m (hsuffix.subset hm)
      obtain ⟨result, connection2, state2, items2, hloop, hloop', hprotocol2, hlast2, hrest2⟩ :=
        ih (addInt total data) hprotocol1 hcopyable1 hharmless1 (by omega : items1.length < fuel)
          (by omega : (withoutEmpty items1).length < fuel')
      have hnonneg : ¬data < 0 := by omega
      have hnonzero : data ≠ 0 := by omega
      refine ⟨result, connection2, state2, items2, ?_, ?_, hprotocol2, hlast2, ?_⟩
      · simp only [fetchSummaryItemsLoop, hfetch, hnonneg, if_false, hnonzero, ne_eq,
          not_false_eq_true, if_true, hloop]
      · simp only [fetchSummaryItemsLoop, hfetch', hnonneg, if_false, hnonzero, ne_eq,
          not_false_eq_true, if_true, hloop']
      · intro fetched hfetched
        obtain ⟨hharmless2, hsuffix2⟩ := hrest2 fetched hfetched
        exact ⟨hharmless2, hsuffix2.trans hsuffix⟩
    · rw [if_neg hrecord] at hharmless1
      by_cases hneg : data < 0
      · refine ⟨some data, connection1, state1, items1, ?_, ?_, hprotocol1, (by simp), ?_⟩
        · simp only [fetchSummaryItemsLoop, hfetch, hneg, if_true]
        · simp only [fetchSummaryItemsLoop, hfetch', hneg, if_true]
        · exact fun _ _ => ⟨hharmless1, hsuffix⟩
      · obtain rfl : data = 0 := by omega
        refine ⟨some (addInt total 0), connection1, state1, items1, ?_, ?_, hprotocol1, (by simp), ?_⟩
        · simp only [fetchSummaryItemsLoop, hfetch, hneg, if_false, ne_eq, not_true_eq_false]
        · simp only [fetchSummaryItemsLoop, hfetch', hneg, if_false, ne_eq, not_true_eq_false]
        · exact fun _ _ => ⟨hharmless1, hsuffix⟩

/-! ## Calls -/

/-- A call over the items of the stream. -/
def callItems (call : Call) (items : List (Option BoltMessage)) (connection : BoltConnection) :
    Option (Option Int × BoltConnection × List (Option BoltMessage)) :=
  match call with
  | .fetch request => connection.fetchItems request items
  | .fetchSummary request => connection.fetchSummaryItems request items

/-- A call over the bytes of the items does what it does over the items. -/
theorem call_items {protocol : BoltProtocol} {input : Input} {rest : List UInt8}
    (hprotocol : connection.protocol = some protocol)
    (h : input.Ready protocol.version.checkReadableStruct items rest)
    {result : Option Int} {connection' : BoltConnection} {items' : List (Option BoltMessage)}
    (hitems : connection.callItems call items = some (result, connection', items')) :
    Follows protocol.version input rest ((connection.setInput input).call call) result connection'
      items' := by
  cases call with
  | fetch request => exact fetch_items hprotocol h hitems
  | fetchSummary request => exact fetchSummary_items hprotocol h hitems

/-- Over harmless items a call does what it does over the messages among
them. -/
theorem callItems_withoutEmpty (hprotocol : connection.protocol = some ⟨version, state⟩)
    (hcopyable : ∀ m, some m ∈ items → ∀ v ∈ m.fields, v.Copyable)
    (hharmless : Harmless (call :: calls) state.response_counter state.data_type items) :
    ∃ result connection' state' items',
      connection.callItems call items = some (result, connection', items') ∧
      connection.callItems call (withoutEmpty items) =
        some (result, connection', withoutEmpty items') ∧
      connection'.protocol = some ⟨version, state'⟩ ∧ (result = none → calls = []) ∧
      (∀ fetched, result = some fetched →
        Harmless calls state'.response_counter state'.data_type items') := by
  cases call with
  | fetch request =>
    obtain ⟨result, connection', state', items', hfetch, hfetch', hprotocol', hlast, hrest⟩ :=
      fetchItems_withoutEmpty hprotocol hcopyable hharmless
    exact ⟨result, connection', state', items', hfetch, hfetch', hprotocol', hlast,
      fun fetched hfetched => (hrest fetched hfetched).1⟩
  | fetchSummary request =>
    obtain ⟨result, connection', state', items', hfetch, hfetch', hprotocol', hlast, hrest⟩ :=
      fetchSummaryLoop_withoutEmpty (items.length + 1) 0 hprotocol hcopyable hharmless
        (Nat.lt_succ_self _) (Nat.lt_succ_self _)
    exact ⟨result, connection', state', items', hfetch, hfetch', hprotocol', hlast,
      fun fetched hfetched => (hrest fetched hfetched).1⟩

/-- What a client sees of a call over a reliable transport, by what the call
does over the items of the whole stream. -/
theorem observe_of_follows {input : Input} {result : Option Int} (hreliable : input.comm.Reliable)
    {view : BoltConnection}
    (h : Follows version input [] ((connection.setInput input).call call) result view items) :
    (∀ fetched, result = some fetched → ∃ input',
      observe call (connection.setInput input) =
        some (⟨fetched, view.status.state, view.observed⟩, view.setInput input') ∧
      input'.Ready version.checkReadableStruct items [] ∧ input'.comm.Reliable) ∧
    (result = none → ∃ lost, observe call (connection.setInput input) =
      some (⟨FETCH_ERROR, .defunct, view.observed⟩, lost)) := by
  have hcut : ∀ chunks rest, ¬StartsWith chunks [] rest := fun chunks rest hstarts =>
    absurd hstarts.length_le (by simp)
  rcases h with ⟨input', -, hready, hreliable', hdone, hover⟩ | ⟨-, -, -, -, -, hnot⟩
  · constructor
    · intro fetched hfetched
      refine ⟨input', ?_, hready, hreliable' hreliable⟩
      rw [observe, (hdone fetched hfetched).2, Option.map_some, ← observed_setInput input' view]
      rfl
    · intro hnone
      obtain ⟨lost, hcall, hlost⟩ := hover hnone hcut
      refine ⟨lost, ?_⟩
      rw [observe, hcall, Option.map_some, ← hlost.observed, ← hlost.defunct]
  · exact absurd hreliable hnot

end BoltConnection

/-- Empty messages are ignored in every run that reads none of them but those
behind a record of a response that is being skipped: the calls return the
same, and leave the same protocol state and connection state, as over the
stream without them. -/
theorem observe_withoutEmpty (calls : List Call) :
    ∀ (version : ProtocolVersion) (state : BoltProtocolState) (connection : BoltConnection)
      (items : List (Option BoltMessage)) (input input' : Input),
      connection.protocol = some ⟨version, state⟩ →
      input.Ready version.checkReadableStruct items [] → input.comm.Reliable →
      input'.Ready version.checkReadableStruct (withoutEmpty items) [] → input'.comm.Reliable →
      Harmless calls state.response_counter state.data_type items →
      ∃ observations final final',
        Runs.run BoltConnection.observe calls (connection.setInput input) =
          some (observations, final) ∧
        Runs.run BoltConnection.observe calls (connection.setInput input') =
          some (observations, final') := by
  induction calls with
  | nil => exact fun _ _ _ _ _ _ _ _ _ _ _ _ => ⟨[], _, _, rfl, rfl⟩
  | cons call calls ih =>
    intro version state connection items input input' hprotocol hready hreliable hready' hreliable'
      hharmless
    obtain ⟨result, view, state1, items1, hitems, hitems', hprotocol1, hlast, hrest⟩ :=
      BoltConnection.callItems_withoutEmpty hprotocol (copyable_of_carries hready.carries) hharmless
    obtain ⟨hdone, hover⟩ := BoltConnection.observe_of_follows hreliable
      (BoltConnection.call_items hprotocol hready hitems)
    obtain ⟨hdone', hover'⟩ := BoltConnection.observe_of_follows hreliable'
      (BoltConnection.call_items hprotocol hready' hitems')
    rcases result with _ | fetched
    · obtain ⟨lost, hcall⟩ := hover rfl
      obtain ⟨lost', hcall'⟩ := hover' rfl
      obtain rfl := hlast rfl
      exact ⟨[⟨FETCH_ERROR, .defunct, view.observed⟩], lost, lost', Runs.run_cons hcall rfl,
        Runs.run_cons hcall' rfl⟩
    · obtain ⟨input1, hcall, hready1, hreliable1⟩ := hdone fetched rfl
      obtain ⟨input1', hcall', hready1', hreliable1'⟩ := hdone' fetched rfl
      obtain ⟨observations, final, final', hrun, hrun'⟩ := ih version state1 view items1 input1
        input1' hprotocol1 hready1 hreliable1 hready1' hreliable1' (hrest fetched rfl)
      exact ⟨⟨fetched, view.status.state, view.observed⟩ :: observations, final, final',
        Runs.run_cons hcall hrun, Runs.run_cons hcall' hrun'⟩

/-- The input of a connection to which the server has sent the payloads. -/
def answeredInput (payloads : List (List UInt8)) : Input where
  comm := (answered payloads).comm
  rx_buffer := (answered []).rx_buffer
  protocol_rx_buffer := BoltProtocolV1.createState.rx_buffer

theorem ready_answered {items : List (Option BoltMessage)} {payloads : List (List UInt8)}
    (h : List.Forall₂ (EncodesItem BoltProtocolV1.checkReadableStructSignature) items payloads) :
    (answeredInput payloads).Ready BoltProtocolV1.checkReadableStructSignature items [] ∧
      (answeredInput payloads).comm.Reliable := by
  refine ⟨⟨⟨BoltBuffer.wf_create _, BoltBuffer.wf_create _⟩, BoltBuffer.content_create _, ?_⟩,
    by simp [answeredInput, answered, BoltCommunication.create],
    by simp [answeredInput, answered, BoltCommunication.create],
    by simp [answeredInput, answered, BoltCommunication.create]⟩
  have hcarries := carries_items h []
  rw [List.append_nil] at hcarries
  exact hcarries

theorem setInput_answered (payloads : List (List UInt8)) :
    (answered []).setInput (answeredInput payloads) = answered payloads := rfl

/-- A skipped response with an empty message behind its record. -/
theorem observe_withoutEmpty_skipped :
    ∃ observations final final',
      Runs.run BoltConnection.observe [.fetchSummary 1]
          (answered [[0xB1, 0x71, 0x90], [], [0xB1, 0x70, 0xA0], [0xB1, 0x70, 0xA0]]) =
        some (observations, final) ∧
      Runs.run BoltConnection.observe [.fetchSummary 1]
          (answered [[0xB1, 0x71, 0x90], [0xB1, 0x70, 0xA0], [0xB1, 0x70, 0xA0]]) =
        some (observations, final') := by
  have hencodes := encodes_emptyRecords BoltProtocolV1.checkReadableStructSignature 1
  rcases hencodes with _ | ⟨hrecord, hencodes⟩
  rcases hencodes with _ | ⟨hsuccess, -⟩
  have hitems : List.Forall₂ (EncodesItem BoltProtocolV1.checkReadableStructSignature)
      [some ⟨BOLT_V1_RECORD, [.list []]⟩, none, some success, some success]
      [[0xB1, 0x71, 0x90], [], [0xB1, 0x70, 0xA0], [0xB1, 0x70, 0xA0]] :=
    .cons hrecord (.cons rfl (.cons hsuccess (.cons hsuccess .nil)))
  have hitems' : List.Forall₂ (EncodesItem BoltProtocolV1.checkReadableStructSignature)
      [some ⟨BOLT_V1_RECORD, [.list []]⟩, some success, some success]
      [[0xB1, 0x71, 0x90], [0xB1, 0x70, 0xA0], [0xB1, 0x70, 0xA0]] :=
    .cons hrecord (.cons hsuccess (.cons hsuccess .nil))
  obtain ⟨hready, hreliable⟩ := ready_answered hitems
  obtain ⟨hready', hreliable'⟩ := ready_answered hitems'
  have hharmless : Harmless [.fetchSummary 1] 0 BOLT_V1_RECORD
      [some ⟨BOLT_V1_RECORD, [.list []]⟩, none, some success, some success] := by
    simp [Harmless, Call.EndsWith, Call.request, nextCounter, success]
  rw [← setInput_answered, ← setInput_answered [[0xB1, 0x71, 0x90], [0xB1, 0x70, 0xA0], _]]
  exact observe_withoutEmpty [.fetchSummary 1] .v1 BoltProtocolV1.createState (answered [])
    [some ⟨BOLT_V1_RECORD, [.list []]⟩, none, some success, some success] _ _ rfl hready hreliable
    hready' hreliable' hharmless

/-- A response of one record and a summary.  An empty message between the two
is read as one more record. -/
theorem observe_empty :
    ((Runs.run BoltConnection.observe [.fetchSummary 0]
        (answered [[0xB1, 0x71, 0x90], [], [0xB1, 0x70, 0xA0]])).map
      fun (observations, _) => observations.map Observation.result) = some [2] ∧
    ((Runs.run BoltConnection.observe [.fetchSummary 0]
        (answered [[0xB1, 0x71, 0x90], [0xB1, 0x70, 0xA0]])).map
      fun (observations, _) => observations.map Observation.result) = some [1] := by
  constructor <;> decide +kernel

end Seabolt
