import Seabolt.Discovery
import Seabolt.Authentication

/-!
# The discovery procedure

`BoltRoutingPool_update_routing_table_from`, from an initialised connection on:
the procedure is called, its record is turned into a Dictionary, and the routing
table is updated with it.

The loop of the source fetches at most twice: it is left when the first fetch
has found no record, or when the second has found anything.  The connection is
closed in the end, on which the result does not depend.
-/

namespace Seabolt

open BoltValue

/-- The text of `routing_table_call`. -/
def ROUTING_TABLE_CALL : List UInt8 := ascii "CALL dbms.cluster.routing.getRoutingTable($context)"

def CONTEXT_PARAMETER : List UInt8 := ascii "context"

namespace BoltConnection

/-- `BoltConnection_field_names`: the List that the metadata have named, or NULL. -/
def fieldNames (connection : BoltConnection) : Option (List BoltValue) :=
  match connection.protocol with
  | none => none
  | some protocol =>
    match protocol.state.result_field_names with
    | list names => some names
    | _ => none

end BoltConnection

/-! ## The record as a Dictionary -/

/-- The loop that copies the names and the values: `none` when there are fewer values than
names. -/
def copyRecord : List BoltValue → List BoltValue → Option (List (BoltValue × BoltValue))
  | [], _ => some []
  | _ :: _, [] => none
  | name :: names, value :: values => do
    let key ← copy null name
    let content ← copy null value
    let rest ← copyRecord names values
    some ((key, content) :: rest)

/-- The Dictionary of the field names and the values of the last record.  The values are
looked at if there is a name, and then they have to be a List. -/
def BoltConnection.response (connection : BoltConnection) : Option BoltValue :=
  connection.fieldNames.bind fun names =>
    match connection.fieldValues with
    | some (list values) => (copyRecord names values).map dictionary
    | _ => (copyRecord names []).map dictionary

/-- The last record has a value for every field name, and none of negative size is to be
copied. -/
def BoltConnection.Fits (connection : BoltConnection) : Prop :=
  ∃ names values, connection.fieldNames = some names ∧
    (names ≠ [] → connection.fieldValues = some (list values)) ∧ names.length ≤ values.length ∧
    (∀ name ∈ names, (copy null name).isSome) ∧
    ∀ value ∈ values.take names.length, (copy null value).isSome

theorem copyRecord_isSome_iff (names : List BoltValue) : ∀ values : List BoltValue,
    (copyRecord names values).isSome ↔
      names.length ≤ values.length ∧ (∀ name ∈ names, (copy null name).isSome) ∧
        ∀ value ∈ values.take names.length, (copy null value).isSome := by
  induction names with
  | nil => exact fun values => by simp [copyRecord]
  | cons name names ih =>
    intro values
    cases values with
    | nil => simp [copyRecord]
    | cons value values =>
      have hlength : (name :: names).length ≤ (value :: values).length ↔
          names.length ≤ values.length := Nat.succ_le_succ_iff
      rw [hlength, List.length_cons, List.take_succ_cons, List.forall_mem_cons,
        List.forall_mem_cons]
      simp only [copyRecord]
      cases hname : copy null name with
      | none => simp
      | some key =>
        cases hvalue : copy null value with
        | none => simp
        | some content =>
          have hrest := ih values
          cases hcopy : copyRecord names values with
          | none =>
            rw [hcopy] at hrest
            simpa using hrest
          | some rest =>
            rw [hcopy] at hrest
            simpa using hrest

theorem BoltConnection.response_isSome_iff (connection : BoltConnection) :
    connection.response.isSome ↔ connection.Fits := by
  unfold response Fits
  cases hnames : connection.fieldNames with
  | none => simp
  | some names =>
    simp only [Option.bind_some, Option.some.injEq, exists_and_left, exists_eq_left']
    constructor
    · intro h
      split at h
      · rename_i values hvalues
        rw [Option.isSome_map, copyRecord_isSome_iff] at h
        exact ⟨values, fun _ => hvalues, h⟩
      · rw [Option.isSome_map, copyRecord_isSome_iff] at h
        refine ⟨[], fun hne => absurd h.1 ?_, h⟩
        simp [hne]
    · rintro ⟨values, hvalues, h⟩
      by_cases hempty : names = []
      · subst hempty
        split <;> simp [copyRecord]
      · simp only [hvalues hempty]
        rw [Option.isSome_map, copyRecord_isSome_iff]
        exact h

/-! ## The procedure -/

namespace RoutingTable

/-- The `BoltValue_copy` of the routing context, if there is one, into the Null that the
parameter is at first. -/
def writeContext : Option BoltValue → Option (BoltValue → BoltValue)
  | none => some id
  | some routing_context => (copy null routing_context).map fun content _ => content

/-- The requests that are loaded.  `initialised` is what `BoltAddress_resolve`,
`BoltConnection_open` and `BoltConnection_init` leave. -/
def loadProcedure (routing_context : Option BoltValue) (initialised : Int × BoltConnection) :
    Outcome BoltConnection :=
  Outcome.TRY (some initialised) fun connection =>
    Outcome.TRY (connection.request (.setRunCypher ROUTING_TABLE_CALL 1)) fun connection =>
      (writeContext routing_context).bind fun write =>
        Outcome.TRY (connection.request (.setRunCypherParameter 0 CONTEXT_PARAMETER write))
          fun connection =>
            Outcome.TRY (connection.request .loadRunRequest) fun connection =>
              connection.request (.loadPullRequest (-1))

/-- Load and send the requests.  Between the status and the connection is the id of the last
request, which the source calls `pull_all`. -/
def sendProcedure (routing_context : Option BoltValue) (initialised : Int × BoltConnection) :
    Option (Int × Nat × BoltConnection) :=
  (loadProcedure routing_context initialised).bind fun (status, connection) =>
    if status = BOLT_SUCCESS then
      connection.lastRequest.map fun pull_all =>
        let (status, connection) := connection.send
        (status, pull_all, connection)
    else some (status, 0, connection)

/-- The loop of fetches: the status, and the response, or NULL. -/
def retrieveResponse (pull_all : Nat) (connection : BoltConnection) :
    Option (Int × Option BoltValue) :=
  (connection.fetch pull_all).bind fun (fetched, connection) =>
    if fetched > 0 then
      connection.response.bind fun response =>
        (connection.fetch pull_all).map fun (fetched, _) =>
          -- we don't expect more than 1 record being returned
          if fetched > 0 then (BOLT_ROUTING_UNEXPECTED_DISCOVERY_RESPONSE, some response)
          else (BOLT_SUCCESS, some response)
    else some (BOLT_ROUTING_UNEXPECTED_DISCOVERY_RESPONSE, none)

/-- The status and the response before the routing table is updated. -/
def discover (routing_context : Option BoltValue) (initialised : Int × BoltConnection) :
    Option (Int × Option BoltValue) :=
  (sendProcedure routing_context initialised).bind fun (status, pull_all, connection) =>
    if status = BOLT_SUCCESS then retrieveResponse pull_all connection
    else some (status, none)

/-- `BoltRoutingPool_update_routing_table_from`, on the routing table of the pool. -/
def updateFrom (routing_context : Option BoltValue) (initialised : Int × BoltConnection) (now : Int)
    (table : RoutingTable) : Outcome RoutingTable :=
  (discover routing_context initialised).bind fun (status, response) =>
    if status = BOLT_SUCCESS then response.bind fun response => update now response table
    else some (status, table)

/-! ## Complete results -/

/-- The last message is a SUCCESS whose metadata have a List of field names. -/
def NamesFields (connection : BoltConnection) : Prop :=
  ∃ protocol entries rest names key, connection.protocol = some protocol ∧
    protocol.state.data_type = BOLT_V1_SUCCESS ∧
    protocol.state.data = list (dictionary entries :: rest) ∧
    (key, list names) ∈ entries ∧ key.stringEquals FIELDS_KEY = true

/-- What is received for the requests: a SUCCESS with field names for the RUN, and for the
PULL_ALL one record with enough values, and a SUCCESS. -/
def Complete (pull_all : Nat) (sent : BoltConnection) : Prop :=
  ∃ ran record ended names values,
    sent.protocolFetch (pull_all - 1) = some (FETCH_SUMMARY, ran) ∧ NamesFields ran ∧
    ran.protocolFetch pull_all = some (FETCH_RECORD, record) ∧
    record.fieldNames = some names ∧ record.fieldValues = some (list values) ∧
    names.length ≤ values.length ∧
    record.protocolFetch pull_all = some (FETCH_SUMMARY, ended) ∧
    ended.lastCode = some BOLT_V1_SUCCESS

/-- The procedure was sent, and its result is complete. -/
def CompleteResult (routing_context : Option BoltValue) (initialised : Int × BoltConnection) : Prop :=
  ∃ pull_all sent, sendProcedure routing_context initialised = some (BOLT_SUCCESS, pull_all, sent) ∧
    Complete pull_all sent

/-- A routing table comes from a complete result only. -/
structure Discovers (routing_context : Option BoltValue) (initialised : Int × BoltConnection)
    (now : Int) (table : RoutingTable) : Prop where
  called : ∀ response, discover routing_context initialised = some (BOLT_SUCCESS, response) →
    CompleteResult routing_context initialised
  succeeds : ∀ table', updateFrom routing_context initialised now table =
    some (BOLT_SUCCESS, table') → CompleteResult routing_context initialised
  otherwise : ¬CompleteResult routing_context initialised →
    ∃ status, status ≠ BOLT_SUCCESS ∧
      updateFrom routing_context initialised now table = some (status, table)

/-- Nothing is sent. -/
def Unsent (routing_context : Option BoltValue) (initialised : Int × BoltConnection) : Prop :=
  ∃ status pull_all connection, status ≠ BOLT_SUCCESS ∧
    sendProcedure routing_context initialised = some (status, pull_all, connection)

/-- No record is received for the PULL_ALL before its summary, or before an error. -/
def NoRecord (pull_all : Nat) (sent : BoltConnection) : Prop :=
  ∃ result connection, result ≤ 0 ∧ sent.protocolFetch pull_all = some (result, connection)

/-- A record that fits the field names is received for the PULL_ALL, and another one. -/
def TwoRecords (pull_all : Nat) (sent : BoltConnection) : Prop :=
  ∃ first record second connection, 0 < first ∧ 0 < second ∧
    sent.protocolFetch pull_all = some (first, record) ∧ record.Fits ∧
    record.protocolFetch pull_all = some (second, connection)

/-! ## When the result is complete -/

/-- `BoltConnection_fetch` finds a record where the protocol does. -/
theorem fetch_record_iff {connection connection' : BoltConnection} {request : Nat} {fetched : Int}
    (hpositive : 0 < fetched) : connection.fetch request = some (fetched, connection') ↔
      connection.protocolFetch request = some (fetched, connection') := by
  rw [BoltConnection.fetch_eq]
  constructor
  · intro h
    obtain ⟨⟨result, connection1⟩, hfetch, hreported⟩ := Option.map_eq_some_iff.mp h
    rcases BoltConnection.reported_cases result connection1 with
      ⟨-, heq⟩ | ⟨-, -, heq⟩ | ⟨status, -, -, heq⟩ <;> dsimp only at hreported <;> rw [heq] at hreported
    · rw [hfetch, hreported]
    · cases hreported
      exact absurd hpositive (by decide)
    · have hresult := congrArg Prod.fst hreported
      dsimp only at hresult
      rw [← hresult] at hpositive
      split_ifs at hpositive <;> exact absurd hpositive (by decide)
  · intro h
    rw [h]
    rcases BoltConnection.reported_cases fetched connection' with
      ⟨-, heq⟩ | ⟨hzero, -⟩ | ⟨status, hzero, -⟩
    · exact congrArg some heq
    · rw [hzero] at hpositive
      exact absurd hpositive (by decide)
    · rw [hzero] at hpositive
      exact absurd hpositive (by decide)

/-- And nothing, or an error, where the protocol does. -/
theorem fetch_end_iff {connection : BoltConnection} {request : Nat} :
    (∃ fetched connection', fetched ≤ 0 ∧ connection.fetch request = some (fetched, connection')) ↔
      ∃ result connection', result ≤ 0 ∧
        connection.protocolFetch request = some (result, connection') := by
  constructor
  · rintro ⟨fetched, connection', hle, h⟩
    have hfetch := h
    rw [BoltConnection.fetch_eq] at hfetch
    obtain ⟨⟨result, connection1⟩, hprotocol, -⟩ := Option.map_eq_some_iff.mp hfetch
    refine ⟨result, connection1, not_lt.mp fun hpositive => ?_, hprotocol⟩
    have hagain := (fetch_record_iff hpositive).mpr hprotocol
    cases h.symm.trans hagain
    exact absurd hpositive (not_lt.mpr hle)
  · rintro ⟨result, connection', hle, h⟩
    obtain ⟨fetched, connection1, hreported⟩ :
        ∃ fetched connection1, BoltConnection.reported result connection' = (fetched, connection1) :=
      ⟨_, _, rfl⟩
    have hfetch : connection.fetch request = some (fetched, connection1) := by
      rw [BoltConnection.fetch_eq, h]
      exact congrArg some hreported
    refine ⟨fetched, connection1, not_lt.mp fun hpositive => ?_, hfetch⟩
    cases h.symm.trans ((fetch_record_iff hpositive).mp hfetch)
    exact absurd hpositive (not_lt.mpr hle)

/-- The loop ends with an error when it has found no record, or a second one. -/
theorem retrieveResponse_error_iff (pull_all : Nat) (sent : BoltConnection) :
    (∃ status response, status ≠ BOLT_SUCCESS ∧
      retrieveResponse pull_all sent = some (status, response)) ↔
      NoRecord pull_all sent ∨ TwoRecords pull_all sent := by
  have herror : BOLT_ROUTING_UNEXPECTED_DISCOVERY_RESPONSE ≠ BOLT_SUCCESS := by decide
  constructor
  · rintro ⟨status, response, hstatus, h⟩
    obtain ⟨⟨first, record⟩, hfirst, h⟩ := Option.bind_eq_some_iff.mp h
    dsimp only at h
    split_ifs at h with hpositive
    · obtain ⟨value, hvalue, h⟩ := Option.bind_eq_some_iff.mp h
      obtain ⟨⟨second, ended⟩, hsecond, h⟩ := Option.map_eq_some_iff.mp h
      dsimp only at h
      split_ifs at h with hpositive'
      · refine .inr ⟨first, record, second, ended, hpositive, hpositive', ?_, ?_, ?_⟩
        · exact (fetch_record_iff hpositive).mp hfirst
        · exact record.response_isSome_iff.mp (Option.isSome_iff_exists.mpr ⟨value, hvalue⟩)
        · exact (fetch_record_iff hpositive').mp hsecond
      · cases h
        exact absurd rfl hstatus
    · exact .inl (fetch_end_iff.mp ⟨first, record, not_lt.mp hpositive, hfirst⟩)
  · rintro (hnone | ⟨first, record, second, ended, hpositive, hpositive', hfirst, hfits, hsecond⟩)
    · obtain ⟨fetched, connection, hle, hfetch⟩ := fetch_end_iff.mpr hnone
      refine ⟨_, none, herror, ?_⟩
      simp only [retrieveResponse, hfetch, Option.bind_some, gt_iff_lt, not_lt.mpr hle, if_false]
    · obtain ⟨value, hvalue⟩ := Option.isSome_iff_exists.mp (record.response_isSome_iff.mpr hfits)
      refine ⟨_, some value, herror, ?_⟩
      simp only [retrieveResponse, (fetch_record_iff hpositive).mpr hfirst, Option.bind_some,
        gt_iff_lt, hpositive, if_true, hvalue, (fetch_record_iff hpositive').mpr hsecond,
        Option.map_some, hpositive']

theorem discover_error_iff (routing_context : Option BoltValue) (initialised : Int × BoltConnection) :
    (∃ status response, status ≠ BOLT_SUCCESS ∧
      discover routing_context initialised = some (status, response)) ↔
      Unsent routing_context initialised ∨
        ∃ pull_all sent, sendProcedure routing_context initialised =
          some (BOLT_SUCCESS, pull_all, sent) ∧
          (NoRecord pull_all sent ∨ TwoRecords pull_all sent) := by
  constructor
  · rintro ⟨status, response, hstatus, h⟩
    obtain ⟨⟨status1, pull_all, sent⟩, hsent, h⟩ := Option.bind_eq_some_iff.mp h
    dsimp only at h
    split_ifs at h with hsuccess
    · subst hsuccess
      exact .inr ⟨pull_all, sent, hsent,
        (retrieveResponse_error_iff pull_all sent).mp ⟨status, response, hstatus, h⟩⟩
    · exact .inl ⟨status1, pull_all, sent, hsuccess, hsent⟩
  · rintro (⟨status, pull_all, connection, hstatus, hsent⟩ | ⟨pull_all, sent, hsent, h⟩)
    · refine ⟨status, none, hstatus, ?_⟩
      simp only [discover, hsent, Option.bind_some, hstatus, if_false]
    · obtain ⟨status, response, hstatus, hretrieve⟩ := (retrieveResponse_error_iff pull_all sent).mpr h
      refine ⟨status, response, hstatus, ?_⟩
      simp only [discover, hsent, Option.bind_some, if_true, hretrieve]

/-- The table is left alone when there is no response. -/
theorem updateFrom_error {routing_context : Option BoltValue} {initialised : Int × BoltConnection}
    {status : Int} {response : Option BoltValue} (hstatus : status ≠ BOLT_SUCCESS)
    (h : discover routing_context initialised = some (status, response)) (now : Int)
    (table : RoutingTable) :
    updateFrom routing_context initialised now table = some (status, table) := by
  simp only [updateFrom, h, Option.bind_some, hstatus, if_false]

/-- When the call succeeds, the table of the pool is what an announcement makes it. -/
theorem updateFrom_success {routing_context : Option BoltValue} {initialised : Int × BoltConnection}
    {now : Int} {pool : BoltRoutingPool} {table' : RoutingTable}
    (h : updateFrom routing_context initialised now pool.routing_table = some (BOLT_SUCCESS, table')) :
    ∃ announcement, pool.updateRoutingTable now (some announcement) =
      (BOLT_SUCCESS, { pool with routing_table := table' }) := by
  obtain ⟨⟨status, response⟩, -, h⟩ := Option.bind_eq_some_iff.mp h
  dsimp only at h
  split_ifs at h with hstatus
  · obtain ⟨value, -, hupdate⟩ := Option.bind_eq_some_iff.mp h
    obtain ⟨ttl, servers, -, -, rfl⟩ := update_success.mp hupdate
    exact ⟨_, rfl⟩
  · cases h
    exact absurd rfl hstatus

/-- A routing table comes from a complete result only, if the result is complete, or what is
received for the PULL_ALL begins with no record or with two.  The summary behind a single record,
and what became of the RUN, are not looked at. -/
theorem discovers_iff (routing_context : Option BoltValue) (initialised : Int × BoltConnection)
    (now : Int) (table : RoutingTable) :
    Discovers routing_context initialised now table ↔
      CompleteResult routing_context initialised ∨ Unsent routing_context initialised ∨
        ∃ pull_all sent, sendProcedure routing_context initialised =
          some (BOLT_SUCCESS, pull_all, sent) ∧
          (NoRecord pull_all sent ∨ TwoRecords pull_all sent) := by
  rw [← discover_error_iff]
  constructor
  · rintro ⟨hcalled, -, hotherwise⟩
    by_cases hcomplete : CompleteResult routing_context initialised
    · exact .inl hcomplete
    · obtain ⟨status, -, h⟩ := hotherwise hcomplete
      obtain ⟨⟨status', response⟩, hdiscover, -⟩ := Option.bind_eq_some_iff.mp h
      refine .inr ⟨status', response, ?_, hdiscover⟩
      rintro rfl
      exact hcomplete (hcalled response hdiscover)
  · rintro (hcomplete | ⟨status, response, hstatus, hdiscover⟩)
    · exact ⟨fun _ _ => hcomplete, fun _ _ => hcomplete, fun hnot => absurd hcomplete hnot⟩
    · have hupdate := updateFrom_error hstatus hdiscover now table
      refine ⟨fun response' h => ?_, fun table' h => ?_, fun _ => ⟨status, hstatus, hupdate⟩⟩
      · cases hdiscover.symm.trans h
        exact absurd rfl hstatus
      · cases hupdate.symm.trans h
        exact absurd rfl hstatus

/-- The answers to INIT, to RUN with the field names `ttl` and `servers`, and to PULL_ALL: one
record, and a FAILURE. -/
def failingAnswers : List (List UInt8) :=
  [[0xB1, 0x70, 0xA0],
    [0xB1, 0x70, 0xA1, 0x86] ++ FIELDS_KEY ++ [0x92, 0x83] ++ TTL_KEY ++ [0x87] ++ SERVERS_KEY,
    [0xB1, 0x71, 0x92, 0x01, 0x90],
    [0xB1, 0x7F, 0xA0]]

/-- The connection when INIT has succeeded. -/
def failingConnection : Option (Int × BoltConnection) :=
  (BoltConnection.greeted failingAnswers).init (ascii "agent") (.dictionary [])

/-- The fetches that a complete result is read with. -/
def fetches (initialised : Int × BoltConnection) : Option (List Int × Option Int16) :=
  (sendProcedure none initialised).bind fun (status, pull_all, sent) =>
    (sent.protocolFetch (pull_all - 1)).bind fun (run, ran) =>
      (ran.protocolFetch pull_all).bind fun (first, record) =>
        (record.protocolFetch pull_all).map fun (second, ended) =>
          ([status, run, first, second], ended.lastCode)

theorem CompleteResult.fetches {initialised : Int × BoltConnection}
    (h : CompleteResult none initialised) :
    fetches initialised = some ([BOLT_SUCCESS, FETCH_SUMMARY, FETCH_RECORD, FETCH_SUMMARY],
      some BOLT_V1_SUCCESS) := by
  obtain ⟨pull_all, sent, hsent, ran, record, ended, names, values, hrun, -, hrecord, -, -, -, hended,
    hcode⟩ := h
  simp only [RoutingTable.fetches, hsent, Option.bind_some, hrun, hrecord, hended, Option.map_some,
    hcode]

/-- The FAILURE behind the record is not noticed. -/
theorem failingAnswers_update : ∃ connection, failingConnection = some (BOLT_SUCCESS, connection) ∧
    ¬Discovers none (BOLT_SUCCESS, connection) 0 create := by
  have hrun : (failingConnection.bind fun (status, connection) =>
      (updateFrom none (status, connection) 0 create).bind fun (updated, _) =>
        (fetches (status, connection)).map fun fetched => (status, updated, fetched)) =
      some (BOLT_SUCCESS, BOLT_SUCCESS,
        [BOLT_SUCCESS, FETCH_SUMMARY, FETCH_RECORD, FETCH_SUMMARY], some BOLT_V1_FAILURE) := by
    decide +kernel
  obtain ⟨⟨status, connection⟩, hinit, hrun⟩ := Option.bind_eq_some_iff.mp hrun
  obtain ⟨⟨updated, table'⟩, hupdate, hrun⟩ := Option.bind_eq_some_iff.mp hrun
  obtain ⟨fetched, hfetches, hrun⟩ := Option.map_eq_some_iff.mp hrun
  simp only [Prod.mk.injEq] at hrun
  obtain ⟨rfl, rfl, hfetched⟩ := hrun
  refine ⟨connection, hinit, fun h => ?_⟩
  have hcode := congrArg Prod.snd (Option.some.inj (hfetches.symm.trans (h.succeeds table' hupdate).fetches))
  rw [hfetched] at hcode
  exact absurd hcode (by decide)

end RoutingTable

end Seabolt
