import Seabolt.Metadata
import Seabolt.Recycling

/-!
# Failure data

What the protocol state keeps of the failures that the server reports.  The
metadata of a FAILURE puts its Strings under `code` and `message` into the
failure data, in any order; other summaries leave the failure data alone, and
loading a RESET clears it.

A property of the protocol state that loading and fetching keep is one of every
connection, whatever is done with it (`Settled`).  That the failure data have a
code and a message is such a property.
-/

namespace Seabolt

open BoltValue

/-! ## Properties of the protocol state -/

/-- A property of the protocol state that new protocols have and that requests
and fetches keep. -/
structure Settled (P : BoltProtocolState → Prop) : Prop where
  fresh : ∀ version, P (BoltProtocol.create version).state
  loaded : ∀ session session', P session.2 → SameApartFromTx session session' → P session'.2
  handled : ∀ version request status session session', P session.2 →
    Handles version request session status session' → P session'.2
  fetched : ∀ version request result session session', P session.2 →
    ProtocolVersion.fetch version session request = some (result, session') → P session'.2

namespace BoltConnection

/-- The protocol state of an open connection has the property. -/
def Bears (P : BoltProtocolState → Prop) (connection : BoltConnection) : Prop :=
  ∀ protocol, connection.protocol = some protocol → P protocol.state

variable {P : BoltProtocolState → Prop} {connection connection' : BoltConnection} {result : Int}

theorem bears_some {version : ProtocolVersion} {state : BoltProtocolState} (h : P state)
    (hprotocol : connection.protocol = some ⟨version, state⟩) : Bears P connection := by
  intro protocol hsome
  rw [hprotocol] at hsome
  rwa [← Option.some.inj hsome]

theorem bears_none (h : connection.protocol = none) : Bears P connection := by
  intro protocol hsome
  rw [h] at hsome
  cases hsome

theorem Bears.of_same (h : Bears P connection)
    (hprotocol : connection'.protocol = connection.protocol) : Bears P connection' := by
  intro protocol hsome
  exact h protocol (hprotocol.symm.trans hsome)

theorem Bears.setStatus (h : Bears P connection) (state : BoltConnectionState) (error : Int) :
    Bears P (connection.setStatus state error) :=
  h.of_same (setStatus_protocol _ _ _)

theorem Bears.tryStatus (h : Bears P connection) (status : Int) :
    Bears P (tryStatus status connection).2 :=
  h.of_same (tryStatus_kept status connection).1

theorem Bears.send (h : Bears P connection) : Bears P connection.send.2 := by
  apply h.of_same
  rw [send_same]

theorem Bears.reported (h : Bears P connection) (result : Int) :
    Bears P (reported result connection).2 := by
  rcases reported_cases result connection with ⟨-, heq⟩ | ⟨-, -, heq⟩ | ⟨status, -, -, heq⟩
  · rwa [heq]
  · rwa [heq]
  · rw [heq]
    exact h.setStatus _ _

theorem Bears.close (h : Bears P connection) (hclose : connection.close = some connection') :
    Bears P connection' := by
  obtain ⟨closed, hclosed, rfl⟩ := Option.map_eq_some_iff.mp hclose
  split_ifs at hclosed
  · have hnone : closed.protocol = none := protocol_of_close_ hclosed
    exact bears_none hnone
  · obtain rfl := Option.some.inj hclosed
    exact h.of_same rfl

section Settled

variable (hP : Settled P)

include hP

theorem Bears.loadMessage (h : Bears P connection) {message : BoltMessage}
    (hload : connection.loadMessage message = some (result, connection')) :
    Bears P connection' := by
  unfold BoltConnection.loadMessage at hload
  split at hload
  · cases hload
  · next protocol hprotocol =>
    obtain ⟨⟨status, session'⟩, hloaded, hresult⟩ := Option.map_eq_some_iff.mp hload
    obtain ⟨-, rfl⟩ := Prod.mk.inj hresult
    exact bears_some (hP.loaded _ _ (h protocol hprotocol) (Seabolt.loadMessage_same hloaded)) rfl

theorem Bears.request (h : Bears P connection) {request : Request}
    (hrequest : connection.request request = some (result, connection')) :
    Bears P connection' := by
  obtain ⟨version, state, status, session', hprotocol, hhandles, htry⟩ := request_cases hrequest
  have hhandled := hP.handled _ _ _ _ _ (h _ hprotocol) hhandles
  have htried := Bears.tryStatus (bears_some hhandled
    (show BoltConnection.protocol { session'.1 with protocol := some ⟨version, session'.2⟩ } = _
      from rfl)) status
  rwa [← htry] at htried

theorem Bears.callProtocol (h : Bears P connection) {request : Request}
    (hcall : connection.callProtocol request = some connection') : Bears P connection' := by
  rcases hprotocol : connection.protocol with _ | protocol
  · simp only [BoltConnection.callProtocol, hprotocol] at hcall
    cases hcall
  · simp only [BoltConnection.callProtocol, hprotocol] at hcall
    obtain ⟨⟨status, session'⟩, hrequest, rfl⟩ := Option.map_eq_some_iff.mp hcall
    exact bears_some (hP.handled _ _ _ _ _ (h _ hprotocol)
      (ProtocolVersion.request_handles hrequest)) rfl

theorem Bears.protocolFetch (h : Bears P connection) {request : Nat}
    (hfetch : connection.protocolFetch request = some (result, connection')) :
    Bears P connection' := by
  rcases hprotocol : connection.protocol with _ | ⟨version, state⟩
  · simp only [BoltConnection.protocolFetch, hprotocol] at hfetch
    cases hfetch
  · obtain ⟨state', hprotocol', hsession⟩ := protocolFetch_session hprotocol hfetch
    exact bears_some (hP.fetched _ _ _ _ _ (h _ hprotocol) hsession) hprotocol'

theorem Bears.fetchSummary (h : Bears P connection) {request : Nat}
    (hfetch : connection.fetchSummary request = some (result, connection')) :
    Bears P connection' := by
  obtain ⟨results, last, final, hreads, rfl, -⟩ := fetchSummary_reads hfetch
  have hfinal : Bears P final := Runs.keeps_of_run
    (fun _ _ _ _ hbears hstep => hbears.protocolFetch hP hstep) _ h hreads.run
  exact hfinal.reported last

theorem bears_negotiated {protocol_version : Int}
    (h : connection.negotiated protocol_version = some (result, connection')) :
    Bears P connection' := by
  unfold negotiated at h
  dsimp only at h
  split at h
  · next protocol hprotocol =>
    obtain ⟨-, rfl⟩ := Prod.mk.inj (Option.some.inj h)
    obtain ⟨version, rfl⟩ := protocolOf_eq hprotocol
    intro created hcreated
    obtain rfl := Option.some.inj hcreated
    exact hP.fresh version
  · obtain ⟨closed, hclose, hresult⟩ := Option.map_eq_some_iff.mp h
    obtain ⟨-, rfl⟩ := Prod.mk.inj hresult
    exact bears_none (protocol_of_close_ hclose)

theorem Bears.handshakeB {v1 v2 v3 v4 : Nat} (hbears : Bears P connection)
    (h : connection.handshakeB v1 v2 v3 v4 = some (result, connection')) : Bears P connection' := by
  unfold BoltConnection.handshakeB at h
  dsimp only at h
  split_ifs at h
  · obtain ⟨-, rfl⟩ := Prod.mk.inj (Option.some.inj h)
    refine Bears.setStatus ?_ _ _
    exact hbears.of_same rfl
  · obtain ⟨-, rfl⟩ := Prod.mk.inj (Option.some.inj h)
    refine Bears.setStatus ?_ _ _
    exact hbears.of_same rfl
  · exact bears_negotiated hP h

theorem Bears.openDisconnected {target : Target} (hbears : Bears P connection)
    (h : connection.openDisconnected target = some (result, connection')) :
    Bears P connection' := by
  unfold BoltConnection.openDisconnected at h
  dsimp only at h
  split_ifs at h
  · obtain ⟨⟨status, connection1⟩, hhandshake, hresult⟩ := Option.map_eq_some_iff.mp h
    dsimp only at hresult
    have hopened : Bears P connection1 := by
      refine Bears.handshakeB hP ?_ hhandshake
      exact hbears.of_same rfl
    have htried := hopened.tryStatus status
    split_ifs at hresult
    · obtain ⟨-, rfl⟩ := Prod.mk.inj hresult
      exact htried
    all_goals
      obtain ⟨-, rfl⟩ := Prod.mk.inj hresult
      exact htried.setStatus _ _
  · obtain ⟨-, rfl⟩ := Prod.mk.inj (Option.some.inj h)
    refine Bears.setStatus ?_ _ _
    exact hbears.of_same rfl

theorem Bears.openAt {target : Target} (hbears : Bears P connection)
    (h : connection.openAt target = some (result, connection')) : Bears P connection' := by
  unfold BoltConnection.openAt at h
  split_ifs at h
  · obtain ⟨closed, hclose, hopen⟩ := Option.bind_eq_some_iff.mp h
    exact (hbears.close hclose).openDisconnected hP hopen
  · exact hbears.openDisconnected hP h

theorem Bears.init {user_agent : List UInt8} {auth_token : BoltValue} (hbears : Bears P connection)
    (h : connection.init user_agent auth_token = some (result, connection')) :
    Bears P connection' := by
  unfold BoltConnection.init at h
  split_ifs at h
  · split at h
    · cases h
    obtain ⟨⟨code, final⟩, hinit, hresult⟩ := Option.map_eq_some_iff.mp h
    have hfinal : Bears P final := by
      obtain ⟨message, -, hinit⟩ := Option.bind_eq_some_iff.mp hinit
      rcases Outcome.TRY_cases hinit with ⟨-, hload⟩ | ⟨loaded, hload, hinit⟩
      · exact hbears.loadMessage hP hload
      have hsent := (hbears.loadMessage hP hload).send
      obtain ⟨request, -, hinit⟩ := Option.bind_eq_some_iff.mp hinit
      rcases Outcome.TRY_cases hinit with ⟨-, hsend⟩ | ⟨sent, hsend, hinit⟩
      · rwa [Option.some.inj hsend] at hsent
      rw [Option.some.inj hsend] at hsent
      rcases Outcome.TRY_cases hinit with ⟨-, hfetch⟩ | ⟨fetched, hfetch, hinit⟩
      · exact hsent.fetchSummary hP hfetch
      obtain ⟨protocol, -, hresult⟩ := Option.map_eq_some_iff.mp hinit
      obtain ⟨-, rfl⟩ := Prod.mk.inj hresult
      exact hsent.fetchSummary hP hfetch
    dsimp only at hresult
    unfold initialised at hresult
    split_ifs at hresult
    all_goals
      obtain ⟨-, rfl⟩ := Prod.mk.inj hresult
      exact hfinal.setStatus _ _
  · obtain ⟨-, rfl⟩ := Prod.mk.inj (Option.some.inj h)
    exact hbears.setStatus _ _

theorem Bears.reset (hbears : Bears P connection)
    (h : connection.reset = some (result, connection')) : Bears P connection' := by
  obtain ⟨status, loaded, hload, hcase⟩ := reset_cases h
  have hloaded : Bears P loaded := hbears.request hP hload
  rcases hcase with ⟨-, -, rfl⟩ | ⟨-, request_id, records, -, ⟨-, -, rfl⟩ | ⟨hfetch, -⟩⟩
  · exact hloaded
  · exact hloaded.send
  · exact hloaded.send.fetchSummary hP hfetch

theorem Bears.perform (h : Bears P connection) {operation : Operation}
    (hperform : perform operation connection = some (result, connection')) :
    Bears P connection' := by
  cases operation with
  | openAt target => exact h.openAt hP hperform
  | init user_agent auth_token => exact h.init hP hperform
  | request request => exact h.request hP hperform
  | send =>
    simp only [BoltConnection.perform] at hperform
    split_ifs at hperform
    have hsent := h.send
    rwa [Option.some.inj hperform] at hsent
  | fetch request =>
    simp only [BoltConnection.perform, fetch_eq] at hperform
    obtain ⟨⟨fetched, connection1⟩, hfetch, hresult⟩ := Option.map_eq_some_iff.mp hperform
    have hreported := (h.protocolFetch hP hfetch).reported fetched
    dsimp only at hresult
    rwa [hresult] at hreported
  | fetchSummary request => exact h.fetchSummary hP hperform
  | reset => exact h.reset hP hperform
  | close =>
    obtain ⟨closed, hclose, hresult⟩ := Option.map_eq_some_iff.mp hperform
    obtain ⟨-, rfl⟩ := Prod.mk.inj hresult
    exact h.close hclose

end Settled

end BoltConnection

/-! ## The Strings of the metadata -/

/-- The last String that is under a key. -/
def lastString (key : List UInt8) : List (BoltValue × BoltValue) → Option (List UInt8)
  | [] => none
  | entry :: entries =>
    (lastString key entries).or (if entry.1.stringEquals key then entry.2.asString else none)

/-- The failure data with a code and a message. -/
def failureData (code message : BoltValue) : BoltValue :=
  dictionary [(string FAILURE_CODE_KEY, code), (string FAILURE_MESSAGE_KEY, message)]

/-- What the Strings of the metadata make of a value that is in the failure
data. -/
def overwritten (found : Option (List UInt8)) (value : BoltValue) : BoltValue :=
  found.elim value string

theorem overwritten_or (later earlier : Option (List UInt8)) (value : BoltValue) :
    overwritten (later.or earlier) value = overwritten later (overwritten earlier value) := by
  cases later <;> rfl

/-- The failure data after a FAILURE with these entries in its metadata. -/
structure Gathers (entries : List (BoltValue × BoltValue)) (failure_data failure_data' : Option BoltValue) :
    Prop where
  ensured : ∀ code message, ensureFailureData failure_data = failureData code message →
    ensureFailureData failure_data' =
      failureData (overwritten (lastString FAILURE_CODE_KEY entries) code)
        (overwritten (lastString FAILURE_MESSAGE_KEY entries) message)
  isSome : failure_data'.isSome = (failure_data.isSome ||
    (lastString FAILURE_CODE_KEY entries).isSome || (lastString FAILURE_MESSAGE_KEY entries).isSome)

theorem Gathers.same {entries : List (BoltValue × BoltValue)} (failure_data : Option BoltValue)
    (hcode : lastString FAILURE_CODE_KEY entries = none)
    (hmessage : lastString FAILURE_MESSAGE_KEY entries = none) :
    Gathers entries failure_data failure_data := by
  refine ⟨fun code message h => ?_, ?_⟩
  · rw [hcode, hmessage]
    exact h
  · rw [hcode, hmessage]
    simp

theorem Gathers.cons {entry : BoltValue × BoltValue} {entries : List (BoltValue × BoltValue)}
    {data1 data2 data3 : Option BoltValue} (h : Gathers [entry] data1 data2)
    (h' : Gathers entries data2 data3) : Gathers (entry :: entries) data1 data3 := by
  have hsplit : ∀ key, lastString key (entry :: entries) =
      (lastString key entries).or (lastString key [entry]) := fun _ => rfl
  refine ⟨fun code message hdata => ?_, ?_⟩
  · rw [h'.ensured _ _ (h.ensured code message hdata), hsplit, hsplit, overwritten_or,
      overwritten_or]
  · rw [h'.isSome, h.isSome, hsplit, hsplit, Option.isSome_or, Option.isSome_or]
    ac_rfl

theorem lastString_other {key other : List UInt8} (hkey : 0 ∉ key) (hother : 0 ∉ other)
    (hne : other ≠ key) {value : BoltValue} {content : BoltValue}
    (h : value.stringEquals other = true) : lastString key [(value, content)] = none := by
  have hnot : value.stringEquals key = false := by
    rw [Bool.eq_false_iff]
    intro hequal
    rw [(stringEquals_iff hother).mp h, stringEquals_iff hkey, string.injEq] at hequal
    exact hne hequal
  simp [lastString, hnot]

/-- The value of a metadata entry under `code` or `message`. -/
theorem gathers_string {failure_data : Option BoltValue} {key data : List UInt8} {index : Nat}
    (hkey : index = 0 ∧ key = FAILURE_CODE_KEY ∨ index = 1 ∧ key = FAILURE_MESSAGE_KEY) :
    Gathers [(string key, string data)] failure_data
      (some (setDictionaryValue (ensureFailureData failure_data) index (string data))) := by
  have hself : ∀ key : List UInt8, 0 ∉ key → lastString key [(string key, string data)] = some data := by
    intro key hkey
    simp [lastString, (stringEquals_iff hkey).mpr rfl, BoltValue.asString]
  have hcode := hself FAILURE_CODE_KEY (by decide)
  have hmessage := hself FAILURE_MESSAGE_KEY (by decide)
  rcases hkey with ⟨rfl, rfl⟩ | ⟨rfl, rfl⟩
  · have hother : lastString FAILURE_MESSAGE_KEY [(string FAILURE_CODE_KEY, string data)] = none :=
      lastString_other (by decide) (by decide) (by decide) ((stringEquals_iff (by decide)).mpr rfl)
    refine ⟨fun code message h => ?_, by simp [hcode]⟩
    rw [h, hcode, hother]
    rfl
  · have hother : lastString FAILURE_CODE_KEY [(string FAILURE_MESSAGE_KEY, string data)] = none :=
      lastString_other (by decide) (by decide) (by decide) ((stringEquals_iff (by decide)).mpr rfl)
    refine ⟨fun code message h => ?_, by simp [hmessage]⟩
    rw [h, hmessage, hother]
    rfl

/-- What a summary with these entries in its metadata does to the failure
data. -/
structure Collects (data_type : Int16) (entries : List (BoltValue × BoltValue))
    (failure_data failure_data' : Option BoltValue) : Prop where
  failure : data_type = BOLT_V1_FAILURE → Gathers entries failure_data failure_data'
  other : data_type ≠ BOLT_V1_FAILURE → failure_data' = failure_data

theorem Extracts.collects {connectionId : Bool} {id : List UInt8} {data_type : Int16}
    {key value : BoltValue} {summary : SummaryData} {garbage : List UInt8} {state : Extraction}
    (h : Extracts connectionId id data_type summary garbage key value state) :
    Collects data_type [(key, value)] summary.failure_data state.1.failure_data := by
  have hother : lastString FAILURE_CODE_KEY [(key, value)] = none →
      lastString FAILURE_MESSAGE_KEY [(key, value)] = none →
      state.1.failure_data = summary.failure_data →
      Collects data_type [(key, value)] summary.failure_data state.1.failure_data := by
    intro hcode hmessage hsame
    refine ⟨fun _ => ?_, fun _ => hsame⟩
    rw [hsame]
    exact .same _ hcode hmessage
  have hself : ∀ reserved : List UInt8, 0 ∉ reserved → (string reserved).stringEquals reserved = true :=
    fun _ hnul => (stringEquals_iff hnul).mpr rfl
  have hnone : ∀ key other, value.asString = none → lastString key [(other, value)] = none := by
    intro key other hvalue
    simp [lastString, hvalue]
  cases h with
  | bookmark data =>
    exact hother (lastString_other (by decide) (by decide) (by decide) (hself _ (by decide)))
      (lastString_other (by decide) (by decide) (by decide) (hself _ (by decide))) rfl
  | fields hnames => exact hother (hnone _ _ rfl) (hnone _ _ rfl) rfl
  | server data =>
    exact hother (lastString_other (by decide) (by decide) (by decide) (hself _ (by decide)))
      (lastString_other (by decide) (by decide) (by decide) (hself _ (by decide))) rfl
  | connectionId hversion data =>
    refine hother (lastString_other (by decide) (by decide) (by decide) (hself _ (by decide)))
      (lastString_other (by decide) (by decide) (by decide) (hself _ (by decide))) ?_
    unfold setConnectionId
    dsimp only
    split_ifs <;> rfl
  | code htype data =>
    exact ⟨fun _ => gathers_string (.inl ⟨rfl, rfl⟩), fun hne => absurd htype hne⟩
  | message htype data =>
    exact ⟨fun _ => gathers_string (.inr ⟨rfl, rfl⟩), fun hne => absurd htype hne⟩
  | dropped hreserved hvalue =>
    unfold Mistyped at hvalue
    split_ifs at hvalue with hfields
    · subst hfields
      exact hother (lastString_other (by decide) (by decide) (by decide) (hself _ (by decide)))
        (lastString_other (by decide) (by decide) (by decide) (hself _ (by decide))) rfl
    · exact hother (hnone _ _ hvalue) (hnone _ _ hvalue) rfl
  | metadata hkey happend =>
    have hsame : state.1.failure_data = summary.failure_data := by
      obtain ⟨dest_key, -, h⟩ := Option.bind_eq_some_iff.mp happend
      obtain ⟨dest_value, -, h⟩ := Option.bind_eq_some_iff.mp h
      rw [← Option.some.inj h]
    refine ⟨fun htype => ?_, fun _ => hsame⟩
    rw [hsame]
    subst htype
    have hcode := stringEquals_of_not_reserved hkey (code_mem_reservedKeys rfl)
    have hmessage := stringEquals_of_not_reserved hkey (message_mem_reservedKeys rfl)
    refine .same _ ?_ ?_
    · simp [lastString, hcode]
    · simp [lastString, hmessage]

theorem Collects.nil (data_type : Int16) (failure_data : Option BoltValue) :
    Collects data_type [] failure_data failure_data :=
  ⟨fun _ => .same _ rfl rfl, fun _ => rfl⟩

/-- The loop over the metadata of a summary. -/
theorem extractEntries_collects {connectionId : Bool} {id : List UInt8} {data_type : Int16}
    (entries : List (BoltValue × BoltValue)) :
    ∀ {state state' : Extraction}, extractEntries connectionId id data_type entries state = some state' →
      Collects data_type entries state.1.failure_data state'.1.failure_data := by
  induction entries with
  | nil =>
    intro state state' h
    obtain rfl := Option.some.inj h
    exact .nil _ _
  | cons entry entries ih =>
    intro state state' h
    obtain ⟨state1, hentry, hrest⟩ := Option.bind_eq_some_iff.mp h
    have hfirst := (extractEntry_cases hentry).collects
    have hthen := ih hrest
    exact ⟨fun htype => (hfirst.failure htype).cons (hthen.failure htype),
      fun htype => (hthen.other htype).trans (hfirst.other htype)⟩

/-- The entries of the metadata that a message has. -/
def metadataOf : BoltValue → List (BoltValue × BoltValue)
  | list (dictionary entries :: _) => entries
  | _ => []

/-- Whether the version takes the `connection_id` entry out of the metadata. -/
def ProtocolVersion.knowsConnectionId : ProtocolVersion → Bool
  | .v1 => false
  | .v2 => false
  | .v3 => true

theorem ProtocolVersion.extractMetadata_eq (version : ProtocolVersion) :
    version.fetchFunctions.extractMetadata = extractMetadata version.knowsConnectionId := by
  cases version <;> rfl

/-- The summary data that a summary begins with: the metadata of the one before
it are gone. -/
def SummaryData.cleared (summary : SummaryData) : SummaryData :=
  { summary with result_metadata := dictionary [] }

/-- Reading a summary is a loop over the entries of its metadata. -/
theorem readSummary_extracts {version : ProtocolVersion} {session session' : Session}
    (hsummary : session.2.data_type ≠ BOLT_V1_RECORD)
    (h : readSummary version.fetchFunctions session = some session') :
    extractEntries version.knowsConnectionId session.1.id session.2.data_type
        (metadataOf session.2.data) (session.2.toSummaryData.cleared, session.1.garbage) =
      some (session'.2.toSummaryData, session'.1.garbage) := by
  obtain ⟨connection, state⟩ := session
  unfold readSummary at h
  dsimp only at h hsummary ⊢
  rw [if_pos hsummary, formatAsDictionary_zero, version.extractMetadata_eq] at h
  split_ifs at h with hsize
  · split at h
    · next metadata fields hdata =>
      obtain ⟨⟨summary, garbage⟩, hextract, rfl⟩ := Option.map_eq_some_iff.mp h
      rw [hdata]
      cases metadata with
      | dictionary entries => exact hextract
      | _ =>
        obtain ⟨rfl, rfl⟩ := Prod.mk.inj (Option.some.inj hextract)
        rfl
    · cases h
  · obtain rfl := Option.some.inj h
    have hnone : metadataOf state.data = [] := by
      unfold metadataOf
      split
      · next entries fields hdata =>
        rw [hdata] at hsize
        simp [BoltValue.size] at hsize
      · rfl
    rw [hnone]
    rfl

/-- What is read for a record leaves the session as it is. -/
theorem readSummary_record {functions : FetchFunctions} {session session' : Session}
    (hrecord : session.2.data_type = BOLT_V1_RECORD)
    (h : readSummary functions session = some session') : session' = session := by
  obtain ⟨connection, state⟩ := session
  unfold readSummary at h
  dsimp only at h hrecord
  rw [if_neg (not_not.mpr hrecord)] at h
  exact (Option.some.inj h).symm

/-- Reading a summary collects its metadata. -/
theorem readSummary_collects {version : ProtocolVersion} {session session' : Session}
    (h : readSummary version.fetchFunctions session = some session') :
    Collects session.2.data_type (metadataOf session.2.data) session.2.failure_data
      session'.2.failure_data := by
  by_cases hrecord : session.2.data_type = BOLT_V1_RECORD
  · rw [readSummary_record hrecord h]
    refine ⟨fun htype => ?_, fun _ => rfl⟩
    rw [hrecord] at htype
    exact absurd htype (by decide)
  · exact extractEntries_collects _ (readSummary_extracts hrecord h)

/-! ## Fetching -/

/-- Nothing is extracted while the chunks of a message are read. -/
theorem readChunks_summaryData (fuel : Nat) :
    ∀ {chunk_size : Nat} {session session' : Session} {status : Int},
      readChunks fuel chunk_size session = some (status, session') →
      session'.2.toSummaryData = session.2.toSummaryData := by
  induction fuel with
  | zero =>
    intro chunk_size session session' status h
    cases h
  | succ fuel ih =>
    intro chunk_size session session' status h
    obtain ⟨connection, state⟩ := session
    unfold readChunks at h
    dsimp only at h
    split_ifs at h
    · obtain ⟨-, rfl⟩ := Prod.mk.inj (Option.some.inj h)
      rfl
    · obtain ⟨-, rfl⟩ := Prod.mk.inj (Option.some.inj h)
      rfl
    · exact (ih h).trans rfl
    · obtain ⟨-, rfl⟩ := Prod.mk.inj (Option.some.inj h)
      rfl

theorem reassemble_summaryData {session session' : Session} {status : Int}
    (h : reassemble session = some (status, session')) :
    session'.2.toSummaryData = session.2.toSummaryData := by
  obtain ⟨connection, state⟩ := session
  unfold reassemble at h
  dsimp only at h
  split_ifs at h
  · obtain ⟨-, rfl⟩ := Prod.mk.inj (Option.some.inj h)
    rfl
  · exact (readChunks_summaryData _ h).trans rfl

/-- A round collects the metadata of the message that it has decoded, unless it
fails. -/
theorem fetchRound_collects {version : ProtocolVersion} {request_id : Nat} {session : Session}
    {round : Round}
    (h : fetchRound version.fetchFunctions version.checkReadableStruct request_id session =
      some round) :
    (∃ status session', round = .done status session' ∧ status ≠ FETCH_SUMMARY ∧
      session'.2.failure_data = session.2.failure_data) ∨
    Collects round.outcome.2.2.data_type (metadataOf round.outcome.2.2.data)
      session.2.failure_data round.outcome.2.2.failure_data := by
  rcases hread : reassemble session with _ | ⟨status, session1⟩
  · simp only [fetchRound, hread] at h
    cases h
  · have hsummary := congrArg SummaryData.failure_data (reassemble_summaryData hread)
    obtain ⟨connection, state⟩ := session1
    simp only [fetchRound, hread, version.unload_eq] at h
    split_ifs at h with hstatus
    · obtain rfl := Option.some.inj h
      exact .inl ⟨_, _, rfl, hstatus, hsummary⟩
    · split at h
      · cases h
      · next decoded state' garbage' hdecode =>
        have hdecoded : state'.failure_data = state.failure_data := by rw [unloadMessage_same hdecode]
        split_ifs at h with hdecoding
        · obtain rfl := Option.some.inj h
          exact .inl ⟨_, _, rfl, hdecoding, hdecoded.trans hsummary⟩
        · right
          have hcollects := readSummary_collects (finishRound_outcome h)
          obtain ⟨-, hstate⟩ := readSummary_same (finishRound_outcome h)
          have htype : round.outcome.2.2.data_type = state'.data_type := by rw [hstate]
          have hdata : round.outcome.2.2.data = state'.data := by rw [hstate]
          dsimp only at hcollects
          rw [htype, hdata, ← hsummary, ← hdecoded]
          exact hcollects

variable {Q : Option BoltValue → Prop}

/-- A property of the failure data that summaries keep is kept by a fetch, which
collects the metadata of the summary that it returns. -/
theorem fetchLoop_collects (hQ : ∀ data_type entries failure_data failure_data',
      Collects data_type entries failure_data failure_data' → Q failure_data → Q failure_data')
    {version : ProtocolVersion} {request_id : Nat} (fuel : Nat) :
    ∀ {session session' : Session} {fetched : Int},
      fetchLoop version.fetchFunctions version.checkReadableStruct request_id fuel session =
        some (fetched, session') → Q session.2.failure_data →
      Q session'.2.failure_data ∧ (fetched = FETCH_SUMMARY → ∃ before, Q before ∧
        Collects session'.2.data_type (metadataOf session'.2.data) before
          session'.2.failure_data) := by
  induction fuel with
  | zero =>
    intro session session' fetched h
    cases h
  | succ fuel ih =>
    intro session session' fetched h hsession
    rcases hround : fetchRound version.fetchFunctions version.checkReadableStruct request_id session
      with _ | ⟨session1⟩ | ⟨fetched1, session1⟩
    · simp only [fetchLoop, hround] at h
      cases h
    · simp only [fetchLoop, hround] at h
      rcases fetchRound_collects hround with ⟨status, done, hdone, -, -⟩ | hcollects
      · cases hdone
      · exact ih h (hQ _ _ _ _ hcollects hsession)
    · simp only [fetchLoop, hround, Option.some.injEq, Prod.mk.injEq] at h
      obtain ⟨rfl, rfl⟩ := h
      rcases fetchRound_collects hround with ⟨status, session', hdone, hstatus, hsame⟩ | hcollects
      · obtain ⟨rfl, rfl⟩ := Round.done.inj hdone
        rw [hsame]
        exact ⟨hsession, fun hsummary => absurd hsummary hstatus⟩
      · exact ⟨hQ _ _ _ _ hcollects hsession, fun _ => ⟨_, hsession, hcollects⟩⟩

theorem ProtocolVersion.fetch_collects
    (hQ : ∀ data_type entries failure_data failure_data',
      Collects data_type entries failure_data failure_data' → Q failure_data → Q failure_data')
    {version : ProtocolVersion} {request : Nat} {session session' : Session} {fetched : Int}
    (h : version.fetch session request = some (fetched, session')) (hsession : Q session.2.failure_data) :
    Q session'.2.failure_data ∧ (fetched = FETCH_SUMMARY → ∃ before, Q before ∧
      Collects session'.2.data_type (metadataOf session'.2.data) before
        session'.2.failure_data) := by
  rw [version.fetch_eq] at h
  exact fetchLoop_collects hQ _ h hsession

/-- The failure data have a code and a message, if there are any. -/
def Explained (state : BoltProtocolState) : Prop :=
  ∃ code message, ensureFailureData state.failure_data = failureData code message

theorem Collects.explained {data_type : Int16} {entries : List (BoltValue × BoltValue)}
    {failure_data failure_data' : Option BoltValue}
    (h : Collects data_type entries failure_data failure_data')
    (hexplained : ∃ code message, ensureFailureData failure_data = failureData code message) :
    ∃ code message, ensureFailureData failure_data' = failureData code message := by
  by_cases htype : data_type = BOLT_V1_FAILURE
  · obtain ⟨code, message, hdata⟩ := hexplained
    exact ⟨_, _, (h.failure htype).ensured code message hdata⟩
  · rwa [h.other htype]

theorem settled_explained : Settled Explained where
  fresh version := by
    refine ⟨null, null, ?_⟩
    cases version with
    | v1 | v2 | v3 => rfl
  loaded session session' h hsame := by
    rw [Explained, hsame.state]
    exact h
  handled version request status session session' h hhandles := by
    cases hhandles with
    | set run_request begin_request => exact h
    | load run_request begin_request hload =>
      rename_i loaded
      have hsame : loaded.2.failure_data = session.2.failure_data := by
        rw [(loadMessages_same _ hload).state]
        rfl
      show ∃ code message, ensureFailureData (if request.isReset ∧ status = BOLT_SUCCESS then none
        else loaded.2.failure_data) = failureData code message
      split_ifs
      · exact ⟨null, null, rfl⟩
      · rw [hsame]
        exact h
  fetched version request result session session' h hfetch := by
    exact (ProtocolVersion.fetch_collects (fun _ _ _ _ => Collects.explained) hfetch h).1

namespace BoltConnection

variable {connection connection' : BoltConnection}

/-- `BoltConnection_failure`. -/
def failure (connection : BoltConnection) : Option BoltValue :=
  connection.protocol.bind fun protocol => protocol.state.failure_data

/-- The String under a key in the metadata of the last message. -/
def metadataString (key : List UInt8) (connection : BoltConnection) : Option (List UInt8) :=
  connection.protocol.bind fun protocol => lastString key (metadataOf protocol.state.data)

theorem failure_setStatus (connection : BoltConnection) (state : BoltConnectionState) (error : Int) :
    (connection.setStatus state error).failure = connection.failure := by
  rw [failure, failure, setStatus_protocol]

/-- A FAILURE that is read tells its code. -/
theorem protocolFetch_failure {request : Nat} {code : List UInt8}
    (hexplained : Bears Explained connection)
    (hfetch : connection.protocolFetch request = some (FETCH_SUMMARY, connection'))
    (hlast : connection'.lastCode = some BOLT_V1_FAILURE)
    (hcode : connection'.metadataString FAILURE_CODE_KEY = some code) :
    ∃ message, connection'.failure = some (failureData (string code) message) := by
  rcases hprotocol : connection.protocol with _ | ⟨version, state⟩
  · simp only [protocolFetch, hprotocol] at hfetch
    cases hfetch
  obtain ⟨state', hprotocol', hsession⟩ := protocolFetch_session hprotocol hfetch
  rw [lastCode, hprotocol', Option.map_some, Option.some.injEq] at hlast
  rw [metadataString, hprotocol', Option.bind_some] at hcode
  obtain ⟨before, ⟨code0, message0, hbefore⟩, hcollects⟩ :=
    (ProtocolVersion.fetch_collects (fun _ _ _ _ => Collects.explained) hsession
      (hexplained _ hprotocol)).2 rfl
  have hgathers := hcollects.failure hlast
  dsimp only at hlast hcode hgathers
  have hensured := hgathers.ensured _ _ hbefore
  have hsome := hgathers.isSome
  rw [hcode] at hensured hsome
  rw [Option.isSome_some, Bool.or_true, Bool.true_or, Option.isSome_iff_exists] at hsome
  obtain ⟨data, hdata⟩ := hsome
  rw [hdata] at hensured
  have hfailure : connection'.failure = some data := by
    rw [failure, hprotocol', Option.bind_some, hdata]
  exact ⟨_, hfailure.trans (congrArg some hensured)⟩

end BoltConnection

end Seabolt
