import Seabolt.Authentication

/-!
# Errors of the initialisation

The number that `protocol->init` returns is all that `BoltConnection_init` looks
at before it sets the status.  A status that the transport has left in the
connection by then is overwritten.

`TransportFails` says where the transport ends the initialisation, and with
which error.  `ReportsCause` is what a caller that looks at the status relies
on: the error of the transport, or one that tells what the server has sent.
-/

namespace Seabolt

open PackStream

namespace BoltConnection

variable {connection connection' loaded sent final : BoltConnection} {user_agent : List UInt8}
  {auth_token : BoltValue} {request : Nat} {results : List Int} {result last error : Int}

/-! ## Where the initialisation ends -/

/-- The encoder does not accept the request. -/
def Refused (user_agent : List UInt8) (auth_token : BoltValue) (connection : BoltConnection) :
    Prop :=
  (connection.protocol_version = 1 ∨ connection.protocol_version = 2 ∨
    connection.protocol_version = 3) ∧
  ∃ protocol message, connection.protocol = some protocol ∧
    protocol.version.initMessage user_agent auth_token = some message ∧
    ¬Loadable protocol.version.checkWritableStruct message.value

/-- The transport fails while a message is received for the response: behind some
messages, at the header of a chunk or inside it. -/
def CutOff (request : Nat) (connection : BoltConnection) (error : Int) : Prop :=
  ∃ version state outcomes session connection' state',
    connection.protocol = some ⟨version, state⟩ ∧
    Runs.run version.roundStep (List.replicate outcomes.length request)
      ({ connection with protocol := none }, state) = some (outcomes, session) ∧
    (∀ r, some r ∈ outcomes → 0 < r) ∧
    reassemble session = some (FETCH_ERROR, connection', state') ∧ connection'.comm.error = error

/-- The transport fails while the request is sent, or while its response is
received, and reports the error. -/
inductive TransportFails (user_agent : List UInt8) (auth_token : BoltValue)
    (connection : BoltConnection) (error : Int) : Prop where
  | sending {protocol : BoltProtocol} {message : BoltMessage} {loaded : BoltConnection}
      (hversion : connection.protocol_version = 1 ∨ connection.protocol_version = 2 ∨
        connection.protocol_version = 3)
      (hprotocol : connection.protocol = some protocol)
      (hmessage : protocol.version.initMessage user_agent auth_token = some message)
      (hload : connection.loadMessage message = some (BOLT_SUCCESS, loaded))
      (hsend : loaded.send.1 = BOLT_STATUS_SET) (herror : loaded.send.2.comm.error = error)
  | receiving {request : Nat} {sent : BoltConnection}
      (hrequested : Requested user_agent auth_token connection request sent)
      (hcut : CutOff request sent error)

/-- What precedes a summary that is no FAILURE adds up to the number of one. -/
def Miscounted (user_agent : List UInt8) (auth_token : BoltValue) (connection : BoltConnection) :
    Prop :=
  ∃ request sent results final type, Requested user_agent auth_token connection request sent ∧
    Reads request sent results FETCH_SUMMARY final ∧ final.lastCode = some type ∧
    IsSummaryCode type ∧ type ≠ BOLT_V1_FAILURE ∧ total results = BOLT_V1_FAILURE.toInt

/-! ## What the status tells -/

/-- The response was received as far as it was read, and it is not a lone SUCCESS
or FAILURE: a message of it cannot be decoded, or is not expected. -/
def Unexpected (user_agent : List UInt8) (auth_token : BoltValue) (connection : BoltConnection) :
    Prop :=
  ∃ request sent results last final type, Requested user_agent auth_token connection request sent ∧
    Reads request sent results last final ∧ final.lastCode = some type ∧
    (∀ error, ¬CutOff request sent error) ∧
    ¬(results = [] ∧ last = FETCH_SUMMARY ∧ (type = BOLT_V1_SUCCESS ∨ type = BOLT_V1_FAILURE))

/-- The summary of the response is a FAILURE. -/
def Denied (user_agent : List UInt8) (auth_token : BoltValue) (connection : BoltConnection) :
    Prop :=
  ∃ request sent results final, Requested user_agent auth_token connection request sent ∧
    Reads request sent results FETCH_SUMMARY final ∧ final.lastCode = some BOLT_V1_FAILURE

/-- The status has the error of a transport that failed, a violation of the
protocol only for messages that are one, and a denied permission only for a
FAILURE. -/
def TellsCause (user_agent : List UInt8) (auth_token : BoltValue) (connection : BoltConnection)
    (status : BoltStatus) : Prop :=
  (∀ error, TransportFails user_agent auth_token connection error → status = ⟨.defunct, error⟩) ∧
  (status.error = BOLT_PROTOCOL_VIOLATION → Unexpected user_agent auth_token connection) ∧
  (status.error = BOLT_PERMISSION_DENIED → Denied user_agent auth_token connection)

/-- So it is after an initialisation that returns. -/
def ReportsCause (user_agent : List UInt8) (auth_token : BoltValue) (connection : BoltConnection) :
    Prop :=
  ∀ result connection', connection.init user_agent auth_token = some (result, connection') →
    TellsCause user_agent auth_token connection connection'.status

/-! ## A response that is cut off -/

/-- Receiving that fails ends the loop. -/
theorem CutOff.stops (h : CutOff request connection error) :
    ∃ version state outcomes session', connection.protocol = some ⟨version, state⟩ ∧
      Runs.run version.roundStep (List.replicate (outcomes.length + 1) request)
        ({ connection with protocol := none }, state) =
        some (outcomes ++ [some FETCH_ERROR], session') ∧
      ∀ r, some r ∈ outcomes → 0 < r := by
  obtain ⟨version, state, outcomes, session, connection', state', hprotocol, hrun, hpositive,
    hreassemble, -⟩ := h
  refine ⟨version, state, outcomes, (connection', state'), hprotocol, ?_, hpositive⟩
  have hfailed : FETCH_ERROR ≠ BOLT_SUCCESS := by decide
  have hstep : version.roundStep request session =
      some (some FETCH_ERROR, (connection', state')) := by
    rw [ProtocolVersion.roundStep, fetchRound, hreassemble]
    dsimp only
    rw [if_pos hfailed]
    rfl
  have hone : Runs.run version.roundStep [request] session =
      some ([some FETCH_ERROR], (connection', state')) := Runs.run_cons hstep rfl
  have hboth := Runs.run_append hrun hone
  rwa [← List.replicate_one, ← List.replicate_add] at hboth

/-- A response that is cut off is survived. -/
theorem CutOff.survives (h : CutOff request connection error) : Survives request connection := by
  obtain ⟨version, state, outcomes, session', hprotocol, hrun, -⟩ := h.stops
  exact survives_of_rounds hprotocol hrun (by decide)

/-- It is not read to a summary. -/
theorem CutOff.last_eq (h : CutOff request connection error)
    (hreads : Reads request connection results last final) : last = FETCH_ERROR := by
  obtain ⟨version, state, outcomes, session', hprotocol, hrun, hpositive⟩ := h.stops
  obtain ⟨outcomes', state', -, hrun', houtcomes⟩ := hreads.rounds hprotocol
  have hpositive' := hreads.outcome_pos houtcomes
  have hgo : ∀ outcomes : List (Option Int), (∀ r, some r ∈ outcomes → 0 < r) →
      ∀ outcome ∈ outcomes, ¬∃ r, outcome = some r ∧ r ≤ 0 := by
    rintro outcomes hpositive outcome houtcome ⟨r, rfl, hr⟩
    exact absurd (hpositive r houtcome) (not_lt.mpr hr)
  obtain ⟨-, hlast, -⟩ := Runs.stopped_unique (fun outcome => ∃ r, outcome = some r ∧ r ≤ 0)
    ⟨last, rfl, hreads.last_le⟩ ⟨FETCH_ERROR, rfl, by decide⟩ outcomes' hrun'
    (hgo outcomes' hpositive') hrun (hgo outcomes hpositive)
  exact Option.some.inj hlast

/-! ## What happens to the request -/

/-- The encoder accepts exactly the messages that it can load. -/
theorem loadMessage_iff {protocol : BoltProtocol} {message : BoltMessage} {status : Int}
    (hprepared : connection.Prepared) (hprotocol : connection.protocol = some protocol)
    (hregular : Regular message.value) (h : connection.loadMessage message = some (status, loaded)) :
    status = BOLT_SUCCESS ↔ Loadable protocol.version.checkWritableStruct message.value := by
  obtain ⟨version, state, hprotocol', hready, -⟩ := hprepared
  obtain rfl := Option.some.inj (hprotocol.symm.trans hprotocol')
  have htaken : Session.TxReady ({ connection with protocol := none }, state) :=
    ⟨hready.connection, hready.state, hready.drained⟩
  obtain ⟨status', session', hload, -, -, hstatus, -⟩ :=
    loadMessage_spec (fun _ => version.checkWritableStruct_range) htaken hregular
  simp only [loadMessage, hprotocol, hload, Option.map_some] at h
  obtain ⟨rfl, -⟩ := Prod.mk.inj (Option.some.inj h)
  exact hstatus

/-- A request that is sent was accepted. -/
theorem Requested.not_refused (h : Requested user_agent auth_token connection request sent)
    (hprepared : connection.Prepared) (hagent : user_agent.length < 0x80000000)
    (htoken : IsAuthToken auth_token) : ¬Refused user_agent auth_token connection := by
  rintro ⟨-, protocol, message, hprotocol, hmessage, hnot⟩
  obtain ⟨-, protocol', message', loaded, hprotocol', hmessage', hload, -, -⟩ := h
  obtain rfl := Option.some.inj (hprotocol.symm.trans hprotocol')
  obtain rfl := Option.some.inj (hmessage.symm.trans hmessage')
  obtain ⟨message', hmessage', hregular⟩ := initMessage_regular protocol.version hagent htoken
  obtain rfl := Option.some.inj (hmessage.symm.trans hmessage')
  exact hnot ((loadMessage_iff hprepared hprotocol hregular hload).mp rfl)

section Read

variable {type : Int16} (hrequested : Requested user_agent auth_token connection request sent)

include hrequested

/-- Once the request is sent, only its response can be cut off. -/
theorem transportFails_iff :
    TransportFails user_agent auth_token connection error ↔ CutOff request sent error := by
  refine ⟨fun h => ?_, .receiving hrequested⟩
  cases h with
  | sending _ hprotocol hmessage hload hsend _ =>
    obtain ⟨-, protocol', message', loaded', hprotocol', hmessage', hload', -, hsend'⟩ := hrequested
    obtain rfl := Option.some.inj (hprotocol.symm.trans hprotocol')
    obtain rfl := Option.some.inj (hmessage.symm.trans hmessage')
    obtain rfl := (Prod.mk.inj (Option.some.inj (hload.symm.trans hload'))).2
    rw [hsend'] at hsend
    exact absurd hsend (show BOLT_SUCCESS ≠ BOLT_STATUS_SET by decide)
  | receiving hrequested' hcut =>
    obtain ⟨rfl, rfl⟩ := hrequested.unique hrequested'
    exact hcut

variable (hreads : Reads request sent results last final) (htype : final.lastCode = some type)

include hreads htype

theorem unexpected_iff :
    Unexpected user_agent auth_token connection ↔ (∀ error, ¬CutOff request sent error) ∧
      ¬(results = [] ∧ last = FETCH_SUMMARY ∧
        (type = BOLT_V1_SUCCESS ∨ type = BOLT_V1_FAILURE)) := by
  constructor
  · rintro ⟨request', sent', results', last', final', type', hrequested', hreads', htype', h⟩
    obtain ⟨rfl, rfl⟩ := hrequested.unique hrequested'
    obtain ⟨rfl, rfl, rfl⟩ := hreads.unique hreads'
    obtain rfl := Option.some.inj (htype.symm.trans htype')
    exact h
  · exact fun h => ⟨request, sent, results, last, final, type, hrequested, hreads, htype, h⟩

theorem denied_iff :
    Denied user_agent auth_token connection ↔ last = FETCH_SUMMARY ∧ type = BOLT_V1_FAILURE := by
  constructor
  · rintro ⟨request', sent', results', final', hrequested', hreads', htype'⟩
    obtain ⟨rfl, rfl⟩ := hrequested.unique hrequested'
    obtain ⟨rfl, hlast, rfl⟩ := hreads.unique hreads'
    exact ⟨hlast, Option.some.inj (htype.symm.trans htype')⟩
  · rintro ⟨rfl, rfl⟩
    exact ⟨request, sent, results, final, hrequested, hreads, htype⟩

theorem miscounted_iff :
    Miscounted user_agent auth_token connection ↔ last = FETCH_SUMMARY ∧ IsSummaryCode type ∧
      type ≠ BOLT_V1_FAILURE ∧ total results = BOLT_V1_FAILURE.toInt := by
  constructor
  · rintro ⟨request', sent', results', final', type', hrequested', hreads', htype', h⟩
    obtain ⟨rfl, rfl⟩ := hrequested.unique hrequested'
    obtain ⟨rfl, hlast, rfl⟩ := hreads.unique hreads'
    obtain rfl := Option.some.inj (htype.symm.trans htype')
    exact ⟨hlast, h⟩
  · rintro ⟨rfl, h⟩
    exact ⟨request, sent, results, final, type, hrequested, hreads, htype, h⟩

/-- The status that a response leads to tells the cause, unless the response was
cut off, or miscounted. -/
theorem tellsCause_read {code : Int}
    (hcode : last = FETCH_SUMMARY ∧ IsSummaryCode type ∧ code = summaryNumber results type ∨
      ¬(last = FETCH_SUMMARY ∧ IsSummaryCode type) ∧ code < 0) :
    TellsCause user_agent auth_token connection (initialised code connection').2.status ↔
      (∀ error, ¬TransportFails user_agent auth_token connection error) ∧
        ¬Miscounted user_agent auth_token connection := by
  simp only [TellsCause, transportFails_iff hrequested, unexpected_iff hrequested hreads htype,
    denied_iff hrequested hreads htype, miscounted_iff hrequested hreads htype]
  rcases hcode with ⟨rfl, hsummary, rfl⟩ | ⟨hnot, hneg⟩
  · have hcut : ∀ error, ¬CutOff request sent error :=
      fun error h => absurd (h.last_eq hreads) (by decide)
    have hcounted : total results = BOLT_V1_FAILURE.toInt →
        summaryNumber results type = BOLT_V1_FAILURE.toInt := by
      intro htotal
      rw [summaryNumber, htotal, if_neg (by decide)]
    have hlone : total results = 0 → summaryNumber results type = type.toInt := fun hzero => by
      rw [summaryNumber, if_pos hzero]
    rcases initialised_cases (summaryNumber results type) connection' with
      ⟨hcode, -, hstatus⟩ | ⟨hcode, -, hstatus⟩ | ⟨hsuccess, hfailure, -, hstatus⟩
    · rw [hstatus]
      refine iff_of_true ⟨fun error h => absurd h (hcut error), fun h => absurd h (by decide),
        fun h => absurd h (by decide)⟩ ⟨hcut, ?_⟩
      rintro ⟨-, -, -, htotal⟩
      rw [hcounted htotal] at hcode
      exact absurd hcode (by decide)
    · rw [hstatus]
      by_cases hfailure : type = BOLT_V1_FAILURE
      · exact iff_of_true ⟨fun error h => absurd h (hcut error), fun h => absurd h (by decide),
          fun _ => ⟨rfl, hfailure⟩⟩ ⟨hcut, fun h => h.2.2.1 hfailure⟩
      · have htotal : total results = BOLT_V1_FAILURE.toInt := by
          by_cases hzero : total results = 0
          · rw [hlone hzero] at hcode
            exact absurd (Int16.toInt_inj.mp hcode) hfailure
          · rwa [summaryNumber, if_neg hzero] at hcode
        exact iff_of_false (fun h => hfailure (h.2.2 rfl).2)
          fun h => h.2 ⟨rfl, hsummary, hfailure, htotal⟩
    · rw [hstatus]
      refine iff_of_true ⟨fun error h => absurd h (hcut error), fun _ => ⟨hcut, ?_⟩,
        fun h => absurd h (by decide)⟩ ⟨hcut, fun h => hfailure (hcounted h.2.2.2)⟩
      rintro ⟨rfl, -, rfl | rfl⟩
      · exact hsuccess (hlone rfl)
      · exact hfailure (hlone rfl)
  · have hnegative : code ≠ BOLT_V1_SUCCESS.toInt ∧ code ≠ BOLT_V1_FAILURE.toInt := by
      constructor
      all_goals
        rintro rfl
        exact absurd hneg (by decide)
    have hstatus := ((initialised_cases code connection').resolve_left fun h => hnegative.1 h.1)
      |>.resolve_left fun h => hnegative.2 h.1
    rw [hstatus.2.2.2]
    by_cases hcut : ∃ error, CutOff request sent error
    · obtain ⟨error, hcut⟩ := hcut
      exact iff_of_false (fun h => (h.2.1 rfl).1 error hcut) fun h => h.1 error hcut
    · rw [not_exists] at hcut
      refine iff_of_true ⟨fun error h => absurd h (hcut error), fun _ => ⟨hcut, ?_⟩,
        fun h => absurd h (by decide)⟩ ⟨hcut, fun h => hnot ⟨h.1, h.2.1⟩⟩
      rintro ⟨-, hlast, hsuccess | hfailure⟩
      · exact hnot ⟨hlast, .inl hsuccess⟩
      · exact hnot ⟨hlast, .inr (.inr hfailure)⟩

end Read

/-- The status that is set without a response tells no cause: the encoder refused
the request, or the transport did not take it. -/
theorem tellsCause_unsent {protocol : BoltProtocol} {message : BoltMessage} {status code : Int}
    (hprepared : connection.Prepared) (hagent : user_agent.length < 0x80000000)
    (htoken : IsAuthToken auth_token)
    (hversion : connection.protocol_version = 1 ∨ connection.protocol_version = 2 ∨
      connection.protocol_version = 3)
    (hprotocol : connection.protocol = some protocol)
    (hmessage : protocol.version.initMessage user_agent auth_token = some message)
    (hload : connection.loadMessage message = some (status, loaded))
    (hcode : status ≠ BOLT_SUCCESS ∧ code = status ∨
      status = BOLT_SUCCESS ∧ loaded.send.1 = BOLT_STATUS_SET ∧ code = BOLT_STATUS_SET)
    (hnone : ∀ request sent, ¬Requested user_agent auth_token connection request sent) :
    ¬TellsCause user_agent auth_token connection (initialised code connection').2.status ∧
      (Refused user_agent auth_token connection ∨
        ∃ error, TransportFails user_agent auth_token connection error) := by
  have hnever : code ≠ BOLT_V1_SUCCESS.toInt ∧ code ≠ BOLT_V1_FAILURE.toInt := by
    rcases hcode with ⟨-, rfl⟩ | ⟨-, -, rfl⟩
    · rcases loadMessage_status hload with rfl | rfl | rfl
      all_goals exact ⟨by decide, by decide⟩
    · exact ⟨by decide, by decide⟩
  have hstatus := ((initialised_cases code connection').resolve_left fun h => hnever.1 h.1)
    |>.resolve_left fun h => hnever.2 h.1
  constructor
  · rw [hstatus.2.2.2]
    rintro ⟨-, hviolation, -⟩
    obtain ⟨request, sent, -, -, -, -, hrequested, -⟩ := hviolation rfl
    exact hnone request sent hrequested
  · rcases hcode with ⟨hfailed, -⟩ | ⟨rfl, hsend, -⟩
    · obtain ⟨message', hmessage', hregular⟩ := initMessage_regular protocol.version hagent htoken
      obtain rfl := Option.some.inj (hmessage.symm.trans hmessage')
      exact .inl ⟨hversion, protocol, message, hprotocol, hmessage, fun hloadable =>
        hfailed ((loadMessage_iff hprepared hprotocol hregular hload).mpr hloadable)⟩
    · exact .inr ⟨_, .sending hversion hprotocol hmessage hload hsend rfl⟩

/-- The initialisation reports the cause of a failure if and only if the encoder
accepts its request, the transport does not fail, and no results before a summary
add up to the number of a FAILURE. -/
theorem reportsCause_iff (connection : BoltConnection) (user_agent : List UInt8)
    (auth_token : BoltValue) (hprepared : connection.Prepared) (hintact : connection.Intact)
    (hagent : user_agent.length < 0x80000000) (htoken : IsAuthToken auth_token) :
    ReportsCause user_agent auth_token connection ↔
      ¬Refused user_agent auth_token connection ∧
        (∀ error, ¬TransportFails user_agent auth_token connection error) ∧
        ¬Miscounted user_agent auth_token connection := by
  obtain ⟨version, state, hprotocol, hwf, -⟩ := hintact
  by_cases hversion : connection.protocol_version = 1 ∨ connection.protocol_version = 2 ∨
    connection.protocol_version = 3
  · rcases hinit : connection.protocolInit version user_agent auth_token with _ | ⟨code, connection'⟩
    · have hnone : ¬∀ request sent, Requested user_agent auth_token connection request sent →
          Survives request sent := fun hsurvives => by
        have hreturns := protocolInit_isSome hprotocol hversion hprepared hwf hagent htoken hsurvives
        rw [hinit] at hreturns
        cases hreturns
      refine iff_of_true (fun result final h => ?_)
        ⟨fun hrefused => hnone fun request sent hrequested => ?_,
          fun error hfails => hnone fun request sent hrequested => ?_,
          fun hmiscounted => hnone fun request sent hrequested => ?_⟩
      · rw [init_eq hprotocol hversion, hinit] at h
        cases h
      · exact absurd hrefused (hrequested.not_refused hprepared hagent htoken)
      · exact ((transportFails_iff hrequested).mp hfails).survives
      · obtain ⟨request', sent', results, final, type, hrequested', hreads, -⟩ := hmiscounted
        obtain ⟨rfl, rfl⟩ := hrequested.unique hrequested'
        exact hreads.survives
    · have hresult : connection.init user_agent auth_token =
          some (initialised code connection') := by
        rw [init_eq hprotocol hversion, hinit, Option.map_some]
      have htells : ReportsCause user_agent auth_token connection ↔
          TellsCause user_agent auth_token connection (initialised code connection').2.status := by
        refine ⟨fun h => h _ _ hresult, fun h result final hinit' => ?_⟩
        obtain ⟨-, rfl⟩ := Prod.mk.inj (Option.some.inj (hresult.symm.trans hinit'))
        exact h
      rw [htells]
      obtain ⟨message, status, loaded, hmessage, hload, ⟨hcode, hnone⟩ |
        ⟨request, sent, results, last, final, type, hrequested, hreads, htype, hcode⟩⟩ :=
        protocolInit_spec hprotocol hversion hinit
      · obtain ⟨hnot, hends⟩ := @tellsCause_unsent connection connection' _ _ _ _ _ _ _ hprepared
          hagent htoken hversion hprotocol hmessage hload hcode hnone
        refine iff_of_false hnot fun h => ?_
        rcases hends with hrefused | ⟨error, hfails⟩
        · exact h.1 hrefused
        · exact h.2.1 error hfails
      · rw [tellsCause_read hrequested hreads htype hcode,
          eq_true (hrequested.not_refused hprepared hagent htoken), true_and]
  · refine iff_of_true (fun result final h => ?_) ⟨fun h => hversion h.1, fun error h => ?_, ?_⟩
    · rw [init, if_neg hversion] at h
      obtain ⟨-, rfl⟩ := Prod.mk.inj (Option.some.inj h)
      rw [setStatus_status]
      refine ⟨fun error h => ?_, fun h => absurd h (by decide), fun h => absurd h (by decide)⟩
      cases h with
      | sending hversion' => exact absurd hversion' hversion
      | receiving hrequested => exact absurd hrequested.1 hversion
    · cases h with
      | sending hversion' => exact hversion hversion'
      | receiving hrequested => exact hversion hrequested.1
    · rintro ⟨request, sent, -, -, -, hrequested, -⟩
      exact hversion hrequested.1

/-- A SUCCESS without records. -/
theorem reportsCause_iff_greeted :
    ReportsCause (ascii "agent") (.dictionary []) (greeted [[0xB1, 0x70, 0xA0]]) ↔
      ¬Refused (ascii "agent") (.dictionary []) (greeted [[0xB1, 0x70, 0xA0]]) ∧
        (∀ error, ¬TransportFails (ascii "agent") (.dictionary [])
          (greeted [[0xB1, 0x70, 0xA0]]) error) ∧
        ¬Miscounted (ascii "agent") (.dictionary []) (greeted [[0xB1, 0x70, 0xA0]]) :=
  reportsCause_iff _ _ _
    ⟨.v1, BoltProtocolV1.createState, rfl,
      ⟨BoltBuffer.wf_create _, BoltBuffer.wf_create _, BoltBuffer.content_create _⟩, rfl⟩
    ⟨.v1, BoltProtocolV1.createState, rfl, BoltBuffer.wf_create _, BoltBuffer.wf_create _⟩
    (by decide) isAuthToken_empty

/-- The server closes the transport instead of answering: the end of the
transmission becomes a violation of the protocol. -/
theorem init_hungUp :
    ((greeted []).init (ascii "agent") (.dictionary [])).map
      (fun (result, connection) => (result, connection.status)) =
      some (-1, ⟨.defunct, BOLT_PROTOCOL_VIOLATION⟩) ∧
    TransportFails (ascii "agent") (.dictionary []) (greeted []) BOLT_END_OF_TRANSMISSION ∧
    ¬ReportsCause (ascii "agent") (.dictionary []) (greeted []) := by
  have hinit : ((greeted []).init (ascii "agent") (.dictionary [])).map
      (fun (result, connection) => (result, connection.status)) =
      some (-1, ⟨.defunct, BOLT_PROTOCOL_VIOLATION⟩) := by
    decide +kernel
  have hcalls : ((ProtocolVersion.v1.initMessage (ascii "agent") (.dictionary [])).bind fun message =>
      ((greeted []).loadMessage message).bind fun (status, loaded) =>
        loaded.lastRequest.bind fun request => loaded.send.2.protocol.bind fun protocol =>
          (reassemble ({ loaded.send.2 with protocol := none }, protocol.state)).map
            fun reassembled =>
              (status, loaded.send.1, reassembled.1, reassembled.2.1.comm.error)) =
      some (BOLT_SUCCESS, BOLT_SUCCESS, FETCH_ERROR, BOLT_END_OF_TRANSMISSION) := by
    decide +kernel
  have hfails : TransportFails (ascii "agent") (.dictionary []) (greeted [])
      BOLT_END_OF_TRANSMISSION := by
    obtain ⟨message, hmessage, hcalls⟩ := Option.bind_eq_some_iff.mp hcalls
    obtain ⟨⟨status, loaded⟩, hload, hcalls⟩ := Option.bind_eq_some_iff.mp hcalls
    obtain ⟨request, hlast, hcalls⟩ := Option.bind_eq_some_iff.mp hcalls
    obtain ⟨protocol, hprotocol, hcalls⟩ := Option.bind_eq_some_iff.mp hcalls
    obtain ⟨⟨received, connection, state⟩, hreassemble, hresult⟩ := Option.map_eq_some_iff.mp hcalls
    simp only [Prod.mk.injEq] at hresult
    obtain ⟨rfl, hsent, rfl, herror⟩ := hresult
    have hrequested : Requested (ascii "agent") (.dictionary []) (greeted []) request
        loaded.send.2 :=
      ⟨.inl rfl, _, message, loaded, rfl, hmessage, hload, hlast, Prod.ext hsent rfl⟩
    exact .receiving hrequested ⟨protocol.version, protocol.state, [], _, connection, state,
      hprotocol, rfl, (by simp), hreassemble, herror⟩
  refine ⟨hinit, hfails, fun hreports => ?_⟩
  obtain ⟨⟨result, connection'⟩, h, hstatus⟩ := Option.map_eq_some_iff.mp hinit
  have hcause := (hreports result connection' h).1 _ hfails
  exact absurd (hcause.symm.trans (Prod.mk.inj hstatus).2) (by decide)

end BoltConnection

end Seabolt
