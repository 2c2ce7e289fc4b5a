import Seabolt.Conversation

/-!
# Failures in conversations

What a user learns of the failures of the server.  The last FAILURE that was read is told
with every summary of a request that has failed or was ignored, up to the next RESET, also
where the FAILURE itself was skipped (`failure_surfaces`).

Loading a RESET clears the failure data, and reading a FAILURE sets them.  They are stale
where the RESET is loaded before the FAILURE is read, and nowhere else
(`ready_without_failure`).
-/

namespace Seabolt

open PackStream

/-! ## What the failure data tell -/

/-- The failure data are those of the last FAILURE, unless a RESET has been loaded since it
was read.  A server that has failed has told so. -/
structure Tracks (notes : Notes) (data : Option BoltValue) : Prop where
  explained : ∃ code message, ensureFailureData data = failureData code message
  noted : notes.failed = true → notes.failure.isSome = true
  told : ∀ message, notes.failure = some message → notes.reset = false →
    ∃ code text, Conveys message code text ∧
      data = some (failureData (.string code) (.string text))

variable {notes : Notes} {isReset : Bool} {requests : List Bool} {summary : BoltMessage}
  {data data' : Option BoltValue}

/-- Reading a summary keeps the failure data up to date. -/
theorem Tracks.after (h : Tracks notes data) (hanswer : MayAnswer notes.failed isReset summary.code)
    (hconveys : summary.code = BOLT_V1_FAILURE → ∃ code text, Conveys summary code text)
    (hcollects : Collects summary.code (metadataOf (.list summary.fields)) data data') :
    Tracks (notes.after summary) data' := by
  refine ⟨hcollects.explained h.explained, ?_, ?_⟩
  · intro hfailed
    have hcode : summary.code ≠ BOLT_V1_SUCCESS := bne_iff_ne.mp hfailed
    show Option.isSome (if _ then _ else _) = true
    split_ifs with hfailure
    · rfl
    · refine h.noted ?_
      unfold MayAnswer at hanswer
      split_ifs at hanswer with hreset hbefore
      · exact absurd hanswer hcode
      · exact hbefore
      · exact absurd (hanswer.resolve_left hcode) hfailure
  · intro message hmessage hreset
    by_cases hfailure : summary.code = BOLT_V1_FAILURE
    · obtain ⟨code, text, hboth⟩ := hconveys hfailure
      have hmessage : (if _ then some summary else notes.failure) = some message := hmessage
      rw [if_pos hfailure] at hmessage
      obtain rfl := Option.some.inj hmessage
      exact ⟨code, text, hboth, hcollects.conveys hfailure hboth h.explained⟩
    · have hmessage : (if _ then some summary else notes.failure) = some message := hmessage
      rw [if_neg hfailure] at hmessage
      have hreset : (notes.reset && summary.code != BOLT_V1_FAILURE) = false := hreset
      rw [bne_iff_ne.mpr hfailure, Bool.and_true] at hreset
      rw [hcollects.other hfailure]
      exact h.told message hmessage hreset

/-- So does reading a row of summaries. -/
theorem Tracks.afterAll {unread : List BoltMessage} (read : List BoltMessage) :
    ∀ {notes : Notes} {requests : List Bool} {data data' : Option BoltValue}, Tracks notes data →
      Conforming notes.failed requests (read ++ unread) →
      (∀ summary ∈ read, summary.code = BOLT_V1_FAILURE → ∃ code text, Conveys summary code text) →
      Gleans read data data' → Tracks (notes.afterAll read) data' := by
  induction read with
  | nil =>
    rintro notes requests data data' h - - rfl
    exact h
  | cons summary read ih =>
    rintro notes requests data data' h hconforms hconveys ⟨middle, hcollects, hgleans⟩
    obtain ⟨hfirst, hrest⟩ := List.forall_mem_cons.mp hconveys
    cases requests with
    | nil => cases hconforms
    | cons isReset requests =>
      have hafter := h.after hconforms.1 hfirst hcollects
      exact ih hafter hconforms.2 hrest hgleans

/-- A RESET may have been loaded. -/
theorem Tracks.of_same {reset : Bool} (h : Tracks notes data)
    (hreset : reset = false → notes.reset = false) : Tracks { notes with reset := reset } data :=
  ⟨h.explained, h.noted, fun message hmessage hnot => h.told message hmessage (hreset hnot)⟩

/-! ## Stale failure data -/

/-- Failure data are there only while the server ignores requests and no RESET is
loaded. -/
def Unstale (failed : Bool) (requests : List Bool) (data : Option BoltValue) : Prop :=
  data = none ∨ failed = true ∧ true ∉ requests

theorem Unstale.after (h : Unstale notes.failed (isReset :: requests) data)
    (hanswer : MayAnswer notes.failed isReset summary.code)
    (hbehind : ¬(summary.code = BOLT_V1_FAILURE ∧ true ∈ requests))
    (hcollects : Collects summary.code (metadataOf (.list summary.fields)) data data') :
    Unstale (notes.after summary).failed requests data' := by
  have hignored : BOLT_V1_IGNORED ≠ BOLT_V1_SUCCESS := by decide
  have hfailed : BOLT_V1_FAILURE ≠ BOLT_V1_SUCCESS := by decide
  have hother : BOLT_V1_IGNORED ≠ BOLT_V1_FAILURE := by decide
  by_cases hfailure : summary.code = BOLT_V1_FAILURE
  · refine .inr ⟨bne_iff_ne.mpr (hfailure ▸ hfailed), fun hmem => hbehind ⟨hfailure, hmem⟩⟩
  · have hsame := hcollects.other hfailure
    rcases h with rfl | ⟨hbefore, hnone⟩
    · exact .inl hsame
    · obtain ⟨hreset, hrest⟩ := not_or.mp (mt List.mem_cons.mpr hnone)
      rw [MayAnswer, if_neg (Ne.symm hreset), if_pos hbefore] at hanswer
      exact .inr ⟨bne_iff_ne.mpr (hanswer ▸ hignored), hrest⟩

theorem Unstale.afterAll {unread : List BoltMessage} (read : List BoltMessage) :
    ∀ {notes : Notes} {requests : List Bool} {data data' : Option BoltValue},
      Unstale notes.failed requests data → Conforming notes.failed requests (read ++ unread) →
      ¬Overtaken requests read → Gleans read data data' →
      Unstale (notes.afterAll read).failed (requests.drop read.length) data' := by
  induction read with
  | nil =>
    rintro notes requests data data' h - - rfl
    exact h
  | cons summary read ih =>
    rintro notes requests data data' h hconforms hbehind ⟨middle, hcollects, hgleans⟩
    cases requests with
    | nil => cases hconforms
    | cons isReset requests =>
      obtain ⟨hfirst, hrest⟩ := not_or.mp hbehind
      exact ih (h.after hconforms.1 hfirst hcollects) hconforms.2 hrest hgleans

namespace Conversation

/-! ## Failures that surface -/

/-- Every FAILURE of the server carries a code and a message. -/
def Turn.Explains : Turn → Prop
  | .answer response _ =>
    response.summary.code = BOLT_V1_FAILURE → ∃ code text, Conveys response.summary code text
  | .release _ _ responses _ => ∀ summary ∈ responses.map Response.summary,
      summary.code = BOLT_V1_FAILURE → ∃ code text, Conveys summary code text
  | _ => True

/-- A fetch that returns the summary of a request that has failed or was ignored leaves the
connection failed, with the code and the message of the last FAILURE that was read, unless a
RESET has been loaded since.  Only a SUCCESS makes the connection ready. -/
def Surfaces (turn : Turn) (conversation : Conversation) (result : Int)
    (conversation' : Conversation) : Prop :=
  ∀ request, turn = .fetch request →
    (result = FETCH_SUMMARY →
      (conversation'.connection.lastCode = some BOLT_V1_IGNORED ∨
        conversation'.connection.lastCode = some BOLT_V1_FAILURE) →
      conversation'.reset = false →
      conversation'.connection.status = ⟨.failed, BOLT_SERVER_FAILURE⟩ ∧
        ∃ message code text, conversation'.failure = some message ∧ Conveys message code text ∧
          conversation'.connection.failure =
            some (failureData (.string code) (.string text))) ∧
    (conversation'.connection.status.state = .ready →
      conversation.connection.status.state = .ready ∨
        result = FETCH_SUMMARY ∧ conversation'.connection.lastCode = some BOLT_V1_SUCCESS)

/-- The failure data are up to date, and what has not been read explains its failures. -/
structure Informed (conversation : Conversation) : Prop where
  coherent : conversation.Coherent
  tracks : Tracks conversation.toNotes conversation.connection.failure
  unread : ∀ summary ∈ conversation.position.summaries,
    summary.code = BOLT_V1_FAILURE → ∃ code text, Conveys summary code text

variable {connection : BoltConnection} {position : Position}
  {conversation conversation' : Conversation}

theorem informed_start (h : connection.Rested) : (start connection).Informed := by
  obtain ⟨version, state, hprotocol, -, -, -, -, -, hfailure⟩ := id h
  have hnone : connection.failure = none := by
    rw [BoltConnection.failure, hprotocol]
    exact hfailure
  refine ⟨coherent_start h, ⟨⟨.null, .null, ?_⟩, ?_, ?_⟩, ?_⟩
  · show ensureFailureData connection.failure = _
    rw [hnone]
    rfl
  · exact fun hfailed => absurd hfailed Bool.false_ne_true
  · exact fun message hmessage => absurd hmessage (Option.some_ne_none message).symm
  · exact fun summary hmem => absurd hmem List.not_mem_nil

/-- Reading responses. -/
theorem Informed.read (h : conversation.Informed)
    (hadvances : Advances conversation.position position conversation.connection connection) :
    (conversation.read position connection).Informed := by
  have hsplit := List.take_append_drop (position.counter - conversation.position.counter)
    conversation.position.summaries
  have hconforms := h.coherent.conforms
  rw [← hsplit] at hconforms
  refine ⟨h.coherent.read hadvances, ?_, ?_⟩
  · exact h.tracks.afterAll _ hconforms (fun m hm => h.unread m (List.mem_of_mem_take hm))
      hadvances.gleans
  · show ∀ summary ∈ position.summaries, _
    rw [hadvances.unread]
    exact fun m hm => h.unread m (List.mem_of_mem_drop hm)

theorem Informed.step (h : conversation.Informed) {turn : Turn} {result : Int}
    (hconforms : turn.Conforms conversation) (hexplains : turn.Explains)
    (hstep : step turn conversation = some (result, conversation')) : conversation'.Informed := by
  have hcoherent := h.coherent.step hconforms hstep
  obtain ⟨version, state, hprotocol, hready, -⟩ := h.coherent.sending
  cases turn with
  | request request =>
    obtain ⟨n, hloads, heq, hreset, hfailure⟩ := h.coherent.request hstep
    refine ⟨hcoherent, ?_, ?_⟩
    · rw [heq, hfailure]
      split_ifs with hcleared
      · have hone : n = 1 := by
          rw [hreset hcleared.1, if_pos hcleared.2]
        refine ⟨⟨.null, .null, rfl⟩, h.tracks.noted, fun message _ hnot => ?_⟩
        rw [hone, hcleared.1] at hnot
        simp at hnot
      · exact h.tracks.of_same fun hnot => (Bool.or_eq_false_iff.mp hnot).1
    · rw [heq]
      exact h.unread
  | send =>
    simp only [Conversation.step] at hstep
    split_ifs at hstep
    obtain ⟨-, rfl⟩ := Prod.mk.inj (Option.some.inj hstep)
    refine ⟨hcoherent, ?_, h.unread⟩
    show Tracks _ conversation.connection.send.2.failure
    rw [(BoltConnection.send_loads hprotocol hready).2.1]
    exact h.tracks
  | answer response bytes =>
    obtain ⟨-, rfl⟩ := Prod.mk.inj (Option.some.inj hstep)
    refine ⟨hcoherent, h.tracks, ?_⟩
    show ∀ summary ∈ List.map Response.summary (_ ++ [response]), _
    rw [List.map_append]
    exact List.forall_mem_append.mpr ⟨h.unread, List.forall_mem_singleton.mpr hexplains⟩
  | fetch request =>
    obtain ⟨heq, hadvances, -⟩ := h.coherent.fetch hstep
    rw [heq]
    exact h.read hadvances
  | release pool index responses bytes =>
    obtain ⟨sent, hsent, hnotes, -, hsummaries, hfailure, -, -, -, heq, hadvances, -⟩ :=
      h.coherent.release hconforms hstep
    have hinformed : sent.Informed := by
      refine ⟨hsent, ?_, ?_⟩
      · rw [hnotes, hfailure]
        exact ⟨⟨.null, .null, rfl⟩, h.tracks.noted, by simp⟩
      · rw [hsummaries]
        exact List.forall_mem_append.mpr ⟨h.unread, hexplains⟩
    rw [heq]
    exact hinformed.read hadvances
  | acquire =>
    obtain ⟨-, rfl⟩ := Prod.mk.inj (Option.some.inj hstep)
    exact ⟨hcoherent, h.tracks, h.unread⟩

/-- What the last summary says of the server, a conversation knows that has read up to
it. -/
theorem failed_of_concludes {connection' : BoltConnection} {code : Int16}
    (h : Concludes conversation.position position connection connection')
    (hcode : connection'.lastCode = some code) :
    (conversation.read position connection').failed = (code != BOLT_V1_SUCCESS) := by
  obtain ⟨skipped, summary, hpassed, -, hlast, -⟩ := h
  obtain rfl := Option.some.inj (hlast.symm.trans hcode)
  show (conversation.toNotes.afterAll (conversation.position.passed position)).failed = _
  rw [Position.passed, hpassed]
  exact Notes.failed_afterAll _ _ _

/-- The status behind a summary. -/
theorem status_of_concludes {position' : Position} {connection' : BoltConnection} {code : Int16}
    (h : Concludes position position' connection connection')
    (hcode : connection'.lastCode = some code) :
    connection'.status = statusAfter code connection'.failure.isSome connection.status := by
  obtain ⟨skipped, summary, -, -, hlast, hstatus⟩ := h
  obtain rfl := Option.some.inj (hlast.symm.trans hcode)
  exact hstatus

/-- A failure surfaces, whichever responses are fetched. -/
theorem failure_surfaces (connection : BoltConnection) (turns : List Turn)
    (hrested : connection.Rested) (results : List Int) (final : Conversation)
    (hrun : Runs.run step turns (start connection) = some (results, final))
    (hconforms : Runs.Admissible step
      (fun turn conversation => turn.Conforms conversation ∧ turn.Explains) turns
      (start connection)) :
    Runs.Meets step Surfaces turns (start connection) := by
  refine Runs.meets_of_run ?_ turns (informed_start hrested) hconforms hrun
  rintro turn conversation result conversation' h ⟨hturn, hexplains⟩ hstep
  have hinformed := h.step hturn hexplains hstep
  refine ⟨?_, hinformed⟩
  rintro request rfl
  obtain ⟨heq, -, ⟨rfl, hstatus⟩ | ⟨rfl, hconcludes⟩⟩ := h.coherent.fetch hstep
  · refine ⟨fun hsummary => absurd hsummary (by decide), fun hready => .inl ?_⟩
    rwa [← hstatus]
  · constructor
    · intro _ hcode hreset
      have hnot : ∃ code, conversation'.connection.lastCode = some code ∧
          code ≠ BOLT_V1_SUCCESS := by
        rcases hcode with hcode | hcode
        · exact ⟨_, hcode, by decide⟩
        · exact ⟨_, hcode, by decide⟩
      obtain ⟨code, hcode, hother⟩ := hnot
      have hfailed : conversation'.failed = true := by
        rw [heq, failed_of_concludes hconcludes hcode]
        exact bne_iff_ne.mpr hother
      obtain ⟨message, hmessage⟩ := Option.isSome_iff_exists.mp (hinformed.tracks.noted hfailed)
      obtain ⟨name, text, hconveys, hdata⟩ := hinformed.tracks.told message hmessage hreset
      refine ⟨?_, message, name, text, hmessage, hconveys, hdata⟩
      rw [status_of_concludes hconcludes hcode, hdata, statusAfter, if_neg hother,
        if_pos (.inr rfl)]
    · intro hready
      obtain ⟨skipped, summary, -, -, hcode, hstatus⟩ := id hconcludes
      by_cases hsuccess : summary.code = BOLT_V1_SUCCESS
      · exact .inr ⟨rfl, hsuccess ▸ hcode⟩
      · rw [hstatus, statusAfter, if_neg hsuccess] at hready
        split_ifs at hready
        exact .inl hready

/-! ## Failure data of a ready connection -/

/-- A turn that reads a FAILURE while a RESET is loaded behind its request. -/
def Turn.Overtakes : Turn → Conversation → Prop
  | .fetch request_id, conversation =>
    Overtaken conversation.requests
      (conversation.position.passed (conversation.position.fetched request_id))
  | .release _ _ responses _, conversation =>
    Overtaken (conversation.requests ++ [true])
      (conversation.position.summaries ++ responses.map Response.summary)
  | _, _ => False

instance (turn : Turn) (conversation : Conversation) : Decidable (turn.Overtakes conversation) :=
  match turn with
  | .fetch _ | .release _ _ _ _ => decidableOvertaken _ _
  | .request _ | .send | .answer _ _ | .acquire => .isFalse id

/-- A turn that ends with a SUCCESS and leaves the connection ready leaves no failure
data. -/
def ReadyWithoutFailure (turn : Turn) (_ : Conversation) (result : Int)
    (conversation' : Conversation) : Prop :=
  ((∃ request, turn = .fetch request) ∧ result = FETCH_SUMMARY ∧
      conversation'.connection.lastCode = some BOLT_V1_SUCCESS ∨ turn.isRelease = true) →
    conversation'.connection.status.state = .ready → conversation'.connection.failure = none

/-- No failure data are stale. -/
structure Current (conversation : Conversation) : Prop where
  coherent : conversation.Coherent
  unstale : Unstale conversation.failed conversation.requests conversation.connection.failure

theorem current_start (h : connection.Rested) : (start connection).Current := by
  obtain ⟨version, state, hprotocol, -, -, -, -, -, hfailure⟩ := id h
  refine ⟨coherent_start h, .inl ?_⟩
  show connection.failure = none
  rw [BoltConnection.failure, hprotocol]
  exact hfailure

/-- Reading responses of which no FAILURE is overtaken. -/
theorem Current.read (h : conversation.Current)
    (hadvances : Advances conversation.position position conversation.connection connection)
    (hbehind : ¬Overtaken conversation.requests (conversation.position.passed position)) :
    (conversation.read position connection).Current := by
  have hsplit := List.take_append_drop (position.counter - conversation.position.counter)
    conversation.position.summaries
  have hconforms := h.coherent.conforms
  rw [← hsplit] at hconforms
  have hunstale := h.unstale.afterAll _ hconforms hbehind hadvances.gleans
  rw [List.length_take, Nat.min_eq_left hadvances.within] at hunstale
  exact ⟨h.coherent.read hadvances, hunstale⟩

/-- The failure data behind a SUCCESS. -/
theorem Current.failure_none {connection' : BoltConnection}
    (h : (conversation.read position connection').Current)
    (hconcludes : Concludes conversation.position position connection connection')
    (hcode : connection'.lastCode = some BOLT_V1_SUCCESS) : connection'.failure = none := by
  rcases h.unstale with hnone | ⟨hfailed, -⟩
  · exact hnone
  · rw [failed_of_concludes hconcludes hcode] at hfailed
    cases hfailed

/-- A release reads everything. -/
theorem passed_of_read {position' : Position} {connection' : BoltConnection}
    (h : Advances position position' connection connection') (hall : position'.responses = []) :
    position.passed position' = position.summaries := by
  have hsplit := List.take_append_drop (position'.counter - position.counter) position.summaries
  have hnone : position'.summaries = [] := by
    rw [Position.summaries, hall]
    rfl
  rwa [← h.unread, hnone, List.append_nil] at hsplit

theorem Current.step (h : conversation.Current) {turn : Turn} {result : Int}
    (hconforms : turn.Conforms conversation) (hbehind : ¬turn.Overtakes conversation)
    (hstep : step turn conversation = some (result, conversation')) : conversation'.Current := by
  have hcoherent := h.coherent.step hconforms hstep
  obtain ⟨version, state, hprotocol, hready, -⟩ := h.coherent.sending
  cases turn with
  | request request =>
    obtain ⟨n, hloads, heq, hreset, hfailure⟩ := h.coherent.request hstep
    refine ⟨hcoherent, ?_⟩
    rw [heq, hfailure]
    split_ifs with hcleared
    · exact .inl rfl
    · rcases h.unstale with hnone | ⟨hfailed, hnone⟩
      · exact .inl hnone
      · refine .inr ⟨hfailed, fun hmem => ?_⟩
        rcases List.mem_append.mp hmem with hmem | hmem
        · exact hnone hmem
        · obtain ⟨hsome, hisReset⟩ := List.mem_replicate.mp hmem
          have hzero : n = 0 := by
            rw [hreset hisReset.symm, if_neg fun hsuccess => hcleared ⟨hisReset.symm, hsuccess⟩]
          exact hsome hzero
  | send =>
    simp only [Conversation.step] at hstep
    split_ifs at hstep
    obtain ⟨-, rfl⟩ := Prod.mk.inj (Option.some.inj hstep)
    refine ⟨hcoherent, ?_⟩
    show Unstale _ _ conversation.connection.send.2.failure
    rw [(BoltConnection.send_loads hprotocol hready).2.1]
    exact h.unstale
  | answer response bytes =>
    obtain ⟨-, rfl⟩ := Prod.mk.inj (Option.some.inj hstep)
    exact ⟨hcoherent, h.unstale⟩
  | fetch request =>
    obtain ⟨heq, hadvances, -⟩ := h.coherent.fetch hstep
    rw [heq]
    exact h.read hadvances hbehind
  | release pool index responses bytes =>
    obtain ⟨sent, hsent, -, hrequests, hsummaries, hfailure, -, hall, -, heq, hadvances, -⟩ :=
      h.coherent.release hconforms hstep
    have hcurrent : sent.Current := ⟨hsent, .inl hfailure⟩
    have hpassed := passed_of_read hadvances hall
    rw [heq]
    refine hcurrent.read hadvances ?_
    rw [hpassed, hrequests, hsummaries]
    exact hbehind
  | acquire =>
    obtain ⟨-, rfl⟩ := Prod.mk.inj (Option.some.inj hstep)
    exact ⟨hcoherent, h.unstale⟩

/-- In every conversation in which no FAILURE is read while a RESET is loaded behind its
request, a connection that is ready behind a SUCCESS has no failure data. -/
theorem ready_without_failure (connection : BoltConnection) (turns : List Turn)
    (hrested : connection.Rested) (results : List Int) (final : Conversation)
    (hrun : Runs.run step turns (start connection) = some (results, final))
    (hconforms : Runs.Admissible step
      (fun turn conversation => turn.Conforms conversation ∧ ¬turn.Overtakes conversation) turns
      (start connection)) :
    Runs.Meets step ReadyWithoutFailure turns (start connection) := by
  refine Runs.meets_of_run ?_ turns (current_start hrested) hconforms hrun
  rintro turn conversation result conversation' h ⟨hturn, hbehind⟩ hstep
  have hcurrent := h.step hturn hbehind hstep
  refine ⟨?_, hcurrent⟩
  rintro (⟨⟨request, rfl⟩, rfl, hcode⟩ | hrelease) -
  · obtain ⟨heq, -, ⟨hrecord, -⟩ | ⟨-, hconcludes⟩⟩ := h.coherent.fetch hstep
    · exact absurd hrecord (by decide)
    · rw [heq] at hcurrent
      exact hcurrent.failure_none hconcludes hcode
  · cases turn with
    | release pool index responses bytes =>
      obtain ⟨sent, -, -, -, -, -, -, -, -, heq, -, hconcludes, hcode⟩ :=
        h.coherent.release hturn hstep
      rw [heq] at hcurrent
      exact hcurrent.failure_none hconcludes hcode
    | _ => cases hrelease

end Conversation

/-! ## Responses that refuse -/

/-- A code and a message, as they come from the server. -/
def refusalEntries : List EncodedEntry :=
  [⟨FAILURE_CODE_KEY, [0x84], .string (ascii "C"), [0x81, 0x43]⟩,
    ⟨FAILURE_MESSAGE_KEY, [0x87], .string (ascii "M"), [0x81, 0x4D]⟩]

/-- A FAILURE with a code and a message. -/
def refusal : Response where
  records := []
  summary := ⟨BOLT_V1_FAILURE, [.dictionary (refusalEntries.map EncodedEntry.entry)]⟩
  known := .inr (.inr rfl)

def refusalBytes : List UInt8 :=
  frames ([[0xB1, 0x7F, 0xA2] ++ (refusalEntries.map EncodedEntry.bytes).flatten].map chunksOf)

/-- The answer to a request behind one that has failed. -/
def ignored : Response where
  records := []
  summary := ⟨BOLT_V1_IGNORED, [.dictionary []]⟩
  known := .inr (.inl rfl)

def ignoredBytes : List UInt8 := frames ([[0xB1, 0x7E, 0xA0]].map chunksOf)

theorem carries_refusal (check : CheckStructSignature) :
    Carries check (refusal.messages.map some) refusalBytes [] := by
  have hkey : ∀ entry ∈ refusalEntries,
      SizeHeader stringMarkers entry.key.length entry.keyHeader := by
    rw [refusalEntries, List.forall_mem_cons, List.forall_mem_cons]
    exact ⟨.tiny rfl (by decide), .tiny rfl (by decide), nofun⟩
  have hvalue : ∀ entry ∈ refusalEntries, Encodes check entry.value entry.valueBytes := by
    rw [refusalEntries, List.forall_mem_cons, List.forall_mem_cons]
    exact ⟨.string (ascii "C") (.tiny rfl (by decide)), .string (ascii "M") (.tiny rfl (by decide)),
      nofun⟩
  have hheader : SizeHeader mapMarkers refusalEntries.length [0xA2] := .tiny rfl (by decide)
  have hencodes : EncodesMessage check refusal.summary
      ([0xB1, 0x7F, 0xA2] ++ (refusalEntries.map EncodedEntry.bytes).flatten) :=
    ⟨by decide, by decide, _, .cons (Encodes.map refusalEntries hheader hkey hvalue) encodesAll_nil,
      by simp [refusal]; rfl⟩
  have hcarries := carries_frames (.cons hencodes .nil) []
  rwa [List.append_nil] at hcarries

theorem carries_ignored (check : CheckStructSignature) :
    Carries check (ignored.messages.map some) ignoredBytes [] := by
  have hmap : Encodes check (.dictionary []) [0xA0] :=
    Encodes.map [] (.tiny rfl (by decide)) (by simp) (by simp)
  have hencodes : EncodesMessage check ignored.summary [0xB1, 0x7E, 0xA0] :=
    ⟨by decide, by decide, [0xA0], .cons hmap encodesAll_nil, rfl⟩
  have hcarries := carries_frames (.cons hencodes .nil) []
  rwa [List.append_nil] at hcarries

namespace Conversation

theorem carries_summary {response : Response} {bytes : List UInt8}
    (h : ∀ check, Seabolt.Carries check (response.messages.map some) bytes [])
    (conversation : Conversation) : conversation.Carries [response] bytes := by
  intro version state _
  rw [List.flatMap_singleton]
  exact h _

/-- The FAILURE is skipped on the way to the IGNORED of the request behind it. -/
def skipping : List Turn :=
  [.request .loadRunRequest, .request (.loadPullRequest (-1)), .send,
    .answer refusal refusalBytes, .answer ignored ignoredBytes, .fetch 1]

theorem failure_surfaces_skipped :
    (∃ results final, Runs.run step skipping (start (idle .v1)) = some (results, final) ∧
      results.getLast? = some FETCH_SUMMARY ∧
      final.connection.lastCode = some BOLT_V1_IGNORED ∧
      final.connection.status = ⟨.failed, BOLT_SERVER_FAILURE⟩) ∧
    Runs.Meets step Surfaces skipping (start (idle .v1)) := by
  have hrun : (Runs.run step skipping (start (idle .v1))).map (fun (results, final) =>
      (results.getLast?, final.connection.lastCode, final.connection.status)) =
        some (some FETCH_SUMMARY, some BOLT_V1_IGNORED, ⟨.failed, BOLT_SERVER_FAILURE⟩) := by
    decide +kernel
  obtain ⟨⟨results, final⟩, hrun, hresult⟩ := Option.map_eq_some_iff.mp hrun
  simp only [Prod.mk.injEq] at hresult
  have horder : Runs.Admissible step Turn.InOrder skipping (start (idle .v1)) := by decide +kernel
  have hframed : ∀ turn ∈ skipping, ∀ conversation, turn.Framed conversation ∧ turn.Explains := by
    rw [skipping]
    simp only [List.forall_mem_cons]
    refine ⟨fun _ => ⟨trivial, trivial⟩, fun _ => ⟨trivial, trivial⟩, fun _ => ⟨trivial, trivial⟩,
      fun _ => ⟨carries_summary carries_refusal _,
        fun _ => ⟨ascii "C", ascii "M", by decide, by decide⟩⟩,
      fun _ => ⟨carries_summary carries_ignored _, fun hcode => absurd hcode (by decide)⟩,
      fun _ => ⟨trivial, trivial⟩, nofun⟩
  exact ⟨⟨results, final, hrun, hresult⟩,
    failure_surfaces (idle .v1) skipping (rested_idle .v1) results final hrun
      ((horder.and _ (Runs.admissible_of_mem skipping (fun turn h c => (hframed turn h c).1) _)).and _
        (Runs.admissible_of_mem skipping (fun turn h c => (hframed turn h c).2) _))⟩

/-- The FAILURE is read before the RESET is loaded. -/
def acknowledging : List Turn :=
  [.request .loadRunRequest, .send, .answer refusal refusalBytes, .fetch 0,
    .request .loadResetRequest, .send, .answer (emptyRecords 0) (emptyRecordBytes 0), .fetch 1]

theorem ready_without_failure_acknowledged :
    Runs.Meets step ReadyWithoutFailure acknowledging (start (idle .v1)) := by
  have hrun : (Runs.run step acknowledging (start (idle .v1))).isSome := by decide +kernel
  obtain ⟨⟨results, final⟩, hrun⟩ := Option.isSome_iff_exists.mp hrun
  have horder : Runs.Admissible step Turn.InOrder acknowledging (start (idle .v1)) := by
    decide +kernel
  have hbehind : Runs.Admissible step (fun turn conversation => ¬turn.Overtakes conversation)
      acknowledging (start (idle .v1)) := by
    decide +kernel
  have hframed : ∀ turn ∈ acknowledging, ∀ conversation, turn.Framed conversation := by
    rw [acknowledging]
    simp only [List.forall_mem_cons]
    exact ⟨fun _ => trivial, fun _ => trivial, carries_summary carries_refusal, fun _ => trivial,
      fun _ => trivial, fun _ => trivial, carries_one 0, fun _ => trivial, nofun⟩
  exact ready_without_failure (idle .v1) acknowledging (rested_idle .v1) results final hrun
    ((horder.and _ (Runs.admissible_of_mem acknowledging hframed _)).and _ hbehind)

/-- The RESET is loaded before the FAILURE of the RUN is read. -/
def overtaking : List Turn :=
  [.request .loadRunRequest, .request .loadResetRequest, .send, .answer refusal refusalBytes,
    .answer (emptyRecords 0) (emptyRecordBytes 0), .fetch 1]

/-- The server conforms, and the SUCCESS of the RESET leaves the connection ready with the
failure of the RUN. -/
theorem overtaking_stale :
    (idle .v1).Rested ∧ (Runs.run step overtaking (start (idle .v1))).isSome ∧
      Runs.Admissible step Turn.Conforms overtaking (start (idle .v1)) ∧
      ¬Runs.Meets step ReadyWithoutFailure overtaking (start (idle .v1)) := by
  have hsome : (Runs.run step overtaking (start (idle .v1))).isSome := by decide +kernel
  have horder : Runs.Admissible step Turn.InOrder overtaking (start (idle .v1)) := by
    decide +kernel
  have hframed : ∀ turn ∈ overtaking, ∀ conversation, turn.Framed conversation := by
    rw [overtaking]
    simp only [List.forall_mem_cons]
    exact ⟨fun _ => trivial, fun _ => trivial, fun _ => trivial, carries_summary carries_refusal,
      carries_one 0, fun _ => trivial, nofun⟩
  refine ⟨rested_idle .v1, hsome, horder.and _ (Runs.admissible_of_mem overtaking hframed _),
    fun hmeets => ?_⟩
  obtain ⟨⟨results, final⟩, hrun⟩ := Option.isSome_iff_exists.mp hsome
  have hends : (Runs.run step overtaking (start (idle .v1))).map (fun (results, final) =>
      (results.getLast?, final.connection.lastCode, final.connection.status.state,
        final.connection.failure.isSome)) =
      some (some FETCH_SUMMARY, some BOLT_V1_SUCCESS, .ready, true) := by
    decide +kernel
  rw [hrun, Option.map_some, Option.some.injEq] at hends
  obtain ⟨hresult, hcode, hstate, hfailure⟩ : results.getLast? = some FETCH_SUMMARY ∧
      final.connection.lastCode = some BOLT_V1_SUCCESS ∧
      final.connection.status.state = .ready ∧ final.connection.failure.isSome = true := by
    simpa only [Prod.mk.injEq] using hends
  obtain ⟨mid, result, hlast, hready⟩ := Runs.last_of_meets overtaking.dropLast hmeets hrun
  obtain rfl := Option.some.inj (hlast.symm.trans hresult)
  rw [hready (.inl ⟨⟨1, rfl⟩, rfl, hcode⟩) hstate] at hfailure
  cases hfailure

end Conversation

end Seabolt
