import Seabolt.Failures
import Seabolt.PackStream.Walk

/-!
# Unread messages

What is in the receive buffer of a connection and in its transport, as messages: the
frames of the stream, decoded one after the other.  A message that cannot be decoded is
one of them.  So is an empty one, which shows the type and the data of the message
before it.

`summaryOf` looks among them for the end of a response.  `Reads.unread` says that the
calls of the protocol that read a response find it there, and that they find nothing
else over a transport that does not fail.
-/

namespace Seabolt

open BoltValue PackStream

/-! ## The messages of a stream -/

/-- What is left in a protocol state of the message that was decoded last: its type, its
data and the bytes that decoding has not read. -/
structure Residue where
  type : Int16
  data : BoltValue
  left : List UInt8

/-- A message, as decoding leaves it, and the status that it returns. -/
structure UnreadMessage extends Residue where
  status : Int

/-- What the messages before have left in the state. -/
def BoltProtocolState.residue (state : BoltProtocolState) : Residue where
  type := state.data_type
  data := state.data
  left := state.rx_buffer.content

variable {check : CheckStructSignature}

/-- Decoding the chunks of a frame may give the message.  What it makes of a message that
ends too early is up to uninitialised memory, so it may also give another. -/
def Residue.Gives (check : CheckStructSignature) (residue : Residue) (chunks : List (List UInt8))
    (message : UnreadMessage) : Prop :=
  ∃ state garbage state' garbage', state.rx_buffer.Wf ∧
    state.residue = { residue with left := residue.left ++ chunks.flatten } ∧
    unloadMessage check state garbage = some (message.status, state', garbage') ∧
    state'.residue = message.toResidue

/-- The messages are at the front of the stream. -/
inductive Unread (check : CheckStructSignature) : Residue → List UInt8 → List UnreadMessage → Prop
  where
  | nil (residue : Residue) (stream : List UInt8) : Unread check residue stream []
  | cons {residue : Residue} {stream stream' : List UInt8} {chunks : List (List UInt8)}
      {message : UnreadMessage} {messages : List UnreadMessage}
      (hstarts : StartsWith chunks stream stream') (hgives : residue.Gives check chunks message)
      (hrest : Unread check message.toResidue stream' messages) :
      Unread check residue stream (message :: messages)

/-- Behind a message of a stream comes the rest of the stream. -/
theorem Unread.tail {residue : Residue} {stream stream' : List UInt8} {chunks : List (List UInt8)}
    {message : UnreadMessage} {messages : List UnreadMessage}
    (h : Unread check residue stream (message :: messages))
    (hstarts : StartsWith chunks stream stream') :
    Unread check message.toResidue stream' messages := by
  cases h with
  | cons hstarts' _ hrest =>
    obtain ⟨-, rfl⟩ := hstarts'.unique hstarts
    exact hrest

/-- What decoding an item of the stream leaves. -/
def Residue.shown (residue : Residue) : Option BoltMessage → UnreadMessage
  | none => ⟨{ residue with left := [] }, BOLT_SUCCESS⟩
  | some message => ⟨⟨message.code, .list message.fields, []⟩, BOLT_SUCCESS⟩

/-- The items of a stream as messages. -/
def Residue.showsAll : Residue → List (Option BoltMessage) → List UnreadMessage
  | _, [] => []
  | residue, item :: items => residue.shown item :: (residue.shown item).toResidue.showsAll items

theorem Residue.Gives.shown {residue : Residue} {chunks : List (List UInt8)}
    {message : UnreadMessage} {item : Option BoltMessage} (hleft : residue.left = [])
    (hitem : EncodesItem check item chunks.flatten) (h : residue.Gives check chunks message) :
    message = residue.shown item := by
  obtain ⟨state, garbage, state', garbage', hwf, hresidue, hunload, hmessage⟩ := h
  have hcontent : state.rx_buffer.content = chunks.flatten := by
    rw [show state.rx_buffer.content = state.residue.left from rfl, hresidue, hleft]
    rfl
  obtain ⟨rx_buffer, -, hempty, hdecoded⟩ :=
    unloadMessage_of_item state garbage hitem hwf hcontent
  obtain ⟨hstatus, rfl, -⟩ :=
    Prod.mk.inj (Option.some.inj (hunload.symm.trans hdecoded)) |>.imp id Prod.mk.inj
  obtain ⟨residue', status⟩ := message
  dsimp only at hstatus hmessage
  subst hstatus
  subst hmessage
  cases item with
  | none =>
    rw [Residue.shown, UnreadMessage.mk.injEq]
    refine ⟨?_, rfl⟩
    have htype : state.data_type = residue.type := congrArg Residue.type hresidue
    have hdata : state.data = residue.data := congrArg Residue.data hresidue
    simp only [BoltProtocolState.residue, decoded, hempty, htype, hdata]
  | some message =>
    simp only [Residue.shown, BoltProtocolState.residue, decoded, countRecord_eq, hempty]

/-- A stream that carries items, and nothing behind them, has no other unread messages. -/
theorem Unread.prefix_of_carries {items : List (Option BoltMessage)} {stream rest : List UInt8}
    (h : Carries check items stream rest) (hrest : rest.length < 2) :
    ∀ {residue : Residue} {messages : List UnreadMessage}, residue.left = [] →
      Unread check residue stream messages → messages <+: residue.showsAll items := by
  induction h with
  | nil rest =>
    intro residue messages hleft hunread
    cases hunread with
    | nil => exact List.nil_prefix
    | cons hstarts _ _ =>
      have hlength := hstarts.length_le
      omega
  | @cons item items chunks stream stream' rest hstarts hitem _ ih =>
    intro residue messages hleft hunread
    cases hunread with
    | nil => exact List.nil_prefix
    | cons hstarts' hgives hunread =>
      obtain ⟨rfl, rfl⟩ := hstarts'.unique hstarts
      obtain rfl := hgives.shown hleft hitem
      refine (List.prefix_cons_inj _).mpr (ih hrest ?_ hunread)
      cases item <;> rfl

/-! ## The end of a response -/

/-- Whether failure data are held behind a message: a FAILURE with a String under `code`
or `message` leaves some. -/
def UnreadMessage.failed (message : UnreadMessage) (before : Bool) : Bool :=
  before || (message.type == BOLT_V1_FAILURE &&
    ((lastString FAILURE_CODE_KEY (metadataOf message.data)).isSome ||
      (lastString FAILURE_MESSAGE_KEY (metadataOf message.data)).isSome))

/-- The end of a response: what the messages before the summary count as, the type of the
summary, and whether failure data are held then. -/
structure Conclusion where
  results : List Int
  type : Int16
  failed : Bool

/-- More messages before the summary. -/
def Conclusion.behind (results : List Int) (conclusion : Conclusion) : Conclusion :=
  { conclusion with results := results ++ conclusion.results }

/-- The end of a response that makes a connection usable. -/
def Conclusion.Usable (conclusion : Conclusion) : Prop :=
  conclusion.type = BOLT_V1_SUCCESS ∨ conclusion.type = BOLT_V1_FAILURE ∨
    conclusion.type = BOLT_V1_IGNORED ∧ conclusion.failed = true

/-- Look for the end of the response with the id `request`, from the response with the id
`counter` on.  A message with a positive status counts as that status, and any other that
cannot be decoded is the end of all reading. -/
def summaryOf (request : Nat) : Nat → Bool → List UnreadMessage → Option Conclusion
  | _, _, [] => none
  | counter, failed, message :: messages =>
    if message.status ≠ BOLT_SUCCESS then
      if 0 < message.status then
        (summaryOf request counter failed messages).map (·.behind [message.status])
      else none
    else if counter ≠ request then
      summaryOf request (nextCounter counter message.type) (message.failed failed) messages
    else if message.type = BOLT_V1_RECORD then
      (summaryOf request counter (message.failed failed) messages).map (·.behind [FETCH_RECORD])
    else some ⟨[], message.type, message.failed failed⟩

/-- More messages do not change an end that has been found. -/
theorem summaryOf_append (request : Nat) (more : List UnreadMessage)
    (messages : List UnreadMessage) :
    ∀ {counter : Nat} {failed : Bool} {conclusion : Conclusion},
      summaryOf request counter failed messages = some conclusion →
      summaryOf request counter failed (messages ++ more) = some conclusion := by
  induction messages with
  | nil =>
    intro counter failed conclusion h
    cases h
  | cons message messages ih =>
    intro counter failed conclusion h
    simp only [List.cons_append, summaryOf] at h ⊢
    split_ifs at h ⊢
    · obtain ⟨rest, hrest, rfl⟩ := Option.map_eq_some_iff.mp h
      rw [ih hrest, Option.map_some]
    · exact ih h
    · obtain ⟨rest, hrest, rfl⟩ := Option.map_eq_some_iff.mp h
      rw [ih hrest, Option.map_some]
    · exact h

/-! ## One round -/

/-- Decoding keeps the buffer intact. -/
theorem unloadMessage_wf {state state' : BoltProtocolState} {garbage garbage' : List UInt8}
    {status : Int} (hwf : state.rx_buffer.Wf)
    (h : unloadMessage check state garbage = some (status, state', garbage')) :
    state'.rx_buffer.Wf := by
  unfold unloadMessage at h
  split_ifs at h
  · obtain ⟨-, rfl, -⟩ := Prod.mk.inj (Option.some.inj h) |>.imp id Prod.mk.inj
    exact hwf
  split at h
  · obtain ⟨-, rfl, -⟩ := Prod.mk.inj (Option.some.inj h) |>.imp id Prod.mk.inj
    exact hwf
  next marker rx_buffer hmarker =>
    have hmarker := hwf.unloadU8 hmarker
    dsimp only at h
    split_ifs at h
    · obtain ⟨-, rfl, -⟩ := Prod.mk.inj (Option.some.inj h) |>.imp id Prod.mk.inj
      exact hmarker
    split at h
    · obtain ⟨-, rfl, -⟩ := Prod.mk.inj (Option.some.inj h) |>.imp id Prod.mk.inj
      exact hmarker
    next code rx_buffer hcode =>
      obtain ⟨⟨status', d, elements⟩, helements, hresult⟩ := Option.map_eq_some_iff.mp h
      have hfields := (unload_shrinking.unloadElements _ helements).wf (hmarker.unloadU8 hcode)
      dsimp only at hresult
      split_ifs at hresult
      · obtain ⟨-, rfl, -⟩ := Prod.mk.inj hresult |>.imp id Prod.mk.inj
        rw [countRecord_eq]
        exact hfields
      · obtain ⟨-, rfl, -⟩ := Prod.mk.inj hresult |>.imp id Prod.mk.inj
        exact hfields

/-- A summary is counted, and a record is not. -/
theorem readSummary_counter {functions : FetchFunctions} {session session' : Session}
    (h : readSummary functions session = some session') :
    session'.2.response_counter = nextCounter session.2.response_counter session.2.data_type := by
  obtain ⟨connection, state⟩ := session
  by_cases hrecord : state.data_type = BOLT_V1_RECORD
  · rw [readSummary_record hrecord h, nextCounter, if_pos hrecord]
  · simp only [readSummary, ne_eq, hrecord, not_false_eq_true, if_true] at h
    rw [nextCounter, if_neg hrecord]
    split_ifs at h
    · split at h
      · obtain ⟨⟨summary, garbage⟩, -, rfl⟩ := Option.map_eq_some_iff.mp h
        rfl
      · cases h
    · obtain rfl := Option.some.inj h
      rfl

/-- Whether failure data are held behind a message that is collected. -/
theorem Collects.failed {message : UnreadMessage} {data data' : Option BoltValue}
    (h : Collects message.type (metadataOf message.data) data data') :
    data'.isSome = message.failed data.isSome := by
  unfold UnreadMessage.failed
  by_cases htype : message.type = BOLT_V1_FAILURE
  · rw [(h.failure htype).isSome, htype, beq_self_eq_true, Bool.true_and, Bool.or_assoc]
  · rw [h.other htype, beq_eq_false_iff_ne.mpr htype, Bool.false_and, Bool.or_false]

variable {version : ProtocolVersion} {request : Nat} {session session' : Session}
  {outcome : Option Int}

/-- What a round makes of a message that it has received. -/
def Heard (request : Nat) (session : Session) (message : UnreadMessage) (outcome : Option Int)
    (session' : Session) : Prop :=
  if message.status ≠ BOLT_SUCCESS then
    outcome = some message.status ∧
      session'.2.response_counter = session.2.response_counter ∧
      session'.2.failure_data = session.2.failure_data
  else
    outcome = (if session.2.response_counter ≠ request then none
      else if message.type = BOLT_V1_RECORD then some FETCH_RECORD else some FETCH_SUMMARY) ∧
      session'.2.response_counter = nextCounter session.2.response_counter message.type ∧
      session'.2.failure_data.isSome = message.failed session.2.failure_data.isSome

/-- A round receives one of the messages, or the transport fails. -/
theorem roundStep_unread (hwf : session.Wf)
    (h : version.roundStep request session = some (outcome, session')) :
    session'.Wf ∧
    ((outcome = some FETCH_ERROR ∧ ¬(session.1.comm.Reliable ∧
        ∃ chunks rest, StartsWith chunks session.1.pending rest)) ∨
      ∃ chunks message, StartsWith chunks session.1.pending session'.1.pending ∧
        session.2.residue.Gives version.checkReadableStruct chunks message ∧
        session'.2.residue = message.toResidue ∧
        (session.1.comm.Reliable → session'.1.comm.Reliable) ∧
        Heard request session message outcome session') := by
  obtain ⟨round, hround, houtcome⟩ := Option.map_eq_some_iff.mp h
  obtain ⟨connection, state⟩ := session
  rcases reassemble_cases hwf with
    ⟨chunks, ⟨connection1, state1⟩, hmessage, hstarts, hread⟩ | ⟨session1, hmessage, hfailed, hnot⟩
  · have hstate := hread.state
    dsimp only at hstate
    have hresidue : state1.residue =
        { state.residue with left := state.residue.left ++ chunks.flatten } := by
      rw [BoltProtocolState.residue, hread.content, hstate]
      rfl
    simp only [fetchRound, version.unload_eq, hmessage, ne_eq, not_true_eq_false,
      if_false] at hround
    split at hround
    · cases hround
    next status state2 garbage2 hdecode =>
      have hsame := unloadMessage_same hdecode
      have hwf2 := unloadMessage_wf hread.wf.state hdecode
      have hgives : state.residue.Gives version.checkReadableStruct chunks
          ⟨state2.residue, status⟩ :=
        ⟨state1, connection1.garbage, state2, garbage2, hread.wf.state, hresidue, hdecode, rfl⟩
      have hcounter : state2.response_counter = state.response_counter := by rw [hsame, hstate]
      have hfailure : state2.failure_data = state.failure_data := by rw [hsame, hstate]
      split_ifs at hround with hstatus
      · have hsummary := finishRound_outcome hround
        obtain ⟨hconnection3, hstate3⟩ := readSummary_same hsummary
        have hcounter3 := readSummary_counter hsummary
        have hfailure3 :=
          @Collects.failed ⟨state2.residue, status⟩ _ _ (readSummary_collects hsummary)
        obtain ⟨⟨connection3, state3⟩, hsummary', rfl⟩ := Option.map_eq_some_iff.mp hround
        rw [houtcome] at hconnection3 hstate3 hcounter3 hfailure3
        dsimp only at hconnection3 hstate3 hcounter3 hfailure3
        have hpending : session'.1.pending = connection1.pending := by rw [hconnection3]; rfl
        have hresidue3 : session'.2.residue = state2.residue := by rw [hstate3]; rfl
        have hreliable : connection1.comm.Reliable → session'.1.comm.Reliable := by
          rw [hconnection3]
          exact id
        have htype : state3.data_type = state2.data_type := by
          have h3 := (readSummary_same hsummary').2
          dsimp only at h3
          rw [h3]
        refine ⟨⟨?_, ?_⟩, .inr ⟨chunks, ⟨state2.residue, status⟩, ?_, hgives, hresidue3,
          hreliable ∘ hread.reliable, ?_⟩⟩
        · rw [hconnection3]
          exact hread.wf.connection
        · rw [hstate3]
          exact hwf2
        · rw [hpending]
          exact hstarts
        · rw [Heard, if_neg (not_not.mpr hstatus)]
          refine ⟨?_, by rw [hcounter3, hcounter]; rfl, by rw [hfailure3, hfailure]⟩
          have hcounter1 : state1.response_counter = state.response_counter := by rw [hstate]
          have hfirst := congrArg Prod.fst houtcome
          simp only [hcounter1, htype] at hfirst
          refine hfirst.symm.trans ?_
          by_cases hrequest : state.response_counter = request
          · by_cases hrecord : state2.data_type = BOLT_V1_RECORD <;>
              simp [hrequest, hrecord, BoltProtocolState.residue, Round.outcome]
          · simp [hrequest, Round.outcome]
      · obtain rfl := Option.some.inj hround
        obtain ⟨rfl, rfl⟩ := Prod.mk.inj houtcome
        refine ⟨⟨hread.wf.connection, hwf2⟩, .inr ⟨chunks, ⟨state2.residue, status⟩, hstarts,
          hgives, rfl, hread.reliable, ?_⟩⟩
        rw [Heard, if_pos hstatus]
        exact ⟨rfl, hcounter, hfailure⟩
  · simp only [fetchRound, hmessage, show FETCH_ERROR ≠ BOLT_SUCCESS by decide, ne_eq,
      not_false_eq_true, if_true] at hround
    obtain rfl := Option.some.inj hround
    obtain ⟨rfl, rfl⟩ := Prod.mk.inj houtcome
    exact ⟨hfailed.wf, .inl ⟨rfl, hnot⟩⟩

/-! ## Many rounds -/

/-- A round that goes on, or that has a positive result, leaves the end of the response to
the messages behind. -/
theorem Heard.passes {message : UnreadMessage} (h : Heard request session message outcome session')
    (hpos : ∀ result, outcome = some result → 0 < result) (messages : List UnreadMessage) :
    summaryOf request session.2.response_counter session.2.failure_data.isSome
        (message :: messages) =
      (summaryOf request session'.2.response_counter session'.2.failure_data.isSome messages).map
        (·.behind [outcome].reduceOption) := by
  unfold Heard at h
  split_ifs at h with hstatus hcounter hrecord
  · obtain ⟨rfl, hcounter', hfailed⟩ := h
    rw [summaryOf, if_pos hstatus, if_pos (hpos _ rfl), hcounter', hfailed]
    rfl
  · obtain ⟨rfl, hcounter', hfailed⟩ := h
    rw [summaryOf, if_neg hstatus, if_pos hcounter, hcounter', hfailed]
    exact Option.map_id'.symm
  · obtain ⟨rfl, hcounter', hfailed⟩ := h
    rw [summaryOf, if_neg hstatus, if_neg hcounter, if_pos hrecord, hcounter', hfailed, nextCounter,
      if_pos hrecord]
    rfl
  · exact absurd (hpos _ h.1) (by decide)

/-- A round with another result ends the response, or all reading. -/
theorem Heard.ends {message : UnreadMessage} {result : Int}
    (h : Heard request session message (some result) session') (hle : result ≤ 0)
    (messages : List UnreadMessage) :
    summaryOf request session.2.response_counter session.2.failure_data.isSome
        (message :: messages) =
      if result = FETCH_SUMMARY then some ⟨[], message.type, session'.2.failure_data.isSome⟩
      else none := by
  unfold Heard at h
  split_ifs at h with hstatus hcounter hrecord
  · obtain rfl := Option.some.inj h.1
    rw [summaryOf, if_pos hstatus, if_neg (not_lt.mpr hle), if_neg hstatus]
  · cases h.1
  · obtain rfl := Option.some.inj h.1
    exact absurd hle (by decide)
  · obtain rfl := Option.some.inj h.1
    rw [summaryOf, if_neg hstatus, if_neg hcounter, if_neg hrecord, if_pos rfl, h.2.2]

/-- The messages that a session has not read. -/
def Session.Unread (version : ProtocolVersion) (session : Session)
    (messages : List UnreadMessage) : Prop :=
  Seabolt.Unread version.checkReadableStruct session.2.residue session.1.pending messages

/-- The end of the response that a session finds among messages. -/
def Session.summaryOf (request : Nat) (session : Session) (messages : List UnreadMessage) :
    Option Conclusion :=
  Seabolt.summaryOf request session.2.response_counter session.2.failure_data.isSome messages

/-- Rounds that go on have read the messages at the front. -/
theorem rounds_unread {outcomes : List (Option Int)} (hpos : ∀ r, some r ∈ outcomes → 0 < r) :
    ∀ {session : Session}, session.Wf →
      Runs.run version.roundStep (List.replicate outcomes.length request) session =
        some (outcomes, session') →
      session'.Wf ∧ (session.1.comm.Reliable → session'.1.comm.Reliable) ∧
      ∃ messages,
        (∀ more, session.Unread version (messages ++ more) ↔ session'.Unread version more) ∧
        ∀ more, session.summaryOf request (messages ++ more) =
          (session'.summaryOf request more).map (·.behind outcomes.reduceOption) := by
  induction outcomes with
  | nil =>
    intro session hwf hrun
    obtain ⟨-, rfl⟩ := Prod.mk.inj (Option.some.inj hrun)
    exact ⟨hwf, id, [], fun _ => .rfl, fun _ => Option.map_id'.symm⟩
  | cons outcome outcomes ih =>
    intro session hwf hrun
    obtain ⟨b, session1, bs, hstep, hrest, hbs⟩ := Runs.run_uncons hrun
    obtain ⟨rfl, rfl⟩ := List.cons.inj hbs
    have hfirst : ∀ r, outcome = some r → 0 < r := by
      rintro r rfl
      exact hpos r (List.mem_cons_self ..)
    obtain ⟨hwf1, ⟨rfl, -⟩ | ⟨chunks, message, hstarts, hgives, hresidue, hreliable, hheard⟩⟩ :=
      roundStep_unread hwf hstep
    · exact absurd (hfirst _ rfl) (by decide)
    obtain ⟨hwf', hreliable', messages, hunread, hsummary⟩ :=
      ih (fun r hr => hpos r (List.mem_cons_of_mem _ hr)) hwf1 hrest
    refine ⟨hwf', hreliable' ∘ hreliable, message :: messages, fun more => ?_, fun more => ?_⟩
    · rw [← hunread more, Session.Unread, Session.Unread, hresidue]
      exact ⟨fun h => h.tail hstarts, fun h => .cons hstarts hgives h⟩
    · rw [List.cons_append, Session.summaryOf, hheard.passes hfirst, ← Session.summaryOf, hsummary,
        Option.map_map]
      congr 1
      funext conclusion
      rw [Function.comp_apply, Conclusion.behind, Conclusion.behind, Conclusion.behind,
        ← List.append_assoc, ← List.reduceOption_append, List.singleton_append]

/-- A round that ends with a summary has read it.  When a round ends in another way, over a
transport that does not fail, no end of the response comes any more. -/
theorem roundStep_ends {last : Int} (hlast : last ≤ 0) (hwf : session.Wf)
    (h : version.roundStep request session = some (some last, session')) :
    ∃ messages, session.Unread version messages ∧
      (last = FETCH_SUMMARY → session.summaryOf request messages =
        some ⟨[], session'.2.data_type, session'.2.failure_data.isSome⟩) ∧
      (last ≠ FETCH_SUMMARY → session.1.comm.Reliable → ∀ more,
        session.Unread version (messages ++ more) →
          session.summaryOf request (messages ++ more) = none) := by
  obtain ⟨-, ⟨hfailed, hnot⟩ | ⟨chunks, message, hstarts, hgives, hresidue, -, hheard⟩⟩ :=
    roundStep_unread hwf h
  · obtain rfl := Option.some.inj hfailed
    refine ⟨[], .nil _ _, fun h => absurd h (by decide), fun _ hreliable more hmore => ?_⟩
    cases hmore with
    | nil => rfl
    | cons hstarts _ _ => exact absurd ⟨hreliable, _, _, hstarts⟩ hnot
  · refine ⟨[message], .cons hstarts hgives (.nil _ _), fun h => ?_, fun h _ more _ => ?_⟩
    · have htype : session'.2.data_type = message.type := congrArg Residue.type hresidue
      rw [Session.summaryOf, hheard.ends hlast, if_pos h, htype]
    · rw [List.singleton_append, Session.summaryOf, hheard.ends hlast, if_neg h]

/-- Rounds before the last one that all go on, and then the last one. -/
theorem rounds_end {last : Int} {outcomes : List (Option Int)}
    (hpos : ∀ r, some r ∈ outcomes → 0 < r) (hlast : last ≤ 0) (hwf : session.Wf)
    (h : Runs.run version.roundStep (List.replicate (outcomes.length + 1) request) session =
      some (outcomes ++ [some last], session')) :
    ∃ messages, session.Unread version messages ∧
      (last = FETCH_SUMMARY → session.summaryOf request messages =
        some ⟨outcomes.reduceOption, session'.2.data_type, session'.2.failure_data.isSome⟩) ∧
      (last ≠ FETCH_SUMMARY → session.1.comm.Reliable → ∀ more,
        session.Unread version (messages ++ more) →
          session.summaryOf request (messages ++ more) = none) := by
  rw [List.replicate_succ'] at h
  obtain ⟨session1, bs1, bs2, hfirst, hsecond, hbs⟩ := Runs.run_split h
  obtain ⟨b, session2, bs3, hstep, hrest, rfl⟩ := Runs.run_uncons hsecond
  obtain ⟨rfl, rfl⟩ := Prod.mk.inj (Option.some.inj hrest)
  obtain ⟨rfl, hlast'⟩ := List.append_inj' hbs rfl
  obtain ⟨rfl, -⟩ := List.cons.inj hlast'
  obtain ⟨hwf1, hreliable, messages, hunread, hsummary⟩ := rounds_unread hpos hwf hfirst
  obtain ⟨message, hmessage, hends, hnone⟩ := roundStep_ends hlast hwf1 hstep
  refine ⟨messages ++ message, (hunread message).mpr hmessage, fun hsum => ?_,
    fun hnot hcomm more hmore => ?_⟩
  · rw [hsummary, hends hsum, Option.map_some, Conclusion.behind, List.append_nil]
  · rw [List.append_assoc] at hmore ⊢
    rw [hsummary, hnone hnot (hreliable hcomm) more ((hunread _).mp hmore), Option.map_none]

/-! ## Calls of the protocol -/

namespace BoltConnection

variable {connection final : BoltConnection} {state : BoltProtocolState} {results : List Int}
  {result last : Int}

/-- The messages that a connection has not read. -/
def Unread (connection : BoltConnection) (messages : List UnreadMessage) : Prop :=
  ∃ version state, connection.protocol = some ⟨version, state⟩ ∧
    Seabolt.Unread version.checkReadableStruct state.residue connection.pending messages

/-- A row of calls that ends with a summary has read messages in which it is the end of the
response.  When a row ends in another way, over a transport that does not fail, no end of the
response comes any more. -/
theorem Reads.unread (h : Reads request connection results last final)
    (hprotocol : connection.protocol = some ⟨version, state⟩)
    (hwf : Session.Wf (connection, state)) :
    ∃ state', final.protocol = some ⟨version, state'⟩ ∧
      ∃ messages, Session.Unread version (connection, state) messages ∧
        (last = FETCH_SUMMARY → Session.summaryOf request (connection, state) messages =
          some ⟨results, state'.data_type, state'.failure_data.isSome⟩) ∧
        (last ≠ FETCH_SUMMARY → connection.comm.Reliable → ∀ more,
          Session.Unread version (connection, state) (messages ++ more) →
            Session.summaryOf request (connection, state) (messages ++ more) = none) := by
  obtain ⟨outcomes, state', hprotocol', hrun, hresults⟩ := h.rounds hprotocol
  have htaken : Session.Wf ({ connection with protocol := none }, state) :=
    ⟨hwf.connection, hwf.state⟩
  obtain ⟨messages, hends⟩ := rounds_end (h.outcome_pos hresults) h.last_le htaken hrun
  rw [hresults] at hends
  exact ⟨state', hprotocol', messages, hends⟩

/-- One call has read a summary as the next message of the response.  When it has another
result, over a transport that does not fail, the next message is no summary. -/
theorem protocolFetch_unread (h : connection.protocolFetch request = some (result, final))
    (hprotocol : connection.protocol = some ⟨version, state⟩)
    (hwf : Session.Wf (connection, state)) :
    ∃ state', final.protocol = some ⟨version, state'⟩ ∧
      ∃ messages, Session.Unread version (connection, state) messages ∧
        (result = FETCH_SUMMARY → Session.summaryOf request (connection, state) messages =
          some ⟨[], state'.data_type, state'.failure_data.isSome⟩) ∧
        (result ≠ FETCH_SUMMARY → connection.comm.Reliable → ∀ more conclusion,
          Session.Unread version (connection, state) (messages ++ more) →
            Session.summaryOf request (connection, state) (messages ++ more) = some conclusion →
              conclusion.results ≠ []) := by
  obtain ⟨n, state', hprotocol', hrun⟩ := protocolFetch_rounds hprotocol h
  have htaken : Session.Wf ({ connection with protocol := none }, state) :=
    ⟨hwf.connection, hwf.state⟩
  have hskipped : (List.replicate n (none : Option Int)).reduceOption = [] := by
    simp [List.reduceOption]
  by_cases hpos : 0 < result
  · have hall : ∀ r, some r ∈ List.replicate n none ++ [some result] → 0 < r := by
      intro r hr
      rcases List.mem_append.mp hr with hr | hr
      · cases (List.mem_replicate.mp hr).2
      · rwa [Option.some.inj (List.mem_singleton.mp hr)]
    have hlength : (List.replicate n none ++ [some result]).length = n + 1 := by simp
    rw [← hlength] at hrun
    obtain ⟨-, -, messages, hunread, hsummary⟩ := rounds_unread hall htaken hrun
    refine ⟨state', hprotocol', messages, ?_, fun h => ?_,
      fun _ _ more conclusion _ hconclusion => ?_⟩
    · have hnone := (hunread []).mpr (.nil _ _)
      rwa [List.append_nil] at hnone
    · rw [h] at hpos
      exact absurd hpos (by decide)
    · have hbehind := (hsummary more).symm.trans hconclusion
      obtain ⟨rest, -, rfl⟩ := Option.map_eq_some_iff.mp hbehind
      rw [Conclusion.behind, List.reduceOption_append, hskipped]
      exact List.cons_ne_nil _ _
  · have hall : ∀ r, some r ∈ List.replicate n (none : Option Int) → 0 < r := by
      intro r hr
      cases (List.mem_replicate.mp hr).2
    have hlength : (List.replicate n (none : Option Int)).length = n := List.length_replicate
    obtain ⟨messages, hunread, hends, hnone⟩ :=
      rounds_end hall (not_lt.mp hpos) htaken (by rwa [hlength])
    rw [hskipped] at hends
    refine ⟨state', hprotocol', messages, hunread, hends,
      fun hnot hcomm more conclusion hmore hsome => ?_⟩
    cases (hnone hnot hcomm more hmore).symm.trans hsome

end BoltConnection

end Seabolt
