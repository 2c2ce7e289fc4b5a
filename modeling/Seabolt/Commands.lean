import Seabolt.ServerView
import Seabolt.TxSettings

/-!
# What the calls say

The caller of the request functions of `connection.c` does not think of messages
and buffers.  What it has set for the next BEGIN and the next RUN is a `Draft`,
and a load tells the server a `Command`.

`server_reads_commands` says that the wire carries the commands of the calls: in
every run, with transfers cut or failing anywhere, whatever a server reads are the
first of them, each with the statement, the parameters and the settings of its
draft.
-/

namespace Seabolt

open BoltValue Entries PackStream

/-! ## Commands -/

/-- What a message tells the server. -/
inductive Command where
  | run (cypher : List UInt8) (parameters : List (BoltValue × BoltValue))
    (settings : List UInt8 → Option BoltValue)
  | begin (settings : List UInt8 → Option BoltValue)
  | commit
  | rollback
  | discard
  | pull
  | reset

/-- The message tells the server the command.  The first two versions have no
message for a transaction, and run a statement instead. -/
def Command.Told (version : ProtocolVersion) : Command → BoltMessage → Prop
  | run cypher parameters settings, message =>
    match version with
    | .v1 | .v2 =>
      message = { code := BOLT_V1_RUN, fields := [string cypher, dictionary parameters] }
    | .v3 => ∃ entries, Represents entries (underStrings settings) ∧ message =
      { code := BOLT_V3_RUN,
        fields := [string cypher, dictionary parameters, dictionary entries] }
  | begin settings, message => ∃ entries, Represents entries (underStrings settings) ∧
    match version with
    | .v1 | .v2 => message =
      { code := BOLT_V1_RUN, fields := [string (ascii "BEGIN"), dictionary entries] }
    | .v3 => message = { code := BOLT_V3_BEGIN, fields := [dictionary entries] }
  | commit, message =>
    match version with
    | .v1 | .v2 => message = createRunMessage (ascii "COMMIT") 0
    | .v3 => message = .create BOLT_V3_COMMIT 0
  | rollback, message =>
    match version with
    | .v1 | .v2 => message = createRunMessage (ascii "ROLLBACK") 0
    | .v3 => message = .create BOLT_V3_ROLLBACK 0
  | discard, message => message = .create BOLT_V1_DISCARD_ALL 0
  | pull, message => message = .create BOLT_V1_PULL_ALL 0
  | reset, message => message = .create BOLT_V1_RESET 0

/-- The value that the server reads is that of a message with the command. -/
def Command.Read (version : ProtocolVersion) (command : Command) (value : BoltValue) : Prop :=
  ∃ message, command.Told version message ∧ value = message.value.canon

/-! ## Drafts -/

/-- What the caller has set so far. -/
structure Draft where
  access_mode : BoltAccessMode
  cypher : List UInt8
  parameters : List (BoltValue × BoltValue)
  settings : TxRequest → List UInt8 → Option BoltValue

namespace Draft

/-- Nothing has been set. -/
def blank (access_mode : BoltAccessMode) : Draft where
  access_mode := access_mode
  cypher := []
  parameters := []
  settings := fun _ _ => none

/-- The draft with other settings for a request. -/
def withSettings (draft : Draft) (target : TxRequest) (map : List UInt8 → Option BoltValue) :
    Draft :=
  { draft with settings := Function.update draft.settings target map }

/-- A setter.  The first two versions have bookmarks of a BEGIN only, and NULL
takes them away. -/
def set (version : ProtocolVersion) (target : TxRequest) (setting : Setting) (draft : Draft) :
    Draft :=
  match version, target, setting with
  | .v3, target, setting => draft.withSettings target (setting.update (draft.settings target))
  | _, .begin, .bookmarks none => draft.withSettings .begin fun _ => none
  | _, .begin, .bookmarks (some bookmark_list) =>
    draft.withSettings .begin
      ((Setting.bookmarks (some bookmark_list)).update (draft.settings .begin))
  | _, _, _ => draft

/-- A load.  The third version sets the access mode, and it stays until the
request is cleared. -/
def load (version : ProtocolVersion) (target : TxRequest) (draft : Draft) : Draft :=
  match version with
  | .v1 | .v2 => draft
  | .v3 => draft.withSettings target
      (withMode (draft.access_mode == .read) (draft.settings target))

/-- The key of a parameter: the length of its name is cast to `int32_t`. -/
def parameterKey (name : List UInt8) : BoltValue :=
  string (name.take (Int.bmod name.length 0x100000000).toNat)

/-- The draft after a request. -/
def after (version : ProtocolVersion) (draft : Draft) : Request → Draft
  | .clearBegin => draft.withSettings .begin fun _ => none
  | .setBeginBookmarks bookmark_list => draft.set version .begin (.bookmarks bookmark_list)
  | .setBeginTxTimeout timeout => draft.set version .begin (.timeout timeout)
  | .setBeginTxMetadata metadata => draft.set version .begin (.metadata metadata)
  | .loadBeginRequest => draft.load version .begin
  | .clearRun =>
    { draft.withSettings .run fun _ => none with cypher := [], parameters := [] }
  | .setRunCypher cypher n_parameter =>
    if cypher.length ≤ INT32_MAX then
      { draft with
        cypher := cypher, parameters := resize draft.parameters n_parameter (null, null) }
    else draft
  | .setRunCypherParameter index name write =>
    { draft with parameters := draft.parameters.modify index fun entry =>
        (parameterKey name, write entry.2) }
  | .setRunBookmarks bookmark_list => draft.set version .run (.bookmarks bookmark_list)
  | .setRunTxTimeout timeout => draft.set version .run (.timeout timeout)
  | .setRunTxMetadata metadata => draft.set version .run (.metadata metadata)
  | .loadRunRequest => draft.load version .run
  | _ => draft

/-- The command that a request would be loaded with. -/
def command (draft : Draft) : TxRequest → Command
  | .begin => .begin (draft.settings .begin)
  | .run => .run draft.cypher draft.parameters (draft.settings .run)

/-- What the first two versions load behind the statement of a transaction. -/
def behind : ProtocolVersion → List Command
  | .v1 | .v2 => [.discard]
  | .v3 => []

/-- The commands of a request. -/
def commands (version : ProtocolVersion) (draft : Draft) : Request → List Command
  | .loadBeginRequest => (draft.load version .begin).command .begin :: behind version
  | .loadCommitRequest => .commit :: behind version
  | .loadRollbackRequest => .rollback :: behind version
  | .loadRunRequest => [(draft.load version .run).command .run]
  | .loadDiscardRequest n => if n ≥ 0 then [] else [.discard]
  | .loadPullRequest n => if n ≥ 0 then [] else [.pull]
  | .loadResetRequest => [.reset]
  | _ => []

/-- The commands of calls with their results: a request that fails has none. -/
def told (version : ProtocolVersion) : Draft → List Outbound.Call → List Int → List Command
  | draft, .load request :: calls, result :: results =>
    (if result = BOLT_SUCCESS then draft.commands version request else []) ++
      told version (draft.after version request) calls results
  | draft, .send :: calls, _ :: results => told version draft calls results
  | _, _, _ => []

end Draft

/-! ## Prepared messages of a draft -/

/-- The first two versions have bookmarks of a BEGIN only. -/
def Draft.Plain (version : ProtocolVersion) (draft : Draft) : Prop :=
  version ≠ .v3 → ∀ target key, draft.settings target key ≠ none →
    target = .begin ∧ key = BOOKMARKS_KEY

/-- The prepared messages of a session are those of the draft. -/
structure Drafted (version : ProtocolVersion) (draft : Draft) (session : Session) : Prop where
  mode : session.1.access_mode = draft.access_mode
  command : ∀ target, (draft.command target).Told version (TxRequest.message target session.2)
  others : session.2.prepared = { version.fresh with
    run_request := session.2.run_request, begin_request := session.2.begin_request }
  plain : draft.Plain version

variable {version : ProtocolVersion} {draft draft' : Draft} {session session' : Session}
  {status : Int} {message message' : BoltMessage} {target : TxRequest}
  {check : CheckStructSignature}

/-- A function of the protocol takes the prepared messages from one draft to
another. -/
def Redrafts (version : ProtocolVersion) (draft draft' : Draft) (f : Session → Outcome Session) :
    Prop :=
  ∀ session status session', Drafted version draft session → f session = some (status, session') →
    Drafted version draft' session'

/-- Only the prepared messages and the access mode matter. -/
theorem Drafted.of_prepared (h : Drafted version draft session)
    (hmode : session'.1.access_mode = session.1.access_mode)
    (hprepared : session'.2.prepared = session.2.prepared) : Drafted version draft session' := by
  have hrun : session'.2.run_request = session.2.run_request :=
    congrArg PreparedMessages.run_request hprepared
  have hbegin : session'.2.begin_request = session.2.begin_request :=
    congrArg PreparedMessages.begin_request hprepared
  refine ⟨hmode.trans h.mode, fun target => ?_, ?_, h.plain⟩
  · have hmessage : target.message session'.2 = target.message session.2 := by
      cases target with
      | begin => exact hbegin
      | run => exact hrun
    rw [hmessage]
    exact h.command target
  · rw [hprepared, hrun, hbegin]
    exact h.others

/-- One of the two messages that can be set is another. -/
theorem Drafted.prepare (h : Drafted version draft session)
    (hmode : draft'.access_mode = draft.access_mode)
    (htold : (draft'.command target).Told version message)
    (hother : ∀ other, other ≠ target → draft'.command other = draft.command other)
    (hplain : draft'.Plain version) : Drafted version draft' (target.prepare message session) := by
  obtain ⟨connection, state⟩ := session
  have hothers := h.others
  simp only [BoltProtocolState.prepared, PreparedMessages.mk.injEq] at hothers
  obtain ⟨-, -, hcommit, hrollback, hdiscard, hpull, hreset⟩ := hothers
  cases target with
  | begin =>
    refine ⟨h.mode.trans hmode.symm, fun target => ?_, ?_, hplain⟩
    · cases target with
      | begin => exact htold
      | run =>
        rw [hother .run (by decide)]
        exact h.command .run
    · simp only [TxRequest.prepare, BoltProtocolState.prepared, hcommit, hrollback, hdiscard,
        hpull, hreset]
  | run =>
    refine ⟨h.mode.trans hmode.symm, fun target => ?_, ?_, hplain⟩
    · cases target with
      | run => exact htold
      | begin =>
        rw [hother .begin (by decide)]
        exact h.command .begin
    · simp only [TxRequest.prepare, BoltProtocolState.prepared, hcommit, hrollback, hdiscard,
        hpull, hreset]

theorem Redrafts.same (status : Int) :
    Redrafts version draft draft fun session => some (status, session) := by
  intro session status session' h hsame
  obtain ⟨-, rfl⟩ := Prod.mk.inj (Option.some.inj hsame)
  exact h

theorem Redrafts.TRY {f g : Session → Outcome Session} (hf : Redrafts version draft draft' f)
    (hg : Redrafts version draft' draft' g) :
    Redrafts version draft draft' fun session => Outcome.TRY (f session) g := by
  intro session status session' h hboth
  rcases Outcome.TRY_cases hboth with ⟨-, hfirst⟩ | ⟨middle, hfirst, hsecond⟩
  · exact hf _ _ _ h hfirst
  · exact hg _ _ _ (hf _ _ _ h hfirst) hsecond

theorem Redrafts.loadMessage (select : Session → BoltMessage) :
    Redrafts version draft draft fun session => loadMessage check (select session) session := by
  intro session status session' h hload
  have hsame := loadMessage_same hload
  exact h.of_prepared hsame.access_mode hsame.prepared

theorem Redrafts.loadAll (select : BoltProtocolState → BoltMessage) (n : Int) :
    Redrafts version draft draft (Seabolt.loadAll check select n) := by
  unfold Seabolt.loadAll
  split_ifs
  · exact .same _
  · exact .loadMessage fun session => select session.2

theorem Redrafts.loadReset :
    Redrafts version draft draft (Seabolt.loadReset check) := by
  refine TRY (loadMessage fun session => session.2.reset_request) ?_
  intro session status session' h hcleared
  obtain ⟨-, rfl⟩ := Prod.mk.inj (Option.some.inj hcleared)
  exact h.of_prepared rfl rfl

theorem Redrafts.loadAndDiscard (select : BoltProtocolState → BoltMessage) :
    Redrafts version draft draft (BoltProtocolV1.loadAndDiscard check select) :=
  TRY (loadMessage fun session => select session.2)
    (loadMessage fun session => session.2.discard_request)

/-- A change of one of the two messages that can be set. -/
theorem Redrafts.onRequest {change : BoltAccessMode → BoltMessage → Outcome BoltMessage}
    (hchange : draft.Plain version → ∀ message status message',
      (draft.command target).Told version message →
      change draft.access_mode message = some (status, message') →
      (draft'.command target).Told version message')
    (hmode : draft'.access_mode = draft.access_mode)
    (hother : ∀ other, other ≠ target → draft'.command other = draft.command other)
    (hplain : draft.Plain version → draft'.Plain version) :
    Redrafts version draft draft' fun session =>
      target.onRequest (change session.1.access_mode) session := by
  intro session status session' h hcall
  obtain ⟨message, hmessage, rfl⟩ := TxRequest.onRequest_cases hcall
  rw [h.mode] at hmessage
  exact h.prepare hmode (hchange h.plain _ _ _ (h.command target) hmessage) hother (hplain h.plain)

/-! ## The setters of the statement -/

/-- Another statement and other parameters in the RUN. -/
theorem Command.Told.run_cases {cypher : List UInt8} {parameters : List (BoltValue × BoltValue)}
    {settings : List UInt8 → Option BoltValue}
    (h : (Command.run cypher parameters settings).Told version message) :
    ∃ rest, message.fields = string cypher :: dictionary parameters :: rest ∧
      ∀ cypher' parameters', (Command.run cypher' parameters' settings).Told version
        { message with fields := string cypher' :: dictionary parameters' :: rest } := by
  cases version with
  | v1 | v2 =>
    obtain rfl := h
    exact ⟨[], rfl, fun _ _ => rfl⟩
  | v3 =>
    obtain ⟨entries, hentries, rfl⟩ := h
    exact ⟨[dictionary entries], rfl, fun _ _ => ⟨entries, hentries, rfl⟩⟩

/-- A draft with another statement and other parameters. -/
theorem redrafts_run {change : BoltMessage → Outcome BoltMessage} {cypher : List UInt8}
    {parameters : List (BoltValue × BoltValue)}
    (hchange : ∀ message status message' rest,
      message.fields = string draft.cypher :: dictionary draft.parameters :: rest →
      change message = some (status, message') →
      message' = { message with fields := string cypher :: dictionary parameters :: rest }) :
    Redrafts version draft { draft with cypher := cypher, parameters := parameters }
      (onRunRequest change) := by
  refine @Redrafts.onRequest version draft _ .run (fun _ => change) ?_ rfl ?_ id
  · intro _ message status message' htold hmessage
    obtain ⟨rest, hfields, hrest⟩ := htold.run_cases
    rw [hchange message status message' rest hfields hmessage]
    exact hrest cypher parameters
  · intro other hother
    cases other with
    | begin => rfl
    | run => exact absurd rfl hother

theorem redrafts_setRunCypher (cypher : List UInt8) (n_parameter : Nat) :
    Redrafts version draft (draft.after version (.setRunCypher cypher n_parameter))
      (Seabolt.setRunCypher cypher n_parameter) := by
  unfold Seabolt.setRunCypher
  simp only [Draft.after]
  split_ifs with hlength
  · refine redrafts_run fun message status message' rest hfields hchange => ?_
    rcases Outcome.TRY_cases hchange with ⟨hfailed, hfirst⟩ | ⟨middle, hfirst, hsecond⟩
    · exact absurd (update_always hfirst).1 hfailed
    obtain ⟨_, _, -, hnew, rfl⟩ := update_cases hfirst
    obtain ⟨-, rfl⟩ := Prod.mk.inj (Option.some.inj hnew)
    obtain ⟨_, _, hold, hnew, rfl⟩ := update_cases hsecond
    obtain ⟨-, rfl⟩ := Prod.mk.inj (Option.some.inj hnew)
    simp only [hfields, List.set_cons_zero, List.set_cons_succ, List.getElem?_cons_succ,
      List.getElem?_cons_zero, Option.some.injEq] at hold ⊢
    rw [← hold]
    rfl
  · exact .same _

theorem formatAsString_eq {name : List UInt8} {key : BoltValue}
    (h : formatAsString name = some key) : key = Draft.parameterKey name := by
  unfold formatAsString at h
  dsimp only at h
  split_ifs at h
  exact (Option.some.inj h).symm

theorem redrafts_setRunCypherParameter (index : Nat) (name : List UInt8)
    (write : BoltValue → BoltValue) :
    Redrafts version draft (draft.after version (.setRunCypherParameter index name write))
      (Seabolt.setRunCypherParameter index name write) := by
  unfold Seabolt.setRunCypherParameter
  refine redrafts_run fun message status message' rest hfields hchange => ?_
  obtain ⟨old, new, hold, hnew, rfl⟩ := update_cases hchange
  simp only [hfields, List.getElem?_cons_succ, List.getElem?_cons_zero, Option.some.injEq] at hold
  subst hold
  dsimp only at hnew
  split_ifs at hnew
  obtain ⟨key, hkey, hresult⟩ := Option.map_eq_some_iff.mp hnew
  obtain ⟨-, rfl⟩ := Prod.mk.inj hresult
  simp only [hfields, List.set_cons_zero, List.set_cons_succ, formatAsString_eq hkey]

/-! ## Settings -/

theorem represents_blank : Represents [] (underStrings fun _ => none) := by
  have hnone : underStrings (fun _ => none) = fun _ => none := by
    funext key
    cases key <;> rfl
  rw [hnone]
  exact represents_nil

namespace Draft

@[simp] theorem settings_withSettings (map : List UInt8 → Option BoltValue) :
    (draft.withSettings target map).settings target = map := Function.update_self _ _ _

theorem command_withSettings_other {other : TxRequest} (hother : other ≠ target)
    (map : List UInt8 → Option BoltValue) :
    (draft.withSettings target map).command other = draft.command other := by
  have hsame : (draft.withSettings target map).settings other = draft.settings other :=
    Function.update_of_ne hother _ _
  cases other with
  | begin => exact congrArg Command.begin hsame
  | run => exact congrArg (Command.run draft.cypher draft.parameters) hsame

theorem plain_v3 (draft : Draft) : draft.Plain .v3 := fun h => absurd rfl h

/-- Settings of a BEGIN with bookmarks only. -/
theorem Plain.withBookmarks (h : draft.Plain version) {map : List UInt8 → Option BoltValue}
    (honly : ∀ key, map key ≠ none → key = BOOKMARKS_KEY) :
    (draft.withSettings .begin map).Plain version := by
  intro hversion target key hkey
  cases target with
  | begin =>
    rw [settings_withSettings] at hkey
    exact ⟨rfl, honly key hkey⟩
  | run => exact h hversion .run key hkey

end Draft

/-- The settings of a request are changed in the metadata of its message. -/
theorem Command.Told.update_v3 {change : BoltValue → Outcome BoltValue}
    {map : List UInt8 → Option BoltValue}
    (hchange : ∀ entries status value, Represents entries (underStrings (draft.settings target)) →
      change (dictionary entries) = some (status, value) →
      ∃ entries', value = dictionary entries' ∧ Represents entries' (underStrings map))
    (h : (draft.command target).Told .v3 message)
    (hupdate : message.update target.index change = some (status, message')) :
    ((draft.withSettings target map).command target).Told .v3 message' := by
  obtain ⟨old, new, hold, hnew, rfl⟩ := update_cases hupdate
  cases target with
  | begin =>
    obtain ⟨entries, hentries, rfl⟩ := h
    obtain rfl := Option.some.inj hold
    obtain ⟨entries', rfl, hentries'⟩ := hchange entries status new hentries hnew
    refine ⟨entries', ?_, rfl⟩
    rwa [Draft.settings_withSettings]
  | run =>
    obtain ⟨entries, hentries, rfl⟩ := h
    obtain rfl := Option.some.inj hold
    obtain ⟨entries', rfl, hentries'⟩ := hchange entries status new hentries hnew
    refine ⟨entries', ?_, rfl⟩
    rwa [Draft.settings_withSettings]

/-- A change of the settings of a request in the third version. -/
theorem redrafts_settings_v3 {change : BoltAccessMode → BoltValue → Outcome BoltValue}
    {map : List UInt8 → Option BoltValue}
    (hchange : ∀ entries status value, Represents entries (underStrings (draft.settings target)) →
      change draft.access_mode (dictionary entries) = some (status, value) →
      ∃ entries', value = dictionary entries' ∧ Represents entries' (underStrings map)) :
    Redrafts .v3 draft (draft.withSettings target map) fun session =>
      target.onRequest (·.update target.index (change session.1.access_mode)) session :=
  @Redrafts.onRequest .v3 draft _ target
    (fun access_mode message => message.update target.index (change access_mode))
    (fun _ _ _ _ htold hupdate => htold.update_v3 hchange hupdate) rfl
    (fun _ hother => Draft.command_withSettings_other hother map) fun _ => Draft.plain_v3 _

theorem redrafts_set_v3 (setting : Setting) :
    Redrafts .v3 draft (draft.set .v3 target setting)
      (target.onRequest (·.update target.index setting.call)) := by
  have hset : draft.set .v3 target setting =
      draft.withSettings target (setting.update (draft.settings target)) := by
    cases target <;> cases setting <;> rfl
  rw [hset]
  refine @redrafts_settings_v3 draft target (fun _ => setting.call) _ ?_
  intro entries status value hentries hcall
  obtain ⟨entries', rfl, hsets⟩ := setting.call_sets hentries hcall
  exact ⟨entries', rfl, hsets.represents⟩

theorem redrafts_load_v3 :
    Redrafts .v3 draft (draft.load .v3 target) (BoltProtocolV3.request check target.load) := by
  have hmode : Redrafts .v3 draft (draft.load .v3 target) fun session =>
      target.onRequest (·.update target.index (setAccessMode session.1.access_mode)) session := by
    refine redrafts_settings_v3 fun entries status value hentries hcall => ?_
    obtain ⟨entries', hmode, hentries'⟩ :=
      setAccessMode_represents hentries draft.access_mode
    obtain ⟨-, rfl⟩ := Prod.mk.inj (Option.some.inj (hcall.symm.trans hmode))
    exact ⟨entries', rfl, hentries'⟩
  intro session status session' h hload
  rw [TxRequest.request_load] at hload
  exact hmode.TRY (.loadMessage fun session => target.message session.2) _ _ _ h hload

/-! ## Clearing -/

theorem Draft.Plain.cleared (h : draft.Plain version) :
    (draft.withSettings target fun _ => none).Plain version := by
  intro hversion other key hkey
  by_cases hsame : other = target
  · subst hsame
    rw [settings_withSettings] at hkey
    exact absurd rfl hkey
  · have hother : (draft.withSettings target fun _ => none).settings other =
        draft.settings other := Function.update_of_ne hsame _ _
    rw [hother] at hkey
    exact h hversion other key hkey

/-- Clearing the BEGIN. -/
theorem redrafts_clearBegin {index : Nat}
    (hchange : ∀ message status message', (draft.command .begin).Told version message →
      message.update index (always (·.formatAsDictionary 0)) = some (status, message') →
      (Command.begin fun _ => none).Told version message') :
    Redrafts version draft (draft.withSettings .begin fun _ => none)
      (onBeginRequest (·.update index (always (·.formatAsDictionary 0)))) := by
  refine @Redrafts.onRequest version draft _ .begin
    (fun _ => (·.update index (always (·.formatAsDictionary 0)))) ?_ rfl ?_ .cleared
  · intro _ message status message' htold hclear
    have hcommand : (draft.withSettings .begin fun _ => none).command .begin =
        .begin fun _ => none := congrArg Command.begin (Draft.settings_withSettings _)
    rw [hcommand]
    exact hchange message status message' htold hclear
  · exact fun other hother => Draft.command_withSettings_other hother _

/-- Clearing the RUN. -/
theorem redrafts_clearRun {change : BoltMessage → Outcome BoltMessage}
    (hchange : ∀ message status message', (draft.command .run).Told version message →
      change message = some (status, message') →
      (Command.run [] [] fun _ => none).Told version message') :
    Redrafts version draft (draft.after version .clearRun) (onRunRequest change) := by
  refine @Redrafts.onRequest version draft _ .run (fun _ => change) ?_ rfl ?_
    fun hplain => @Draft.Plain.cleared _ _ .run hplain
  · intro _ message status message' htold hclear
    have hcommand : (draft.after version .clearRun).command .run = .run [] [] fun _ => none :=
      congrArg (Command.run [] []) (@Draft.settings_withSettings draft .run _)
    rw [hcommand]
    exact hchange message status message' htold hclear
  · intro other hother
    cases other with
    | begin => exact @Draft.command_withSettings_other draft .run .begin hother fun _ => none
    | run => exact absurd rfl hother

theorem Command.told_run_v1 (hversion : version ≠ .v3) {cypher : List UInt8}
    {parameters : List (BoltValue × BoltValue)} {settings : List UInt8 → Option BoltValue} :
    (Command.run cypher parameters settings).Told version message ↔ message =
      { code := BOLT_V1_RUN, fields := [string cypher, dictionary parameters] } := by
  cases version with
  | v1 | v2 => exact Iff.rfl
  | v3 => exact absurd rfl hversion

theorem Command.Told.clearRun_v1 (hversion : version ≠ .v3) {cypher : List UInt8}
    {parameters : List (BoltValue × BoltValue)} {settings : List UInt8 → Option BoltValue}
    (h : (Command.run cypher parameters settings).Told version message)
    (hclear : Outcome.TRY (message.update 0 (always fun _ => string [])) (fun message =>
      message.update 1 (always (·.formatAsDictionary 0))) = some (status, message')) :
    (Command.run [] [] fun _ => none).Told version message' := by
  obtain rfl := (told_run_v1 hversion).mp h
  simp only [formatAsDictionary_zero] at hclear
  obtain ⟨-, rfl⟩ := Prod.mk.inj (Option.some.inj hclear)
  exact (told_run_v1 hversion).mpr rfl

theorem Command.Told.clearRun_v3 {cypher : List UInt8} {parameters : List (BoltValue × BoltValue)}
    {settings : List UInt8 → Option BoltValue}
    (h : (Command.run cypher parameters settings).Told .v3 message)
    (hclear : BoltProtocolV3.clearRunMessage message = some (status, message')) :
    (Command.run [] [] fun _ => none).Told .v3 message' := by
  obtain ⟨entries, -, rfl⟩ := h
  simp only [BoltProtocolV3.clearRunMessage, formatAsDictionary_zero] at hclear
  obtain ⟨-, rfl⟩ := Prod.mk.inj (Option.some.inj hclear)
  exact ⟨[], represents_blank, rfl⟩

/-! ## The bookmarks of the first two versions -/

theorem Command.told_begin_v1 (hversion : version ≠ .v3)
    {settings : List UInt8 → Option BoltValue} :
    (Command.begin settings).Told version message ↔
      ∃ entries, Represents entries (underStrings settings) ∧ message =
        { code := BOLT_V1_RUN, fields := [string (ascii "BEGIN"), dictionary entries] } := by
  cases version with
  | v1 | v2 => exact Iff.rfl
  | v3 => exact absurd rfl hversion

theorem Command.Told.clearBegin_v1 (hversion : version ≠ .v3)
    {settings : List UInt8 → Option BoltValue} (h : (Command.begin settings).Told version message)
    (hclear : message.update 1 (always (·.formatAsDictionary 0)) = some (status, message')) :
    (Command.begin fun _ => none).Told version message' := by
  obtain ⟨entries, -, rfl⟩ := (told_begin_v1 hversion).mp h
  simp only [formatAsDictionary_zero] at hclear
  obtain ⟨-, rfl⟩ := Prod.mk.inj (Option.some.inj hclear)
  exact (told_begin_v1 hversion).mpr ⟨[], represents_blank, rfl⟩

theorem Command.Told.clearBegin_v3 {settings : List UInt8 → Option BoltValue}
    (h : (Command.begin settings).Told .v3 message)
    (hclear : BoltProtocolV3.clearBeginTxMessage message = some (status, message')) :
    (Command.begin fun _ => none).Told .v3 message' := by
  obtain ⟨entries, -, rfl⟩ := h
  simp only [BoltProtocolV3.clearBeginTxMessage, formatAsDictionary_zero] at hclear
  obtain ⟨-, rfl⟩ := Prod.mk.inj (Option.some.inj hclear)
  exact ⟨[], represents_blank, rfl⟩

/-- The bookmarks are the only entry. -/
theorem represents_bookmarks {entries : List (BoltValue × BoltValue)}
    {map : List UInt8 → Option BoltValue} (h : Represents entries (underStrings map))
    (honly : ∀ key, map key ≠ none → key = BOOKMARKS_KEY) {bookmark_list value : BoltValue}
    (hset : BoltProtocolV1.setBookmarks bookmark_list (dictionary entries) = some (status, value)) :
    ∃ entries', value = dictionary entries' ∧
      Represents entries' (underStrings fun key =>
        if key = BOOKMARKS_KEY then some bookmark_list.canon else map key) := by
  have hkeys : ∀ other, underStrings map other ≠ none → other = string BOOKMARKS_KEY := by
    intro other hother
    cases other with
    | string key => exact congrArg string (honly key hother)
    | _ => exact absurd rfl hother
  obtain ⟨⟨_, entries'⟩, hentries, hresult⟩ := Option.map_eq_some_iff.mp hset
  obtain ⟨rfl, rfl⟩ := Prod.mk.inj hresult
  obtain ⟨copied, hcopy, hresult⟩ := Option.map_eq_some_iff.mp hentries
  obtain ⟨rfl, rfl⟩ := Prod.mk.inj hresult
  rw [copy_eq_canon bookmark_list null (copyable_of_copy bookmark_list null copied hcopy)] at hcopy
  obtain rfl := Option.some.inj hcopy
  refine ⟨_, rfl, ?_⟩
  have hsingle : Represents ([] ++ [(string BOOKMARKS_KEY, bookmark_list.canon)])
      (underStrings fun key =>
        if key = BOOKMARKS_KEY then some bookmark_list.canon else map key) := by
    have hvalue : underStrings (fun key => if key = BOOKMARKS_KEY then some bookmark_list.canon
        else map key) (string BOOKMARKS_KEY) = some bookmark_list.canon := by
      rw [underStrings, if_pos rfl]
    refine represents_nil.add rfl hvalue fun other hother => ?_
    cases other with
    | string key =>
      refine (if_neg fun hkey => hother (congrArg string hkey)).trans ?_
      exact not_not.mp fun hsome => hother (hkeys (string key) hsome)
    | _ => rfl
  rcases h.nil_or_single hkeys with rfl | ⟨old, rfl⟩
  · exact hsingle
  · exact hsingle

/-- The settings of the BEGIN with another list of bookmarks, or with none. -/
theorem redrafts_setBookmarks_v1 (hversion : version ≠ .v3) (bookmark_list : Option BoltValue) :
    Redrafts version draft (draft.set version .begin (.bookmarks bookmark_list))
      (BoltProtocolV1.setBeginTxBookmark bookmark_list) := by
  cases bookmark_list with
  | none =>
    have hset : draft.set version .begin (.bookmarks none) =
        draft.withSettings .begin fun _ => none := by
      cases version with
      | v1 | v2 => rfl
      | v3 => exact absurd rfl hversion
    rw [hset]
    exact redrafts_clearBegin fun _ _ _ htold hclear => htold.clearBegin_v1 hversion hclear
  | some bookmark_list =>
    have hset : draft.set version .begin (.bookmarks (some bookmark_list)) =
        draft.withSettings .begin
          ((Setting.bookmarks (some bookmark_list)).update (draft.settings .begin)) := by
      cases version with
      | v1 | v2 => rfl
      | v3 => exact absurd rfl hversion
    rw [hset]
    unfold BoltProtocolV1.setBeginTxBookmark
    dsimp only
    split_ifs with hwell
    · have hupdated : (Setting.bookmarks (some bookmark_list)).update (draft.settings .begin) =
          fun key => if key = BOOKMARKS_KEY then some bookmark_list.canon
            else draft.settings .begin key := by
        funext key
        rw [Setting.update]
        by_cases hkey : key = BOOKMARKS_KEY
        · rw [if_pos ⟨hkey.symm, hwell⟩, if_pos hkey]
          rfl
        · rw [if_neg fun hboth => hkey hboth.1.symm, if_neg hkey]
      refine @Redrafts.onRequest version draft _ .begin
        (fun _ message => message.update 1 (BoltProtocolV1.setBookmarks bookmark_list)) ?_ rfl
        (fun other hother => Draft.command_withSettings_other hother _) ?_
      · intro hplain message status message' htold hupdate
        obtain ⟨entries, hentries, rfl⟩ := (Command.told_begin_v1 hversion).mp htold
        obtain ⟨old, new, hold, hnew, rfl⟩ := update_cases hupdate
        obtain rfl := Option.some.inj hold
        obtain ⟨entries', rfl, hentries'⟩ := represents_bookmarks hentries
          (fun key hkey => (hplain hversion .begin key hkey).2) hnew
        refine (Command.told_begin_v1 hversion).mpr ⟨entries', ?_, rfl⟩
        rw [Draft.settings_withSettings, hupdated]
        exact hentries'
      · refine fun hplain => hplain.withBookmarks fun key hkey => ?_
        rw [hupdated] at hkey
        by_contra hother
        simp only [hother, if_false] at hkey
        exact hother (hplain hversion .begin key hkey).2
    · have hsame : (Setting.bookmarks (some bookmark_list)).update (draft.settings .begin) =
          draft.settings .begin := funext fun key => if_neg fun hboth => hwell hboth.2
      rw [hsame, Draft.withSettings, Function.update_eq_self]
      exact .same _

/-! ## Requests -/

/-- What the functions of the first two versions do to the draft. -/
theorem BoltProtocolV1.request_redrafts (hversion : version ≠ .v3) (request : Request) :
    Redrafts version draft (draft.after version request)
      (BoltProtocolV1.request check request) := by
  cases version with
  | v1 | v2 =>
    cases request with
    | clearBegin => exact redrafts_clearBegin fun _ _ _ h hclear => h.clearBegin_v1 hversion hclear
    | setBeginBookmarks bookmark_list => exact redrafts_setBookmarks_v1 hversion bookmark_list
    | setBeginTxTimeout timeout | setBeginTxMetadata metadata | setRunBookmarks bookmark_list
    | setRunTxTimeout timeout | setRunTxMetadata metadata => exact .same _
    | loadBeginRequest | loadCommitRequest | loadRollbackRequest => exact .loadAndDiscard _
    | clearRun => exact redrafts_clearRun fun _ _ _ h hclear => h.clearRun_v1 hversion hclear
    | setRunCypher cypher n_parameter => exact redrafts_setRunCypher cypher n_parameter
    | setRunCypherParameter index name write =>
      exact redrafts_setRunCypherParameter index name write
    | loadRunRequest => exact .loadMessage fun session => session.2.run_request
    | loadDiscardRequest n | loadPullRequest n => exact .loadAll _ n
    | loadResetRequest => exact .loadReset
  | v3 => exact absurd rfl hversion

/-- What the functions of the third version do to the draft. -/
theorem BoltProtocolV3.request_redrafts (request : Request) :
    Redrafts .v3 draft (draft.after .v3 request) (BoltProtocolV3.request check request) := by
  cases request with
  | clearBegin => exact redrafts_clearBegin fun _ _ _ h hclear => h.clearBegin_v3 hclear
  | setBeginBookmarks bookmark_list =>
    exact @redrafts_set_v3 draft .begin (.bookmarks bookmark_list)
  | setBeginTxTimeout timeout => exact @redrafts_set_v3 draft .begin (.timeout timeout)
  | setBeginTxMetadata metadata => exact @redrafts_set_v3 draft .begin (.metadata metadata)
  | loadBeginRequest => exact @redrafts_load_v3 draft .begin check
  | loadCommitRequest => exact .loadMessage fun session => session.2.commit_request
  | loadRollbackRequest => exact .loadMessage fun session => session.2.rollback_request
  | clearRun => exact redrafts_clearRun fun _ _ _ h hclear => h.clearRun_v3 hclear
  | setRunCypher cypher n_parameter => exact redrafts_setRunCypher cypher n_parameter
  | setRunCypherParameter index name write =>
    exact redrafts_setRunCypherParameter index name write
  | setRunBookmarks bookmark_list => exact @redrafts_set_v3 draft .run (.bookmarks bookmark_list)
  | setRunTxTimeout timeout => exact @redrafts_set_v3 draft .run (.timeout timeout)
  | setRunTxMetadata metadata => exact @redrafts_set_v3 draft .run (.metadata metadata)
  | loadRunRequest => exact @redrafts_load_v3 draft .run check
  | loadDiscardRequest n | loadPullRequest n => exact .loadAll _ n
  | loadResetRequest => exact .loadReset

theorem ProtocolVersion.request_redrafts (version : ProtocolVersion) (request : Request) :
    Redrafts version draft (draft.after version request) (version.request request) := by
  cases version with
  | v1 => exact BoltProtocolV1.request_redrafts (by decide) request
  | v2 => exact BoltProtocolV1.request_redrafts (by decide) request
  | v3 => exact BoltProtocolV3.request_redrafts request

/-- A prepared message with the access mode. -/
theorem Command.Told.withAccessMode (h : (draft.command target).Told .v3 message) :
    ((draft.load .v3 target).command target).Told .v3
      (message.withAccessMode target.index draft.access_mode) := by
  have hfield : ∃ entries, Represents entries (underStrings (draft.settings target)) ∧
      message.fields[target.index]? = some (dictionary entries) := by
    cases target with
    | begin | run =>
      obtain ⟨entries, hentries, rfl⟩ := h
      exact ⟨entries, hentries, rfl⟩
  obtain ⟨entries, hentries, hold⟩ := hfield
  obtain ⟨entries', hmode, hentries'⟩ := setAccessMode_represents hentries draft.access_mode
  have hupdate := update_eq hold hmode
  rw [(update_setAccessMode hupdate).2]
  refine h.update_v3 (fun others status value hothers hcall => ?_) hupdate
  obtain ⟨others', hmode', hothers'⟩ := setAccessMode_represents hothers draft.access_mode
  obtain ⟨-, rfl⟩ := Prod.mk.inj (Option.some.inj (hcall.symm.trans hmode'))
  exact ⟨others', rfl, hothers'⟩

/-- The messages of a request have its commands. -/
theorem Drafted.commands (h : Drafted version draft session) (request : Request) :
    List.Forall₂ (Command.Told version) (draft.commands version request)
      (request.messages version session.1.access_mode session.2) := by
  have hothers := h.others
  simp only [BoltProtocolState.prepared, PreparedMessages.mk.injEq] at hothers
  obtain ⟨-, -, hcommit, hrollback, hdiscard, hpull, hreset⟩ := hothers
  have hbegin := h.command .begin
  have hrun := h.command .run
  have htold : Command.discard.Told version session.2.discard_request ∧
      Command.pull.Told version session.2.pull_request ∧
      Command.reset.Told version session.2.reset_request ∧
      Command.commit.Told version session.2.commit_request ∧
      Command.rollback.Told version session.2.rollback_request := by
    rw [hcommit, hrollback, hdiscard, hpull, hreset]
    cases version with
    | v1 | v2 | v3 => exact ⟨rfl, rfl, rfl, rfl, rfl⟩
  obtain ⟨hdiscard, hpull, hreset, hcommit, hrollback⟩ := htold
  cases request with
  | loadBeginRequest =>
    cases version with
    | v1 | v2 => exact .cons hbegin (.cons hdiscard .nil)
    | v3 =>
      rw [h.mode]
      exact .cons hbegin.withAccessMode .nil
  | loadCommitRequest =>
    cases version with
    | v1 | v2 => exact .cons hcommit (.cons hdiscard .nil)
    | v3 => exact .cons hcommit .nil
  | loadRollbackRequest =>
    cases version with
    | v1 | v2 => exact .cons hrollback (.cons hdiscard .nil)
    | v3 => exact .cons hrollback .nil
  | loadRunRequest =>
    cases version with
    | v1 | v2 => exact .cons hrun .nil
    | v3 =>
      rw [h.mode]
      exact .cons hrun.withAccessMode .nil
  | loadDiscardRequest n =>
    unfold Draft.commands Request.messages
    dsimp only
    split_ifs
    · exact .nil
    · exact .cons hdiscard .nil
  | loadPullRequest n =>
    unfold Draft.commands Request.messages
    dsimp only
    split_ifs
    · exact .nil
    · exact .cons hpull .nil
  | loadResetRequest => exact .cons hreset .nil
  | _ => exact .nil

/-! ## Runs -/

/-- A new protocol has a blank draft. -/
theorem drafted_fresh (connection : BoltConnection) {state : BoltProtocolState}
    (hfresh : state.prepared = version.fresh) :
    Drafted version (.blank connection.access_mode) (connection, state) := by
  have hrun : state.run_request = version.fresh.run_request :=
    congrArg PreparedMessages.run_request hfresh
  have hbegin : state.begin_request = version.fresh.begin_request :=
    congrArg PreparedMessages.begin_request hfresh
  refine ⟨rfl, fun target => ?_, ?_, fun _ target key hkey => absurd rfl hkey⟩
  · cases target with
    | begin =>
      show Command.Told version (.begin fun _ => none) state.begin_request
      rw [hbegin]
      cases version with
      | v1 | v2 | v3 => exact ⟨[], represents_blank, rfl⟩
    | run =>
      show Command.Told version (.run [] [] fun _ => none) state.run_request
      rw [hrun]
      cases version with
      | v1 | v2 => exact rfl
      | v3 => exact ⟨[], represents_blank, rfl⟩
  · rw [hfresh, hrun, hbegin]

namespace Outbound

variable {outbound outbound' : Outbound} {result : Int}

/-- The connection has the prepared messages of the draft. -/
structure Follows (version : ProtocolVersion) (draft : Draft) (outbound : Outbound) : Prop where
  prepared : outbound.connection.Prepared
  drafted : ∃ state, outbound.connection.protocol = some ⟨version, state⟩ ∧
    Drafted version draft (outbound.connection, state)

/-- A request loads its commands, or nothing when it fails. -/
theorem Follows.load (h : Follows version draft outbound) {request : Request}
    (hlimits : BoltConnection.WithinLimits request outbound.connection)
    (hstep : step (.load request) outbound = some (result, outbound')) :
    Follows version (draft.after version request) outbound' ∧
      ∃ new, outbound'.loaded = outbound.loaded ++ new ∧ List.Forall₂ (Command.Told version)
        (if result = BOLT_SUCCESS then draft.commands version request else []) new := by
  obtain ⟨hprepared, state, hprotocol, hdrafted⟩ := h
  unfold step at hstep
  split_ifs at hstep
  obtain ⟨⟨result', connection'⟩, hrequest, heq⟩ := Option.map_eq_some_iff.mp hstep
  obtain ⟨rfl, rfl⟩ := Prod.mk.inj heq
  obtain ⟨⟨version', state1, state2, hprotocol1, hprotocol2, hcase⟩, hprepared'⟩ :=
    BoltConnection.request_loadsAll hprepared hlimits hrequest
  rw [hprotocol] at hprotocol1
  obtain ⟨rfl, rfl⟩ := BoltProtocol.mk.inj (Option.some.inj hprotocol1)
  refine ⟨⟨hprepared', state2, hprotocol2, ?_⟩, _, rfl, ?_⟩
  · simp only [BoltConnection.request, hprotocol] at hrequest
    obtain ⟨⟨status, session'⟩, hcall, hresult⟩ := Option.map_eq_some_iff.mp hrequest
    have hfrom : Drafted version draft ({ outbound.connection with protocol := none }, state) :=
      hdrafted.of_prepared rfl rfl
    have hafter := version.request_redrafts request _ _ _ hfrom hcall
    obtain ⟨hkept, -, hmode⟩ := BoltConnection.tryStatus_kept status
      { session'.1 with protocol := some ⟨version, session'.2⟩ }
    have hfinal := congrArg Prod.snd hresult
    dsimp only at hfinal
    rw [hfinal] at hkept hmode
    rw [hprotocol2] at hkept
    obtain ⟨-, rfl⟩ := BoltProtocol.mk.inj (Option.some.inj hkept)
    exact hafter.of_prepared hmode rfl
  · have hloaded : loadedBy request outbound.connection connection' =
        (request.messages version outbound.connection.access_mode state).take
          (state2.next_request_id - state.next_request_id) := by
      rw [loadedBy, hprotocol, hprotocol2]
    rw [hloaded]
    rcases hcase with ⟨hfailed, hunchanged⟩ | ⟨hsuccess, payloads, hall, happended⟩
    · have hid : state2.next_request_id = state.next_request_id := hunchanged.id
      rw [if_neg hfailed, hid, Nat.sub_self, List.take_zero]
      exact .nil
    · have hid : state2.next_request_id = state.next_request_id + payloads.length := happended.id
      rw [if_pos hsuccess, hid, Nat.add_sub_cancel_left, ← hall.length_eq, List.take_length]
      exact hdrafted.commands request

theorem Follows.send (h : Follows version draft outbound)
    (hstep : step .send outbound = some (result, outbound')) :
    Follows version draft outbound' ∧ outbound'.loaded = outbound.loaded := by
  obtain ⟨⟨version', state', hprotocol', hready, hdiscard⟩, state, hprotocol, hdrafted⟩ := h
  have hsame := BoltConnection.send_same outbound.connection
  have hsent : outbound.connection.send.2.protocol = outbound.connection.protocol := by rw [hsame]
  have hmode : outbound.connection.send.2.access_mode = outbound.connection.access_mode := by
    rw [hsame]
  have hwf := (BoltConnection.send_tx hready.connection).1
  unfold step at hstep
  rcases hsend : outbound.connection.send with ⟨status, connection'⟩
  simp only [hsend] at hstep hsent hmode hwf
  split_ifs at hstep
  obtain ⟨rfl, rfl⟩ := Prod.mk.inj (Option.some.inj hstep)
  exact ⟨⟨⟨version', state', hsent.trans hprotocol', ⟨hwf, hready.state, hready.drained⟩, hdiscard⟩,
    state, hsent.trans hprotocol, hdrafted.of_prepared hmode rfl⟩, rfl⟩

/-- The messages that a run loads have the commands of its calls. -/
theorem Follows.run (calls : List Call) :
    ∀ {draft : Draft} {outbound final : Outbound} {results : List Int},
      Follows version draft outbound → Runs.Admissible step WithinLimits calls outbound →
      Runs.run step calls outbound = some (results, final) →
      ∃ new, final.loaded = outbound.loaded ++ new ∧
        List.Forall₂ (Command.Told version) (draft.told version calls results) new := by
  induction calls with
  | nil =>
    intro draft outbound final results h _ hrun
    obtain ⟨rfl, rfl⟩ := Prod.mk.inj (Option.some.inj hrun)
    exact ⟨[], (List.append_nil _).symm, .nil⟩
  | cons call calls ih =>
    intro draft outbound final results h hlimits hrun
    obtain ⟨result, middle, rest, hstep, hrest, rfl⟩ := Runs.run_uncons hrun
    cases call with
    | load request =>
      obtain ⟨hmiddle, first, hfirst, htold⟩ := h.load hlimits.1 hstep
      obtain ⟨new, hnew, htold'⟩ := ih hmiddle (hlimits.2 _ _ hstep) hrest
      exact ⟨first ++ new, by rw [hnew, hfirst, List.append_assoc],
        List.rel_append htold htold'⟩
    | send =>
      obtain ⟨hmiddle, hsame⟩ := h.send hstep
      rw [← hsame]
      exact ih hmiddle (hlimits.2 _ _ hstep) hrest

/-- The wire carries what the calls say.  From a connection with new prepared
messages on, in every run of requests and sends up to the first send that fails,
with messages within the limits, what a server reads in the bytes that have arrived
are the first commands of the calls that have succeeded, and all of them when no send
has failed and nothing waits to be sent. -/
theorem server_reads_commands {start : BoltConnection} {state : BoltProtocolState}
    (hprotocol : start.protocol = some ⟨version, state⟩) (hprepared : start.Prepared)
    (hfresh : state.prepared = version.fresh) (hempty : start.tx_buffer.content = [])
    (calls : List Call) (hlimits : Runs.Admissible step WithinLimits calls ⟨start, [], false⟩)
    {results : List Int} {final : Outbound}
    (hrun : Runs.run step calls ⟨start, [], false⟩ = some (results, final)) :
    ∃ arrived, final.connection.comm.outgoing = start.comm.outgoing ++ arrived ∧
      (∀ check values rest, ServerReads check values arrived rest → ∃ front,
        front <+: (Draft.blank start.access_mode).told version calls results ∧
        List.Forall₂ (Command.Read version) front values) ∧
      (final.failed = false → final.connection.tx_buffer.content = [] →
        ∃ values, ServerReads version.checkWritableStruct values arrived [] ∧
          List.Forall₂ (Command.Read version)
            ((Draft.blank start.access_mode).told version calls results) values) := by
  have hfollows : Follows version (.blank start.access_mode) ⟨start, [], false⟩ :=
    ⟨hprepared, state, hprotocol, drafted_fresh start hfresh⟩
  obtain ⟨new, hnew, htold⟩ := hfollows.run calls hlimits hrun
  rw [List.nil_append] at hnew
  have hread : List.Forall₂ (Command.Read version)
      ((Draft.blank start.access_mode).told version calls results)
      (final.loaded.map fun m => m.value.canon) := by
    rw [hnew, List.forall₂_map_right_iff]
    exact htold.imp fun _ message hmessage => ⟨message, hmessage, rfl⟩
  have hencoded := encoded_of_run hprotocol hprepared hlimits hrun
  have hdelivered := delivered_of_run hprotocol hprepared hrun
  obtain ⟨arrived, houtgoing, hreadable⟩ := hencoded.readable hdelivered hempty
  refine ⟨arrived, houtgoing, fun check values rest hreads => ?_, fun hfailed hsent => ?_⟩
  · have hfront := List.prefix_iff_eq_take.mp (hreadable.front check values rest hreads)
    have htaken := List.forall₂_take values.length hread
    rw [← hfront] at htaken
    exact ⟨_, List.take_prefix _ _, htaken⟩
  · exact ⟨_, hreadable.whole hfailed hsent, hread⟩

/-- A connection for reading whose transport accepts the first bytes in pieces. -/
def slowReader : BoltConnection :=
  { idle .v3 with
    access_mode := .read
    comm := { BoltCommunication.create with sendScript := [.move 1, .move 3, .move 2] } }

/-- A BEGIN with a timeout, which is sent in pieces. -/
theorem server_reads_commands_timeout :
    ∃ results final arrived,
      Runs.run step [.load (.setBeginTxTimeout 5), .load .loadBeginRequest, .send]
        ⟨slowReader, [], false⟩ = some (results, final) ∧
      final.connection.comm.outgoing = slowReader.comm.outgoing ++ arrived ∧
      (∀ check values rest, ServerReads check values arrived rest → ∃ front,
        front <+: (Draft.blank slowReader.access_mode).told .v3
          [.load (.setBeginTxTimeout 5), .load .loadBeginRequest, .send] results ∧
        List.Forall₂ (Command.Read .v3) front values) ∧
      (final.failed = false → final.connection.tx_buffer.content = [] →
        ∃ values, ServerReads ProtocolVersion.v3.checkWritableStruct values arrived [] ∧
          List.Forall₂ (Command.Read .v3) ((Draft.blank slowReader.access_mode).told .v3
            [.load (.setBeginTxTimeout 5), .load .loadBeginRequest, .send] results) values) := by
  have hrun : (Runs.run step [.load (.setBeginTxTimeout 5), .load .loadBeginRequest, .send]
      ⟨slowReader, [], false⟩).isSome := by decide +kernel
  obtain ⟨⟨results, final⟩, hrun⟩ := Option.isSome_iff_exists.mp hrun
  have hready : Session.TxReady (slowReader, BoltProtocolV3.createState) :=
    ⟨BoltBuffer.wf_create _, BoltBuffer.wf_create _, BoltBuffer.content_create _⟩
  have hbegin : Encodable ProtocolVersion.v3.checkWritableStruct (.struct BOLT_V3_BEGIN
      [dictionary [(string TX_TIMEOUT_KEY, integer 5),
        (string MODE_KEY, string READ_MODE_VALUE)]]) :=
    .struct _ _ (by decide) (by decide) (by decide) (List.forall_mem_singleton.mpr
      (.dictionary _ (by decide)
        (by
          simp only [List.forall_mem_cons]
          exact ⟨⟨_, rfl, by decide⟩, ⟨_, rfl, by decide⟩, by simp⟩)
        (by
          simp only [List.forall_mem_cons]
          exact ⟨.integer _, .string _ (by decide), by simp⟩)))
  have hlimits : Runs.Admissible step WithinLimits
      [.load (.setBeginTxTimeout 5), .load .loadBeginRequest, .send] ⟨slowReader, [], false⟩ := by
    refine ⟨fun _ _ _ m hm => absurd hm List.not_mem_nil, fun _ middle hstep =>
      ⟨fun version state hprotocol m hm => ?_, fun _ _ _ => ⟨trivial, fun _ _ _ => trivial⟩⟩⟩
    obtain ⟨-, rfl⟩ := Prod.mk.inj (Option.some.inj hstep)
    obtain ⟨rfl, rfl⟩ := BoltProtocol.mk.inj (Option.some.inj hprotocol)
    obtain rfl := List.mem_singleton.mp hm
    obtain ⟨payload, hencodes, -⟩ := loads_of_encodable hbegin
    exact ⟨regular_of_encodable hbegin,
      fun _ => withinLimit_of_canon _ (withinLimit_of_encodes hencodes)⟩
  obtain ⟨arrived, hreads⟩ := server_reads_commands rfl
    ⟨.v3, BoltProtocolV3.createState, rfl, hready, rfl⟩ rfl (BoltBuffer.content_create _) _ hlimits
    hrun
  exact ⟨results, final, arrived, hrun, hreads⟩

end Outbound

end Seabolt
