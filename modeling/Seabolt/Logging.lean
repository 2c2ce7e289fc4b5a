import Seabolt.Authentication
import Seabolt.Outbound

/-!
# Logging

What `BoltProtocolV1_init` and `BoltProtocolV3_hello` pass to the loggers, up to
and including the send.  The message that is logged is compiled with masked
credentials, in the object that the true message is compiled in next.

Two runs with tokens that differ in the credentials only are compared step by
step: the masked messages are equal, and the send reports no more of its bytes
than how many they are.
-/

namespace Seabolt

open BoltValue PackStream Chunking

/-! ## `log.c` -/

/-- `struct BoltLog`, with the two levels that are logged at here. -/
structure BoltLog where
  debug_enabled : Bool
  info_enabled : Bool

/-- A call of a logger. -/
inductive LogMessage where
  | debug (text : List UInt8)
  | info (text : List UInt8)

/-- The call of the transport that an error comes from. -/
inductive SendPlace where
  | ignoreSigpipe
  | send
  | restoreSigpipe

/-- What is printed by others: a double by the C library, and in `error_ctx` a
failed call of the transport, with the status that it returned and the error that
it recorded. -/
structure Printing where
  double : UInt64 → List UInt8
  error_ctx : SendPlace → Int → Int → List UInt8

/-- The argument of a `%s`. -/
def printed (text : List UInt8) : List UInt8 := text.takeWhile (· ≠ 0)

/-- The argument of a `%d` or `%PRIu64`. -/
def decimal (n : Int) : List UInt8 := ascii (toString n)

/-- `BoltLog_debug`. -/
def BoltLog.debug (log : Option BoltLog) (text : List UInt8) : List LogMessage :=
  match log with
  | some log => if log.debug_enabled then [.debug text] else []
  | none => []

/-- `BoltLog_info`. -/
def BoltLog.info (log : Option BoltLog) (text : List UInt8) : List LogMessage :=
  match log with
  | some log => if log.info_enabled then [.info text] else []
  | none => []

/-! ## `BoltValue_write` -/

/-- One of the `HEX_DIGITS`. -/
def hexDigit (n : Nat) : UInt8 := (ascii "0123456789ABCDEF").getD (n % 16) 0

/-- The two digits of a byte. -/
def hexByte (byte : UInt8) : List UInt8 :=
  [hexDigit (byte.toNat >>> 4), hexDigit byte.toNat]

/-- The texts of the children, with commas between them. -/
def separated (texts : List (List UInt8)) : List UInt8 := List.intercalate (ascii ", ") texts

/-- The text of a key.  `none` for a key that is no String, of which the object
representation would be printed. -/
def keyText : BoltValue → Option (List UInt8)
  | string data => some data
  | negative .string _ => some []
  | _ => none

namespace BoltValue

section Write

variable (printing : Printing) (struct_name : Int16 → List UInt8)

mutual

/-- `BoltValue_write`. -/
def write : BoltValue → Option (List UInt8)
  | null => some (ascii "null")
  | boolean data => some (ascii (if toBit data = 0 then "false" else "true"))
  | integer data => some (decimal data.toInt)
  | float data => some (printing.double data)
  | string data => some data
  | dictionary entries =>
    (writeEntries entries).map fun texts => ascii "\x7b" ++ separated texts ++ ascii "\x7d"
  | list elements => (writeElements elements).map fun texts => ascii "[" ++ separated texts ++ ascii "]"
  | bytes data => some (ascii "#" ++ data.flatMap hexByte)
  | struct code fields =>
    (writeElements fields).map fun texts =>
      ascii "$" ++ struct_name code ++ ascii "(" ++ separated texts ++ ascii ")"
  | negative .string _ => some []
  | negative .bytes _ => some (ascii "#")
  | negative (.struct code) _ => some (ascii "$" ++ struct_name code ++ ascii "()")

/-- The texts of list elements or structure fields. -/
def writeElements : List BoltValue → Option (List (List UInt8))
  | [] => some []
  | v :: vs => do
    let text ← write v
    let texts ← writeElements vs
    some (text :: texts)

/-- The texts of the entries of a dictionary. -/
def writeEntries : List (BoltValue × BoltValue) → Option (List (List UInt8))
  | [] => some []
  | (k, v) :: es => do
    let key ← keyText k
    let text ← write v
    let texts ← writeEntries es
    some ((key ++ ascii ": " ++ text) :: texts)

end

end Write

end BoltValue

/-! ## Names -/

/-- The name that a table gives to a code. -/
def nameIn (names : List (Int16 × String)) (code : Int16) : Option (List UInt8) :=
  (names.lookup code).map ascii

/-- `BoltProtocolV1_structure_name`. -/
def BoltProtocolV1.structureName (code : Int16) : List UInt8 :=
  (nameIn [(BOLT_V1_NODE, "Node"), (BOLT_V1_RELATIONSHIP, "Relationship"),
    (BOLT_V1_UNBOUND_RELATIONSHIP, "UnboundRelationship"), (BOLT_V1_PATH, "Path")] code).getD
    (ascii "?")

/-- `BoltProtocolV2_structure_name`. -/
def BoltProtocolV2.structureName (code : Int16) : List UInt8 :=
  (nameIn [(BOLT_V2_POINT_2D, "Point2D"), (BOLT_V2_POINT_3D, "Point3D"),
    (BOLT_V2_LOCAL_DATE, "LocalDate"), (BOLT_V2_LOCAL_TIME, "LocalTime"),
    (BOLT_V2_LOCAL_DATE_TIME, "LocalDateTime"), (BOLT_V2_OFFSET_TIME, "OffsetTime"),
    (BOLT_V2_OFFSET_DATE_TIME, "OffsetDateTime"), (BOLT_V2_ZONED_DATE_TIME, "ZonedDateTime"),
    (BOLT_V2_DURATION, "Duration")] code).getD (BoltProtocolV1.structureName code)

/-- The `structure_name` of the protocol; the third version has the names of the
second. -/
def ProtocolVersion.structureName : ProtocolVersion → Int16 → List UInt8
  | .v1 => BoltProtocolV1.structureName
  | .v2 | .v3 => BoltProtocolV2.structureName

/-- `BoltProtocolV1_message_name`. -/
def BoltProtocolV1.messageName (code : Int16) : List UInt8 :=
  (nameIn [(BOLT_V1_INIT, "INIT"), (BOLT_V1_ACK_FAILURE, "ACK_FAILURE"), (BOLT_V1_RESET, "RESET"),
    (BOLT_V1_RUN, "RUN"), (BOLT_V1_DISCARD_ALL, "DISCARD_ALL"), (BOLT_V1_PULL_ALL, "PULL_ALL"),
    (BOLT_V1_SUCCESS, "SUCCESS"), (BOLT_V1_RECORD, "RECORD"), (BOLT_V1_IGNORED, "IGNORED"),
    (BOLT_V1_FAILURE, "FAILURE")] code).getD (ascii "?")

/-- `BoltProtocolV3_message_name`. -/
def BoltProtocolV3.messageName (code : Int16) : List UInt8 :=
  (nameIn [(BOLT_V3_RESET, "RESET"), (BOLT_V3_DISCARD_ALL, "DISCARD_ALL"),
    (BOLT_V3_PULL_ALL, "PULL_ALL"), (BOLT_V1_SUCCESS, "SUCCESS"), (BOLT_V1_RECORD, "RECORD"),
    (BOLT_V1_IGNORED, "IGNORED"), (BOLT_V1_FAILURE, "FAILURE"), (BOLT_V3_HELLO, "HELLO"),
    (BOLT_V3_RUN, "RUN"), (BOLT_V3_BEGIN, "BEGIN"), (BOLT_V3_COMMIT, "COMMIT"),
    (BOLT_V3_ROLLBACK, "ROLLBACK"), (BOLT_V3_GOODBYE, "GOODBYE")] code).getD (ascii "?")

/-- The `message_name` of the protocol. -/
def ProtocolVersion.messageName : ProtocolVersion → Int16 → List UInt8
  | .v1 | .v2 => BoltProtocolV1.messageName
  | .v3 => BoltProtocolV3.messageName

/-! ## What is logged -/

/-- `BoltLog_message`. -/
def BoltLog.message (printing : Printing) (log : Option BoltLog) (id peer : List UInt8)
    (request_id : Nat) (message : BoltMessage) (version : ProtocolVersion) :
    Option (List LogMessage) :=
  (BoltValue.write printing version.structureName (.list message.fields)).map fun fields =>
    BoltLog.debug log (ascii "[" ++ printed id ++ ascii "]: " ++ peer ++ ascii "[" ++
      decimal request_id ++ ascii "] " ++ version.messageName message.code ++ ascii " " ++
      printed fields)

namespace BoltCommunication

/-- What the loop of `BoltCommunication_send` has sent, and the error that ended
it: the status of the transport, and the error that it recorded. -/
def sendLoopReport : Nat → List UInt8 → BoltCommunication → Nat × Option (Int × Int)
  | 0, _, _ => (0, none)
  | rounds + 1, data, comm =>
    if data = [] then (0, none)
    else
      let (status, sent, comm) := comm.send1 data
      if status = BOLT_SUCCESS then
        let (total_sent, error) := sendLoopReport rounds (data.drop sent) comm
        (sent + total_sent, error)
      else (0, some (status, comm.error))

/-- What `BoltCommunication_send` logs, and what is in `error_ctx` behind it if it
fails. -/
def sendLog (printing : Printing) (log : Option BoltLog) (id : List UInt8) (data : List UInt8)
    (comm : BoltCommunication) : List LogMessage × Option (List UInt8) :=
  if data = [] then ([], none)
  else
    let (ignored, comm) := comm.ignoreSigpipe
    if ignored ≠ BOLT_SUCCESS then ([], some (printing.error_ctx .ignoreSigpipe ignored comm.error))
    else
      let (total_sent, error) := sendLoopReport data.length data comm
      let logged :=
        if error.isNone then
          BoltLog.info log (ascii "[" ++ printed id ++ ascii "]: (Sent " ++ decimal total_sent ++
            ascii " of " ++ decimal data.length ++ ascii " bytes)")
        else []
      let (restored, comm) := (sendLoop data.length data comm).2.restoreSigpipe
      if restored ≠ BOLT_SUCCESS then
        (logged, some (printing.error_ctx .restoreSigpipe restored comm.error))
      else
        (logged, error.map fun (status, recorded) => printing.error_ctx .send status recorded)

end BoltCommunication

namespace BoltConnection

/-- `BoltConnection_id`. -/
def currentId (connection : BoltConnection) : List UInt8 :=
  match connection.protocol with
  | some ⟨.v3, state⟩ => BoltProtocolV3.id state.toSummaryData connection.id
  | _ => connection.id

/-- What `_status_changed` logs for a change to DEFUNCT. -/
def defunctLog (log : Option BoltLog) (id error_ctx : List UInt8) : List LogMessage :=
  BoltLog.info log (ascii "[" ++ printed id ++ ascii "]: <DEFUNCT>" ++
    if printed error_ctx = [] then [] else ascii " [" ++ printed error_ctx ++ ascii "]")

/-- What `BoltConnection_send` logs. -/
def sendLog (printing : Printing) (log : Option BoltLog) (connection : BoltConnection) :
    List LogMessage :=
  let size := connection.tx_buffer.unloadable
  let data := (connection.tx_buffer.data.drop connection.tx_buffer.cursor).take size
  let (logged, error_ctx) := connection.comm.sendLog printing log connection.currentId data
  match error_ctx with
  | none => logged
  | some error_ctx =>
    if connection.status.state ≠ .defunct then
      logged ++ defunctLog log connection.currentId error_ctx
    else logged

end BoltConnection

/-- The message object of `BoltProtocolV1_init` and `BoltProtocolV3_hello`. -/
def ProtocolVersion.createInit : ProtocolVersion → BoltMessage
  | .v1 | .v2 => .create BOLT_V1_INIT 2
  | .v3 => .create BOLT_V3_HELLO 1

/-- `BoltProtocolV1_compile_INIT` or `BoltProtocolV3_compile_HELLO`. -/
def ProtocolVersion.compileInit : ProtocolVersion → List UInt8 → BoltValue → Bool → BoltMessage →
    Option BoltMessage
  | .v1 | .v2 => BoltProtocolV1.compileINIT
  | .v3 => BoltProtocolV3.compileHELLO

/-- What `BoltProtocolV1_init` and `BoltProtocolV3_hello` log, up to and including
the send.  The load logs nothing, because it is quiet. -/
def BoltConnection.initLog (printing : Printing) (log : Option BoltLog) (user_agent : List UInt8)
    (auth_token : BoltValue) (connection : BoltConnection) : Option (List LogMessage) := do
  let protocol ← connection.protocol
  let version := protocol.version
  let masked ← version.compileInit user_agent auth_token true version.createInit
  let logged ← BoltLog.message printing log connection.currentId (ascii "C")
    protocol.state.next_request_id masked version
  let message ← version.compileInit user_agent auth_token false masked
  let (status, loaded) ← connection.loadMessage message
  if status = BOLT_SUCCESS then some (logged ++ loaded.sendLog printing log) else some logged

/-- The message that the initialisation loads is the second one that is compiled. -/
theorem ProtocolVersion.initMessage_eq (version : ProtocolVersion) (user_agent : List UInt8)
    (auth_token : BoltValue) :
    version.initMessage user_agent auth_token =
      (version.compileInit user_agent auth_token true version.createInit).bind
        (version.compileInit user_agent auth_token false) := by
  cases version <;> rfl

/-! ## Masked credentials -/

theorem changeIfPresent_cons (key : List UInt8) (change : BoltValue → BoltValue)
    (e : BoltValue × BoltValue) (es : List (BoltValue × BoltValue)) :
    changeIfPresent key change (e :: es) =
      if e.1.stringEquals key then (e.1, change e.2) :: es
      else e :: changeIfPresent key change es := by
  unfold changeIfPresent keyIndex changeValue
  rw [List.findIdx?_cons]
  by_cases hkey : e.1.stringEquals key = true
  · simp only [hkey, if_true, List.modify_zero_cons]
  · simp only [hkey, Bool.false_eq_true, if_false]
    cases List.findIdx? (fun entry => stringEquals entry.1 key) es with
    | none => rfl
    | some index => exact List.modify_succ_cons ..

/-- The same entries, but for the value under `credentials`. -/
def SameButCredentials : List (BoltValue × BoltValue) → List (BoltValue × BoltValue) → Prop :=
  List.Forall₂ fun e e' => e.1 = e'.1 ∧ (e.1 = string CREDENTIALS_KEY ∨ e.2 = e'.2)

/-- Entries without credentials are the same. -/
theorem SameButCredentials.eq_of_not_mem {es es' : List (BoltValue × BoltValue)}
    (h : SameButCredentials es es') (hno : string CREDENTIALS_KEY ∉ es.map Prod.fst) : es = es' := by
  induction h with
  | nil => rfl
  | @cons e e' es es' he _ ih =>
    obtain ⟨hkey, hcredentials | hvalue⟩ := he
    · exact absurd (List.mem_cons.mpr (.inl hcredentials.symm)) hno
    · rw [ih fun hmem => hno (List.mem_cons_of_mem _ hmem), Prod.ext hkey hvalue]

/-- With the credentials masked the entries are the same. -/
theorem SameButCredentials.masked {es es' : List (BoltValue × BoltValue)}
    (h : SameButCredentials es es') (hkeys : (es.map Prod.fst).Nodup) :
    changeIfPresent CREDENTIALS_KEY (fun _ => string MASK) es =
      changeIfPresent CREDENTIALS_KEY (fun _ => string MASK) es' := by
  have hkey : (0 : UInt8) ∉ CREDENTIALS_KEY := by decide
  induction h with
  | nil => rfl
  | @cons e e' es es' he hes ih =>
    obtain ⟨hfresh, hrest⟩ := List.nodup_cons.mp hkeys
    rw [changeIfPresent_cons, changeIfPresent_cons, ← he.1]
    by_cases hequals : e.1.stringEquals CREDENTIALS_KEY = true
    · rw [if_pos hequals, if_pos hequals]
      rw [(stringEquals_iff hkey).mp hequals] at hfresh
      rw [SameButCredentials.eq_of_not_mem hes hfresh]
    · rw [if_neg hequals, if_neg hequals, ih hrest]
      rcases he.2 with hcredentials | hvalue
      · exact absurd ((stringEquals_iff hkey).mpr hcredentials) hequals
      · rw [Prod.ext he.1 hvalue]

/-- A token that can be encoded: Strings for keys, and no two of them the same. -/
structure IsToken (check : CheckStructSignature) (entries : List (BoltValue × BoltValue)) : Prop where
  encodable : Encodable check (.dictionary entries)
  room : entries.length + 1 < 0x80000000
  distinct : (entries.map Prod.fst).Nodup

variable {check : CheckStructSignature} {entries entries' : List (BoltValue × BoltValue)}

theorem IsToken.keys (h : IsToken check entries) :
    ∀ e ∈ entries, ∃ key, e.1 = string key ∧ key.length < 0x80000000 := by
  cases h.encodable with
  | dictionary _ _ hkeys _ => exact hkeys

theorem IsToken.values (h : IsToken check entries) : ∀ e ∈ entries, Encodable check e.2 := by
  cases h.encodable with
  | dictionary _ _ _ hvalues => exact hvalues

/-- The keys of the copy are those of the token. -/
theorem IsToken.canon_keys (h : IsToken check entries) :
    (canonEntries entries).map Prod.fst = entries.map Prod.fst := by
  rw [canonEntries_eq_map, List.map_map]
  refine List.map_congr_left fun e he => ?_
  obtain ⟨key, hkey, -⟩ := h.keys e he
  simp only [Function.comp_apply, hkey, canon]

theorem SameButCredentials.canon (h : SameButCredentials entries entries') :
    SameButCredentials (canonEntries entries) (canonEntries entries') := by
  rw [canonEntries_eq_map, canonEntries_eq_map, SameButCredentials, List.forall₂_map_left_iff,
    List.forall₂_map_right_iff]
  refine List.Forall₂.imp (fun e e' he => ⟨?_, ?_⟩) h
  · rw [he.1]
  · rcases he.2 with hcredentials | hvalue
    · exact .inl (congrArg BoltValue.canon hcredentials)
    · exact .inr (by rw [hvalue])

/-! ## Compiling twice -/

/-- The fields of the message. -/
def ProtocolVersion.initFields (version : ProtocolVersion) (user_agent : List UInt8)
    (entries : List (BoltValue × BoltValue)) : List BoltValue :=
  match version with
  | .v1 | .v2 => [string user_agent, dictionary entries]
  | .v3 => [dictionary (entries ++ [(string USER_AGENT_KEY, string user_agent)])]

/-- The entries, masked or not. -/
def maskedIf (mask : Bool) (entries : List (BoltValue × BoltValue)) : List (BoltValue × BoltValue) :=
  if mask then changeIfPresent CREDENTIALS_KEY (fun _ => string MASK) entries else entries

/-- The user agent behind the entries is not what is masked. -/
theorem maskedIf_user_agent (mask : Bool) (entries : List (BoltValue × BoltValue))
    (user_agent : List UInt8) :
    maskedIf mask (entries ++ [(string USER_AGENT_KEY, string user_agent)]) =
      maskedIf mask entries ++ [(string USER_AGENT_KEY, string user_agent)] := by
  have hother : (string USER_AGENT_KEY).stringEquals CREDENTIALS_KEY = false := by decide
  cases mask with
  | false => rfl
  | true =>
    simp only [maskedIf, if_true]
    induction entries with
    | nil => simp [hother, changeIfPresent, keyIndex]
    | cons e es ih =>
      rw [List.cons_append, changeIfPresent_cons, changeIfPresent_cons, ih]
      split_ifs <;> rfl

/-- What is compiled does not depend on what the message object held before. -/
theorem compileInit_eq (version : ProtocolVersion) (user_agent : List UInt8) (mask : Bool)
    (hcopyable : (dictionary entries).Copyable) {message : BoltMessage}
    (hlength : message.fields.length = version.createInit.fields.length) :
    version.compileInit user_agent (.dictionary entries) mask message =
      some { message with
        fields := version.initFields user_agent (maskedIf mask (canonEntries entries)) } := by
  obtain ⟨code, fields⟩ := message
  have hfirst : fields.length = 2 →
      BoltProtocolV1.compileINIT user_agent (.dictionary entries) mask ⟨code, fields⟩ =
        some ⟨code, [string user_agent, dictionary (maskedIf mask (canonEntries entries))]⟩ := by
    intro hlength
    obtain ⟨first, second, rfl⟩ := List.length_eq_two.mp hlength
    have hcopy := copy_eq_canon _ second hcopyable
    cases mask <;> simp [BoltProtocolV1.compileINIT, hcopy, canon, maskCredentials, maskedIf]
  cases version with
  | v1 | v2 => exact hfirst hlength
  | v3 =>
    obtain ⟨first, rfl⟩ := List.length_eq_one_iff.mp hlength
    have hcopy := copyEntries_eq_canon entries (first.dictionaryEntries (entries.length + 1))
      hcopyable
    have hmasked := maskedIf_user_agent mask (canonEntries entries) user_agent
    cases mask with
    | false =>
      simp [ProtocolVersion.compileInit, BoltProtocolV3.compileHELLO, hcopy,
        ProtocolVersion.initFields, maskedIf]
    | true =>
      simp only [ProtocolVersion.compileInit, BoltProtocolV3.compileHELLO, List.getD_cons_zero,
        hcopy, maskCredentials, ProtocolVersion.initFields, Option.bind_some, Option.bind_eq_bind,
        if_true, ← hmasked]
      rfl

theorem length_initFields (version : ProtocolVersion) (user_agent : List UInt8)
    (entries : List (BoltValue × BoltValue)) :
    (version.initFields user_agent entries).length = version.createInit.fields.length := by
  cases version <;> rfl

/-! ## The text of a message -/

section Write

variable (printing : Printing) (struct_name : Int16 → List UInt8)

theorem writeElements_isSome {vs : List BoltValue}
    (ih : ∀ v ∈ vs, (write printing struct_name v).isSome) :
    (writeElements printing struct_name vs).isSome := by
  induction vs with
  | nil => rfl
  | cons v vs ihvs =>
    obtain ⟨hv, hvs⟩ := List.forall_mem_cons.mp ih
    obtain ⟨text, htext⟩ := Option.isSome_iff_exists.mp hv
    obtain ⟨texts, htexts⟩ := Option.isSome_iff_exists.mp (ihvs hvs)
    simp [writeElements, htext, htexts]

theorem keyText_isSome {key : BoltValue} (h : key.type = .string) : (keyText key).isSome := by
  cases key with
  | string data => rfl
  | negative type n =>
    cases type with
    | string => rfl
    | bytes => cases h
    | struct code => cases h
  | _ => cases h

theorem writeEntries_isSome {es : List (BoltValue × BoltValue)}
    (hstrings : ∀ e ∈ es, e.1.type = .string)
    (ih : ∀ e ∈ es, (write printing struct_name e.2).isSome) :
    (writeEntries printing struct_name es).isSome := by
  induction es with
  | nil => rfl
  | cons e es ihes =>
    obtain ⟨k, v⟩ := e
    obtain ⟨hstring, hrest⟩ := List.forall_mem_cons.mp hstrings
    obtain ⟨hv, hvs⟩ := List.forall_mem_cons.mp ih
    obtain ⟨key, hkey⟩ := Option.isSome_iff_exists.mp (keyText_isSome hstring)
    obtain ⟨text, htext⟩ := Option.isSome_iff_exists.mp hv
    obtain ⟨texts, htexts⟩ := Option.isSome_iff_exists.mp (ihes hrest hvs)
    dsimp only at htext
    simp [writeEntries, hkey, htext, htexts]

/-- A value with Strings for keys can be printed. -/
theorem write_isSome {v : BoltValue} (h : Regular v) : (write printing struct_name v).isSome := by
  induction h with
  | null | boolean | integer | float | string | bytes => simp [write]
  | list elements _ _ ih | struct _ elements _ _ ih =>
    rw [write, Option.isSome_map]
    exact writeElements_isSome printing struct_name ih
  | dictionary entries _ hstrings _ _ _ ih =>
    rw [write, Option.isSome_map]
    exact writeEntries_isSome printing struct_name hstrings ih
  | negative type n => cases type <;> simp [write]

end Write

/-- Masking keeps the keys, and all values but the one that is masked. -/
theorem mem_changeIfPresent {key : List UInt8} {change : BoltValue → BoltValue}
    {es : List (BoltValue × BoltValue)} {e : BoltValue × BoltValue}
    (h : e ∈ changeIfPresent key change es) :
    e ∈ es ∨ ∃ e0 ∈ es, e = (e0.1, change e0.2) := by
  induction es with
  | nil => simp [changeIfPresent, keyIndex] at h
  | cons e0 es ih =>
    rw [changeIfPresent_cons] at h
    split_ifs at h with hkey
    · rcases List.mem_cons.mp h with rfl | hmem
      · exact .inr ⟨e0, List.mem_cons_self, rfl⟩
      · exact .inl (List.mem_cons_of_mem _ hmem)
    · rcases List.mem_cons.mp h with rfl | hmem
      · exact .inl List.mem_cons_self
      · rcases ih hmem with hin | ⟨e1, hin, he⟩
        · exact .inl (List.mem_cons_of_mem _ hin)
        · exact .inr ⟨e1, List.mem_cons_of_mem _ hin, he⟩

/-- The masked entries can be printed. -/
theorem IsToken.masked_regular (h : IsToken check entries) :
    ∀ e ∈ maskedIf true (canonEntries entries),
      e.1.type = .string ∧ Regular e.1 ∧ Regular e.2 := by
  have hcanon : ∀ e ∈ canonEntries entries, e.1.type = .string ∧ Regular e.1 ∧ Regular e.2 := by
    rw [canonEntries_eq_map]
    refine List.forall_mem_map.mpr fun e he => ?_
    obtain ⟨key, hkey, hsize⟩ := h.keys e he
    have hvalue := regular_canon e.2 (regular_of_encodable (h.values e he))
    rw [hkey]
    exact ⟨rfl, .string key hsize, hvalue⟩
  intro e he
  rcases mem_changeIfPresent he with hin | ⟨e0, hin, rfl⟩
  · exact hcanon e hin
  · exact ⟨(hcanon e0 hin).1, (hcanon e0 hin).2.1, .string MASK (by decide)⟩

/-! ## Loading -/

/-- A message that has an encoding is loaded as it. -/
theorem loadMessage_encodable {message : BoltMessage} {v : BoltValue} {session : Session}
    (h : session.TxReady) (hvalue : message.value = v.canon) (hencodable : Encodable check v) :
    ∃ session', loadMessage check message session = some (BOLT_SUCCESS, session') ∧
      SameApartFromTx session session' ∧ session'.TxReady ∧
      session'.1.tx_buffer.content =
        session.1.tx_buffer.content ++ frame chunkLength (chunksOf (encoding check v)) := by
  obtain ⟨connection, state⟩ := session
  obtain ⟨written, hwrite, hwf, hcontent⟩ := loads_encoding hencodable state.tx_buffer h.state
  have hdrained : state.tx_buffer.content = [] := h.drained
  rw [← load_canon, ← hvalue, BoltMessage.value, ← writeMessage_eq_load] at hwrite
  rw [hdrained, List.nil_append] at hcontent
  obtain ⟨msg_buffer, tx_buffer, hpush, hmsg, htx, hleft, hframe⟩ :=
    pushToTransmission_spec hwf h.connection
  refine ⟨({ connection with tx_buffer := tx_buffer },
    { state with tx_buffer := msg_buffer, next_request_id := state.next_request_id + 1 }), ?_,
    ⟨rfl, rfl⟩, ⟨htx, hmsg, hleft⟩, ?_⟩
  · simp only [loadMessage, hwrite, if_true, hpush, Option.map_some]
  · rw [← hcontent]
    exact hframe

/-- The same through the connection. -/
theorem BoltConnection.loadMessage_encodable {connection : BoltConnection} {version : ProtocolVersion}
    {state : BoltProtocolState} (hprotocol : connection.protocol = some ⟨version, state⟩)
    (h : Session.TxReady (connection, state)) {message : BoltMessage} {v : BoltValue}
    (hvalue : message.value = v.canon) (hencodable : Encodable version.checkWritableStruct v) :
    ∃ tx_buffer state', tx_buffer.Wf ∧
      tx_buffer.content = connection.tx_buffer.content ++
        frame chunkLength (chunksOf (encoding version.checkWritableStruct v)) ∧
      state'.toSummaryData = state.toSummaryData ∧
      connection.loadMessage message = some (BOLT_SUCCESS, { connection with
        tx_buffer := tx_buffer
        protocol := some ⟨version, state'⟩ }) := by
  have htaken : Session.TxReady ({ connection with protocol := none }, state) :=
    ⟨h.connection, h.state, h.drained⟩
  obtain ⟨⟨connection', state'⟩, hload, hsame, hready, hcontent⟩ :=
    Seabolt.loadMessage_encodable htaken hvalue hencodable
  have hconnection := hsame.connection
  have hstate := hsame.state
  dsimp only at hconnection hstate hcontent
  refine ⟨connection'.tx_buffer, state', hready.connection, hcontent, ?_, ?_⟩
  · rw [hstate]
  · simp only [loadMessage, hprotocol, hload, Option.map_some]
    rw [hconnection]

/-! ## Sending as many bytes -/

namespace BoltCommunication

variable {comm comm' : BoltCommunication} {data data' : List UInt8}

/-- The same but for what was sent. -/
def SameButOutgoing (comm comm' : BoltCommunication) : Prop :=
  comm' = { comm with outgoing := comm'.outgoing }

theorem SameButOutgoing.refl (comm : BoltCommunication) : SameButOutgoing comm comm := rfl

theorem SameButOutgoing.failWith (h : SameButOutgoing comm comm') (failure : Failure) :
    (comm'.failWith failure).1 = (comm.failWith failure).1 ∧
      SameButOutgoing (comm.failWith failure).2 (comm'.failWith failure).2 := by
  rw [SameButOutgoing] at h
  rw [h]
  cases failure <;> exact ⟨rfl, rfl⟩

theorem SameButOutgoing.report (h : SameButOutgoing comm comm') (failure : Option Failure) :
    (comm'.report failure).1 = (comm.report failure).1 ∧
      SameButOutgoing (comm.report failure).2 (comm'.report failure).2 := by
  cases failure with
  | none => exact ⟨rfl, h⟩
  | some failure => exact h.failWith failure

theorem SameButOutgoing.restoreSigpipe (h : SameButOutgoing comm comm') :
    comm'.restoreSigpipe.1 = comm.restoreSigpipe.1 ∧
      SameButOutgoing comm.restoreSigpipe.2 comm'.restoreSigpipe.2 := by
  have htail : SameButOutgoing { comm with restoreScript := comm.restoreScript.tail }
      { comm' with restoreScript := comm'.restoreScript.tail } := by
    rw [SameButOutgoing] at h ⊢
    rw [h]
  have hscript : comm'.restoreScript = comm.restoreScript := by
    rw [SameButOutgoing] at h
    rw [h]
  unfold BoltCommunication.restoreSigpipe
  rw [hscript] at htail ⊢
  exact htail.report _

/-- The transport accepts as many of as many bytes. -/
theorem SameButOutgoing.send1 (h : SameButOutgoing comm comm') (hlength : data'.length = data.length) :
    (comm'.send1 data').1 = (comm.send1 data).1 ∧ (comm'.send1 data').2.1 = (comm.send1 data).2.1 ∧
      SameButOutgoing (comm.send1 data).2.2 (comm'.send1 data').2.2 := by
  rw [SameButOutgoing] at h
  rw [h]
  unfold BoltCommunication.send1
  dsimp only
  rcases comm.sendScript with _ | ⟨n | failure, script⟩
  · exact ⟨rfl, by simp only [hlength], rfl⟩
  · exact ⟨rfl, by simp only [hlength], rfl⟩
  · have hfail : SameButOutgoing { comm with sendScript := script }
        { comm with outgoing := comm'.outgoing, sendScript := script } := rfl
    exact ⟨(hfail.failWith failure).1, rfl, (hfail.failWith failure).2⟩

theorem nil_iff_of_length (hlength : data'.length = data.length) : data' = [] ↔ data = [] := by
  rw [← List.length_eq_zero_iff, ← List.length_eq_zero_iff, hlength]

theorem SameButOutgoing.transferFailed (h : SameButOutgoing comm comm') (status : Int) :
    SameButOutgoing (BoltCommunication.transferFailed status comm).2
      (BoltCommunication.transferFailed status comm').2 := by
  unfold BoltCommunication.transferFailed
  rw [SameButOutgoing] at h
  split_ifs
  · exact h
  · rw [h]
    rfl

/-- The loop reports the same of as many bytes. -/
theorem SameButOutgoing.sendLoop (rounds : Nat) : ∀ {comm comm' : BoltCommunication}
    {data data' : List UInt8}, SameButOutgoing comm comm' → data'.length = data.length →
      sendLoopReport rounds data' comm' = sendLoopReport rounds data comm ∧
        SameButOutgoing (BoltCommunication.sendLoop rounds data comm).2
          (BoltCommunication.sendLoop rounds data' comm').2 := by
  induction rounds with
  | zero =>
    intro comm comm' data data' h _
    exact ⟨rfl, h⟩
  | succ rounds ih =>
    intro comm comm' data data' h hlength
    obtain ⟨hstatus, hsent, hcomm⟩ := h.send1 hlength
    rcases hs : comm.send1 data with ⟨status, sent, comm1⟩
    rcases hs' : comm'.send1 data' with ⟨status', sent', comm1'⟩
    rw [hs, hs'] at hstatus hsent hcomm
    dsimp only at hstatus hsent hcomm
    subst hstatus hsent
    have hdrop : (data'.drop sent').length = (data.drop sent').length := by
      rw [List.length_drop, List.length_drop, hlength]
    obtain ⟨hreport, hloop⟩ := ih hcomm hdrop
    have herror : comm1'.error = comm1.error := by
      rw [SameButOutgoing] at hcomm
      rw [hcomm]
    simp only [sendLoopReport, BoltCommunication.sendLoop, nil_iff_of_length hlength, hs, hs']
    split_ifs
    · exact ⟨rfl, h⟩
    · exact ⟨by rw [hreport], hloop⟩
    · exact ⟨by rw [herror], hcomm.transferFailed _⟩

/-- A send logs the same of as many bytes. -/
theorem sendLog_congr (printing : Printing) (log : Option BoltLog) (id : List UInt8)
    (comm : BoltCommunication) (hlength : data'.length = data.length) :
    comm.sendLog printing log id data' = comm.sendLog printing log id data := by
  have hloop := SameButOutgoing.sendLoop data.length (SameButOutgoing.refl comm.ignoreSigpipe.2)
    hlength
  obtain ⟨hrestored, hcomm⟩ := hloop.2.restoreSigpipe
  have herror : (BoltCommunication.sendLoop data.length data' comm.ignoreSigpipe.2).2.restoreSigpipe.2.error
      = (BoltCommunication.sendLoop data.length data comm.ignoreSigpipe.2).2.restoreSigpipe.2.error := by
    rw [SameButOutgoing] at hcomm
    rw [hcomm]
  simp only [sendLog, nil_iff_of_length hlength, hlength, hloop.1, hrestored, herror]

end BoltCommunication

/-! ## The initialisation -/

variable {version : ProtocolVersion} {user_agent : List UInt8}

/-- The message with the true credentials. -/
def ProtocolVersion.initValue (version : ProtocolVersion) (user_agent : List UInt8)
    (entries : List (BoltValue × BoltValue)) : BoltValue :=
  .struct version.createInit.code (version.initFields user_agent entries)

theorem initValue_canon (version : ProtocolVersion) (user_agent : List UInt8)
    (entries : List (BoltValue × BoltValue)) :
    (version.initValue user_agent entries).canon =
      version.initValue user_agent (canonEntries entries) := by
  cases version <;>
    simp [ProtocolVersion.initValue, ProtocolVersion.initFields, canon, canonElements,
      canonEntries_eq_map]

theorem IsToken.with_user_agent (h : IsToken check entries) (hagent : user_agent.length < 0x80000000) :
    Encodable check (.dictionary (entries ++ [(string USER_AGENT_KEY, string user_agent)])) := by
  refine .dictionary _ ?_ ?_ ?_
  · rw [List.length_append]
    exact h.room
  · refine List.forall_mem_append.mpr ⟨h.keys, List.forall_mem_singleton.mpr ?_⟩
    exact ⟨USER_AGENT_KEY, rfl, by decide⟩
  · exact List.forall_mem_append.mpr
      ⟨h.values, List.forall_mem_singleton.mpr (.string user_agent hagent)⟩

theorem IsToken.initValue_encodable (h : IsToken version.checkWritableStruct entries)
    (hagent : user_agent.length < 0x80000000) :
    Encodable version.checkWritableStruct (version.initValue user_agent entries) := by
  have hcode : version.checkWritableStruct version.createInit.code = true := by
    cases version <;> decide
  have hrange : 0 ≤ version.createInit.code.toInt ∧ version.createInit.code.toInt < 0x80 := by
    cases version <;> decide
  refine .struct _ _ hrange hcode ?_ ?_
  · rw [length_initFields]
    cases version <;> decide
  · cases version with
    | v1 | v2 =>
      refine List.forall_mem_cons.mpr ⟨.string user_agent hagent, ?_⟩
      exact List.forall_mem_singleton.mpr h.encodable
    | v3 => exact List.forall_mem_singleton.mpr (h.with_user_agent hagent)

/-- Messages for tokens of equally long encodings are equally long. -/
theorem length_initValue (h : IsToken version.checkWritableStruct entries)
    (h' : IsToken version.checkWritableStruct entries') (hcount : entries'.length = entries.length)
    (hagent : user_agent.length < 0x80000000)
    (hlength : (encoding version.checkWritableStruct (.dictionary entries')).length =
      (encoding version.checkWritableStruct (.dictionary entries)).length) :
    (encoding version.checkWritableStruct (version.initValue user_agent entries')).length =
      (encoding version.checkWritableStruct (version.initValue user_agent entries)).length := by
  rw [ProtocolVersion.initValue, ProtocolVersion.initValue,
    encoding_struct (h.initValue_encodable hagent), encoding_struct (h'.initValue_encodable hagent),
    length_initFields, length_initFields]
  cases version with
  | v1 | v2 =>
    simp only [ProtocolVersion.initFields, List.map_cons, List.map_nil, List.flatten_cons,
      List.flatten_nil, List.append_nil, List.length_append, hlength]
  | v3 =>
    have hroom : entries.length < 0x80000000 := Nat.lt_of_succ_lt h.room
    obtain ⟨header, hheader⟩ := encoding_dictionary ProtocolVersion.v3.checkWritableStruct hroom
    obtain ⟨longer, hlonger⟩ := encoding_dictionary ProtocolVersion.v3.checkWritableStruct h.room
    rw [hheader entries rfl h.encodable, hheader entries' hcount h'.encodable, List.length_append,
      List.length_append] at hlength
    have hsum := hlonger _ (by simp) (h.with_user_agent hagent)
    have hsum' := hlonger _ (by simp [hcount]) (h'.with_user_agent hagent)
    simp only [ProtocolVersion.initFields, List.map_cons, List.map_nil, List.flatten_cons,
      List.flatten_nil, List.append_nil, List.length_append, hsum, hsum', entriesEncoding,
      List.map_append, List.flatten_append]
    simp only [entriesEncoding] at hlength
    omega

theorem length_maskedIf (mask : Bool) (entries : List (BoltValue × BoltValue)) :
    (maskedIf mask entries).length = entries.length := by
  unfold maskedIf changeIfPresent changeValue
  split_ifs
  · split <;> simp
  · rfl

/-- The masked message can be printed. -/
theorem IsToken.masked_fields_regular (h : IsToken check entries)
    (hagent : user_agent.length < 0x80000000) :
    Regular (.list (version.initFields user_agent (maskedIf true (canonEntries entries)))) := by
  have hmasked := h.masked_regular
  have hroom : (maskedIf true (canonEntries entries)).length + 1 < 0x80000000 := by
    rw [length_maskedIf, canonEntries_eq_map, List.length_map]
    exact h.room
  have hagentkey : Regular (string USER_AGENT_KEY) := .string _ (by decide)
  cases version with
  | v1 | v2 =>
    refine .list _ (by simp [ProtocolVersion.initFields]) ?_
    refine List.forall_mem_cons.mpr ⟨.string user_agent hagent, List.forall_mem_singleton.mpr ?_⟩
    exact .dictionary _ (Nat.lt_of_succ_lt hroom) (fun e he => (hmasked e he).1)
      (fun e he => (hmasked e he).2.1) fun e he => (hmasked e he).2.2
  | v3 =>
    refine .list _ (by simp [ProtocolVersion.initFields]) (List.forall_mem_singleton.mpr ?_)
    refine .dictionary _ (by rwa [List.length_append]) ?_ ?_ ?_
    · exact List.forall_mem_append.mpr
        ⟨fun e he => (hmasked e he).1, List.forall_mem_singleton.mpr rfl⟩
    · exact List.forall_mem_append.mpr
        ⟨fun e he => (hmasked e he).2.1, List.forall_mem_singleton.mpr hagentkey⟩
    · exact List.forall_mem_append.mpr
        ⟨fun e he => (hmasked e he).2.2, List.forall_mem_singleton.mpr (.string user_agent hagent)⟩

namespace BoltConnection

variable {connection connection' : BoltConnection} {state : BoltProtocolState}

/-- A send logs the same for as many bytes. -/
theorem sendLog_congr (printing : Printing) (log : Option BoltLog)
    (hcomm : connection'.comm = connection.comm) (hstatus : connection'.status = connection.status)
    (hid : connection'.currentId = connection.currentId)
    (hlength : connection'.tx_buffer.content.length = connection.tx_buffer.content.length) :
    connection'.sendLog printing log = connection.sendLog printing log := by
  have hdata : ((connection'.tx_buffer.data.drop connection'.tx_buffer.cursor).take
      connection'.tx_buffer.unloadable).length =
      ((connection.tx_buffer.data.drop connection.tx_buffer.cursor).take
        connection.tx_buffer.unloadable).length := by
    rwa [← BoltBuffer.content_eq_take_drop, ← BoltBuffer.content_eq_take_drop]
  unfold sendLog
  simp only [hcomm, hstatus, hid, BoltCommunication.sendLog_congr printing log _ _ hdata]

/-- The message that the initialisation loads is as if no other had been compiled
before, and what is loaded encodes the token and the user agent. -/
structure LoadsInit (connection : BoltConnection) (version : ProtocolVersion)
    (user_agent : List UInt8) (entries : List (BoltValue × BoltValue)) : Prop where
  compiled : version.initMessage user_agent (.dictionary entries) =
    version.compileInit user_agent (.dictionary entries) false version.createInit
  loaded : ∃ message loaded, version.initMessage user_agent (.dictionary entries) = some message ∧
    connection.loadMessage message = some (BOLT_SUCCESS, loaded) ∧
    loaded.tx_buffer.content = connection.tx_buffer.content ++ frame chunkLength (chunksOf
      (encoding version.checkWritableStruct (version.initValue user_agent entries)))

/-- What is logged: the masked message, and what the send of the true one logs. -/
theorem initLog_eq (printing : Printing) (log : Option BoltLog)
    (hprotocol : connection.protocol = some ⟨version, state⟩)
    (hready : Session.TxReady (connection, state))
    (htoken : IsToken version.checkWritableStruct entries)
    (hagent : user_agent.length < 0x80000000) :
    connection.LoadsInit version user_agent entries ∧
      ∃ loaded : BoltConnection, loaded.comm = connection.comm ∧ loaded.status = connection.status ∧
        loaded.currentId = connection.currentId ∧
        loaded.tx_buffer.content = connection.tx_buffer.content ++ frame chunkLength (chunksOf
          (encoding version.checkWritableStruct (version.initValue user_agent entries))) ∧
        connection.initLog printing log user_agent (.dictionary entries) =
          (BoltLog.message printing log connection.currentId (ascii "C") state.next_request_id
            ⟨version.createInit.code,
              version.initFields user_agent (maskedIf true (canonEntries entries))⟩ version).map
            fun logged => logged ++ loaded.sendLog printing log := by
  have hcopyable := copyable_of_encodable htoken.encodable
  have hmasked : version.compileInit user_agent (.dictionary entries) true version.createInit =
      some ⟨version.createInit.code,
        version.initFields user_agent (maskedIf true (canonEntries entries))⟩ :=
    compileInit_eq version user_agent true hcopyable rfl
  have hfresh : version.compileInit user_agent (.dictionary entries) false version.createInit =
      some ⟨version.createInit.code, version.initFields user_agent (canonEntries entries)⟩ :=
    compileInit_eq version user_agent false hcopyable rfl
  have htrue : version.compileInit user_agent (.dictionary entries) false ⟨version.createInit.code,
        version.initFields user_agent (maskedIf true (canonEntries entries))⟩ =
      some ⟨version.createInit.code, version.initFields user_agent (canonEntries entries)⟩ :=
    compileInit_eq version user_agent false hcopyable (length_initFields _ _ _)
  have hmessage : version.initMessage user_agent (.dictionary entries) =
      some ⟨version.createInit.code, version.initFields user_agent (canonEntries entries)⟩ := by
    rw [ProtocolVersion.initMessage_eq, hmasked]
    exact htrue
  have hvalue : BoltMessage.value
      ⟨version.createInit.code, version.initFields user_agent (canonEntries entries)⟩ =
        (version.initValue user_agent entries).canon :=
    (initValue_canon version user_agent entries).symm
  obtain ⟨tx_buffer, state', hwf, hcontent, hsummary, hload⟩ :=
    loadMessage_encodable hprotocol hready hvalue (htoken.initValue_encodable hagent)
  refine ⟨⟨hmessage.trans hfresh.symm, _, _, hmessage, hload, hcontent⟩,
    { connection with tx_buffer := tx_buffer, protocol := some ⟨version, state'⟩ }, rfl, rfl, ?_,
    hcontent, ?_⟩
  · cases version <;> simp only [currentId, hprotocol, hsummary]
  · simp only [initLog, hprotocol, Option.bind_eq_bind, Option.bind_some, hmasked, htrue, hload,
      if_true]
    cases BoltLog.message printing log connection.currentId (ascii "C") state.next_request_id
      ⟨version.createInit.code, version.initFields user_agent (maskedIf true (canonEntries entries))⟩
      version with
    | none => rfl
    | some logged => rfl

/-- The credentials are not logged: of two tokens that differ in them only, and are
equally long, the same is logged, and each is loaded as it is. -/
theorem initLog_hides (printing : Printing) (log : Option BoltLog)
    (hprotocol : connection.protocol = some ⟨version, state⟩)
    (hready : Session.TxReady (connection, state))
    (htoken : IsToken version.checkWritableStruct entries)
    (htoken' : IsToken version.checkWritableStruct entries')
    (hsame : SameButCredentials entries entries')
    (hlength : (encoding version.checkWritableStruct (.dictionary entries')).length =
      (encoding version.checkWritableStruct (.dictionary entries)).length)
    (hagent : user_agent.length < 0x80000000) :
    (∃ logged, connection.initLog printing log user_agent (.dictionary entries) = some logged ∧
      connection.initLog printing log user_agent (.dictionary entries') = some logged) ∧
    connection.LoadsInit version user_agent entries ∧
    connection.LoadsInit version user_agent entries' := by
  obtain ⟨hloads, loaded, hcomm, hstatus, hid, hcontent, hlog⟩ :=
    initLog_eq printing log hprotocol hready htoken hagent
  obtain ⟨hloads', loaded', hcomm', hstatus', hid', hcontent', hlog'⟩ :=
    initLog_eq printing log hprotocol hready htoken' hagent
  have hbytes : loaded'.tx_buffer.content.length = loaded.tx_buffer.content.length := by
    have hvalues := length_initValue htoken htoken' hsame.length_eq.symm hagent hlength
    have hframe := length_frame_pieces chunkLength hvalues
    rw [hcontent, hcontent', List.length_append, List.length_append]
    exact congrArg (connection.tx_buffer.content.length + ·) hframe
  have hsends := sendLog_congr printing log (hcomm'.trans hcomm.symm)
    (hstatus'.trans hstatus.symm) (hid'.trans hid.symm) hbytes
  have hdistinct : ((canonEntries entries).map Prod.fst).Nodup := by
    rw [htoken.canon_keys]
    exact htoken.distinct
  have hmasked : maskedIf true (canonEntries entries') = maskedIf true (canonEntries entries) :=
    (hsame.canon.masked hdistinct).symm
  rw [hmasked, hsends] at hlog'
  have hprinted : (BoltLog.message printing log connection.currentId (ascii "C")
      state.next_request_id ⟨version.createInit.code,
        version.initFields user_agent (maskedIf true (canonEntries entries))⟩ version).isSome := by
    rw [BoltLog.message, Option.isSome_map]
    exact write_isSome printing _ (htoken.masked_fields_regular hagent)
  obtain ⟨logged, hlogged⟩ := Option.isSome_iff_exists.mp hprinted
  rw [hlogged] at hlog hlog'
  exact ⟨⟨_, hlog, hlog'⟩, hloads, hloads'⟩

/-- A token with the given credentials. -/
def basicToken (credentials : BoltValue) : List (BoltValue × BoltValue) :=
  [(string (ascii "scheme"), string (ascii "basic")), (string CREDENTIALS_KEY, credentials)]

theorem isToken_basic {credentials : BoltValue} (h : Encodable check credentials) :
    IsToken check (basicToken credentials) where
  encodable := by
    refine .dictionary _ (by simp [basicToken]) ?_ ?_
    · refine List.forall_mem_cons.mpr ⟨⟨ascii "scheme", rfl, by decide⟩, ?_⟩
      exact List.forall_mem_singleton.mpr ⟨CREDENTIALS_KEY, rfl, by decide⟩
    · refine List.forall_mem_cons.mpr ⟨.string _ (by decide), ?_⟩
      exact List.forall_mem_singleton.mpr h
  room := by simp [basicToken]
  distinct := by simp [basicToken, ascii, CREDENTIALS_KEY]

theorem sameButCredentials_basic (credentials credentials' : BoltValue) :
    SameButCredentials (basicToken credentials) (basicToken credentials') :=
  .cons ⟨rfl, .inr rfl⟩ (.cons ⟨rfl, .inl rfl⟩ .nil)

/-- A number and a Boolean for the credentials. -/
theorem initLog_hides_basic :
    (∃ logged, (idle .v3).initLog ⟨fun _ => [], fun _ _ _ => []⟩ (some ⟨true, true⟩) (ascii "agent")
        (.dictionary (basicToken (.integer 7))) = some logged ∧
      (idle .v3).initLog ⟨fun _ => [], fun _ _ _ => []⟩ (some ⟨true, true⟩) (ascii "agent")
        (.dictionary (basicToken (.boolean 1))) = some logged) ∧
    (idle .v3).LoadsInit .v3 (ascii "agent") (basicToken (.integer 7)) ∧
    (idle .v3).LoadsInit .v3 (ascii "agent") (basicToken (.boolean 1)) :=
  initLog_hides _ _ rfl ⟨BoltBuffer.wf_create _, BoltBuffer.wf_create _, BoltBuffer.content_create _⟩
    (isToken_basic (.integer 7)) (isToken_basic (.boolean 1)) (sameButCredentials_basic _ _)
    (by decide +kernel) (by decide)

end BoltConnection

end Seabolt
