import Seabolt.Fetch

/-!
# Requests

The sending half of `v1.c` and `v3.c`: the prepared messages that the setters
change and the `load` functions write to the transmit buffer, and the
functions of `connection.c` on top of them.

The first and the second version share all functions of this file.  Where the
third has the same body, it is one definition with two names.  A list or a
dictionary that a caller may pass as NULL is an `Option`.
-/

namespace Seabolt

open BoltValue

def CREDENTIALS_KEY : List UInt8 := ascii "credentials"
def USER_AGENT_KEY : List UInt8 := ascii "user_agent"
def BOOKMARKS_KEY : List UInt8 := ascii "bookmarks"
def TX_TIMEOUT_KEY : List UInt8 := ascii "tx_timeout"
def TX_METADATA_KEY : List UInt8 := ascii "tx_metadata"
def MODE_KEY : List UInt8 := ascii "mode"
def READ_MODE_VALUE : List UInt8 := ascii "r"

abbrev INT32_MAX : Nat := 0x7FFFFFFF

/-! ## Parameters of a message -/

/-- Change the value that `BoltMessage_param` points to.  `none` when the
message has no such field. -/
def BoltMessage.update (message : BoltMessage) (index : Nat)
    (change : BoltValue → Outcome BoltValue) : Outcome BoltMessage :=
  match message.fields[index]? with
  | none => none
  | some value => (change value).map fun (status, value) =>
      (status, { message with fields := message.fields.set index value })

/-- Change a value in a way that cannot fail. -/
def always (change : BoltValue → BoltValue) (value : BoltValue) : Outcome BoltValue :=
  some (BOLT_SUCCESS, change value)

/-- `BoltValue_format_as_String` with a length that is cast to `int32_t`:
`none` is the copy of a negative length. -/
def formatAsString (data : List UInt8) : Option BoltValue :=
  let length := Int.bmod data.length 0x100000000
  if length < 0 then none else some (string (data.take length.toNat))

/-! ## Entries of a dictionary -/

/-- `BoltDictionary_get_key_index` from index 0, on keys that are Strings. -/
def keyIndex (entries : List (BoltValue × BoltValue)) (key : List UInt8) : Option Nat :=
  entries.findIdx? fun entry => entry.1.stringEquals key

/-- Change the value of the entry at an index. -/
def changeValue (change : BoltValue → BoltValue) (index : Nat)
    (entries : List (BoltValue × BoltValue)) : List (BoltValue × BoltValue) :=
  entries.modify index fun entry => (entry.1, change entry.2)

/-- What the setters do when they are passed NULL: change the value of the
entry with the key, if there is one. -/
def changeIfPresent (key : List UInt8) (change : BoltValue → BoltValue)
    (entries : List (BoltValue × BoltValue)) : List (BoltValue × BoltValue) :=
  match keyIndex entries key with
  | some index => changeValue change index entries
  | none => entries

/-- The entries with one for the key, which is added if there is none, and its
index. -/
def ensureEntry (key : List UInt8) (entries : List (BoltValue × BoltValue)) :
    Nat × List (BoltValue × BoltValue) :=
  match keyIndex entries key with
  | some index => (index, entries)
  | none =>
    let index := entries.length
    (index, (resize entries (index + 1) (null, null)).modify index fun entry =>
      (string key, entry.2))

/-- Overwrite the value of the entry with the key. -/
def writeEntry (key : List UInt8) (value : BoltValue) (entries : List (BoltValue × BoltValue)) :
    List (BoltValue × BoltValue) :=
  let (index, entries) := ensureEntry key entries
  changeValue (fun _ => value) index entries

/-- A change of the entries of a metadata dictionary.  `none` when the value
is no dictionary, which the lookup of the key asserts. -/
def onEntries (change : List (BoltValue × BoltValue) → Outcome (List (BoltValue × BoltValue))) :
    BoltValue → Outcome BoltValue
  | dictionary entries =>
    (change entries).map fun (status, entries) => (status, dictionary entries)
  | _ => none

/-! ## Transaction settings of the third version -/

/-- The check of a list of bookmarks: a list of Strings. -/
def isBookmarkList : BoltValue → Bool
  | list elements => elements.all fun element => element.type == .string
  | _ => false

/-- The check of the metadata of a transaction: a dictionary with Strings for
keys. -/
def isTxMetadata : BoltValue → Bool
  | dictionary entries => entries.all fun entry => entry.1.type == .string
  | _ => false

/-- Copy a value into the entry with the key. -/
def copyEntry (key : List UInt8) (value : BoltValue) (entries : List (BoltValue × BoltValue)) :
    Outcome (List (BoltValue × BoltValue)) :=
  (copy null value).map fun copied => (BOLT_SUCCESS, writeEntry key copied entries)

/-- `_set_tx_bookmark`. -/
def setTxBookmark (bookmark_list : Option BoltValue) : BoltValue → Outcome BoltValue :=
  onEntries fun entries =>
    match bookmark_list with
    | none => some (BOLT_SUCCESS, changeIfPresent BOOKMARKS_KEY (·.formatAsList 0) entries)
    | some bookmark_list =>
      if isBookmarkList bookmark_list then copyEntry BOOKMARKS_KEY bookmark_list entries
      else some (BOLT_PROTOCOL_VIOLATION, entries)

/-- `_set_tx_timeout`. -/
def setTxTimeout (tx_timeout : Int64) : BoltValue → Outcome BoltValue :=
  onEntries fun entries =>
    if tx_timeout < 0 then
      some (BOLT_SUCCESS, changeIfPresent TX_TIMEOUT_KEY (fun _ => null) entries)
    else some (BOLT_SUCCESS, writeEntry TX_TIMEOUT_KEY (integer tx_timeout) entries)

/-- `_set_tx_metadata`. -/
def setTxMetadata (tx_metadata : Option BoltValue) : BoltValue → Outcome BoltValue :=
  onEntries fun entries =>
    match tx_metadata with
    | none => some (BOLT_SUCCESS, changeIfPresent TX_METADATA_KEY (·.formatAsDictionary 0) entries)
    | some tx_metadata =>
      if isTxMetadata tx_metadata then copyEntry TX_METADATA_KEY tx_metadata entries
      else some (BOLT_PROTOCOL_VIOLATION, entries)

/-- `_set_access_mode`. -/
def setAccessMode (access_mode : BoltAccessMode) : BoltValue → Outcome BoltValue :=
  onEntries fun entries =>
    match access_mode with
    | .read => some (BOLT_SUCCESS, writeEntry MODE_KEY (string READ_MODE_VALUE) entries)
    | .write => some (BOLT_SUCCESS, entries)

/-! ## Prepared messages -/

/-- Change the prepared RUN message. -/
def onRunRequest (change : BoltMessage → Outcome BoltMessage) : Session → Outcome Session
  | (connection, state) => (change state.run_request).map fun (status, message) =>
      (status, connection, { state with run_request := message })

/-- Change the prepared BEGIN message. -/
def onBeginRequest (change : BoltMessage → Outcome BoltMessage) : Session → Outcome Session
  | (connection, state) => (change state.begin_request).map fun (status, message) =>
      (status, connection, { state with begin_request := message })

/-- The body that `BoltProtocolV1_set_run_cypher` and
`BoltProtocolV3_set_run_cypher` share. -/
def setRunCypher (cypher : List UInt8) (n_parameter : Nat) : Session → Outcome Session :=
  if cypher.length ≤ INT32_MAX then
    onRunRequest fun message =>
      Outcome.TRY (message.update 0 (always fun _ => string cypher)) fun message =>
        message.update 1 (always (·.formatAsDictionary n_parameter))
  else fun session => some (BOLT_PROTOCOL_VIOLATION, session)

/-- The body that `BoltProtocolV1_set_run_cypher_parameter` and
`BoltProtocolV3_set_run_cypher_parameter` share, and what the caller then does
with the value that it gets: `write` maps the old value of the parameter to
the new one.  `none` when the dictionary has no such index. -/
def setRunCypherParameter (index : Nat) (name : List UInt8) (write : BoltValue → BoltValue) :
    Session → Outcome Session :=
  onRunRequest fun message => message.update 1 fun
    | dictionary entries =>
      if index < entries.length then
        (formatAsString name).map fun key =>
          (BOLT_SUCCESS, dictionary (entries.modify index fun entry => (key, write entry.2)))
      else none
    | _ => none

/-! ## Loading -/

/-- The body that `BoltProtocolV1_load_message` and
`BoltProtocolV3_load_message` share. -/
def loadMessage (check_writable_struct : CheckStructSignature) (message : BoltMessage) :
    Session → Outcome Session
  | (connection, state) =>
    let prev_cursor := state.tx_buffer.cursor
    let prev_extent := state.tx_buffer.extent
    match writeMessage message check_writable_struct state.tx_buffer with
    | none => none
    | some (status, tx_buffer) =>
      if status = BOLT_SUCCESS then
        (pushToTransmission tx_buffer connection.tx_buffer).map fun (msg_buffer, tx_buffer) =>
          (status, { connection with tx_buffer := tx_buffer },
            { state with tx_buffer := msg_buffer, next_request_id := state.next_request_id + 1 })
      else
        -- Reset buffer to its previous state
        some (status, connection, { state with
          tx_buffer := { tx_buffer with cursor := prev_cursor, extent := prev_extent } })

/-- `BoltProtocolV1_load_message`. -/
def BoltProtocolV1.loadMessage := Seabolt.loadMessage

/-- `BoltProtocolV3_load_message`. -/
def BoltProtocolV3.loadMessage := Seabolt.loadMessage

/-- The body of the functions that load the DISCARD_ALL and PULL_ALL messages
of either version: only all of the result can be asked for. -/
def loadAll (check_writable_struct : CheckStructSignature)
    (request : BoltProtocolState → BoltMessage) (n : Int) (session : Session) : Outcome Session :=
  if n ≥ 0 then some (BOLT_PROTOCOL_VIOLATION, session)
  else Seabolt.loadMessage check_writable_struct (request session.2) session

/-- The body that `BoltProtocolV1_load_reset_request` and
`BoltProtocolV3_load_reset` share, with `clear_failure_data`. -/
def loadReset (check_writable_struct : CheckStructSignature) (session : Session) :
    Outcome Session :=
  Outcome.TRY (Seabolt.loadMessage check_writable_struct session.2.reset_request session)
    fun (connection, state) => some (BOLT_SUCCESS, connection, { state with failure_data := none })

/-! ## The first version -/

namespace BoltProtocolV1

/-- `BoltProtocolV1_clear_load_run_request`. -/
def clearLoadRunRequest : Session → Outcome Session :=
  onRunRequest fun message =>
    Outcome.TRY (message.update 0 (always fun _ => string [])) fun message =>
      message.update 1 (always (·.formatAsDictionary 0))

/-- `BoltProtocolV1_set_run_cypher`. -/
def setRunCypher := Seabolt.setRunCypher

/-- `BoltProtocolV1_set_run_cypher_parameter`. -/
def setRunCypherParameter := Seabolt.setRunCypherParameter

/-- `BoltProtocolV1_load_run_request`. -/
def loadRunRequest (check_writable_struct : CheckStructSignature) (session : Session) :
    Outcome Session :=
  loadMessage check_writable_struct session.2.run_request session

/-- `BoltProtocolV1_clear_load_begin_tx_request`. -/
def clearLoadBeginTxRequest : Session → Outcome Session :=
  onBeginRequest fun message => message.update 1 (always (·.formatAsDictionary 0))

/-- The change of the parameters in `BoltProtocolV1_set_begin_tx_bookmark`. -/
def setBookmarks (bookmark_list : BoltValue) : BoltValue → Outcome BoltValue :=
  onEntries fun params =>
    let bookmarks :=
      if params.length = 0 then
        (resize params 1 (null, null)).modify 0 fun entry => (string BOOKMARKS_KEY, entry.2)
      else params
    (copy null bookmark_list).map fun copied =>
      (BOLT_SUCCESS, changeValue (fun _ => copied) 0 bookmarks)

/-- `BoltProtocolV1_set_begin_tx_bookmark`. -/
def setBeginTxBookmark (bookmark_list : Option BoltValue) : Session → Outcome Session :=
  match bookmark_list with
  | none => onBeginRequest fun message => message.update 1 (always (·.formatAsDictionary 0))
  | some bookmark_list =>
    if isBookmarkList bookmark_list then
      onBeginRequest fun message => message.update 1 (setBookmarks bookmark_list)
    else fun session => some (BOLT_PROTOCOL_VIOLATION, session)

/-- The body of the functions that load a transaction message and a
DISCARD_ALL for its result. -/
def loadAndDiscard (check_writable_struct : CheckStructSignature)
    (request : BoltProtocolState → BoltMessage) (session : Session) : Outcome Session :=
  Outcome.TRY (loadMessage check_writable_struct (request session.2) session) fun session =>
    loadMessage check_writable_struct session.2.discard_request session

/-- `BoltProtocolV1_load_begin_request`. -/
def loadBeginRequest (check_writable_struct : CheckStructSignature) : Session → Outcome Session :=
  loadAndDiscard check_writable_struct (·.begin_request)

/-- `BoltProtocolV1_load_commit_request`. -/
def loadCommitRequest (check_writable_struct : CheckStructSignature) : Session → Outcome Session :=
  loadAndDiscard check_writable_struct (·.commit_request)

/-- `BoltProtocolV1_load_rollback_request`. -/
def loadRollbackRequest (check_writable_struct : CheckStructSignature) :
    Session → Outcome Session :=
  loadAndDiscard check_writable_struct (·.rollback_request)

/-- `BoltProtocolV1_load_discard_request`. -/
def loadDiscardRequest (check_writable_struct : CheckStructSignature) :
    Int → Session → Outcome Session :=
  loadAll check_writable_struct (·.discard_request)

/-- `BoltProtocolV1_load_pull_request`. -/
def loadPullRequest (check_writable_struct : CheckStructSignature) :
    Int → Session → Outcome Session :=
  loadAll check_writable_struct (·.pull_request)

/-- `BoltProtocolV1_load_reset_request`. -/
def loadResetRequest := loadReset

/-- `BoltProtocolV1_set_tx_timeout_unsupported` and
`BoltProtocolV1_set_tx_metadata_unsupported`. -/
def unsupported (session : Session) : Outcome Session :=
  some (BOLT_PROTOCOL_UNSUPPORTED, session)

/-- `BoltProtocolV1_set_tx_bookmark_ignore`. -/
def setTxBookmarkIgnore (session : Session) : Outcome Session := some (BOLT_SUCCESS, session)

end BoltProtocolV1

/-! ## The third version -/

namespace BoltProtocolV3

/-- `_clear_begin_tx`. -/
def clearBeginTxMessage (request : BoltMessage) : Outcome BoltMessage :=
  request.update 0 (always (·.formatAsDictionary 0))

/-- `_clear_run`. -/
def clearRunMessage (request : BoltMessage) : Outcome BoltMessage :=
  Outcome.TRY (request.update 0 (always fun _ => string [])) fun request =>
    Outcome.TRY (request.update 1 (always (·.formatAsDictionary 0))) fun request =>
      request.update 2 (always (·.formatAsDictionary 0))

/-- `BoltProtocolV3_clear_begin_tx`. -/
def clearBeginTx : Session → Outcome Session := onBeginRequest clearBeginTxMessage

/-- `BoltProtocolV3_set_begin_tx_bookmark`. -/
def setBeginTxBookmark (bookmark_list : Option BoltValue) : Session → Outcome Session :=
  onBeginRequest fun message => message.update 0 (setTxBookmark bookmark_list)

/-- `BoltProtocolV3_set_begin_tx_timeout`. -/
def setBeginTxTimeout (tx_timeout : Int64) : Session → Outcome Session :=
  onBeginRequest fun message => message.update 0 (setTxTimeout tx_timeout)

/-- `BoltProtocolV3_set_begin_tx_metadata`. -/
def setBeginTxMetadata (tx_metadata : Option BoltValue) : Session → Outcome Session :=
  onBeginRequest fun message => message.update 0 (setTxMetadata tx_metadata)

/-- `BoltProtocolV3_load_begin_tx`. -/
def loadBeginTx (check_writable_struct : CheckStructSignature) (session : Session) :
    Outcome Session :=
  Outcome.TRY (onBeginRequest (·.update 0 (setAccessMode session.1.access_mode)) session)
    fun session => loadMessage check_writable_struct session.2.begin_request session

/-- `BoltProtocolV3_load_commit_tx`. -/
def loadCommitTx (check_writable_struct : CheckStructSignature) (session : Session) :
    Outcome Session :=
  loadMessage check_writable_struct session.2.commit_request session

/-- `BoltProtocolV3_load_rollback_tx`. -/
def loadRollbackTx (check_writable_struct : CheckStructSignature) (session : Session) :
    Outcome Session :=
  loadMessage check_writable_struct session.2.rollback_request session

/-- `BoltProtocolV3_clear_run`. -/
def clearRun : Session → Outcome Session := onRunRequest clearRunMessage

/-- `BoltProtocolV3_set_run_bookmark`. -/
def setRunBookmark (bookmark_list : Option BoltValue) : Session → Outcome Session :=
  onRunRequest fun message => message.update 2 (setTxBookmark bookmark_list)

/-- `BoltProtocolV3_set_run_tx_metadata`. -/
def setRunTxMetadata (tx_metadata : Option BoltValue) : Session → Outcome Session :=
  onRunRequest fun message => message.update 2 (setTxMetadata tx_metadata)

/-- `BoltProtocolV3_set_run_tx_timeout`. -/
def setRunTxTimeout (tx_timeout : Int64) : Session → Outcome Session :=
  onRunRequest fun message => message.update 2 (setTxTimeout tx_timeout)

/-- `BoltProtocolV3_set_run_cypher`. -/
def setRunCypher := Seabolt.setRunCypher

/-- `BoltProtocolV3_set_run_cypher_parameter`. -/
def setRunCypherParameter := Seabolt.setRunCypherParameter

/-- `BoltProtocolV3_load_run`. -/
def loadRun (check_writable_struct : CheckStructSignature) (session : Session) :
    Outcome Session :=
  Outcome.TRY (onRunRequest (·.update 2 (setAccessMode session.1.access_mode)) session)
    fun session => loadMessage check_writable_struct session.2.run_request session

/-- `BoltProtocolV3_load_discard`. -/
def loadDiscard (check_writable_struct : CheckStructSignature) : Int → Session → Outcome Session :=
  loadAll check_writable_struct (·.discard_request)

/-- `BoltProtocolV3_load_pull`. -/
def loadPull (check_writable_struct : CheckStructSignature) : Int → Session → Outcome Session :=
  loadAll check_writable_struct (·.pull_request)

/-- `BoltProtocolV3_load_reset`. -/
def loadReset := Seabolt.loadReset

end BoltProtocolV3

/-! ## The connection -/

/-- A call of one of the functions of `connection.c` that hand on to the
function of the protocol with the same purpose. -/
inductive Request where
  | clearBegin
  | setBeginBookmarks (bookmark_list : Option BoltValue)
  | setBeginTxTimeout (timeout : Int64)
  | setBeginTxMetadata (metadata : Option BoltValue)
  | loadBeginRequest
  | loadCommitRequest
  | loadRollbackRequest
  | clearRun
  | setRunCypher (cypher : List UInt8) (n_parameter : Nat)
  | setRunCypherParameter (index : Nat) (name : List UInt8) (write : BoltValue → BoltValue)
  | setRunBookmarks (bookmark_list : Option BoltValue)
  | setRunTxTimeout (timeout : Int64)
  | setRunTxMetadata (metadata : Option BoltValue)
  | loadRunRequest
  | loadDiscardRequest (n : Int)
  | loadPullRequest (n : Int)
  | loadResetRequest

/-- The functions that `BoltProtocolV1_create_protocol` puts into the table.
The second version replaces `check_writable_struct` only. -/
def BoltProtocolV1.request (check_writable_struct : CheckStructSignature) :
    Request → Session → Outcome Session
  | .clearBegin => clearLoadBeginTxRequest
  | .setBeginBookmarks bookmark_list => setBeginTxBookmark bookmark_list
  | .setBeginTxTimeout _ => unsupported
  | .setBeginTxMetadata _ => unsupported
  | .loadBeginRequest => loadBeginRequest check_writable_struct
  | .loadCommitRequest => loadCommitRequest check_writable_struct
  | .loadRollbackRequest => loadRollbackRequest check_writable_struct
  | .clearRun => clearLoadRunRequest
  | .setRunCypher cypher n_parameter => setRunCypher cypher n_parameter
  | .setRunCypherParameter index name write => setRunCypherParameter index name write
  | .setRunBookmarks _ => setTxBookmarkIgnore
  | .setRunTxTimeout _ => unsupported
  | .setRunTxMetadata _ => unsupported
  | .loadRunRequest => loadRunRequest check_writable_struct
  | .loadDiscardRequest n => loadDiscardRequest check_writable_struct n
  | .loadPullRequest n => loadPullRequest check_writable_struct n
  | .loadResetRequest => loadResetRequest check_writable_struct

/-- The functions that `BoltProtocolV3_create_protocol` puts into the table. -/
def BoltProtocolV3.request (check_writable_struct : CheckStructSignature) :
    Request → Session → Outcome Session
  | .clearBegin => clearBeginTx
  | .setBeginBookmarks bookmark_list => setBeginTxBookmark bookmark_list
  | .setBeginTxTimeout timeout => setBeginTxTimeout timeout
  | .setBeginTxMetadata metadata => setBeginTxMetadata metadata
  | .loadBeginRequest => loadBeginTx check_writable_struct
  | .loadCommitRequest => loadCommitTx check_writable_struct
  | .loadRollbackRequest => loadRollbackTx check_writable_struct
  | .clearRun => clearRun
  | .setRunCypher cypher n_parameter => setRunCypher cypher n_parameter
  | .setRunCypherParameter index name write => setRunCypherParameter index name write
  | .setRunBookmarks bookmark_list => setRunBookmark bookmark_list
  | .setRunTxTimeout timeout => setRunTxTimeout timeout
  | .setRunTxMetadata metadata => setRunTxMetadata metadata
  | .loadRunRequest => loadRun check_writable_struct
  | .loadDiscardRequest n => loadDiscard check_writable_struct n
  | .loadPullRequest n => loadPull check_writable_struct n
  | .loadResetRequest => loadReset check_writable_struct

/-- `BoltProtocolV1_create_protocol`, `BoltProtocolV2_create_protocol` and
`BoltProtocolV3_create_protocol`. -/
def BoltProtocol.create : ProtocolVersion → BoltProtocol
  | .v1 => ⟨.v1, BoltProtocolV1.createState⟩
  | .v2 => ⟨.v2, BoltProtocolV1.createState⟩
  | .v3 => ⟨.v3, BoltProtocolV3.createState⟩

/-- The function of the protocol that a request calls. -/
def ProtocolVersion.request : ProtocolVersion → Request → Session → Outcome Session
  | .v1 => BoltProtocolV1.request ProtocolVersion.v1.checkWritableStruct
  | .v2 => BoltProtocolV1.request ProtocolVersion.v2.checkWritableStruct
  | .v3 => BoltProtocolV3.request ProtocolVersion.v3.checkWritableStruct

namespace BoltConnection

/-- The body of the functions of `connection.c` for the requests: the `TRY`
around the function of the protocol.  `BoltConnection_set_run_cypher_parameter`
has no `TRY`, but its function does not return an error either. -/
def request (request : Request) (connection : BoltConnection) : Outcome BoltConnection :=
  match connection.protocol with
  | none => none
  | some protocol =>
    (protocol.version.request request ({ connection with protocol := none }, protocol.state)).map
      fun (status, connection, state) =>
        tryStatus status { connection with protocol := some { protocol with state := state } }

/-- `BoltConnection_load_reset_request`. -/
def loadResetRequest : BoltConnection → Outcome BoltConnection := request .loadResetRequest

/-- `BoltConnection_last_request`, which is called after a request was loaded. -/
def lastRequest (connection : BoltConnection) : Option Nat :=
  connection.protocol.map fun protocol => protocol.state.next_request_id - 1

end BoltConnection

end Seabolt
