import Seabolt.Protocol
import Seabolt.Signatures

/-!
# Protocol state

The state that `v1.c` and `v3.c` keep for a connection, and what a summary
changes in it.  The two versions differ in the requests they prepare and in
the `connection_id` entry of the metadata, which only the third handles, so
they share one state and one definition of the extraction with a parameter.

The fixed-size strings are blocks of memory: a value that does not fit makes
the block longer than it is.
-/

namespace Seabolt

open BoltValue

/-- The bytes of a string constant. -/
def ascii (text : String) : List UInt8 := text.toList.map fun c => UInt8.ofNat c.toNat

def BOOKMARK_KEY : List UInt8 := ascii "bookmark"
def FIELDS_KEY : List UInt8 := ascii "fields"
def SERVER_KEY : List UInt8 := ascii "server"
def FAILURE_CODE_KEY : List UInt8 := ascii "code"
def FAILURE_MESSAGE_KEY : List UInt8 := ascii "message"
def CONNECTION_ID_KEY : List UInt8 := ascii "connection_id"
def CONNECTION_ID_SEPARATOR : List UInt8 := ascii ", "

abbrev INITIAL_TX_BUFFER_SIZE : Nat := 8192
abbrev INITIAL_RX_BUFFER_SIZE : Nat := 8192
abbrev MAX_BOOKMARK_SIZE : Nat := 40
abbrev MAX_SERVER_SIZE : Nat := 200
abbrev MAX_CONNECTION_ID_SIZE : Nat := 200

/-- The fields of the protocol state that only summaries change. -/
structure SummaryData where
  server : List UInt8
  result_field_names : BoltValue
  result_metadata : BoltValue
  failure_data : Option BoltValue
  last_bookmark : List UInt8
  /-- Only in the third version; empty before. -/
  connection_id : List UInt8

/-- `struct BoltProtocolV1State` and `struct BoltProtocolV3State`. -/
structure BoltProtocolState extends SummaryData where
  tx_buffer : BoltBuffer
  rx_buffer : BoltBuffer
  next_request_id : Nat
  response_counter : Nat
  record_counter : Nat
  run_request : BoltMessage
  begin_request : BoltMessage
  commit_request : BoltMessage
  rollback_request : BoltMessage
  discard_request : BoltMessage
  pull_request : BoltMessage
  reset_request : BoltMessage
  data_type : Int16
  data : BoltValue

/-- `create_run_message` of `v1.c`. -/
def createRunMessage (statement : List UInt8) (n_parameters : Nat) : BoltMessage :=
  { code := BOLT_V1_RUN
    fields := [string statement, dictionary (List.replicate n_parameters (null, null))] }

/-- The part of the initial state in which the versions agree. -/
def BoltProtocolState.initial (connection_id : List UInt8)
    (run_request begin_request commit_request rollback_request : BoltMessage) :
    BoltProtocolState where
  tx_buffer := .create INITIAL_TX_BUFFER_SIZE
  rx_buffer := .create INITIAL_RX_BUFFER_SIZE
  server := List.replicate MAX_SERVER_SIZE 0
  result_field_names := null
  result_metadata := null.formatAsDictionary 0
  failure_data := none
  last_bookmark := List.replicate MAX_BOOKMARK_SIZE 0
  connection_id := connection_id
  next_request_id := 0
  response_counter := 0
  record_counter := 0
  run_request := run_request
  begin_request := begin_request
  commit_request := commit_request
  rollback_request := rollback_request
  discard_request := .create BOLT_V1_DISCARD_ALL 0
  pull_request := .create BOLT_V1_PULL_ALL 0
  reset_request := .create BOLT_V1_RESET 0
  data_type := BOLT_V1_RECORD
  data := null

/-- `BoltProtocolV1_create_state`. -/
def BoltProtocolV1.createState : BoltProtocolState :=
  .initial [] (createRunMessage [] 0) (createRunMessage (ascii "BEGIN") 0)
    (createRunMessage (ascii "COMMIT") 0) (createRunMessage (ascii "ROLLBACK") 0)

/-- `BoltProtocolV3_create_state`. -/
def BoltProtocolV3.createState : BoltProtocolState :=
  .initial (List.replicate MAX_CONNECTION_ID_SIZE 0)
    { code := BOLT_V3_RUN, fields := [string [], dictionary [], dictionary []] }
    { code := BOLT_V3_BEGIN, fields := [dictionary []] }
    (.create BOLT_V3_COMMIT 0) (.create BOLT_V3_ROLLBACK 0)

/-! ## Failure data -/

/-- `_ensure_failure_data` of `v3.c`, `ensure_failure_data` of `v1.c`. -/
def ensureFailureData (failure_data : Option BoltValue) : BoltValue :=
  failure_data.getD
    (dictionary [(string FAILURE_CODE_KEY, null), (string FAILURE_MESSAGE_KEY, null)])

/-- Overwrite the value that `BoltDictionary_value(value, index)` points to. -/
def setDictionaryValue (value : BoltValue) (index : Nat) (content : BoltValue) : BoltValue :=
  match value with
  | dictionary entries => dictionary (entries.modify index fun entry => (entry.1, content))
  | value => value

/-! ## Metadata -/

/-- The summary data and the garbage behind the blocks of memory that are
read as C strings. -/
abbrev Extraction := SummaryData × List UInt8

/-- The `case BOLT_STRING` of a metadata entry, which copies the bytes of the
value: a String of negative size makes the copy one of a negative length. -/
def onString (value : BoltValue) (state : Extraction) (f : List UInt8 → Extraction) :
    Option Extraction :=
  match value with
  | string data => some (f data)
  | negative .string _ => none
  | _ => some state

/-- The name that a `fields` entry gives to a column: a String or Null. -/
def fieldName : BoltValue → Option BoltValue
  | string data => some (string data)
  | negative .string _ => none
  | _ => some null

/-- The C string that starts in a block of memory and, if the block has no
NUL, goes on in whatever is behind it; and the garbage that is left. -/
def cString (block garbage : List UInt8) : List UInt8 × List UInt8 :=
  if block.contains 0 then (block.takeWhile (· ≠ 0), garbage)
  else (block ++ garbage.takeWhile (· ≠ 0), (garbage.dropWhile (· ≠ 0)).tail)

/-- `BoltProtocolV3_id`. -/
def BoltProtocolV3.id (summary : SummaryData) (id : List UInt8) : List UInt8 :=
  if summary.connection_id.takeWhile (· ≠ 0) = [] then id
  else summary.connection_id.takeWhile (· ≠ 0)

/-- The `connection_id` entry of `BoltProtocolV3_extract_metadata`: append the
value to the id of the connection, unless the whole would be too long.  The
value is read as a C string, although it is not one. -/
def setConnectionId (id data : List UInt8) : Extraction → Extraction
  | (summary, garbage) =>
    let old_connection_id := BoltProtocolV3.id summary id
    let total_new_length :=
      old_connection_id.length + data.length + CONNECTION_ID_SEPARATOR.length + 1
    if total_new_length > MAX_CONNECTION_ID_SIZE then (summary, garbage)
    else
      let copied := memcpy summary.connection_id 0 old_connection_id
      let (new_connection_id, garbage) := cString data garbage
      let printed :=
        (CONNECTION_ID_SEPARATOR ++ new_connection_id).take (MAX_CONNECTION_ID_SIZE - 1)
      ({ summary with connection_id := memcpy copied old_connection_id.length (printed ++ [0]) },
        garbage)

/-- The last branch of the loop: append copies of the key and the value to
the result metadata. -/
def appendMetadata (key value : BoltValue) : Extraction → Option Extraction
  | (summary, garbage) => do
    let index := summary.result_metadata.size.toNat
    let entries := summary.result_metadata.dictionaryEntries (index + 1)
    let dest_key ← copy null key
    let dest_value ← copy null value
    some ({ summary with result_metadata := dictionary (entries.set index (dest_key, dest_value)) },
      garbage)

/-- One round of the loop of `BoltProtocolV1_extract_metadata` and
`BoltProtocolV3_extract_metadata`.  `connectionId` says whether the version
knows the `connection_id` entry. -/
def extractEntry (connectionId : Bool) (id : List UInt8) (data_type : Int16)
    (key value : BoltValue) (state : Extraction) : Option Extraction :=
  let (summary, garbage) := state
  if key.stringEquals BOOKMARK_KEY then
    onString value state fun data =>
      let cleared := memcpy summary.last_bookmark 0 (List.replicate MAX_BOOKMARK_SIZE 0)
      ({ summary with last_bookmark := memcpy cleared 0 data }, garbage)
  else if key.stringEquals FIELDS_KEY then
    match value with
    | list elements => (elements.mapM fieldName).map fun names =>
      ({ summary with result_field_names := list names }, garbage)
    | _ => some state
  else if key.stringEquals SERVER_KEY then
    onString value state fun data =>
      let cleared := memcpy summary.server 0 (List.replicate MAX_SERVER_SIZE 0)
      ({ summary with server := memcpy cleared 0 data }, garbage)
  else if connectionId && key.stringEquals CONNECTION_ID_KEY then
    onString value state fun data => setConnectionId id data state
  else if key.stringEquals FAILURE_CODE_KEY && data_type == BOLT_V1_FAILURE then
    onString value state fun data =>
      let failure_data := ensureFailureData summary.failure_data
      ({ summary with failure_data := setDictionaryValue failure_data 0 (string data) }, garbage)
  else if key.stringEquals FAILURE_MESSAGE_KEY && data_type == BOLT_V1_FAILURE then
    onString value state fun data =>
      let failure_data := ensureFailureData summary.failure_data
      ({ summary with failure_data := setDictionaryValue failure_data 1 (string data) }, garbage)
  else appendMetadata key value state

/-- The loop over the entries of the metadata. -/
def extractEntries (connectionId : Bool) (id : List UInt8) (data_type : Int16) :
    List (BoltValue × BoltValue) → Extraction → Option Extraction
  | [], state => some state
  | (key, value) :: entries, state => do
    let state ← extractEntry connectionId id data_type key value state
    extractEntries connectionId id data_type entries state

/-- The body that `BoltProtocolV1_extract_metadata` and
`BoltProtocolV3_extract_metadata` share. -/
def extractMetadata (connectionId : Bool) (id : List UInt8) (data_type : Int16)
    (metadata : BoltValue) (state : Extraction) : Option Extraction :=
  match metadata with
  | dictionary entries => extractEntries connectionId id data_type entries state
  | _ => some state

/-- `BoltProtocolV1_extract_metadata`. -/
def BoltProtocolV1.extractMetadata :
    List UInt8 → Int16 → BoltValue → Extraction → Option Extraction :=
  Seabolt.extractMetadata false

/-- `BoltProtocolV3_extract_metadata`. -/
def BoltProtocolV3.extractMetadata :
    List UInt8 → Int16 → BoltValue → Extraction → Option Extraction :=
  Seabolt.extractMetadata true

/-! ## The extraction of copyable metadata -/

theorem onString_isSome {value : BoltValue} (h : value.Copyable) (state : Extraction)
    (f : List UInt8 → Extraction) : ∃ state', onString value state f = some state' := by
  unfold onString
  split
  · exact ⟨_, rfl⟩
  · exact absurd h (by simp [Copyable])
  · exact ⟨_, rfl⟩

theorem mapM_fieldName_isSome (elements : List BoltValue) (h : ∀ v ∈ elements, v.Copyable) :
    ∃ names, elements.mapM fieldName = some names := by
  induction elements with
  | nil => exact ⟨[], rfl⟩
  | cons v vs ih =>
    obtain ⟨names, hnames⟩ := ih fun w hw => h w (List.mem_cons_of_mem v hw)
    have hname : ∃ name, fieldName v = some name := by
      unfold fieldName
      split
      · exact ⟨_, rfl⟩
      · exact absurd (h _ List.mem_cons_self) (by simp [Copyable])
      · exact ⟨_, rfl⟩
    obtain ⟨name, hname⟩ := hname
    refine ⟨name :: names, ?_⟩
    rw [List.mapM_cons, hname, hnames]
    rfl

/-- Extracting an entry of copyable values does not run into a copy of a
negative length. -/
theorem extractEntry_isSome (connectionId : Bool) (id : List UInt8) (data_type : Int16)
    {key value : BoltValue} (hkey : key.Copyable) (hvalue : value.Copyable) (state : Extraction) :
    ∃ state', extractEntry connectionId id data_type key value state = some state' := by
  unfold extractEntry
  dsimp only
  split_ifs
  · exact onString_isSome hvalue _ _
  · split
    · obtain ⟨names, hnames⟩ := mapM_fieldName_isSome _ ((copyableElements_iff _).mp hvalue)
      rw [hnames]
      exact ⟨_, rfl⟩
    · exact ⟨_, rfl⟩
  · exact onString_isSome hvalue _ _
  · exact onString_isSome hvalue _ _
  · exact onString_isSome hvalue _ _
  · exact onString_isSome hvalue _ _
  · rw [appendMetadata, copy_eq_canon key null hkey, copy_eq_canon value null hvalue]
    exact ⟨_, rfl⟩

/-- So does extracting copyable metadata of any shape. -/
theorem extractMetadata_isSome (connectionId : Bool) (id : List UInt8) (data_type : Int16)
    {metadata : BoltValue} (h : metadata.Copyable) (state : Extraction) :
    ∃ state', extractMetadata connectionId id data_type metadata state = some state' := by
  unfold extractMetadata
  split
  · rename_i entries
    have hall := (copyableEntries_iff entries).mp h
    clear h
    induction entries generalizing state with
    | nil => exact ⟨state, rfl⟩
    | cons entry entries ih =>
      obtain ⟨hkey, hvalue⟩ := hall entry List.mem_cons_self
      obtain ⟨state', hstate⟩ :=
        extractEntry_isSome connectionId id data_type hkey hvalue state
      obtain ⟨state'', hrest⟩ := ih state' fun e he => hall e (List.mem_cons_of_mem _ he)
      refine ⟨state'', ?_⟩
      rw [extractEntries, hstate]
      exact hrest
  · exact ⟨state, rfl⟩

end Seabolt
