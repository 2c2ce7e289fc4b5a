import Seabolt.ServerStrings

/-!
# What a summary leaves

The entries of the metadata are distributed over the state: each is copied to the
result metadata, or is reserved and goes to the field of its key, or is dropped
because its value has another type.  Entries under one key come one after the
other, so the last one counts.  A copy is the value with its Booleans as 0 or 1
(`copy_eq_canon`).
-/

namespace Seabolt

open BoltValue

/-! ## The names of the columns -/

/-- The name of a column: a String or Null. -/
def columnName : BoltValue → BoltValue
  | string data => string data
  | _ => null

/-- The names in a List. -/
def columnNames : BoltValue → Option BoltValue
  | list elements => some (list (elements.map columnName))
  | _ => none

/-- The names in the last List under `fields`. -/
def lastFields : List (BoltValue × BoltValue) → Option BoltValue
  | [] => none
  | entry :: entries =>
    (lastFields entries).or (if entry.1.stringEquals FIELDS_KEY then columnNames entry.2 else none)

/-- The entries that are not reserved. -/
def unreserved (connectionId : Bool) (data_type : Int16) (entries : List (BoltValue × BoltValue)) :
    List (BoltValue × BoltValue) :=
  entries.filter fun entry => !isReserved connectionId data_type entry.1

theorem fieldName_eq {v : BoltValue} (h : v.Copyable) : fieldName v = some (columnName v) := by
  cases v with
  | negative type n =>
    cases type with
    | string => exact absurd h (by simp [Copyable])
    | _ => rfl
  | _ => rfl

theorem mapM_fieldName {elements : List BoltValue} (h : ∀ v ∈ elements, v.Copyable) :
    elements.mapM fieldName = some (elements.map columnName) := by
  induction elements with
  | nil => rfl
  | cons v vs ih =>
    obtain ⟨hv, hvs⟩ := List.forall_mem_cons.mp h
    rw [List.mapM_cons, fieldName_eq hv, ih hvs]
    rfl

/-! ## One entry -/

variable {connectionId : Bool} {id : List UInt8} {data_type : Int16} {summary : SummaryData}
  {garbage : List UInt8} {key value : BoltValue} {state : Extraction}

/-- The result metadata grow by one entry. -/
theorem appendMetadata_spec {before : List (BoltValue × BoltValue)}
    (hbefore : summary.result_metadata = dictionary before) (hkey : key.Copyable)
    (hvalue : value.Copyable) (h : appendMetadata key value (summary, garbage) = some state) :
    state.1.result_metadata = dictionary (before ++ [(key.canon, value.canon)]) ∧
      state.1.result_field_names = summary.result_field_names := by
  unfold appendMetadata at h
  rw [copy_eq_canon key null hkey, copy_eq_canon value null hvalue] at h
  obtain rfl := Option.some.inj h
  refine ⟨?_, rfl⟩
  have hsize : (dictionary before).size.toNat = before.length := by
    rw [BoltValue.size, Int.toNat_natCast]
  have hgrown : (dictionary before).dictionaryEntries (before.length + 1) =
      before ++ [(null, null)] := by
    simp [dictionaryEntries, resize]
  show dictionary _ = _
  rw [hbefore, hsize, hgrown, List.set_append_right _ _ le_rfl, Nat.sub_self, List.set_cons_zero]

/-- What is reserved is not appended, and what is not reserved is. -/
structure Distributes (connectionId : Bool) (data_type : Int16)
    (entries : List (BoltValue × BoltValue)) (summary summary' : SummaryData) : Prop where
  result_metadata : ∀ before, summary.result_metadata = dictionary before →
    summary'.result_metadata =
      dictionary (before ++ canonEntries (unreserved connectionId data_type entries))
  result_field_names :
    summary'.result_field_names = (lastFields entries).getD summary.result_field_names

theorem isReserved_string {reserved : List UInt8}
    (h : reserved ∈ reservedKeys connectionId data_type) :
    isReserved connectionId data_type (string reserved) = true :=
  List.any_eq_true.mpr ⟨reserved, h, (stringEquals_iff (not_nul_of_reserved h)).mpr rfl⟩

theorem lastFields_other {other : List UInt8} (hne : other ≠ FIELDS_KEY) :
    lastFields [(string other, value)] = none := by
  have hequal : (string other).stringEquals FIELDS_KEY = false := by
    rw [Bool.eq_false_iff, ne_eq, stringEquals_iff (by decide), string.injEq]
    exact hne
  simp [lastFields, hequal]

/-- An entry under a reserved key. -/
theorem distributes_reserved {reserved : List UInt8} {summary' : SummaryData}
    (hreserved : reserved ∈ reservedKeys connectionId data_type)
    (hmetadata : summary'.result_metadata = summary.result_metadata)
    (hnames : summary'.result_field_names =
      (lastFields [(string reserved, value)]).getD summary.result_field_names) :
    Distributes connectionId data_type [(string reserved, value)] summary summary' := by
  refine ⟨fun before hbefore => ?_, hnames⟩
  have hnone : unreserved connectionId data_type [(string reserved, value)] = [] := by
    simp [unreserved, isReserved_string hreserved]
  rw [hmetadata, hbefore, hnone, canonEntries, List.append_nil]

theorem setConnectionId_metadata (id data : List UInt8) (state : Extraction) :
    (setConnectionId id data state).1.result_metadata = state.1.result_metadata ∧
      (setConnectionId id data state).1.result_field_names = state.1.result_field_names := by
  unfold setConnectionId
  dsimp only
  split_ifs <;> exact ⟨rfl, rfl⟩

/-- Each entry goes to its place. -/
theorem Extracts.distributes (hkey : key.Copyable) (hvalue : value.Copyable)
    (h : Extracts connectionId id data_type summary garbage key value state) :
    Distributes connectionId data_type [(key, value)] summary state.1 := by
  cases h with
  | bookmark data =>
    refine distributes_reserved (mem_reservedKeys.mpr (.inl rfl)) rfl ?_
    rw [lastFields_other (by decide)]
    rfl
  | fields hnames =>
    refine distributes_reserved (mem_reservedKeys.mpr (.inr (.inl rfl))) rfl ?_
    rw [mapM_fieldName ((copyableElements_iff _).mp hvalue)] at hnames
    obtain rfl := Option.some.inj hnames
    have hequal : (string FIELDS_KEY).stringEquals FIELDS_KEY = true :=
      (stringEquals_iff (by decide)).mpr rfl
    simp [lastFields, hequal, columnNames]
  | server data =>
    refine distributes_reserved (mem_reservedKeys.mpr (.inr (.inr (.inl rfl)))) rfl ?_
    rw [lastFields_other (by decide)]
    rfl
  | connectionId hversion data =>
    obtain ⟨hmetadata, hnames⟩ := setConnectionId_metadata id data (summary, garbage)
    refine distributes_reserved (connectionId_mem_reservedKeys hversion) hmetadata ?_
    rw [lastFields_other (by decide)]
    exact hnames
  | code htype data =>
    refine distributes_reserved (code_mem_reservedKeys htype) rfl ?_
    rw [lastFields_other (by decide)]
    rfl
  | message htype data =>
    refine distributes_reserved (message_mem_reservedKeys htype) rfl ?_
    rw [lastFields_other (by decide)]
    rfl
  | @dropped reserved _ hreserved hmistyped =>
    refine distributes_reserved hreserved rfl ?_
    by_cases hfields : reserved = FIELDS_KEY
    · rw [Mistyped, if_pos hfields] at hmistyped
      have hnone : columnNames value = none := by
        cases value with
        | list elements => exact absurd rfl (hmistyped elements)
        | _ => rfl
      simp [lastFields, hnone]
    · rw [lastFields_other hfields]
      rfl
  | metadata hunreserved happend =>
    refine ⟨fun before hbefore => ?_, ?_⟩
    · rw [(appendMetadata_spec hbefore hkey hvalue happend).1]
      simp [unreserved, hunreserved, canonEntries]
    · have hnone : lastFields [(key, value)] = none := by
        have hequal := stringEquals_of_not_reserved hunreserved
          (mem_reservedKeys.mpr (.inr (.inl rfl)) : FIELDS_KEY ∈ _)
        simp [lastFields, hequal]
      rw [hnone]
      obtain ⟨dest_key, -, h⟩ := Option.bind_eq_some_iff.mp happend
      obtain ⟨dest_value, -, h⟩ := Option.bind_eq_some_iff.mp h
      rw [← Option.some.inj h]
      rfl

theorem unreserved_cons (entry : BoltValue × BoltValue) (entries : List (BoltValue × BoltValue)) :
    unreserved connectionId data_type (entry :: entries) =
      unreserved connectionId data_type [entry] ++ unreserved connectionId data_type entries := by
  rw [unreserved, unreserved, unreserved, ← List.filter_append]
  rfl

theorem canonEntries_append (front back : List (BoltValue × BoltValue)) :
    canonEntries (front ++ back) = canonEntries front ++ canonEntries back := by
  rw [canonEntries_eq_map, canonEntries_eq_map, canonEntries_eq_map, List.map_append]

theorem lastFields_cons (entry : BoltValue × BoltValue) (entries : List (BoltValue × BoltValue)) :
    lastFields (entry :: entries) = (lastFields entries).or (lastFields [entry]) := rfl

/-- One entry, and then the others. -/
theorem Distributes.cons {entry : BoltValue × BoltValue} {entries : List (BoltValue × BoltValue)}
    {summary1 summary2 : SummaryData}
    (h : Distributes connectionId data_type [entry] summary summary1)
    (h' : Distributes connectionId data_type entries summary1 summary2) :
    Distributes connectionId data_type (entry :: entries) summary summary2 := by
  constructor
  · intro before hbefore
    rw [h'.result_metadata _ (h.result_metadata before hbefore), unreserved_cons entry entries,
      canonEntries_append, List.append_assoc]
  · rw [h'.result_field_names, h.result_field_names, lastFields_cons entry entries]
    cases lastFields entries <;> rfl

/-- The loop over the metadata. -/
theorem extractEntries_distributes (entries : List (BoltValue × BoltValue)) :
    ∀ {state state' : Extraction}, (∀ e ∈ entries, e.1.Copyable ∧ e.2.Copyable) →
      extractEntries connectionId id data_type entries state = some state' →
      Distributes connectionId data_type entries state.1 state'.1 := by
  induction entries with
  | nil =>
    intro state state' _ h
    obtain rfl := Option.some.inj h
    exact ⟨fun before hbefore => by rw [hbefore]; simp [unreserved, canonEntries], rfl⟩
  | cons entry entries ih =>
    intro state state' hcopyable h
    obtain ⟨⟨hkey, hvalue⟩, hrest⟩ := List.forall_mem_cons.mp hcopyable
    obtain ⟨state1, hentry, hentries⟩ := Option.bind_eq_some_iff.mp h
    exact ((extractEntry_cases hentry).distributes hkey hvalue).cons (ih hrest hentries)

/-! ## A summary -/

/-- A summary with a Map that has Strings for keys, and fixed-size strings within
their limits.  No received value is a String of negative size. -/
structure IsSummary (message : BoltMessage) (entries : List (BoltValue × BoltValue)) : Prop where
  summary : message.code ≠ BOLT_V1_RECORD
  metadata : message.fields.head? = some (dictionary entries)
  keys : ∀ e ∈ entries, ∃ key, e.1 = string key
  copyable : ∀ v ∈ message.fields, v.Copyable
  strings : ∀ e ∈ entries, FitsStrings e
  connection_id : ∀ e ∈ entries, ∀ s, e = (string CONNECTION_ID_KEY, string s) →
    s.length < MAX_CONNECTION_ID_SIZE

/-- The failure data after the Strings under `code` and `message`. -/
def failureAfter (entries : List (BoltValue × BoltValue)) (code message : BoltValue) : BoltValue :=
  failureData (overwritten (lastString FAILURE_CODE_KEY entries) code)
    (overwritten (lastString FAILURE_MESSAGE_KEY entries) message)

/-- What a summary with these entries leaves in the state. -/
structure Partitions (version : ProtocolVersion) (message : BoltMessage)
    (entries : List (BoltValue × BoltValue)) (state state' : BoltProtocolState) : Prop where
  result_metadata : state'.result_metadata =
    dictionary (canonEntries (unreserved version.knowsConnectionId message.code entries))
  result_field_names :
    state'.result_field_names = (lastFields entries).getD state.result_field_names
  failure : message.code = BOLT_V1_FAILURE → ∀ code text,
    ensureFailureData state.failure_data = failureData code text → state'.failure_data =
      if lastString FAILURE_CODE_KEY entries = none ∧ lastString FAILURE_MESSAGE_KEY entries = none then
        state.failure_data
      else some (failureAfter entries code text)
  other : message.code ≠ BOLT_V1_FAILURE → state'.failure_data = state.failure_data
  data : state'.data = .list message.fields

/-- Failure data that are ensured are what they are, if there are any. -/
theorem Gathers.eq {entries : List (BoltValue × BoltValue)} {failure_data failure_data' : Option BoltValue}
    {code message : BoltValue} (h : Gathers entries failure_data failure_data')
    (hdata : ensureFailureData failure_data = failureData code message) :
    failure_data' =
      if lastString FAILURE_CODE_KEY entries = none ∧ lastString FAILURE_MESSAGE_KEY entries = none then
        failure_data
      else some (failureAfter entries code message) := by
  have hensured := h.ensured code message hdata
  have hsome := h.isSome
  split_ifs with hnone
  · rw [hnone.1, hnone.2] at hensured hsome
    simp only [Option.isSome_none, Bool.or_false] at hsome
    cases failure_data with
    | none => rwa [Option.isSome_none, Option.isSome_eq_false_iff, Option.isNone_iff_eq_none] at hsome
    | some data =>
      obtain ⟨data', rfl⟩ := Option.isSome_iff_exists.mp hsome
      exact congrArg some (hensured.trans hdata.symm)
  · have hsome : failure_data'.isSome = true := by
      rw [hsome]
      cases hcode : lastString FAILURE_CODE_KEY entries with
      | some => simp
      | none =>
        cases hmessage : lastString FAILURE_MESSAGE_KEY entries with
        | some => simp
        | none => exact absurd ⟨hcode, hmessage⟩ hnone
    obtain ⟨data', rfl⟩ := Option.isSome_iff_exists.mp hsome
    exact congrArg some hensured

/-- A summary is received, and every entry of its metadata is where it belongs. -/
theorem receiveStep_partitions (version : ProtocolVersion) (session : Session)
    (message : BoltMessage) (entries : List (BoltValue × BoltValue))
    (hsummary : IsSummary message entries) :
    ∃ session', version.receiveStep message session = some ((), session') ∧
      Partitions version message entries session.2 session'.2 := by
  obtain ⟨connection, state⟩ := session
  obtain ⟨code, fields⟩ := message
  obtain ⟨rest, rfl⟩ : ∃ rest, fields = dictionary entries :: rest := by
    cases fields with
    | nil => cases hsummary.metadata
    | cons first rest => exact ⟨rest, by rw [Option.some.inj hsummary.metadata]⟩
  obtain ⟨session', hread, hafter⟩ :=
    readSummary_decoded version hsummary.copyable connection state
  have hcode : code ≠ BOLT_V1_RECORD := hsummary.summary
  have htype : (decoded (some ⟨code, dictionary entries :: rest⟩) state).data_type ≠
      BOLT_V1_RECORD := by
    rw [decoded, countRecord_eq]
    exact hcode
  have hextracts := readSummary_extracts htype hread
  rw [decoded, countRecord_eq] at hextracts
  have hentries := (copyableEntries_iff entries).mp (hsummary.copyable _ List.mem_cons_self)
  have hdistributes := extractEntries_distributes entries hentries hextracts
  have hcollects := extractEntries_collects entries hextracts
  refine ⟨session', by rw [ProtocolVersion.receiveStep, hread, Option.map_some], ?_⟩
  exact {
    result_metadata := hdistributes.result_metadata [] rfl
    result_field_names := hdistributes.result_field_names
    failure := fun htype _ _ hdata => (hcollects.failure htype).eq hdata
    other := hcollects.other
    data := congrArg BoltProtocolState.data hafter.state }

/-- The entries of the response to a RUN. -/
def runEntries : List (BoltValue × BoltValue) :=
  [(string FIELDS_KEY, list [string (ascii "n"), null]), (string (ascii "t_first"), integer 3),
    (string SERVER_KEY, string (ascii "Neo4j/3.5.0"))]

theorem isSummary_run : IsSummary ⟨BOLT_V1_SUCCESS, [dictionary runEntries]⟩ runEntries where
  summary := by decide
  metadata := rfl
  keys := by simp [runEntries]
  copyable := by simp [runEntries, Copyable, CopyableEntries, CopyableElements]
  strings e he := by
    have hbookmark : ∀ data, e ≠ (string BOOKMARK_KEY, string data) := by
      rintro data rfl
      simp [runEntries, BOOKMARK_KEY, SERVER_KEY, FIELDS_KEY, ascii] at he
    refine ⟨fun data hentry => absurd hentry (hbookmark data), ?_⟩
    rintro data rfl
    have hdata : data = ascii "Neo4j/3.5.0" := by
      simpa [runEntries, SERVER_KEY, FIELDS_KEY, ascii] using he
    rw [hdata]
    decide
  connection_id e he := by
    rintro s rfl
    simp [runEntries, CONNECTION_ID_KEY, SERVER_KEY, FIELDS_KEY, ascii] at he

theorem receiveStep_partitions_run :
    ∃ session', ProtocolVersion.v3.receiveStep ⟨BOLT_V1_SUCCESS, [dictionary runEntries]⟩
        (idle .v3, BoltProtocolV3.createState) = some ((), session') ∧
      Partitions .v3 ⟨BOLT_V1_SUCCESS, [dictionary runEntries]⟩ runEntries
        BoltProtocolV3.createState session'.2 :=
  receiveStep_partitions .v3 _ _ runEntries isSummary_run

end Seabolt
