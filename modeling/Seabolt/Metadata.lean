import Seabolt.ProtocolState

/-!
# The metadata of a summary

`BoltProtocolV1_extract_metadata` and `BoltProtocolV3_extract_metadata` look at
the key of each entry.  Some keys are reserved: their values go to fields of the
protocol state if they have the right type, and are dropped otherwise.  What is
under another key is copied to the result metadata.

`Extracts` is the step for one entry, with a constructor for each way it goes.
-/

namespace Seabolt

open BoltValue

/-- The bytes of a String. -/
def BoltValue.asString : BoltValue → Option (List UInt8)
  | string data => some data
  | _ => none

/-! ## Reserved keys -/

/-- The keys whose values are not put into the result metadata. -/
def reservedKeys (connectionId : Bool) (data_type : Int16) : List (List UInt8) :=
  [BOOKMARK_KEY, FIELDS_KEY, SERVER_KEY] ++ (if connectionId then [CONNECTION_ID_KEY] else []) ++
    if data_type = BOLT_V1_FAILURE then [FAILURE_CODE_KEY, FAILURE_MESSAGE_KEY] else []

/-- The key is one of them. -/
def isReserved (connectionId : Bool) (data_type : Int16) (key : BoltValue) : Bool :=
  (reservedKeys connectionId data_type).any key.stringEquals

theorem mem_reservedKeys {connectionId : Bool} {data_type : Int16} {reserved : List UInt8} :
    reserved ∈ reservedKeys connectionId data_type ↔
      reserved = BOOKMARK_KEY ∨ reserved = FIELDS_KEY ∨ reserved = SERVER_KEY ∨
        (connectionId = true ∧ reserved = CONNECTION_ID_KEY) ∨
        (data_type = BOLT_V1_FAILURE ∧
          (reserved = FAILURE_CODE_KEY ∨ reserved = FAILURE_MESSAGE_KEY)) := by
  unfold reservedKeys
  split_ifs with hversion htype htype <;> simp [hversion, htype]

theorem connectionId_mem_reservedKeys {connectionId : Bool} {data_type : Int16}
    (h : connectionId = true) : CONNECTION_ID_KEY ∈ reservedKeys connectionId data_type :=
  mem_reservedKeys.mpr (.inr (.inr (.inr (.inl ⟨h, rfl⟩))))

theorem code_mem_reservedKeys {connectionId : Bool} {data_type : Int16}
    (h : data_type = BOLT_V1_FAILURE) : FAILURE_CODE_KEY ∈ reservedKeys connectionId data_type :=
  mem_reservedKeys.mpr (.inr (.inr (.inr (.inr ⟨h, .inl rfl⟩))))

theorem message_mem_reservedKeys {connectionId : Bool} {data_type : Int16}
    (h : data_type = BOLT_V1_FAILURE) : FAILURE_MESSAGE_KEY ∈ reservedKeys connectionId data_type :=
  mem_reservedKeys.mpr (.inr (.inr (.inr (.inr ⟨h, .inr rfl⟩))))

theorem not_nul_of_reserved {connectionId : Bool} {data_type : Int16} {reserved : List UInt8}
    (h : reserved ∈ reservedKeys connectionId data_type) : 0 ∉ reserved := by
  rcases mem_reservedKeys.mp h with rfl | rfl | rfl | ⟨-, rfl⟩ | ⟨-, rfl | rfl⟩
  all_goals decide

/-- A key that is not reserved equals no reserved key. -/
theorem stringEquals_of_not_reserved {connectionId : Bool} {data_type : Int16} {key : BoltValue}
    (h : isReserved connectionId data_type key = false) {reserved : List UInt8}
    (hreserved : reserved ∈ reservedKeys connectionId data_type) :
    key.stringEquals reserved = false :=
  Bool.eq_false_iff.mpr fun hequal =>
    Bool.eq_false_iff.mp h (List.any_eq_true.mpr ⟨reserved, hreserved, hequal⟩)

/-- The value does not have the type that is expected under a reserved key. -/
def Mistyped (reserved : List UInt8) (value : BoltValue) : Prop :=
  if reserved = FIELDS_KEY then ∀ elements, value ≠ list elements else value.asString = none

/-- A block of memory that is cleared up to its size, and then gets the bytes of a
String. -/
def refill (size : Nat) (block data : List UInt8) : List UInt8 :=
  memcpy (memcpy block 0 (List.replicate size 0)) 0 data

/-- What extracting one entry does. -/
inductive Extracts (connectionId : Bool) (id : List UInt8) (data_type : Int16)
    (summary : SummaryData) (garbage : List UInt8) : BoltValue → BoltValue → Extraction → Prop where
  | bookmark (data : List UInt8) :
      Extracts connectionId id data_type summary garbage (string BOOKMARK_KEY) (string data)
        ({ summary with last_bookmark := refill MAX_BOOKMARK_SIZE summary.last_bookmark data },
          garbage)
  | fields {elements names : List BoltValue} (hnames : elements.mapM fieldName = some names) :
      Extracts connectionId id data_type summary garbage (string FIELDS_KEY) (list elements)
        ({ summary with result_field_names := list names }, garbage)
  | server (data : List UInt8) :
      Extracts connectionId id data_type summary garbage (string SERVER_KEY) (string data)
        ({ summary with server := refill MAX_SERVER_SIZE summary.server data }, garbage)
  | connectionId (hversion : connectionId = true) (data : List UInt8) :
      Extracts connectionId id data_type summary garbage (string CONNECTION_ID_KEY) (string data)
        (setConnectionId id data (summary, garbage))
  | code (htype : data_type = BOLT_V1_FAILURE) (data : List UInt8) :
      Extracts connectionId id data_type summary garbage (string FAILURE_CODE_KEY) (string data)
        ({ summary with
            failure_data :=
              some (setDictionaryValue (ensureFailureData summary.failure_data) 0 (string data)) },
          garbage)
  | message (htype : data_type = BOLT_V1_FAILURE) (data : List UInt8) :
      Extracts connectionId id data_type summary garbage (string FAILURE_MESSAGE_KEY) (string data)
        ({ summary with
            failure_data :=
              some (setDictionaryValue (ensureFailureData summary.failure_data) 1 (string data)) },
          garbage)
  | dropped {reserved : List UInt8} {value : BoltValue}
      (hreserved : reserved ∈ reservedKeys connectionId data_type) (hvalue : Mistyped reserved value) :
      Extracts connectionId id data_type summary garbage (string reserved) value (summary, garbage)
  | metadata {key value : BoltValue} {state : Extraction}
      (hkey : isReserved connectionId data_type key = false)
      (happend : appendMetadata key value (summary, garbage) = some state) :
      Extracts connectionId id data_type summary garbage key value state

variable {connectionId : Bool} {id : List UInt8} {data_type : Int16} {summary : SummaryData}
  {garbage : List UInt8} {key value : BoltValue} {state : Extraction}

theorem onString_cases {f : List UInt8 → Extraction} {state' : Extraction}
    (h : onString value state f = some state') :
    (∃ data, value = string data ∧ state' = f data) ∨ value.asString = none ∧ state' = state := by
  cases value with
  | string data => exact .inl ⟨data, rfl, (Option.some.inj h).symm⟩
  | negative type n =>
    cases type with
    | string => cases h
    | _ => exact .inr ⟨rfl, (Option.some.inj h).symm⟩
  | _ => exact .inr ⟨rfl, (Option.some.inj h).symm⟩

/-- A String under a reserved key goes to its field, and another value is dropped. -/
theorem extracts_onString {reserved : List UInt8} {f : List UInt8 → Extraction}
    (hreserved : reserved ∈ reservedKeys connectionId data_type) (hne : reserved ≠ FIELDS_KEY)
    (hf : ∀ data, Extracts connectionId id data_type summary garbage (string reserved)
      (string data) (f data))
    (h : onString value (summary, garbage) f = some state) :
    Extracts connectionId id data_type summary garbage (string reserved) value state := by
  rcases onString_cases h with ⟨data, rfl, rfl⟩ | ⟨hvalue, rfl⟩
  · exact hf data
  · apply Extracts.dropped hreserved
    rwa [Mistyped, if_neg hne]

/-- An entry that can be extracted is extracted in one of these ways. -/
theorem extractEntry_cases
    (h : extractEntry connectionId id data_type key value (summary, garbage) = some state) :
    Extracts connectionId id data_type summary garbage key value state := by
  unfold extractEntry at h
  dsimp only at h
  split_ifs at h with hbookmark hfields hserver hid hcode hmessage
  · obtain rfl := (stringEquals_iff (by decide)).mp hbookmark
    exact extracts_onString (mem_reservedKeys.mpr (.inl rfl)) (by decide) .bookmark h
  · obtain rfl := (stringEquals_iff (by decide)).mp hfields
    split at h
    · obtain ⟨names, hnames, rfl⟩ := Option.map_eq_some_iff.mp h
      exact .fields hnames
    · next hlist =>
      obtain rfl := Option.some.inj h
      apply Extracts.dropped (mem_reservedKeys.mpr (.inr (.inl rfl)))
      rw [Mistyped, if_pos rfl]
      exact fun elements hvalue => hlist elements hvalue
  · obtain rfl := (stringEquals_iff (by decide)).mp hserver
    exact extracts_onString (mem_reservedKeys.mpr (.inr (.inr (.inl rfl)))) (by decide) .server h
  · obtain ⟨hversion, hequal⟩ := Bool.and_eq_true_iff.mp hid
    obtain rfl := (stringEquals_iff (by decide)).mp hequal
    exact extracts_onString (connectionId_mem_reservedKeys hversion) (by decide)
      (.connectionId hversion) h
  · obtain ⟨hequal, htype⟩ := Bool.and_eq_true_iff.mp hcode
    obtain rfl := (stringEquals_iff (by decide)).mp hequal
    have htype := eq_of_beq htype
    exact extracts_onString (code_mem_reservedKeys htype) (by decide) (.code htype) h
  · obtain ⟨hequal, htype⟩ := Bool.and_eq_true_iff.mp hmessage
    obtain rfl := (stringEquals_iff (by decide)).mp hequal
    have htype := eq_of_beq htype
    exact extracts_onString (message_mem_reservedKeys htype) (by decide) (.message htype) h
  · refine .metadata (Bool.eq_false_iff.mpr fun hreserved => ?_) h
    obtain ⟨reserved, hreserved, hequal⟩ := List.any_eq_true.mp hreserved
    rcases mem_reservedKeys.mp hreserved with
      rfl | rfl | rfl | ⟨hversion, rfl⟩ | ⟨htype, rfl | rfl⟩
    · exact hbookmark hequal
    · exact hfields hequal
    · exact hserver hequal
    · exact hid (by rw [hversion, hequal, Bool.and_self])
    · exact hcode (by rw [hequal, htype, beq_self_eq_true, Bool.and_self])
    · exact hmessage (by rw [hequal, htype, beq_self_eq_true, Bool.and_self])

end Seabolt
