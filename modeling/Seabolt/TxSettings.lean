import Seabolt.Lib.Entries
import Seabolt.Builders

/-!
# The settings of a transaction

The third version sends the settings of a transaction in a dictionary, in the
first field of a BEGIN and the third of a RUN.  The setters of `v3.c` look for
the entry with their key, add it where there is none, and copy what they are
passed into it.  The access mode is written when the request is loaded.

`Setting.update` is what a call means for the map that the dictionary stands
for, and `txSettings_map` says that after any calls the dictionary has one entry
for each key that the last of them left in the map.
-/

namespace Seabolt

open BoltValue Entries BoltConnection

/-! ## The meaning of a call -/

/-- A call of one of the setters. -/
inductive Setting where
  | bookmarks (bookmark_list : Option BoltValue)
  | timeout (tx_timeout : Int64)
  | metadata (tx_metadata : Option BoltValue)

namespace Setting

/-- The key of the entry that the setter looks for. -/
def key : Setting → List UInt8
  | bookmarks _ => BOOKMARKS_KEY
  | timeout _ => TX_TIMEOUT_KEY
  | metadata _ => TX_METADATA_KEY

/-- The argument is of the type that the setter accepts. -/
def wellTyped : Setting → Bool
  | bookmarks (some bookmark_list) => isBookmarkList bookmark_list
  | metadata (some tx_metadata) => isTxMetadata tx_metadata
  | _ => true

/-- The argument that is copied, if there is one. -/
def argument : Setting → Option BoltValue
  | bookmarks bookmark_list => bookmark_list
  | timeout _ => none
  | metadata tx_metadata => tx_metadata

/-- What the call makes of the value under its key: a copy of the argument, or
an empty value where there was one. -/
def value : Setting → Option BoltValue → Option BoltValue
  | bookmarks (some bookmark_list), _ => some bookmark_list.canon
  | bookmarks none, old => old.map fun _ => list []
  | timeout tx_timeout, old =>
    if tx_timeout < 0 then old.map fun _ => null else some (integer tx_timeout)
  | metadata (some tx_metadata), _ => some tx_metadata.canon
  | metadata none, old => old.map fun _ => dictionary []

/-- The result of the call. -/
def result (setting : Setting) : Int :=
  if setting.wellTyped then BOLT_SUCCESS else BOLT_PROTOCOL_VIOLATION

/-- The map after the call. -/
def update (setting : Setting) (map : List UInt8 → Option BoltValue) (key : List UInt8) :
    Option BoltValue :=
  if setting.key = key ∧ setting.wellTyped then setting.value (map key) else map key

/-- The function of `v3.c` that is called with the metadata of the request. -/
def call : Setting → BoltValue → Outcome BoltValue
  | bookmarks bookmark_list => setTxBookmark bookmark_list
  | timeout tx_timeout => setTxTimeout tx_timeout
  | metadata tx_metadata => setTxMetadata tx_metadata

end Setting

/-- The value that calls leave under a key: that of the last one with the key
whose argument was accepted. -/
def valueOf (settings : List Setting) (key : List UInt8) : Option BoltValue :=
  (settings.filter fun setting => setting.key = key ∧ setting.wellTyped).foldl
    (fun old setting => setting.value old) none

/-- The map with the access mode, which only READ puts into it. -/
def withMode (reads : Bool) (map : List UInt8 → Option BoltValue) (key : List UInt8) :
    Option BoltValue :=
  if key = MODE_KEY ∧ reads then some (string READ_MODE_VALUE) else map key

/-- The keys of a map as values. -/
def underStrings (map : List UInt8 → Option BoltValue) : BoltValue → Option BoltValue
  | string key => map key
  | _ => none

/-! ## Entries -/

variable {entries : List (BoltValue × BoltValue)} {map map' : List UInt8 → Option BoltValue}
  {key : List UInt8}

/-- Only the value under one key is another. -/
theorem underStrings_other (hother : ∀ other, other ≠ key → map' other = map other) :
    ∀ other, other ≠ string key → underStrings map' other = underStrings map other := by
  intro other hne
  cases other with
  | string name => exact hother name fun hsame => hne (congrArg string hsame)
  | _ => rfl

/-- The entry that is looked up is the one with the key. -/
theorem keyIndex_some (hkey : 0 ∉ key) {index : Nat} (h : keyIndex entries key = some index) :
    ∃ old, entries[index]? = some (string key, old) := by
  obtain ⟨hlt, hequals, -⟩ := List.findIdx?_eq_some_iff_getElem.mp h
  have hname := (stringEquals_iff hkey).mp hequals
  exact ⟨entries[index].2, by rw [List.getElem?_eq_getElem hlt, ← hname]⟩

theorem keyIndex_none (hkey : 0 ∉ key) (h : keyIndex entries key = none) (value : BoltValue) :
    (string key, value) ∉ entries := by
  intro hmem
  have hequals := List.findIdx?_eq_none_iff.mp h _ hmem
  rw [(stringEquals_iff hkey).mpr rfl] at hequals
  cases hequals

/-- The value under a key is overwritten, or added. -/
theorem represents_writeEntry (h : Represents entries (underStrings map)) (hkey : 0 ∉ key)
    {value : BoltValue} (hvalue : map' key = some value)
    (hother : ∀ other, other ≠ key → map' other = map other) :
    Represents (writeEntry key value entries) (underStrings map') := by
  unfold writeEntry ensureEntry
  cases hindex : keyIndex entries key with
  | some index =>
    obtain ⟨old, hentry⟩ := keyIndex_some hkey hindex
    exact h.modify (fun _ => value) hentry hvalue (underStrings_other hother)
  | none =>
    have hadded : changeValue (fun _ => value) entries.length
        ((resize entries (entries.length + 1) (null, null)).modify entries.length
          fun entry => (string key, entry.2)) = entries ++ [(string key, value)] := by
      have hresize : resize entries (entries.length + 1) (null, null) =
          entries ++ [((null, null) : BoltValue × BoltValue)] := by
        rw [resize, List.take_of_length_le (Nat.le_succ _), Nat.add_sub_cancel_left]
        rfl
      have hlast : ∀ (f : BoltValue × BoltValue → BoltValue × BoltValue) (entry),
          (entries ++ [entry]).modify entries.length f = entries ++ [f entry] :=
        fun f entry => List.modifyTailIdx_add (List.modifyHead f) 0 entries [entry]
      rw [hresize, changeValue, hlast, hlast]
    simp only [hadded]
    exact h.add (h.eq_none (keyIndex_none hkey hindex)) hvalue (underStrings_other hother)

/-- The value under a key is changed if there is one. -/
theorem represents_changeIfPresent (h : Represents entries (underStrings map)) (hkey : 0 ∉ key)
    {change : BoltValue → BoltValue} (hvalue : map' key = (map key).map change)
    (hother : ∀ other, other ≠ key → map' other = map other) :
    Represents (changeIfPresent key change entries) (underStrings map') := by
  unfold changeIfPresent
  cases hindex : keyIndex entries key with
  | some index =>
    obtain ⟨old, hentry⟩ := keyIndex_some hkey hindex
    have hold : map key = some old := (h.lookup _ _).mp (List.mem_of_getElem? hentry)
    refine h.modify change hentry ?_ (underStrings_other hother)
    exact hvalue.trans (by rw [hold, Option.map_some])
  | none =>
    have hnone : map key = none := h.eq_none (keyIndex_none hkey hindex)
    have hsame : map' = map := by
      funext other
      by_cases hother' : other = key
      · rw [hother', hvalue, hnone, Option.map_none]
      · exact hother other hother'
    rwa [hsame]

/-! ## Setters -/

theorem Setting.zero_not_mem_key (setting : Setting) : 0 ∉ setting.key := by
  cases setting <;> (rw [key]; decide)

theorem Setting.key_ne_mode (setting : Setting) : setting.key ≠ MODE_KEY := by
  cases setting <;> (rw [key]; decide)

/-- A setter whose argument is accepted changes the value under its key. -/
theorem Setting.update_key {setting : Setting} (h : setting.wellTyped = true)
    (map : List UInt8 → Option BoltValue) :
    setting.update map setting.key = setting.value (map setting.key) :=
  if_pos ⟨rfl, h⟩

theorem Setting.update_other (setting : Setting) (map : List UInt8 → Option BoltValue)
    (hkey : key ≠ setting.key) : setting.update map key = map key :=
  if_neg fun h => hkey h.1.symm

/-- Copying an argument into its entry. -/
theorem copyEntry_cases {value : BoltValue} {status : Int} {entries' : List (BoltValue × BoltValue)}
    (h : copyEntry key value entries = some (status, entries')) :
    status = BOLT_SUCCESS ∧ entries' = writeEntry key value.canon entries := by
  obtain ⟨copied, hcopy, hresult⟩ := Option.map_eq_some_iff.mp h
  obtain ⟨rfl, rfl⟩ := Prod.mk.inj hresult
  rw [copy_eq_canon value null (copyable_of_copy value null copied hcopy)] at hcopy
  exact ⟨rfl, by rw [← Option.some.inj hcopy]⟩

/-- What a setter does to the metadata. -/
structure Setting.Sets (setting : Setting) (map : List UInt8 → Option BoltValue)
    (entries entries' : List (BoltValue × BoltValue)) (status : Int) : Prop where
  status : status = setting.result
  rejected : setting.wellTyped = false → entries' = entries
  represents : Represents entries' (underStrings (setting.update map))

/-- A setter that rejects its argument. -/
theorem Setting.sets_rejected (h : Represents entries (underStrings map)) {setting : Setting}
    (hill : setting.wellTyped = false) :
    setting.Sets map entries entries BOLT_PROTOCOL_VIOLATION := by
  refine ⟨by simp [result, hill], fun _ => rfl, ?_⟩
  have hsame : setting.update map = map := by
    funext key
    exact if_neg fun hboth => by simp [hill] at hboth
  rwa [hsame]

/-- A setter that writes a value under its key. -/
theorem Setting.sets_written (h : Represents entries (underStrings map)) {setting : Setting}
    (hwell : setting.wellTyped = true) {value : BoltValue}
    (hvalue : setting.value (map setting.key) = some value) :
    setting.Sets map entries (writeEntry setting.key value entries) BOLT_SUCCESS := by
  refine ⟨by simp [result, hwell], fun hill => ?_, ?_⟩
  · rw [hwell] at hill
    cases hill
  · exact represents_writeEntry h setting.zero_not_mem_key ((update_key hwell map).trans hvalue)
      fun other hother => setting.update_other map hother

/-- A setter that empties the value under its key. -/
theorem Setting.sets_emptied (h : Represents entries (underStrings map)) {setting : Setting}
    (hwell : setting.wellTyped = true) {change : BoltValue → BoltValue}
    (hvalue : setting.value (map setting.key) = (map setting.key).map change) :
    setting.Sets map entries (changeIfPresent setting.key change entries) BOLT_SUCCESS := by
  refine ⟨by simp [result, hwell], fun hill => ?_, ?_⟩
  · rw [hwell] at hill
    cases hill
  · exact represents_changeIfPresent h setting.zero_not_mem_key
      ((update_key hwell map).trans hvalue) fun other hother => setting.update_other map hother

/-- What a call of a setter does, if it returns. -/
theorem Setting.call_sets (h : Represents entries (underStrings map)) {setting : Setting}
    {status : Int} {value : BoltValue}
    (hcall : setting.call (dictionary entries) = some (status, value)) :
    ∃ entries', value = dictionary entries' ∧ setting.Sets map entries entries' status := by
  cases setting with
  | bookmarks bookmark_list =>
    obtain ⟨⟨_, entries'⟩, hentries, hresult⟩ := Option.map_eq_some_iff.mp hcall
    obtain ⟨rfl, rfl⟩ := Prod.mk.inj hresult
    refine ⟨entries', rfl, ?_⟩
    cases bookmark_list with
    | none =>
      obtain ⟨rfl, rfl⟩ := Prod.mk.inj (Option.some.inj hentries)
      refine sets_emptied h rfl ?_
      simp only [Setting.value, formatAsList_zero]
    | some bookmark_list =>
      by_cases hwell : isBookmarkList bookmark_list = true
      · simp only [hwell, if_true] at hentries
        obtain ⟨rfl, rfl⟩ := copyEntry_cases hentries
        exact @sets_written _ _ h (.bookmarks (some bookmark_list)) hwell _ rfl
      · simp only [hwell] at hentries
        obtain ⟨rfl, rfl⟩ := Prod.mk.inj (Option.some.inj hentries)
        exact sets_rejected h (Bool.eq_false_iff.mpr hwell)
  | timeout tx_timeout =>
    obtain ⟨⟨_, entries'⟩, hentries, hresult⟩ := Option.map_eq_some_iff.mp hcall
    obtain ⟨rfl, rfl⟩ := Prod.mk.inj hresult
    refine ⟨entries', rfl, ?_⟩
    by_cases hnegative : tx_timeout < 0
    · simp only [hnegative, if_true] at hentries
      obtain ⟨rfl, rfl⟩ := Prod.mk.inj (Option.some.inj hentries)
      exact sets_emptied h rfl (if_pos hnegative)
    · simp only [hnegative, if_false] at hentries
      obtain ⟨rfl, rfl⟩ := Prod.mk.inj (Option.some.inj hentries)
      exact sets_written h rfl (if_neg hnegative)
  | metadata tx_metadata =>
    obtain ⟨⟨_, entries'⟩, hentries, hresult⟩ := Option.map_eq_some_iff.mp hcall
    obtain ⟨rfl, rfl⟩ := Prod.mk.inj hresult
    refine ⟨entries', rfl, ?_⟩
    cases tx_metadata with
    | none =>
      obtain ⟨rfl, rfl⟩ := Prod.mk.inj (Option.some.inj hentries)
      refine sets_emptied h rfl ?_
      simp only [Setting.value, formatAsDictionary_zero]
    | some tx_metadata =>
      by_cases hwell : isTxMetadata tx_metadata = true
      · simp only [hwell, if_true] at hentries
        obtain ⟨rfl, rfl⟩ := copyEntry_cases hentries
        exact @sets_written _ _ h (.metadata (some tx_metadata)) hwell _ rfl
      · simp only [hwell] at hentries
        obtain ⟨rfl, rfl⟩ := Prod.mk.inj (Option.some.inj hentries)
        exact sets_rejected h (Bool.eq_false_iff.mpr hwell)

/-- A setter returns unless it has to copy a value that cannot be copied. -/
theorem Setting.call_isSome {setting : Setting}
    (hcopyable : setting.wellTyped = true → ∀ v ∈ setting.argument, v.Copyable)
    (entries : List (BoltValue × BoltValue)) :
    (setting.call (dictionary entries)).isSome = true := by
  have hcopy : ∀ {key value}, value.Copyable → (copyEntry key value entries).isSome = true := by
    intro key value hvalue
    rw [copyEntry, copy_eq_canon value null hvalue]
    rfl
  cases setting with
  | bookmarks bookmark_list =>
    simp only [call, setTxBookmark, onEntries, Option.isSome_map]
    cases bookmark_list with
    | none => rfl
    | some bookmark_list =>
      dsimp only
      split_ifs with hwell
      · exact hcopy (hcopyable hwell bookmark_list rfl)
      · rfl
  | timeout tx_timeout =>
    simp only [call, setTxTimeout, onEntries, Option.isSome_map]
    split_ifs <;> rfl
  | metadata tx_metadata =>
    simp only [call, setTxMetadata, onEntries, Option.isSome_map]
    cases tx_metadata with
    | none => rfl
    | some tx_metadata =>
      dsimp only
      split_ifs with hwell
      · exact hcopy (hcopyable hwell tx_metadata rfl)
      · rfl

/-- What is written when the request is loaded. -/
theorem setAccessMode_represents (h : Represents entries (underStrings map))
    (access_mode : BoltAccessMode) :
    ∃ entries', setAccessMode access_mode (dictionary entries) =
        some (BOLT_SUCCESS, dictionary entries') ∧
      Represents entries' (underStrings (withMode (access_mode == .read) map)) := by
  cases access_mode with
  | read =>
    refine ⟨_, rfl, represents_writeEntry h (by decide) (if_pos ⟨rfl, rfl⟩) ?_⟩
    exact fun other hother => if_neg fun hboth => hother hboth.1
  | write =>
    have hsame : withMode (BoltAccessMode.write == .read) map = map := by
      funext key
      exact if_neg fun hboth => by cases hboth.2
    exact ⟨entries, rfl, by rwa [hsame]⟩

/-! ## The two requests -/

/-- The requests with the settings of a transaction. -/
inductive TxRequest where
  | begin
  | run
  deriving DecidableEq

namespace TxRequest

/-- The index of the field with the metadata. -/
def index : TxRequest → Nat
  | begin => 0
  | run => 2

/-- The prepared message. -/
def message : TxRequest → BoltProtocolState → BoltMessage
  | begin, state => state.begin_request
  | run, state => state.run_request

/-- The session with another prepared message. -/
def prepare (message : BoltMessage) : TxRequest → Session → Session
  | begin, (connection, state) => (connection, { state with begin_request := message })
  | run, (connection, state) => (connection, { state with run_request := message })

/-- The metadata of the prepared message. -/
def metadata (target : TxRequest) (state : BoltProtocolState) : Option BoltValue :=
  (target.message state).fields[target.index]?

/-- The call that clears the request. -/
def clear : TxRequest → Request
  | begin => .clearBegin
  | run => .clearRun

/-- The call of a setter for the request. -/
def set : TxRequest → Setting → Request
  | begin, .bookmarks bookmark_list => .setBeginBookmarks bookmark_list
  | begin, .timeout tx_timeout => .setBeginTxTimeout tx_timeout
  | begin, .metadata tx_metadata => .setBeginTxMetadata tx_metadata
  | run, .bookmarks bookmark_list => .setRunBookmarks bookmark_list
  | run, .timeout tx_timeout => .setRunTxTimeout tx_timeout
  | run, .metadata tx_metadata => .setRunTxMetadata tx_metadata

/-- The call that loads the request. -/
def load : TxRequest → Request
  | begin => .loadBeginRequest
  | run => .loadRunRequest

/-- Whether the call clears the request. -/
def isClear : TxRequest → Request → Bool
  | begin, .clearBegin => true
  | run, .clearRun => true
  | _, _ => false

/-- Whether the call loads the request. -/
def isLoad : TxRequest → Request → Bool
  | begin, .loadBeginRequest => true
  | run, .loadRunRequest => true
  | _, _ => false

/-- The setting that the call is for the request, if it is one. -/
def setting : TxRequest → Request → Option Setting
  | begin, .setBeginBookmarks bookmark_list => some (.bookmarks bookmark_list)
  | begin, .setBeginTxTimeout tx_timeout => some (.timeout tx_timeout)
  | begin, .setBeginTxMetadata tx_metadata => some (.metadata tx_metadata)
  | run, .setRunBookmarks bookmark_list => some (.bookmarks bookmark_list)
  | run, .setRunTxTimeout tx_timeout => some (.timeout tx_timeout)
  | run, .setRunTxMetadata tx_metadata => some (.metadata tx_metadata)
  | _, _ => none

/-- The settings of the request among the calls. -/
def settings (target : TxRequest) (requests : List Request) : List Setting :=
  requests.filterMap target.setting

/-- The map that the calls leave behind when they are made in an access mode. -/
def mapOf (target : TxRequest) (access_mode : BoltAccessMode) (requests : List Request) :
    List UInt8 → Option BoltValue :=
  withMode (access_mode == .read && requests.any target.isLoad) (valueOf (target.settings requests))

/-- The map after one more call. -/
def after (target : TxRequest) (access_mode : BoltAccessMode) (map : List UInt8 → Option BoltValue)
    (request : Request) : List UInt8 → Option BoltValue :=
  match target.setting request with
  | some setting => setting.update map
  | none => withMode (access_mode == .read && target.isLoad request) map

end TxRequest

/-! ## What a call does to the metadata -/

variable {target : TxRequest} {session session' : Session} {check : CheckStructSignature}
  {status : Int} {request : Request}

/-- A change of a field of a message. -/
theorem update_cases {message message' : BoltMessage} {index : Nat}
    {change : BoltValue → Outcome BoltValue}
    (h : message.update index change = some (status, message')) :
    ∃ old new, message.fields[index]? = some old ∧ change old = some (status, new) ∧
      message' = { message with fields := message.fields.set index new } := by
  unfold BoltMessage.update at h
  split at h
  · cases h
  · obtain ⟨⟨_, new⟩, hchange, hresult⟩ := Option.map_eq_some_iff.mp h
    obtain ⟨rfl, rfl⟩ := Prod.mk.inj hresult
    exact ⟨_, new, ‹_›, hchange, rfl⟩

theorem update_eq {message : BoltMessage} {index : Nat} {change : BoltValue → Outcome BoltValue}
    {old new : BoltValue} (hfield : message.fields[index]? = some old)
    (hchange : change old = some (status, new)) :
    message.update index change =
      some (status, { message with fields := message.fields.set index new }) := by
  rw [BoltMessage.update, hfield]
  simp only [hchange, Option.map_some]

/-- What a function changes, if it returns, is not part of the view. -/
def Outcome.Keeps {σ α : Type} (view : σ → α) (f : σ → Outcome σ) : Prop :=
  ∀ s status s', f s = some (status, s') → view s' = view s

theorem Outcome.Keeps.TRY {σ α : Type} {view : σ → α} {f g : σ → Outcome σ} (hf : Keeps view f)
    (hg : Keeps view g) : Keeps view fun s => Outcome.TRY (f s) g := by
  intro s status s' h
  rcases Outcome.TRY_cases h with ⟨-, hfirst⟩ | ⟨middle, hfirst, hsecond⟩
  · exact hf _ _ _ hfirst
  · exact (hg _ _ _ hsecond).trans (hf _ _ _ hfirst)

theorem Outcome.Keeps.same {σ α : Type} {view : σ → α} (status : Int) :
    Keeps view fun s => some (status, s) := by
  intro s _ s' h
  obtain ⟨-, rfl⟩ := Prod.mk.inj (Option.some.inj h)
  rfl

/-- A change of one field is none of another. -/
theorem keeps_update {index other : Nat} (hother : other ≠ index)
    (change : BoltValue → Outcome BoltValue) :
    Outcome.Keeps (fun message => message.fields[index]?) (BoltMessage.update · other change) := by
  intro message status message' h
  obtain ⟨old, new, -, -, rfl⟩ := update_cases h
  exact List.getElem?_set_ne hother

/-- A change that cannot fail. -/
theorem update_always {message message' : BoltMessage} {index : Nat}
    {change : BoltValue → BoltValue}
    (h : message.update index (always change) = some (status, message')) :
    status = BOLT_SUCCESS ∧ ∃ old, message'.fields[index]? = some (change old) := by
  obtain ⟨old, new, hold, hchange, rfl⟩ := update_cases h
  obtain ⟨rfl, rfl⟩ := Prod.mk.inj (Option.some.inj hchange)
  exact ⟨rfl, old, List.getElem?_set_self (List.getElem?_eq_some_iff.mp hold).1⟩

namespace TxRequest

/-- Change the prepared message. -/
def onRequest (change : BoltMessage → Outcome BoltMessage) : TxRequest → Session → Outcome Session
  | begin => onBeginRequest change
  | run => onRunRequest change

theorem onRequest_cases {change : BoltMessage → Outcome BoltMessage}
    (h : target.onRequest change session = some (status, session')) :
    ∃ message, change (target.message session.2) = some (status, message) ∧
      session' = target.prepare message session := by
  cases target with
  | begin => exact onBeginRequest_eq h
  | run => exact onRunRequest_eq h

theorem onRequest_eq (session : Session) (change : BoltMessage → Outcome BoltMessage)
    {message : BoltMessage} (h : change (target.message session.2) = some (status, message)) :
    target.onRequest change session = some (status, target.prepare message session) := by
  obtain ⟨connection, state⟩ := session
  cases target with
  | begin => exact congrArg (Option.map _) h
  | run => exact congrArg (Option.map _) h

@[simp] theorem message_prepare (message : BoltMessage) :
    target.message (target.prepare message session).2 = message := by
  cases target <;> rfl

/-- A change of the metadata. -/
theorem metadata_update {change : BoltValue → Outcome BoltValue}
    (h : target.onRequest (·.update target.index change) session = some (status, session')) :
    ∃ old new, target.metadata session.2 = some old ∧ change old = some (status, new) ∧
      target.metadata session'.2 = some new := by
  obtain ⟨message, hupdate, rfl⟩ := onRequest_cases h
  obtain ⟨old, new, hold, hchange, rfl⟩ := update_cases hupdate
  refine ⟨old, new, hold, hchange, ?_⟩
  rw [metadata, message_prepare]
  exact List.getElem?_set_self (List.getElem?_eq_some_iff.mp hold).1

theorem request_set (setting : Setting) : BoltProtocolV3.request check (target.set setting) =
    target.onRequest (·.update target.index setting.call) := by
  cases target <;> cases setting <;> rfl

theorem request_load : BoltProtocolV3.request check target.load session =
    Outcome.TRY
      (target.onRequest (·.update target.index (setAccessMode session.1.access_mode)) session)
      fun session => Seabolt.loadMessage check (target.message session.2) session := by
  cases target <;> rfl

theorem set_of_setting {setting : Setting} (h : target.setting request = some setting) :
    request = target.set setting := by
  cases target <;> cases request <;> cases h <;> rfl

theorem load_of_isLoad (h : target.isLoad request = true) : request = target.load := by
  cases target <;> cases request <;> first | rfl | cases h

/-- Clearing a request leaves an empty dictionary. -/
theorem metadata_clear
    (h : BoltProtocolV3.request check target.clear session = some (status, session')) :
    target.metadata session'.2 = some (dictionary []) := by
  cases target with
  | begin =>
    obtain ⟨message, hclear, rfl⟩ := onBeginRequest_eq h
    obtain ⟨-, old, hold⟩ := update_always hclear
    exact hold.trans (congrArg some (formatAsDictionary_zero old))
  | run =>
    obtain ⟨message, hclear, rfl⟩ := onRunRequest_eq h
    rcases Outcome.TRY_cases hclear with ⟨hfailed, hfirst⟩ | ⟨message1, -, hclear⟩
    · exact absurd (update_always hfirst).1 hfailed
    rcases Outcome.TRY_cases hclear with ⟨hfailed, hsecond⟩ | ⟨message2, -, hthird⟩
    · exact absurd (update_always hsecond).1 hfailed
    obtain ⟨-, old, hold⟩ := update_always hthird
    exact hold.trans (congrArg some (formatAsDictionary_zero old))

/-- Loading the request writes the access mode and loads the message. -/
theorem metadata_load (h : Represents entries (underStrings map))
    (hmetadata : target.metadata session.2 = some (dictionary entries)) :
    ∃ message entries', message.fields[target.index]? = some (dictionary entries') ∧
      Represents entries' (underStrings (withMode (session.1.access_mode == .read) map)) ∧
      ∀ check, BoltProtocolV3.request check target.load session =
        Seabolt.loadMessage check message (target.prepare message session) := by
  obtain ⟨entries', hmode, hentries⟩ := setAccessMode_represents h session.1.access_mode
  have hfield : (target.message session.2).fields[target.index]? = some (dictionary entries) :=
    hmetadata
  refine ⟨{ target.message session.2 with
    fields := (target.message session.2).fields.set target.index (dictionary entries') }, entries',
    ?_, hentries, fun check => ?_⟩
  · exact List.getElem?_set_self (List.getElem?_eq_some_iff.mp hfield).1
  · rw [request_load, onRequest_eq session _ (update_eq hfield hmode), Outcome.TRY_success,
      message_prepare]

/-- What leaves the metadata of the request alone. -/
abbrev Keeps (target : TxRequest) : (Session → Outcome Session) → Prop :=
  Outcome.Keeps fun session => target.metadata session.2

theorem keeps_onRequest {change : BoltMessage → Outcome BoltMessage}
    (h : Outcome.Keeps (fun message => message.fields[target.index]?) change) :
    target.Keeps (target.onRequest change) := by
  intro session status session' hchange
  obtain ⟨message, hmessage, rfl⟩ := onRequest_cases hchange
  show target.metadata _ = target.metadata _
  rw [metadata, message_prepare]
  exact h _ _ _ hmessage

theorem keeps_onOther (other : TxRequest) (hother : other ≠ target)
    (change : BoltMessage → Outcome BoltMessage) : target.Keeps (other.onRequest change) := by
  intro session status session' hchange
  obtain ⟨message, -, rfl⟩ := onRequest_cases hchange
  cases target <;> cases other <;> first | rfl | exact absurd rfl hother

theorem keeps_loadMessage (select : BoltProtocolState → BoltMessage) :
    target.Keeps fun session => Seabolt.loadMessage check (select session.2) session := by
  intro session status session' h
  have hstate := (loadMessage_same h).state
  show target.metadata _ = target.metadata _
  cases target <;> rw [metadata, metadata, message, message, hstate]

theorem keeps_loadAll (select : BoltProtocolState → BoltMessage) (n : Int) :
    target.Keeps (loadAll check select n) := by
  intro session status session' h
  unfold loadAll at h
  split_ifs at h with hn
  · obtain ⟨-, rfl⟩ := Prod.mk.inj (Option.some.inj h)
    rfl
  · exact keeps_loadMessage select _ _ _ h

theorem keeps_loadReset : target.Keeps (Seabolt.loadReset check) := by
  have hload : target.Keeps (fun session =>
      Seabolt.loadMessage check session.2.reset_request session) :=
    keeps_loadMessage (·.reset_request)
  refine hload.TRY ?_
  rintro ⟨connection, state⟩ status session' h
  obtain ⟨-, rfl⟩ := Prod.mk.inj (Option.some.inj h)
  cases target <;> rfl

theorem keeps_onRunRequest (change : BoltMessage → Outcome BoltMessage) :
    begin.Keeps (onRunRequest change) :=
  keeps_onOther run (by decide) change

/-- The statement of a RUN and its parameters are in other fields. -/
theorem keeps_setRunCypher (cypher : List UInt8) (n_parameter : Nat) :
    target.Keeps (Seabolt.setRunCypher cypher n_parameter) := by
  unfold Seabolt.setRunCypher
  split_ifs
  · cases target with
    | begin => exact keeps_onRunRequest _
    | run =>
      exact @keeps_onRequest run _ ((keeps_update (by decide) _).TRY (keeps_update (by decide) _))
  · exact .same _

theorem keeps_setRunCypherParameter (index : Nat) (name : List UInt8)
    (write : BoltValue → BoltValue) :
    target.Keeps (Seabolt.setRunCypherParameter index name write) := by
  cases target with
  | begin => exact keeps_onRunRequest _
  | run => exact @keeps_onRequest run _ (keeps_update (by decide) _)

theorem keeps_set (other : TxRequest) (hother : other ≠ target) (setting : Setting) :
    target.Keeps (BoltProtocolV3.request check (other.set setting)) := by
  rw [request_set]
  exact keeps_onOther other hother _

theorem keeps_load (other : TxRequest) (hother : other ≠ target) :
    target.Keeps (BoltProtocolV3.request check other.load) := by
  intro session status session' h
  rw [request_load] at h
  rcases Outcome.TRY_cases h with ⟨-, hmode⟩ | ⟨middle, hmode, hload⟩
  · exact keeps_onOther other hother _ _ _ _ hmode
  · exact (keeps_loadMessage other.message _ _ _ hload).trans
      (keeps_onOther other hother _ _ _ _ hmode)

/-- A call for something else leaves the metadata alone. -/
theorem metadata_other (hset : target.setting request = none)
    (hload : target.isLoad request = false) (hclear : target.isClear request = false) :
    target.Keeps (BoltProtocolV3.request check request) := by
  have hbegin : begin ≠ run := by decide
  have hrun : run ≠ begin := by decide
  cases request with
  | clearBegin =>
    cases target with
    | begin => cases hclear
    | run => exact keeps_onOther begin hbegin _
  | setBeginBookmarks bookmark_list =>
    cases target with
    | begin => cases hset
    | run => exact keeps_set begin hbegin (.bookmarks bookmark_list)
  | setBeginTxTimeout timeout =>
    cases target with
    | begin => cases hset
    | run => exact keeps_set begin hbegin (.timeout timeout)
  | setBeginTxMetadata metadata =>
    cases target with
    | begin => cases hset
    | run => exact keeps_set begin hbegin (.metadata metadata)
  | loadBeginRequest =>
    cases target with
    | begin => cases hload
    | run => exact keeps_load begin hbegin
  | clearRun =>
    cases target with
    | begin => exact keeps_onOther run hrun _
    | run => cases hclear
  | setRunBookmarks bookmark_list =>
    cases target with
    | begin => exact keeps_set run hrun (.bookmarks bookmark_list)
    | run => cases hset
  | setRunTxTimeout timeout =>
    cases target with
    | begin => exact keeps_set run hrun (.timeout timeout)
    | run => cases hset
  | setRunTxMetadata metadata =>
    cases target with
    | begin => exact keeps_set run hrun (.metadata metadata)
    | run => cases hset
  | setRunCypher cypher n_parameter => exact keeps_setRunCypher cypher n_parameter
  | setRunCypherParameter index name write => exact keeps_setRunCypherParameter index name write
  | loadRunRequest =>
    cases target with
    | begin => exact keeps_load run hrun
    | run => cases hload
  | loadCommitRequest => exact keeps_loadMessage (·.commit_request)
  | loadRollbackRequest => exact keeps_loadMessage (·.rollback_request)
  | loadDiscardRequest n => exact keeps_loadAll (·.discard_request) n
  | loadPullRequest n => exact keeps_loadAll (·.pull_request) n
  | loadResetRequest => exact keeps_loadReset

end TxRequest

/-! ## Runs -/

theorem Handles.access_mode {version : ProtocolVersion}
    (h : Handles version request session status session') :
    session'.1.access_mode = session.1.access_mode := by
  cases h with
  | set run_request begin_request hmessages => rfl
  | @load run_request begin_request loaded hload =>
    exact (loadMessages_same _ hload).access_mode

namespace TxRequest

/-- The connection has the third version and the access mode, and the metadata of
its request represent the map. -/
def Carries (target : TxRequest) (access_mode : BoltAccessMode)
    (map : List UInt8 → Option BoltValue) (connection : BoltConnection) : Prop :=
  connection.access_mode = access_mode ∧ ∃ state entries,
    connection.protocol = some ⟨.v3, state⟩ ∧ target.metadata state = some (dictionary entries) ∧
    Represents entries (underStrings map)

variable {access_mode : BoltAccessMode} {connection connection' final : BoltConnection}
  {result : Int}

/-- A request is handled by the function of the third version. -/
theorem request_v3 {state : BoltProtocolState} (hprotocol : connection.protocol = some ⟨.v3, state⟩)
    (h : connection.request request = some (result, connection')) :
    ∃ status session', BoltProtocolV3.request ProtocolVersion.v3.checkWritableStruct request
        ({ connection with protocol := none }, state) = some (status, session') ∧
      connection'.access_mode = connection.access_mode ∧
      connection'.protocol = some ⟨.v3, session'.2⟩ := by
  simp only [BoltConnection.request, hprotocol] at h
  obtain ⟨⟨status, session'⟩, hrequest, hresult⟩ := Option.map_eq_some_iff.mp h
  obtain ⟨hkept, -, hmode⟩ := tryStatus_kept status
    { session'.1 with protocol := some ⟨.v3, session'.2⟩ }
  have hfinal : (tryStatus status { session'.1 with protocol := some ⟨.v3, session'.2⟩ }).2 =
      connection' := congrArg Prod.snd hresult
  rw [hfinal] at hkept hmode
  exact ⟨status, session', hrequest,
    hmode.trans (ProtocolVersion.v3.request_handles hrequest).access_mode, hkept⟩

/-- After a call, the metadata represent the map after it. -/
theorem carries_step (h : target.Carries access_mode map connection)
    (hclear : target.isClear request = false)
    (hrequest : connection.request request = some (result, connection')) :
    target.Carries access_mode (target.after access_mode map request) connection' := by
  obtain ⟨rfl, state, entries, hprotocol, hmetadata, hentries⟩ := h
  obtain ⟨status, session', hcall, hmode, hprotocol'⟩ := request_v3 hprotocol hrequest
  refine ⟨hmode, session'.2, ?_⟩
  unfold after
  cases hset : target.setting request with
  | some setting =>
    obtain rfl := set_of_setting hset
    rw [request_set] at hcall
    obtain ⟨old, new, hold, hsetter, hnew⟩ := metadata_update hcall
    obtain rfl := Option.some.inj (hmetadata.symm.trans hold)
    obtain ⟨entries', rfl, hsets⟩ := Setting.call_sets hentries hsetter
    exact ⟨entries', hprotocol', hnew, hsets.represents⟩
  | none =>
    cases hload : target.isLoad request with
    | true =>
      obtain rfl := load_of_isLoad hload
      obtain ⟨message, entries', hfield, hentries', hloaded⟩ := @metadata_load _ _ _
        ({ connection with protocol := none }, state) hentries hmetadata
      rw [hloaded] at hcall
      have hkept : target.metadata session'.2 = target.metadata (target.prepare message
          ({ connection with protocol := none }, state)).2 :=
        keeps_loadMessage (fun _ => message) _ _ _ hcall
      rw [metadata, metadata, message_prepare, hfield] at hkept
      rw [Bool.and_true]
      exact ⟨entries', hprotocol', hkept, hentries'⟩
    | false =>
      have hkept := metadata_other hset hload hclear _ _ _ hcall
      have hsame : withMode (connection.access_mode == .read && false) map = map := by
        funext key
        exact if_neg fun hboth => by simp at hboth
      rw [hsame]
      exact ⟨entries, hprotocol', hkept.trans hmetadata, hentries⟩

/-- After calls without a clear, the metadata represent the map after them. -/
theorem carries_run (requests : List Request) :
    ∀ {map : List UInt8 → Option BoltValue} {connection : BoltConnection} {results : List Int},
      target.Carries access_mode map connection → (∀ r ∈ requests, target.isClear r = false) →
      Runs.run BoltConnection.requestStep requests connection = some (results, final) →
      target.Carries access_mode (requests.foldl (target.after access_mode) map) final := by
  induction requests with
  | nil =>
    intro map connection results h _ hrun
    obtain ⟨-, rfl⟩ := Prod.mk.inj (Option.some.inj hrun)
    exact h
  | cons request requests ih =>
    intro map connection results h hclear hrun
    obtain ⟨result, middle, rest, hstep, hrest, -⟩ := Runs.run_uncons hrun
    exact ih (carries_step h (hclear _ List.mem_cons_self) hstep)
      (fun r hr => hclear r (List.mem_cons_of_mem _ hr)) hrest

theorem isLoad_of_setting {setting : Setting} (h : target.setting request = some setting) :
    target.isLoad request = false := by
  obtain rfl := set_of_setting h
  cases target <;> cases setting <;> rfl

/-- The map after the calls, by key: each has the calls with it, and that of the
access mode the loads. -/
theorem foldl_after (requests : List Request) (key : List UInt8) :
    ∀ map : List UInt8 → Option BoltValue,
      requests.foldl (target.after access_mode) map key =
        if key = MODE_KEY ∧ (access_mode == .read && requests.any target.isLoad) then
          some (string READ_MODE_VALUE)
        else ((target.settings requests).filter fun setting =>
          setting.key = key ∧ setting.wellTyped).foldl (fun old setting => setting.value old)
            (map key) := by
  induction requests with
  | nil => intro map; simp [settings]
  | cons request requests ih =>
    intro map
    rw [List.foldl_cons, ih]
    unfold after
    cases hset : target.setting request with
    | some setting =>
      have hsettings : target.settings (request :: requests) =
          setting :: target.settings requests := List.filterMap_cons_some hset
      rw [List.any_cons, isLoad_of_setting hset, Bool.false_or, hsettings, List.filter_cons]
      by_cases hkey : setting.key = key ∧ setting.wellTyped = true
      · have hvalue : setting.update map key = setting.value (map key) := if_pos hkey
        simp only [hkey, and_self, decide_true, if_true, List.foldl_cons, hvalue]
      · have hkept : setting.update map key = map key := if_neg hkey
        simp only [hkey, decide_false, Bool.false_eq_true, if_false, hkept]
    | none =>
      have hsettings : target.settings (request :: requests) = target.settings requests :=
        List.filterMap_cons_none hset
      rw [List.any_cons, hsettings]
      by_cases hmode : key = MODE_KEY
      · subst hmode
        have hnone : (target.settings requests).filter
            (fun setting => setting.key = MODE_KEY ∧ setting.wellTyped) = [] :=
          List.filter_eq_nil_iff.mpr fun setting _ => by simp [setting.key_ne_mode]
        rw [hnone]
        unfold withMode
        cases access_mode == .read <;> cases target.isLoad request <;>
          cases requests.any target.isLoad <;> simp
      · simp [withMode, hmode]

end TxRequest

/-! ## The metadata as a map -/

/-- The result of a setter is what its caller returns. -/
theorem Setting.result_tryStatus (setting : Setting) (connection : BoltConnection) :
    (tryStatus setting.result connection).1 = setting.result := by
  unfold Setting.result
  split_ifs <;> rfl

namespace TxRequest

variable {access_mode : BoltAccessMode} {connection final : BoltConnection}

/-- The metadata of the request of a connection. -/
def metadataOf (target : TxRequest) (connection : BoltConnection) : Option BoltValue :=
  connection.protocol.bind fun protocol => target.metadata protocol.state

/-- The calls with each key are the same ones in the same order. -/
structure SameCalls (target : TxRequest) (requests requests' : List Request) : Prop where
  settings : ∀ key, (target.settings requests).filter (fun setting => setting.key = key) =
    (target.settings requests').filter fun setting => setting.key = key
  loads : requests.any target.isLoad = requests'.any target.isLoad

/-- The metadata are the same up to the order of their entries. -/
def Reordered (target : TxRequest) (connection connection' : BoltConnection) : Prop :=
  ∃ entries entries', target.metadataOf connection = some (dictionary entries) ∧
    target.metadataOf connection' = some (dictionary entries') ∧ entries.Perm entries'

/-- The message that is loaded next has metadata that represent the map. -/
def LoadsMap (target : TxRequest) (map : List UInt8 → Option BoltValue)
    (connection : BoltConnection) : Prop :=
  ∃ state message entries, connection.protocol = some ⟨.v3, state⟩ ∧
    message.fields[target.index]? = some (dictionary entries) ∧
    Represents entries (underStrings map) ∧
    ∀ check,
      BoltProtocolV3.request check target.load ({ connection with protocol := none }, state) =
        Seabolt.loadMessage check message
          (target.prepare message ({ connection with protocol := none }, state))

/-- The access mode is written again. -/
theorem withMode_withMode {reads again : Bool} (h : reads = true → again = true)
    (map : List UInt8 → Option BoltValue) :
    withMode again (withMode reads map) = withMode again map := by
  funext key
  unfold withMode
  by_cases hkey : key = MODE_KEY ∧ again = true
  · rw [if_pos hkey, if_pos hkey]
  · rw [if_neg hkey, if_neg hkey]
    exact if_neg fun hreads => hkey ⟨hreads.1, h hreads.2⟩

theorem foldl_after_eq (requests : List Request) :
    requests.foldl (target.after access_mode) (fun _ => none) =
      target.mapOf access_mode requests :=
  funext fun key => foldl_after requests key _

theorem after_set (setting : Setting) :
    target.after access_mode map (target.set setting) = setting.update map := by
  have hset : target.setting (target.set setting) = some setting := by
    cases target <;> cases setting <;> rfl
  rw [after, hset]

theorem mapOf_append (requests : List Request) (setting : Setting) :
    target.mapOf access_mode (requests ++ [target.set setting]) =
      setting.update (target.mapOf access_mode requests) := by
  rw [← foldl_after_eq, ← foldl_after_eq, List.foldl_append, List.foldl_cons, List.foldl_nil,
    after_set]

/-- The map depends on the calls with each key only. -/
theorem SameCalls.mapOf_eq {requests requests' : List Request}
    (h : target.SameCalls requests requests') :
    target.mapOf access_mode requests = target.mapOf access_mode requests' := by
  have hvalues : valueOf (target.settings requests) = valueOf (target.settings requests') := by
    funext key
    have hsplit : ∀ settings : List Setting,
        settings.filter (fun setting => setting.key = key ∧ setting.wellTyped) =
          (settings.filter fun setting => setting.key = key).filter (·.wellTyped) := by
      intro settings
      rw [List.filter_filter]
      exact List.filter_congr fun setting _ => by simp [Bool.and_comm]
    rw [valueOf, valueOf, hsplit, hsplit, h.settings key]
  rw [mapOf, mapOf, hvalues, h.loads]

theorem Carries.metadataOf_eq (h : target.Carries access_mode map connection) :
    ∃ entries, target.metadataOf connection = some (dictionary entries) ∧
      Represents entries (underStrings map) := by
  obtain ⟨-, state, entries, hprotocol, hmetadata, hentries⟩ := h
  exact ⟨entries, by rw [metadataOf, hprotocol]; exact hmetadata, hentries⟩

/-- A run from a clear on. -/
theorem carries_cleared {state : BoltProtocolState} {requests : List Request} {results : List Int}
    (hprotocol : connection.protocol = some ⟨.v3, state⟩)
    (hclear : ∀ r ∈ requests, target.isClear r = false)
    (hrun : Runs.run BoltConnection.requestStep (target.clear :: requests) connection =
      some (results, final)) :
    target.Carries connection.access_mode (target.mapOf connection.access_mode requests) final := by
  obtain ⟨result, cleared, rest, hstep, hrest, -⟩ := Runs.run_uncons hrun
  obtain ⟨status, session', hcall, hmode, hprotocol'⟩ := request_v3 hprotocol hstep
  have hstart : target.Carries connection.access_mode (fun _ => none) cleared := by
    refine ⟨hmode, session'.2, [], hprotocol', metadata_clear hcall, ?_⟩
    have hnone : underStrings (fun _ => none) = fun _ => none := by
      funext key
      cases key <;> rfl
    rw [hnone]
    exact represents_nil
  rw [← foldl_after_eq]
  exact carries_run requests hstart hclear hrest

/-- A call of a setter. -/
theorem Carries.set (h : target.Carries access_mode map connection) {setting : Setting}
    (hcopyable : setting.wellTyped = true → ∀ v ∈ setting.argument, v.Copyable) :
    ∃ next, connection.request (target.set setting) = some (setting.result, next) ∧
      target.Carries access_mode (setting.update map) next ∧
      (setting.wellTyped = false → target.metadataOf next = target.metadataOf connection) := by
  obtain ⟨hmode, state, entries, hprotocol, hmetadata, hentries⟩ := h
  obtain ⟨⟨status, value⟩, hcall⟩ :=
    Option.isSome_iff_exists.mp (Setting.call_isSome hcopyable entries)
  obtain ⟨entries', rfl, hsets⟩ := Setting.call_sets hentries hcall
  obtain rfl := hsets.status
  have hrequest : ∃ next,
      connection.request (target.set setting) = some (setting.result, next) := by
    have hhandled := onRequest_eq ({ connection with protocol := none }, state)
      (·.update target.index setting.call) (update_eq hmetadata hcall)
    have hv3 : ProtocolVersion.v3.request (target.set setting) =
        target.onRequest (·.update target.index setting.call) := request_set setting
    simp only [BoltConnection.request, hprotocol]
    rw [hv3, hhandled, Option.map_some]
    exact ⟨_, congrArg some (Prod.ext (setting.result_tryStatus _) rfl)⟩
  obtain ⟨next, hnext⟩ := hrequest
  have hclear : target.isClear (target.set setting) = false := by
    cases target <;> cases setting <;> rfl
  have hafter := carries_step ⟨hmode, state, entries, hprotocol, hmetadata, hentries⟩ hclear hnext
  rw [after_set] at hafter
  refine ⟨next, hnext, hafter, fun hill => ?_⟩
  obtain ⟨status, session', hsetter, -, hprotocol'⟩ := request_v3 hprotocol hnext
  rw [request_set] at hsetter
  obtain ⟨old, new, hold, hchange, hnew⟩ := metadata_update hsetter
  obtain rfl := Option.some.inj (hmetadata.symm.trans hold)
  obtain ⟨-, rfl⟩ := Prod.mk.inj (Option.some.inj (hcall.symm.trans hchange))
  rw [hsets.rejected hill] at hnew
  rw [metadataOf, metadataOf, hprotocol, hprotocol', Option.bind_some, Option.bind_some, hnew,
    hmetadata]

/-- Loading the request. -/
theorem Carries.load (h : target.Carries access_mode map connection) :
    target.LoadsMap (withMode (access_mode == .read) map) connection := by
  obtain ⟨rfl, state, entries, hprotocol, hmetadata, hentries⟩ := h
  obtain ⟨message, entries', hfield, hentries', hload⟩ :=
    @metadata_load _ _ _ ({ connection with protocol := none }, state) hentries hmetadata
  exact ⟨state, message, entries', hprotocol, hfield, hentries', hload⟩

end TxRequest

/-- After a clear of a BEGIN or RUN and any other calls, its metadata represent the
map that the setters have built.  A setter that is called next returns and
changes the map, or rejects its argument and leaves the metadata alone.  Calls with
different keys commute, and the message that is loaded has the access mode too. -/
theorem txSettings_map (target : TxRequest) {connection final : BoltConnection}
    {state : BoltProtocolState} {requests : List Request} {results : List Int}
    (hprotocol : connection.protocol = some ⟨.v3, state⟩)
    (hclear : ∀ r ∈ requests, target.isClear r = false)
    (hrun : Runs.run BoltConnection.requestStep (target.clear :: requests) connection =
      some (results, final)) :
    target.Carries connection.access_mode (target.mapOf connection.access_mode requests) final ∧
    (∀ setting : Setting, (setting.wellTyped = true → ∀ v ∈ setting.argument, v.Copyable) →
      ∃ next, final.request (target.set setting) = some (setting.result, next) ∧
        target.Carries connection.access_mode
          (target.mapOf connection.access_mode (requests ++ [target.set setting])) next ∧
        (setting.wellTyped = false → target.metadataOf next = target.metadataOf final)) ∧
    (∀ requests' results' final', target.SameCalls requests requests' →
      (∀ r ∈ requests', target.isClear r = false) →
      Runs.run BoltConnection.requestStep (target.clear :: requests') connection =
        some (results', final') → target.Reordered final final') ∧
    target.LoadsMap (withMode (connection.access_mode == .read)
      (valueOf (target.settings requests))) final := by
  have hcarries := TxRequest.carries_cleared hprotocol hclear hrun
  refine ⟨hcarries, fun setting hcopyable => ?_, ?_, ?_⟩
  · rw [TxRequest.mapOf_append]
    exact hcarries.set hcopyable
  · intro requests' results' final' hsame hclear' hrun'
    have hcarries' := TxRequest.carries_cleared hprotocol hclear' hrun'
    rw [← hsame.mapOf_eq] at hcarries'
    obtain ⟨entries, hmetadata, hentries⟩ := hcarries.metadataOf_eq
    obtain ⟨entries', hmetadata', hentries'⟩ := hcarries'.metadataOf_eq
    exact ⟨entries, entries', hmetadata, hmetadata', hentries.perm hentries'⟩
  · have hloads := hcarries.load
    rw [TxRequest.mapOf, TxRequest.withMode_withMode] at hloads
    · exact hloads
    · exact fun hreads => (Bool.and_eq_true _ _ ▸ hreads).1

/-- A timeout that is set twice, with bookmarks that are no list in between. -/
theorem txSettings_map_timeouts :
    ∃ results final,
      Runs.run BoltConnection.requestStep (TxRequest.begin.clear ::
        [.setBeginTxTimeout 5, .setBeginBookmarks (some null), .setBeginTxTimeout 7]) (idle .v3) =
          some (results, final) ∧
      results = [BOLT_SUCCESS, BOLT_SUCCESS, BOLT_PROTOCOL_VIOLATION, BOLT_SUCCESS] ∧
      TxRequest.begin.Carries (idle .v3).access_mode
        (TxRequest.begin.mapOf (idle .v3).access_mode
          [.setBeginTxTimeout 5, .setBeginBookmarks (some null), .setBeginTxTimeout 7]) final := by
  refine ⟨_, _, rfl, rfl, (txSettings_map .begin rfl (by decide) rfl).1⟩

end Seabolt
