import Seabolt.Failures
import Seabolt.Responses

/-!
# The strings that a server sends

The protocol state keeps the last bookmark and the name of the server in blocks
of memory of a fixed size.  The bytes that the server sends are copied into a
block without a look at their number.

A run is over the messages that are received, and inside of each summary over
the entries of its metadata.
-/

namespace Seabolt

open BoltValue

/-! ## Runs of messages -/

namespace ProtocolVersion

/-- One round of the loop over the metadata. -/
def extractStep (version : ProtocolVersion) (id : List UInt8) (data_type : Int16) :
    Runs.Step (BoltValue × BoltValue) Extraction Unit :=
  fun (key, value) state =>
    (extractEntry version.knowsConnectionId id data_type key value state).map
      fun state => ((), state)

/-- What `fetch` does with a message that it has decoded. -/
def receiveStep (version : ProtocolVersion) : Runs.Step BoltMessage Session Unit :=
  fun message (connection, state) =>
    (readSummary version.fetchFunctions (connection, decoded (some message) state)).map
      fun session => ((), session)

variable {version : ProtocolVersion} {id : List UInt8} {data_type : Int16} {message : BoltMessage}
  {session session' : Session}

/-- The loop over the metadata is a run. -/
theorem run_extractStep (entries : List (BoltValue × BoltValue)) :
    ∀ {state state' : Extraction},
      extractEntries version.knowsConnectionId id data_type entries state = some state' →
      Runs.run (version.extractStep id data_type) entries state =
        some (entries.map fun _ => (), state') := by
  induction entries with
  | nil =>
    intro state state' h
    rw [← Option.some.inj h]
    rfl
  | cons entry entries ih =>
    intro state state' h
    obtain ⟨state1, hentry, hrest⟩ := Option.bind_eq_some_iff.mp h
    have hstep : version.extractStep id data_type entry state = some ((), state1) := by
      rw [extractStep, hentry, Option.map_some]
    exact Runs.run_cons hstep (ih hrest)

/-- The entries of a summary are extracted from where it begins. -/
def Processes (version : ProtocolVersion)
    (spec : BoltValue × BoltValue → Extraction → Unit → Extraction → Prop) (message : BoltMessage)
    (session : Session) (_ : Unit) (_ : Session) : Prop :=
  message.code ≠ BOLT_V1_RECORD →
    Runs.Meets (version.extractStep session.1.id message.code) spec
      (metadataOf (.list message.fields)) (session.2.toSummaryData.cleared, session.1.garbage)

/-- A message is received. -/
theorem receiveStep_cases (h : version.receiveStep message session = some ((), session')) :
    session'.1 = { session.1 with garbage := session'.1.garbage } ∧
    ((message.code = BOLT_V1_RECORD ∧ session'.2.toSummaryData = session.2.toSummaryData ∧
        session'.1.garbage = session.1.garbage) ∨
      (message.code ≠ BOLT_V1_RECORD ∧
        Runs.run (version.extractStep session.1.id message.code) (metadataOf (.list message.fields))
          (session.2.toSummaryData.cleared, session.1.garbage) =
          some ((metadataOf (.list message.fields)).map fun _ => (),
            (session'.2.toSummaryData, session'.1.garbage)))) := by
  obtain ⟨connection, state⟩ := session
  obtain ⟨session'', hread, hresult⟩ := Option.map_eq_some_iff.mp h
  obtain rfl := (Prod.mk.inj hresult).2
  have hsame := readSummary_same hread
  refine ⟨hsame.1, ?_⟩
  by_cases hrecord : message.code = BOLT_V1_RECORD
  · refine .inl ⟨hrecord, ?_⟩
    have htype : (decoded (some message) state).data_type = BOLT_V1_RECORD := by
      rw [decoded, countRecord_eq]
      exact hrecord
    rw [readSummary_record htype hread, decoded, countRecord_eq]
    exact ⟨rfl, rfl⟩
  · refine .inr ⟨hrecord, ?_⟩
    have hsummary : (decoded (some message) state).data_type ≠ BOLT_V1_RECORD := by
      rw [decoded, countRecord_eq]
      exact hrecord
    have hextracts := readSummary_extracts hsummary hread
    rw [decoded, countRecord_eq] at hextracts
    exact run_extractStep _ hextracts

/-- A message whose fields can be copied is received. -/
theorem receiveStep_isSome (version : ProtocolVersion) (hcopyable : ∀ v ∈ message.fields, v.Copyable)
    (session : Session) : ∃ session', version.receiveStep message session = some ((), session') := by
  obtain ⟨connection, state⟩ := session
  obtain ⟨session', hread, -⟩ := readSummary_decoded version hcopyable connection state
  exact ⟨session', by rw [receiveStep, hread, Option.map_some]⟩

/-- The entries of its metadata can be copied. -/
theorem copyable_of_metadataOf (hcopyable : ∀ v ∈ message.fields, v.Copyable) :
    ∀ entry ∈ metadataOf (.list message.fields), entry.1.Copyable ∧ entry.2.Copyable := by
  intro entry hentry
  unfold metadataOf at hentry
  split at hentry
  · next entries fields hfields =>
    have hdictionary := hcopyable (dictionary entries)
      (by rw [list.inj hfields]; exact List.mem_cons_self)
    exact (copyableEntries_iff entries).mp hdictionary entry hentry
  · cases hentry

/-- An entry that can be copied is extracted. -/
theorem extractStep_isSome (version : ProtocolVersion) (id : List UInt8) (data_type : Int16)
    {entry : BoltValue × BoltValue} (h : entry.1.Copyable ∧ entry.2.Copyable) (state : Extraction) :
    ∃ state', version.extractStep id data_type entry state = some ((), state') ∧
      Extracts version.knowsConnectionId id data_type state.1 state.2 entry.1 entry.2 state' := by
  obtain ⟨state', hstate⟩ := extractEntry_isSome version.knowsConnectionId id data_type h.1 h.2 state
  exact ⟨state', by rw [extractStep, hstate, Option.map_some], extractEntry_cases hstate⟩

end ProtocolVersion

/-! ## Blocks of memory -/

/-- The block has the size that it was allocated with, and a NUL in it. -/
def Terminated (size : Nat) (block : List UInt8) : Prop := block.length = size ∧ 0 ∈ block

/-- What the block reads as. -/
def textOf (block : List UInt8) : List UInt8 := block.takeWhile (· ≠ 0)

/-- The bytes, and a NUL behind or among them, fit into a block. -/
def FitsBlock (size : Nat) (data : List UInt8) : Prop :=
  data.length < size ∨ data.length = size ∧ 0 ∈ data

instance (size : Nat) (data : List UInt8) : Decidable (FitsBlock size data) :=
  inferInstanceAs (Decidable (_ ∨ _))

/-- The copy overwrites the front of a cleared block, or is all that there is. -/
theorem refill_eq {size : Nat} {block : List UInt8} (hblock : block.length = size)
    (data : List UInt8) :
    refill size block data = data ++ List.replicate (size - data.length) 0 := by
  have hcleared : memcpy block 0 (List.replicate size 0) = List.replicate size 0 := by
    simp [memcpy, hblock]
  rw [refill, hcleared]
  simp [memcpy]

theorem length_refill {size : Nat} {block : List UInt8} (hblock : block.length = size)
    (data : List UInt8) : (refill size block data).length = max data.length size := by
  rw [refill_eq hblock, List.length_append, List.length_replicate]
  omega

/-- The block is filled within its size, and up to a NUL, exactly if the bytes fit
into it. -/
theorem terminated_refill {size : Nat} {block : List UInt8} (hblock : block.length = size)
    (data : List UInt8) : Terminated size (refill size block data) ↔ FitsBlock size data := by
  rw [Terminated, FitsBlock, length_refill hblock, refill_eq hblock, List.mem_append,
    List.mem_replicate]
  constructor
  · rintro ⟨hlength, hdata | ⟨hroom, -⟩⟩
    · rcases lt_or_eq_of_le (show data.length ≤ size by omega) with hlt | heq
      · exact .inl hlt
      · exact .inr ⟨heq, hdata⟩
    · exact .inl (by omega)
  · rintro (hlt | ⟨heq, hdata⟩)
    · exact ⟨by omega, .inr ⟨by omega, rfl⟩⟩
    · exact ⟨by omega, .inl hdata⟩

/-- Bytes without a NUL that leave room for one are what the block reads as. -/
theorem textOf_refill {size : Nat} {block data : List UInt8} (hblock : block.length = size)
    (hlength : data.length < size) (hdata : 0 ∉ data) : textOf (refill size block data) = data := by
  obtain ⟨room, hroom⟩ : ∃ room, size - data.length = room + 1 := ⟨size - data.length - 1, by omega⟩
  have hall : ∀ x ∈ data, (decide (x ≠ 0)) = true := by
    intro x hx
    exact decide_eq_true (ne_of_mem_of_not_mem hx hdata)
  rw [textOf, refill_eq hblock, hroom, List.replicate_succ, List.takeWhile_append_of_pos hall,
    List.takeWhile_cons_of_neg (by decide), List.append_nil]

/-! ## The strings of the state -/

/-- Both blocks are as they have to be. -/
structure SummaryData.SecureStrings (summary : SummaryData) : Prop where
  last_bookmark : Terminated MAX_BOOKMARK_SIZE summary.last_bookmark
  server : Terminated MAX_SERVER_SIZE summary.server

/-- What an entry may do to the blocks: a write stays inside of its block, leaves a
NUL in it and changes nothing else, and what fits reads back. -/
structure WritesStrings (entry : BoltValue × BoltValue) (before : Extraction) (_ : Unit)
    (after : Extraction) : Prop where
  secure : after.1.SecureStrings
  bookmark_only : entry.1 = string BOOKMARK_KEY →
    after = ({ before.1 with last_bookmark := after.1.last_bookmark }, before.2)
  server_only : entry.1 = string SERVER_KEY →
    after = ({ before.1 with server := after.1.server }, before.2)
  bookmark_reads : ∀ data, entry = (string BOOKMARK_KEY, string data) →
    data.length < MAX_BOOKMARK_SIZE → 0 ∉ data → textOf after.1.last_bookmark = data
  server_reads : ∀ data, entry = (string SERVER_KEY, string data) →
    data.length < MAX_SERVER_SIZE → 0 ∉ data → textOf after.1.server = data
  bookmark_kept : entry.1 ≠ string BOOKMARK_KEY →
    after.1.last_bookmark = before.1.last_bookmark
  server_kept : entry.1 ≠ string SERVER_KEY → after.1.server = before.1.server

/-- The Strings that go into the blocks fit into them. -/
structure FitsStrings (entry : BoltValue × BoltValue) : Prop where
  bookmark : ∀ data, entry = (string BOOKMARK_KEY, string data) → FitsBlock MAX_BOOKMARK_SIZE data
  server : ∀ data, entry = (string SERVER_KEY, string data) → FitsBlock MAX_SERVER_SIZE data

variable {connectionId : Bool} {id : List UInt8} {data_type : Int16} {before after : Extraction}
  {key value : BoltValue}

theorem setConnectionId_strings (id data : List UInt8) (state : Extraction) :
    (setConnectionId id data state).1.last_bookmark = state.1.last_bookmark ∧
      (setConnectionId id data state).1.server = state.1.server := by
  unfold setConnectionId
  dsimp only
  split_ifs <;> exact ⟨rfl, rfl⟩

theorem appendMetadata_strings (h : appendMetadata key value before = some after) :
    after.1.last_bookmark = before.1.last_bookmark ∧ after.1.server = before.1.server := by
  obtain ⟨dest_key, -, h⟩ := Option.bind_eq_some_iff.mp h
  obtain ⟨dest_value, -, h⟩ := Option.bind_eq_some_iff.mp h
  rw [← Option.some.inj h]
  exact ⟨rfl, rfl⟩

/-- An entry that leaves both blocks alone. -/
theorem writesStrings_elsewhere (hsecure : before.1.SecureStrings)
    (hbookmark : ∀ data, (key, value) ≠ (string BOOKMARK_KEY, string data))
    (hserver : ∀ data, (key, value) ≠ (string SERVER_KEY, string data))
    (hkept : after.1.last_bookmark = before.1.last_bookmark ∧ after.1.server = before.1.server)
    (hsame : key = string BOOKMARK_KEY ∨ key = string SERVER_KEY → after = before) :
    WritesStrings (key, value) before () after ↔ FitsStrings (key, value) := by
  refine iff_of_true ?_ ⟨fun data hentry => absurd hentry (hbookmark data),
    fun data hentry => absurd hentry (hserver data)⟩
  exact {
    secure := ⟨by rw [hkept.1]; exact hsecure.last_bookmark, by rw [hkept.2]; exact hsecure.server⟩
    bookmark_only := fun hkey => by rw [hsame (.inl hkey)]
    server_only := fun hkey => by rw [hsame (.inr hkey)]
    bookmark_reads := fun data hentry => absurd hentry (hbookmark data)
    server_reads := fun data hentry => absurd hentry (hserver data)
    bookmark_kept := fun _ => hkept.1
    server_kept := fun _ => hkept.2 }

/-- An entry under another key. -/
theorem writesStrings_other (hsecure : before.1.SecureStrings) (hbookmark : key ≠ string BOOKMARK_KEY)
    (hserver : key ≠ string SERVER_KEY)
    (hkept : after.1.last_bookmark = before.1.last_bookmark ∧ after.1.server = before.1.server) :
    WritesStrings (key, value) before () after ↔ FitsStrings (key, value) := by
  refine writesStrings_elsewhere hsecure (fun data hentry => ?_) (fun data hentry => ?_) hkept ?_
  · exact hbookmark (Prod.mk.inj hentry).1
  · exact hserver (Prod.mk.inj hentry).1
  · rintro (hkey | hkey)
    · exact absurd hkey hbookmark
    · exact absurd hkey hserver

/-- An entry is extracted as it should be exactly if its String fits. -/
theorem writesStrings_iff (hsecure : before.1.SecureStrings)
    (h : Extracts connectionId id data_type before.1 before.2 key value after) :
    WritesStrings (key, value) before () after ↔ FitsStrings (key, value) := by
  have hkeys : ∀ {key other : List UInt8}, key ≠ other → string key ≠ string other :=
    fun hne heq => hne (string.inj heq)
  cases h with
  | bookmark data =>
    constructor
    · intro hwrites
      refine ⟨fun data' hentry => ?_, fun data' hentry => ?_⟩
      · obtain rfl := string.inj (Prod.mk.inj hentry).2
        exact (terminated_refill hsecure.last_bookmark.1 data).mp hwrites.secure.last_bookmark
      · exact absurd (Prod.mk.inj hentry).1 (hkeys (by decide))
    · intro hfits
      have hterminated := (terminated_refill hsecure.last_bookmark.1 data).mpr (hfits.bookmark data rfl)
      exact {
        secure := ⟨hterminated, hsecure.server⟩
        bookmark_only := fun _ => rfl
        server_only := fun hkey => absurd hkey (hkeys (by decide))
        bookmark_reads := fun data' hentry hlength hdata => by
          obtain rfl := string.inj (Prod.mk.inj hentry).2
          exact textOf_refill hsecure.last_bookmark.1 hlength hdata
        server_reads := fun data' hentry => absurd (Prod.mk.inj hentry).1 (hkeys (by decide))
        bookmark_kept := fun hne => absurd rfl hne
        server_kept := fun _ => rfl }
  | server data =>
    constructor
    · intro hwrites
      refine ⟨fun data' hentry => ?_, fun data' hentry => ?_⟩
      · exact absurd (Prod.mk.inj hentry).1 (hkeys (by decide))
      · obtain rfl := string.inj (Prod.mk.inj hentry).2
        exact (terminated_refill hsecure.server.1 data).mp hwrites.secure.server
    · intro hfits
      have hterminated := (terminated_refill hsecure.server.1 data).mpr (hfits.server data rfl)
      exact {
        secure := ⟨hsecure.last_bookmark, hterminated⟩
        bookmark_only := fun hkey => absurd hkey (hkeys (by decide))
        server_only := fun _ => rfl
        bookmark_reads := fun data' hentry => absurd (Prod.mk.inj hentry).1 (hkeys (by decide))
        server_reads := fun data' hentry hlength hdata => by
          obtain rfl := string.inj (Prod.mk.inj hentry).2
          exact textOf_refill hsecure.server.1 hlength hdata
        bookmark_kept := fun _ => rfl
        server_kept := fun hne => absurd rfl hne }
  | fields hnames =>
    exact writesStrings_other hsecure (hkeys (by decide)) (hkeys (by decide)) ⟨rfl, rfl⟩
  | connectionId hversion data =>
    exact writesStrings_other hsecure (hkeys (by decide)) (hkeys (by decide))
      (setConnectionId_strings id data before)
  | code htype data =>
    exact writesStrings_other hsecure (hkeys (by decide)) (hkeys (by decide)) ⟨rfl, rfl⟩
  | message htype data =>
    exact writesStrings_other hsecure (hkeys (by decide)) (hkeys (by decide)) ⟨rfl, rfl⟩
  | @dropped reserved _ hreserved hvalue =>
    have hnone : ∀ other, other ≠ FIELDS_KEY → ∀ data, (string reserved, value) ≠
        (string other, string data) := by
      rintro other hother data hentry
      obtain ⟨hkey, rfl⟩ := Prod.mk.inj hentry
      obtain rfl := string.inj hkey
      rw [Mistyped, if_neg hother] at hvalue
      cases hvalue
    exact writesStrings_elsewhere hsecure (hnone _ (by decide)) (hnone _ (by decide)) ⟨rfl, rfl⟩
      fun _ => rfl
  | metadata hkey happend =>
    have hne : ∀ reserved ∈ reservedKeys connectionId data_type, key ≠ string reserved := by
      rintro reserved hreserved rfl
      have hequal := stringEquals_of_not_reserved hkey hreserved
      rw [(stringEquals_iff (not_nul_of_reserved hreserved)).mpr rfl] at hequal
      cases hequal
    exact writesStrings_other hsecure (hne _ (mem_reservedKeys.mpr (.inl rfl)))
      (hne _ (mem_reservedKeys.mpr (.inr (.inr (.inl rfl))))) (appendMetadata_strings happend)

/-! ## Runs -/

/-- Whatever messages are received, each entry of their metadata is extracted as it
should be if and only if all bookmarks and names of the server fit into their
blocks. -/
theorem serverStrings_iff (version : ProtocolVersion) (session : Session)
    (messages : List BoltMessage) (hcopyable : ∀ m ∈ messages, ∀ v ∈ m.fields, v.Copyable)
    (hsecure : session.2.toSummaryData.SecureStrings) :
    Runs.Meets version.receiveStep (version.Processes WritesStrings) messages session ↔
      ∀ m ∈ messages, m.code ≠ BOLT_V1_RECORD →
        ∀ entry ∈ metadataOf (.list m.fields), FitsStrings entry := by
  refine Runs.meets_iff_forall (fun session => session.2.toSummaryData.SecureStrings)
    (fun m : BoltMessage => ∀ v ∈ m.fields, v.Copyable) ?_ messages hcopyable hsecure
  intro message session hsecure hcopyable
  obtain ⟨session', hstep⟩ := version.receiveStep_isSome hcopyable session
  have hentries : message.code ≠ BOLT_V1_RECORD →
      (Runs.Meets (version.extractStep session.1.id message.code) WritesStrings
        (metadataOf (.list message.fields)) (session.2.toSummaryData.cleared, session.1.garbage) ↔
      ∀ entry ∈ metadataOf (.list message.fields), FitsStrings entry) := by
    intro _
    refine Runs.meets_iff_forall (fun state => state.1.SecureStrings)
      (fun entry : BoltValue × BoltValue => entry.1.Copyable ∧ entry.2.Copyable) ?_ _
      (ProtocolVersion.copyable_of_metadataOf hcopyable) ⟨hsecure.last_bookmark, hsecure.server⟩
    intro entry state hsecure hentry
    obtain ⟨state', hextract, hextracts⟩ :=
      version.extractStep_isSome session.1.id message.code hentry state
    exact ⟨(), state', hextract, writesStrings_iff hsecure hextracts, fun h => h.secure⟩
  refine ⟨(), session', hstep, ?_, fun hprocesses => ?_⟩
  · exact forall_congr' fun hsummary => hentries hsummary
  · obtain ⟨-, ⟨-, hsame, -⟩ | ⟨hsummary, hrun⟩⟩ := ProtocolVersion.receiveStep_cases hstep
    · rwa [hsame]
    · exact Runs.keeps_of_meets (fun state : Extraction => state.1.SecureStrings)
        (fun _ _ _ _ _ hwrites => hwrites.secure) _ ⟨hsecure.last_bookmark, hsecure.server⟩
        (hprocesses hsummary) hrun

/-- A new protocol has its blocks as they have to be. -/
theorem secureStrings_create (version : ProtocolVersion) :
    (BoltProtocol.create version).state.toSummaryData.SecureStrings := by
  have hzeros : ∀ size, 0 < size → Terminated size (List.replicate size 0) := fun size hsize =>
    ⟨List.length_replicate, List.mem_replicate.mpr ⟨hsize.ne', rfl⟩⟩
  cases version <;> exact ⟨hzeros _ (by decide), hzeros _ (by decide)⟩

/-- A bookmark and a server as they are sent. -/
theorem serverStrings_iff_usual :
    Runs.Meets ProtocolVersion.v3.receiveStep (ProtocolVersion.v3.Processes WritesStrings)
        [⟨BOLT_V1_SUCCESS, [dictionary [(string BOOKMARK_KEY, string (ascii "neo4j:bookmark:v1:tx7")),
          (string SERVER_KEY, string (ascii "Neo4j/3.5.0"))]]⟩]
        (idle .v3, BoltProtocolV3.createState) ↔
      ∀ m ∈ [(⟨BOLT_V1_SUCCESS, [dictionary
          [(string BOOKMARK_KEY, string (ascii "neo4j:bookmark:v1:tx7")),
            (string SERVER_KEY, string (ascii "Neo4j/3.5.0"))]]⟩ : BoltMessage)],
        m.code ≠ BOLT_V1_RECORD → ∀ entry ∈ metadataOf (.list m.fields), FitsStrings entry :=
  serverStrings_iff .v3 _ _ (by simp [Copyable, CopyableEntries])
    (secureStrings_create .v3)

/-- A bookmark of 41 bytes is copied over the end of its block. -/
theorem bookmark_overrun :
    ((extractEntry true [] BOLT_V1_SUCCESS (string BOOKMARK_KEY) (string (List.replicate 41 0x61))
        (BoltProtocolV3.createState.toSummaryData, [])).map fun (summary, _) =>
      summary.last_bookmark.length) = some 41 ∧
    ¬Runs.Meets ProtocolVersion.v3.receiveStep (ProtocolVersion.v3.Processes WritesStrings)
      [⟨BOLT_V1_SUCCESS, [dictionary [(string BOOKMARK_KEY, string (List.replicate 41 0x61))]]⟩]
      (idle .v3, BoltProtocolV3.createState) := by
  have hlength : (ProtocolVersion.v3.extractStep (idle .v3).id BOLT_V1_SUCCESS
      (string BOOKMARK_KEY, string (List.replicate 41 0x61))
      (BoltProtocolV3.createState.toSummaryData.cleared, (idle .v3).garbage)).map
        (fun (_, summary, _) => summary.last_bookmark.length) = some 41 := by
    decide +kernel
  refine ⟨by decide +kernel, ?_⟩
  rintro ⟨_, _, -, hprocesses, -⟩
  obtain ⟨_, after, hextract, hwrites, -⟩ := hprocesses (by decide)
  have hover : after.1.last_bookmark.length = 41 :=
    Option.some.inj ((congrArg _ hextract).symm.trans hlength)
  exact absurd (hover.symm.trans hwrites.secure.last_bookmark.1) (by decide)

end Seabolt
