import Mathlib.Data.List.TakeWhile
import Seabolt.ServerStrings

/-!
# The id of a connection

The third version appends what the server sends under `connection_id` to the id
of the connection.  The length of the value is checked against the size of the
block, but `snprintf` prints the value up to the next NUL in memory, which is not
a part of it, and its limit is the size of the whole block.
-/

namespace Seabolt

open BoltValue

/-! ## Appending -/

/-- The bytes behind a value that are taken for a part of it. -/
def leftover (garbage : List UInt8) : List UInt8 := garbage.takeWhile (· ≠ 0)

/-- The id with the value behind it fits into the block. -/
def FitsId (old s : List UInt8) : Prop :=
  old.length + CONNECTION_ID_SEPARATOR.length + s.length + 1 ≤ MAX_CONNECTION_ID_SIZE

instance (old s : List UInt8) : Decidable (FitsId old s) := inferInstanceAs (Decidable (_ ≤ _))

variable {summary : SummaryData} {id s garbage : List UInt8}

theorem textOf_append {front back : List UInt8} (hfront : 0 ∉ front) :
    textOf (front ++ 0 :: back) = front := by
  have hall : ∀ x ∈ front, (decide (x ≠ 0)) = true :=
    fun x hx => decide_eq_true (ne_of_mem_of_not_mem hx hfront)
  rw [textOf, List.takeWhile_append_of_pos hall, List.takeWhile_cons_of_neg (by decide),
    List.append_nil]

theorem not_mem_textOf (block : List UInt8) : 0 ∉ textOf block := by
  intro hmem
  unfold textOf at hmem
  have hne := List.mem_takeWhile_imp hmem
  simp at hne

theorem not_mem_id (hid : 0 ∉ id) : 0 ∉ BoltProtocolV3.id summary id := by
  unfold BoltProtocolV3.id
  split_ifs
  · exact hid
  · exact not_mem_textOf _

/-- The id of a connection is what its block reads as, if that is not empty. -/
theorem id_of_textOf {text : List UInt8} (h : textOf summary.connection_id = text) (hne : text ≠ []) :
    BoltProtocolV3.id summary id = text := by
  unfold BoltProtocolV3.id
  rw [show summary.connection_id.takeWhile (· ≠ 0) = text from h, if_neg hne]

/-- What is printed behind the old id. -/
def printedId (s garbage : List UInt8) : List UInt8 :=
  (CONNECTION_ID_SEPARATOR ++ (s ++ leftover garbage)).take (MAX_CONNECTION_ID_SIZE - 1)

theorem setConnectionId_long (h : ¬FitsId (BoltProtocolV3.id summary id) s) :
    setConnectionId id s (summary, garbage) = (summary, garbage) := by
  have hlong : (BoltProtocolV3.id summary id).length + s.length + CONNECTION_ID_SEPARATOR.length + 1
      > MAX_CONNECTION_ID_SIZE := by
    unfold FitsId at h
    omega
  rw [setConnectionId]
  dsimp only
  rw [if_pos hlong]

/-- The block begins with the old id, what is printed and a NUL. -/
theorem setConnectionId_block (hs : 0 ∉ s) (h : FitsId (BoltProtocolV3.id summary id) s) :
    (setConnectionId id s (summary, garbage)).1.connection_id =
      BoltProtocolV3.id summary id ++ printedId s garbage ++ 0 :: summary.connection_id.drop
        ((BoltProtocolV3.id summary id).length + (printedId s garbage).length + 1) := by
  have hshort : ¬(BoltProtocolV3.id summary id).length + s.length +
      CONNECTION_ID_SEPARATOR.length + 1 > MAX_CONNECTION_ID_SIZE := by
    unfold FitsId at h
    omega
  have hnul : s.contains 0 = false := by
    simpa using hs
  rw [setConnectionId]
  dsimp only
  rw [if_neg hshort, cString, hnul]
  simp only [Bool.false_eq_true, if_false]
  show memcpy (memcpy summary.connection_id 0 (BoltProtocolV3.id summary id))
    (BoltProtocolV3.id summary id).length (printedId s garbage ++ [0]) = _
  simp [memcpy, List.drop_drop, Nat.add_assoc]

theorem not_mem_printedId (hs : 0 ∉ s) : 0 ∉ printedId s garbage := by
  intro hmem
  rcases List.mem_append.mp (List.mem_of_mem_take hmem) with hseparator | hvalue
  · exact absurd hseparator (by decide)
  · rcases List.mem_append.mp hvalue with hvalue | hleft
    · exact hs hvalue
    · exact not_mem_textOf _ hleft

/-- The value is printed as it is exactly if nothing is left behind it in memory,
or if there is no room for that. -/
theorem printedId_eq_iff (hs : s.length ≤ 197) :
    printedId s garbage = CONNECTION_ID_SEPARATOR ++ s ↔ leftover garbage = [] ∨ s.length = 197 := by
  have hseparator : CONNECTION_ID_SEPARATOR.length = 2 := rfl
  have hlimit : MAX_CONNECTION_ID_SIZE - 1 = 199 := rfl
  constructor
  · intro heq
    by_contra hnot
    obtain ⟨hleft, hlength⟩ := not_or.mp hnot
    have hpositive := List.length_pos_iff.mpr hleft
    have hcount := congrArg List.length heq
    rw [printedId, List.length_take, hlimit] at hcount
    simp only [List.length_append, hseparator] at hcount
    omega
  · rintro (hleft | hlength)
    · rw [printedId, hleft, List.append_nil, List.take_of_length_le]
      rw [List.length_append, hseparator, hlimit]
      omega
    · rw [printedId, ← List.append_assoc, List.take_left']
      rw [List.length_append, hseparator, hlength, hlimit]

/-! ## One entry -/

/-- A value under `connection_id` is appended to the id if the whole fits into the
block, and nothing else changes the block, which keeps its size and a NUL. -/
structure Accumulates (id : List UInt8) (entry : BoltValue × BoltValue) (before : Extraction)
    (_ : Unit) (after : Extraction) : Prop where
  terminated : Terminated MAX_CONNECTION_ID_SIZE after.1.connection_id
  appended : ∀ s, entry = (string CONNECTION_ID_KEY, string s) →
    BoltProtocolV3.id after.1 id =
      if FitsId (BoltProtocolV3.id before.1 id) s then
        BoltProtocolV3.id before.1 id ++ CONNECTION_ID_SEPARATOR ++ s
      else BoltProtocolV3.id before.1 id
  kept : (∀ s, entry ≠ (string CONNECTION_ID_KEY, string s)) →
    after.1.connection_id = before.1.connection_id

/-- Nothing is left behind the value in memory, unless it does not fit, or leaves
no room in the block. -/
def ReadsClean (id : List UInt8) (entry : BoltValue × BoltValue) (before : Extraction) : Prop :=
  ∀ s, entry = (string CONNECTION_ID_KEY, string s) → FitsId (BoltProtocolV3.id before.1 id) s →
    leftover before.2 = [] ∨ s.length = 197

/-- The value of an entry under `connection_id` has no NUL in it. -/
def HasNoNul (entry : BoltValue × BoltValue) : Prop :=
  ∀ s, entry = (string CONNECTION_ID_KEY, string s) → 0 ∉ s

/-- A value that fits is appended within the block exactly if it reads as what it
is. -/
theorem setConnectionId_iff (hid : 0 ∉ id)
    (hblock : summary.connection_id.length = MAX_CONNECTION_ID_SIZE) (hs : 0 ∉ s)
    (hfits : FitsId (BoltProtocolV3.id summary id) s) :
    (Terminated MAX_CONNECTION_ID_SIZE (setConnectionId id s (summary, garbage)).1.connection_id ∧
      BoltProtocolV3.id (setConnectionId id s (summary, garbage)).1 id =
        BoltProtocolV3.id summary id ++ CONNECTION_ID_SEPARATOR ++ s) ↔
    leftover garbage = [] ∨ s.length = 197 := by
  have hlength : (BoltProtocolV3.id summary id).length + 2 + s.length + 1 ≤ 200 := hfits
  have hold : 0 ∉ BoltProtocolV3.id summary id := not_mem_id hid
  have hnew : 0 ∉ BoltProtocolV3.id summary id ++ printedId s garbage := by
    rw [List.mem_append]
    rintro (h | h)
    · exact hold h
    · exact not_mem_printedId hs h
  have hread : BoltProtocolV3.id (setConnectionId id s (summary, garbage)).1 id =
      BoltProtocolV3.id summary id ++ printedId s garbage := by
    refine id_of_textOf ?_ ?_
    · rw [setConnectionId_block hs hfits, textOf_append hnew]
    · simp [printedId, CONNECTION_ID_SEPARATOR, ascii]
  rw [hread, List.append_assoc, List.append_cancel_left_eq, printedId_eq_iff (by omega)]
  refine and_iff_right_of_imp fun hclean => ?_
  have hprinted := (printedId_eq_iff (by omega)).mpr hclean
  have hcount : (printedId s garbage).length = 2 + s.length := by
    rw [hprinted, List.length_append]
    rfl
  rw [setConnectionId_block hs hfits]
  refine ⟨?_, List.mem_append_right _ List.mem_cons_self⟩
  have hsize : summary.connection_id.length = 200 := hblock
  simp only [List.length_append, List.length_cons, List.length_drop, hsize, hcount]
  show _ = 200
  omega

variable {data_type : Int16} {before after : Extraction} {key value : BoltValue}

/-- An entry is extracted as it should be exactly if its value is read as it is. -/
theorem accumulates_iff (hid : 0 ∉ id)
    (hblock : Terminated MAX_CONNECTION_ID_SIZE before.1.connection_id) (hnul : HasNoNul (key, value))
    (h : Extracts true id data_type before.1 before.2 key value after) :
    Accumulates id (key, value) before () after ↔ ReadsClean id (key, value) before := by
  have hother : (∀ s, (key, value) ≠ (string CONNECTION_ID_KEY, string s)) →
      after.1.connection_id = before.1.connection_id →
      (Accumulates id (key, value) before () after ↔ ReadsClean id (key, value) before) := by
    intro hne hsame
    refine iff_of_true ⟨?_, fun s hentry => absurd hentry (hne s), fun _ => hsame⟩
      fun s hentry => absurd hentry (hne s)
    rwa [hsame]
  have hkeys : ∀ {other : List UInt8} {content : BoltValue}, other ≠ CONNECTION_ID_KEY →
      ∀ s, (string other, content) ≠ (string CONNECTION_ID_KEY, string s) :=
    fun hne s hentry => hne (string.inj (Prod.mk.inj hentry).1)
  cases h with
  | connectionId hversion s =>
    have hs := hnul s rfl
    by_cases hfits : FitsId (BoltProtocolV3.id before.1 id) s
    · have hiff := @setConnectionId_iff _ _ _ before.2 hid hblock.1 hs hfits
      constructor
      · intro haccumulates s' hentry _
        obtain rfl := string.inj (Prod.mk.inj hentry).2
        refine hiff.mp ⟨haccumulates.terminated, ?_⟩
        rw [haccumulates.appended s rfl, if_pos hfits]
      · intro hclean
        obtain ⟨hterminated, hread⟩ := hiff.mpr (hclean s rfl hfits)
        refine ⟨hterminated, fun s' hentry => ?_, fun hne => absurd rfl (hne s)⟩
        obtain rfl := string.inj (Prod.mk.inj hentry).2
        rw [if_pos hfits]
        exact hread
    · rw [setConnectionId_long hfits]
      refine iff_of_true ⟨hblock, fun s' hentry => ?_, fun _ => rfl⟩ fun s' hentry hfits' => ?_
      · obtain rfl := string.inj (Prod.mk.inj hentry).2
        rw [if_neg hfits]
      · obtain rfl := string.inj (Prod.mk.inj hentry).2
        exact absurd hfits' hfits
  | bookmark data => exact hother (hkeys (by decide)) rfl
  | fields hnames => exact hother (hkeys (by decide)) rfl
  | server data => exact hother (hkeys (by decide)) rfl
  | code htype data => exact hother (hkeys (by decide)) rfl
  | message htype data => exact hother (hkeys (by decide)) rfl
  | @dropped reserved _ hreserved hvalue =>
    refine hother (fun s hentry => ?_) rfl
    obtain ⟨hkey, rfl⟩ := Prod.mk.inj hentry
    obtain rfl := string.inj hkey
    rw [Mistyped, if_neg (by decide)] at hvalue
    cases hvalue
  | metadata hkey happend =>
    refine hother ?_ ?_
    · rintro s hentry
      obtain ⟨rfl, -⟩ := Prod.mk.inj hentry
      have hequal := stringEquals_of_not_reserved hkey (connectionId_mem_reservedKeys rfl)
      rw [(stringEquals_iff (by decide)).mpr rfl] at hequal
      cases hequal
    · obtain ⟨dest_key, -, h⟩ := Option.bind_eq_some_iff.mp happend
      obtain ⟨dest_value, -, h⟩ := Option.bind_eq_some_iff.mp h
      rw [← Option.some.inj h]

/-! ## Runs -/

/-- In every summary, the values are read as they are. -/
def ReadsCleanly (id : List UInt8) (message : BoltMessage) (session : Session) : Prop :=
  message.code ≠ BOLT_V1_RECORD →
    Runs.Admissible (ProtocolVersion.v3.extractStep id message.code) (ReadsClean id)
      (metadataOf (.list message.fields)) (session.2.toSummaryData.cleared, session.1.garbage)

/-- Whatever messages are received, each value under `connection_id` is appended to
the id as it should be if and only if, of each that fits, nothing behind it in memory
is read. -/
theorem connectionIds_iff (session : Session) (messages : List BoltMessage)
    (hcopyable : ∀ m ∈ messages, ∀ v ∈ m.fields, v.Copyable)
    (hnul : ∀ m ∈ messages, ∀ entry ∈ metadataOf (.list m.fields), HasNoNul entry)
    (hid : 0 ∉ session.1.id)
    (hblock : Terminated MAX_CONNECTION_ID_SIZE session.2.connection_id) :
    Runs.Meets ProtocolVersion.v3.receiveStep
        (ProtocolVersion.v3.Processes (Accumulates session.1.id)) messages session ↔
      Runs.Admissible ProtocolVersion.v3.receiveStep (ReadsCleanly session.1.id) messages session := by
  obtain ⟨results, final, hrun⟩ := Runs.exists_run ProtocolVersion.v3.receiveStep messages
    (fun m hm session => by
      obtain ⟨session', hstep⟩ := ProtocolVersion.v3.receiveStep_isSome (hcopyable m hm) session
      exact ⟨(), session', hstep⟩) session
  refine Runs.meets_iff_admissible_of_mem
    (fun session' => session'.1.id = session.1.id ∧
      Terminated MAX_CONNECTION_ID_SIZE session'.2.connection_id)
    (fun m : BoltMessage => (∀ v ∈ m.fields, v.Copyable) ∧
      ∀ entry ∈ metadataOf (.list m.fields), HasNoNul entry)
    ?_ messages (fun m hm => ⟨hcopyable m hm, hnul m hm⟩) ⟨rfl, hblock⟩ hrun
  rintro message session1 ⟨⟩ session2 ⟨hsame, hblock⟩ ⟨hcopyable, hnul⟩ hstep
  obtain ⟨hconnection, hcase⟩ := ProtocolVersion.receiveStep_cases hstep
  have hsame' : session2.1.id = session.1.id := by rw [hconnection, ← hsame]
  rcases hcase with ⟨hrecord, hstate, -⟩ | ⟨hsummary, hentries⟩
  · refine ⟨iff_of_true (fun hne => absurd hrecord hne) fun hne => absurd hrecord hne,
      fun _ => ⟨hsame', ?_⟩⟩
    rwa [hstate]
  · have hiff : Runs.Meets (ProtocolVersion.v3.extractStep session1.1.id message.code)
        (Accumulates session.1.id) (metadataOf (.list message.fields))
        (session1.2.toSummaryData.cleared, session1.1.garbage) ↔
        Runs.Admissible (ProtocolVersion.v3.extractStep session1.1.id message.code)
          (ReadsClean session.1.id) (metadataOf (.list message.fields))
          (session1.2.toSummaryData.cleared, session1.1.garbage) := by
      refine Runs.meets_iff_admissible_of_mem
        (fun state => Terminated MAX_CONNECTION_ID_SIZE state.1.connection_id)
        (fun entry : BoltValue × BoltValue => HasNoNul entry) ?_ _ hnul hblock hentries
      rintro ⟨key, value⟩ before ⟨⟩ after hblock hnul hextract
      obtain ⟨after', hentry, hresult⟩ := Option.map_eq_some_iff.mp hextract
      obtain rfl := (Prod.mk.inj hresult).2
      rw [hsame] at hentry
      exact ⟨accumulates_iff hid hblock hnul (extractEntry_cases hentry), fun h => h.terminated⟩
    constructor
    · rw [ProtocolVersion.Processes, ReadsCleanly, ← hsame]
      rw [hsame] at hiff ⊢
      exact forall_congr' fun _ => hiff
    · exact fun hprocesses => ⟨hsame', Runs.keeps_of_meets
        (fun state : Extraction => Terminated MAX_CONNECTION_ID_SIZE state.1.connection_id)
        (fun _ _ _ _ _ haccumulates => haccumulates.terminated) _ hblock (hprocesses hsummary)
        hentries⟩

/-- A connection with an id of its own. -/
def named (garbage : List UInt8) : Session :=
  ({ idle .v3 with id := ascii "conn-7", garbage := garbage }, BoltProtocolV3.createState)

/-- The response to a HELLO. -/
def greeting (s : List UInt8) : BoltMessage :=
  ⟨BOLT_V1_SUCCESS, [dictionary [(string CONNECTION_ID_KEY, string s)]]⟩

/-- Memory that was not used before. -/
theorem connectionIds_iff_named :
    Runs.Meets ProtocolVersion.v3.receiveStep
        (ProtocolVersion.v3.Processes (Accumulates (named []).1.id)) [greeting (ascii "bolt-1")]
        (named []) ↔
      Runs.Admissible ProtocolVersion.v3.receiveStep (ReadsCleanly (named []).1.id)
        [greeting (ascii "bolt-1")] (named []) := by
  refine connectionIds_iff (named []) [greeting (ascii "bolt-1")] ?_ ?_ (by decide) ⟨rfl, by decide⟩
  · simp [greeting, Copyable, CopyableEntries]
  · intro m hm entry hentry s hs
    obtain rfl := List.mem_singleton.mp hm
    obtain rfl := List.mem_singleton.mp hentry
    rw [← string.inj (Prod.mk.inj hs).2]
    decide

/-- The value was longer once, and the end of it is still in memory. -/
theorem connectionId_leftover :
    ((ProtocolVersion.v3.receiveStep (greeting (ascii "bolt-1")) (named (ascii "2345"))).map
      fun (_, connection, state) => BoltProtocolV3.id state.toSummaryData connection.id) =
      some (ascii "conn-7, bolt-12345") ∧
    ¬Runs.Meets ProtocolVersion.v3.receiveStep
      (ProtocolVersion.v3.Processes (Accumulates (named (ascii "2345")).1.id))
      [greeting (ascii "bolt-1")] (named (ascii "2345")) := by
  have hread : (ProtocolVersion.v3.extractStep (named (ascii "2345")).1.id BOLT_V1_SUCCESS
      (string CONNECTION_ID_KEY, string (ascii "bolt-1"))
      ((named (ascii "2345")).2.toSummaryData.cleared, (named (ascii "2345")).1.garbage)).map
        (fun (_, summary, _) => BoltProtocolV3.id summary (named (ascii "2345")).1.id) =
      some (ascii "conn-7, bolt-12345") := by
    decide +kernel
  refine ⟨by decide +kernel, ?_⟩
  rintro ⟨_, _, -, hprocesses, -⟩
  obtain ⟨_, after, hextract, haccumulates, -⟩ := hprocesses (by decide)
  have hid : BoltProtocolV3.id after.1 (named (ascii "2345")).1.id = ascii "conn-7, bolt-12345" :=
    Option.some.inj ((congrArg _ hextract).symm.trans hread)
  have happended := haccumulates.appended (ascii "bolt-1") rfl
  rw [hid] at happended
  exact absurd happended (by decide +kernel)

end Seabolt
