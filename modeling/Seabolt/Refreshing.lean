import Seabolt.Lib.Loops
import Seabolt.Tenancy

/-!
# Refreshing the routing table

`BoltRoutingPool_ensure_routing_table` as a loop of one thread, with as many
rounds as it takes.  Nobody else holds the lock, so that the thread gets it
whenever it wants it.

How the loop ends is a question about routing tables alone: the direct pools
that it cleans up after every refresh have no say (`ensures_iff`).
-/

namespace Seabolt

/-! ## Destroying direct pools -/

namespace BoltConnection

variable {connection : BoltConnection}

/-- A connection whose transmit buffers are intact can be closed. -/
theorem exists_close (h : Holds Shaped connection) : ∃ closed, connection.close = some closed := by
  have hgoodbye : ∃ left, connection.goodbye = some left := by
    unfold goodbye
    split
    · next hversion =>
      obtain ⟨protocol, hprotocol, hv3⟩ := Option.map_eq_some_iff.mp hversion
      obtain ⟨version, state⟩ := protocol
      obtain ⟨hready, -⟩ := h version state hprotocol
      have htaken : Session.TxReady ({ connection with protocol := none }, state) :=
        ⟨hready.connection, hready.state, hready.drained⟩
      have hregular : PackStream.Regular (BoltMessage.create BOLT_V3_GOODBYE 0).value :=
        .struct _ _ (by decide) (by simp [BoltMessage.create])
      obtain ⟨status, session', hload, -⟩ :=
        loadMessage_spec (fun _ => version.checkWritableStruct_range) htaken hregular
      simp only [loadMessage, hprotocol, hload, Option.map_some, bind, Option.bind_some]
      split_ifs
      · exact ⟨_, rfl⟩
      · exact ⟨_, rfl⟩
    · exact ⟨_, rfl⟩
  obtain ⟨left, hleft⟩ := hgoodbye
  unfold close close_
  simp only [hleft, Option.map_some]
  split_ifs
  · exact ⟨_, rfl⟩
  · exact ⟨_, rfl⟩
  · exact ⟨_, rfl⟩

end BoltConnection

namespace BoltDirectPool

variable {pool : BoltDirectPool} {index : Nat}

theorem exists_closePoolEntry (h : pool.All BoltConnection.Tidy)
    (hlt : index < pool.connections.length) : ∃ closed, pool.closePoolEntry index = some closed := by
  have hentry : pool.connections[index]? = some pool.connections[index] :=
    List.getElem?_eq_getElem hlt
  have htidy := h pool.connections[index] (List.getElem_mem hlt)
  obtain ⟨closed, hclose⟩ := BoltConnection.exists_close htidy.shaped
  unfold closePoolEntry onConnection
  simp only [hentry, hclose]
  split_ifs
  · exact ⟨_, rfl⟩
  · exact ⟨_, rfl⟩

theorem exists_closePoolEntries (indices : List Nat) : ∀ {pool : BoltDirectPool},
    pool.All BoltConnection.Tidy → (∀ i ∈ indices, i < pool.connections.length) →
      ∃ closed, indices.foldlM (fun pool index => pool.closePoolEntry index) pool = some closed := by
  induction indices with
  | nil => exact fun _ _ => ⟨_, rfl⟩
  | cons index indices ih =>
    intro pool hall hindices
    obtain ⟨first, hfirst⟩ := exists_closePoolEntry hall (hindices index List.mem_cons_self)
    have hlength : first.connections.length = pool.connections.length := by
      obtain ⟨c, c', -, -, rfl⟩ := closePoolEntry_works hfirst
      rw [List.length_set]
    obtain ⟨closed, hclosed⟩ := ih (hall.closePoolEntry BoltConnection.lasting_tidy hfirst)
      fun i hi => hlength ▸ hindices i (List.mem_cons_of_mem index hi)
    refine ⟨closed, ?_⟩
    rw [List.foldlM_cons, hfirst]
    exact hclosed

/-- Every direct pool of tidy connections can be destroyed. -/
theorem exists_destroy (h : pool.All BoltConnection.Tidy) : ∃ closed, pool.destroy = some closed :=
  exists_closePoolEntries _ h fun _ hi => List.mem_range.mp hi

end BoltDirectPool

namespace BoltRoutingPool

variable {τ : Type} {pool pool' : BoltRoutingPool} {held : List (τ × Handle)}

theorem exists_destroyServerPools (pointers : List Nat) : ∀ {pool : BoltRoutingPool},
    pointers.Nodup → (∀ pointer ∈ pointers, ∃ server, pool.allocated.read pointer = some server) →
    (∀ pointer server, pool.allocated.read pointer = some server →
      server.pool.All BoltConnection.Tidy) →
    ∃ pool', pointers.foldlM destroyServerPool pool = some pool' := by
  induction pointers with
  | nil => exact fun _ _ _ => ⟨_, rfl⟩
  | cons pointer pointers ih =>
    intro pool hnodup hread htidy
    obtain ⟨hnew, hnodup⟩ := List.nodup_cons.mp hnodup
    obtain ⟨server, hserver⟩ := hread pointer List.mem_cons_self
    obtain ⟨closed, hclosed⟩ := BoltDirectPool.exists_destroy (htidy pointer server hserver)
    have hfirst : pool.destroyServerPool pointer =
        some { pool with allocated := pool.allocated.free pointer } := by
      rw [destroyServerPool, hserver, Option.bind_some, hclosed, Option.map_some]
    rw [List.foldlM_cons, hfirst]
    refine @ih { pool with allocated := pool.allocated.free pointer } hnodup ?_ ?_
    · intro other hother
      have hne : pointer ≠ other := fun heq => hnew (heq ▸ hother)
      obtain ⟨object, hobject⟩ := hread other (List.mem_cons_of_mem pointer hother)
      exact ⟨object, (Heap.read_free_ne hne).trans hobject⟩
    · intro other object hobject
      by_cases heq : pointer = other
      · subst heq
        change (pool.allocated.free pointer).read pointer = some object at hobject
        rw [Heap.read_free_self] at hobject
        cases hobject
      · exact htidy other object ((Heap.read_free_ne heq).symm.trans hobject)

theorem exists_mapM {α β : Type} {test : α → Option β} (list : List α) :
    (∀ a ∈ list, ∃ b, test a = some b) → ∃ results, list.mapM test = some results := by
  induction list with
  | nil => exact fun _ => ⟨[], rfl⟩
  | cons a list ih =>
    intro h
    obtain ⟨b, hb⟩ := h a List.mem_cons_self
    obtain ⟨results, hresults⟩ := ih fun c hc => h c (List.mem_cons_of_mem a hc)
    exact ⟨b :: results, by simp [List.mapM_cons, hb, hresults]⟩

/-- Every cleanup comes to its end. -/
theorem Tenanted.exists_cleanup (h : Tenanted pool held) : ∃ pool', pool.cleanup = some pool' := by
  have hentries : ∀ entry ∈ pool.entries, ∃ server, pool.allocated.read entry.2 = some server := by
    intro entry hentry
    obtain ⟨i, hget⟩ := List.getElem?_of_mem hentry
    obtain ⟨hserver, hpointer⟩ := List.getElem?_zip_eq_some.mp hget
    obtain ⟨pointer, server, hpointer', hread, -⟩ := Directory.object_at h.consistent hserver
    rw [hpointer, Option.some.injEq] at hpointer'
    exact ⟨server, hpointer' ▸ hread⟩
  obtain ⟨markers, hmarkers⟩ : ∃ markers, pool.entries.mapM
      (fun entry => pool.isUnused pool.routing_table.activeServers entry) = some markers := by
    apply exists_mapM
    intro entry hentry
    obtain ⟨server, hread⟩ := hentries entry hentry
    unfold isUnused
    split_ifs
    · exact ⟨_, rfl⟩
    · rw [hread]
      exact ⟨_, rfl⟩
  obtain ⟨hkept, hremoved, -⟩ := mapM_markers _ hmarkers
  change _ = pool.entries.filter (fun entry => !pool.removes entry) at hkept
  change _ = pool.entries.filter pool.removes at hremoved
  have hservers : pool.entries.map Prod.fst = pool.servers :=
    List.map_fst_zip (Nat.le_of_eq (Directory.length h.consistent))
  have hpools : pool.entries.map Prod.snd = pool.server_pools :=
    List.map_snd_zip (Nat.le_of_eq (Directory.length h.consistent).symm)
  have hcopy : ((pool.entries.filter fun entry => !pool.removes entry).map Prod.fst).Nodup := by
    refine List.Nodup.sublist (List.filter_sublist.map Prod.fst) ?_
    rw [hservers]
    exact h.consistent.nodup
  have hdistinct : ((pool.entries.filter pool.removes).map Prod.snd).Nodup := by
    refine List.Nodup.sublist (List.filter_sublist.map Prod.snd) ?_
    rw [hpools]
    exact Directory.nodup_pointers h.consistent
  obtain ⟨pool', hdestroy⟩ := @exists_destroyServerPools ((pool.entries.filter pool.removes).map
      Prod.snd) { pool with
        servers := (pool.entries.filter fun entry => !pool.removes entry).map Prod.fst
        server_pools := (pool.entries.filter fun entry => !pool.removes entry).map Prod.snd }
    hdistinct (by
      intro pointer hpointer
      obtain ⟨entry, hentry, rfl⟩ := List.mem_map.mp hpointer
      exact hentries entry (List.mem_filter.mp hentry).1)
    fun pointer server hread connection hconnection =>
      (h.kept pointer server hread connection hconnection).tidy
  unfold BoltRoutingPool.cleanup
  change ∃ pool', Option.bind (pool.entries.mapM
    fun entry => pool.isUnused pool.routing_table.activeServers entry) _ = some pool'
  rw [hmarkers, Option.bind_some]
  split_ifs
  · refine ⟨pool', ?_⟩
    change Option.bind ((((pool.entries.zip markers).filter fun marked => !marked.2).map
      Prod.fst).foldlM keepEntry ([], [])) _ = some pool'
    rw [hkept, foldlM_keepEntry _ _ (by simpa using hcopy), Option.bind_some]
    change (((pool.entries.zip markers).filter fun marked => marked.2).map
      fun marked => marked.1.2).foldlM destroyServerPool _ = some pool'
    have hpointers : (((pool.entries.zip markers).filter fun marked => marked.2).map
        fun marked => marked.1.2) = (pool.entries.filter pool.removes).map Prod.snd := by
      rw [← hremoved, List.map_map]
      rfl
    rw [hpointers]
    simpa using hdestroy
  · exact ⟨pool, rfl⟩

/-! ## The loop -/

/-- What a round of the loop learns from outside: the readings of the clock at
its two looks and at the end of the update, and what the discovery finds. -/
structure Round where
  checked : Int
  rechecked : Int
  updated : Int
  discovery : Option Announcement

/-- The loop of `BoltRoutingPool_ensure_routing_table` goes on. -/
def goesOn (mode : BoltAccessMode) (round : Round) (state : Int × BoltRoutingPool) : Bool :=
  decide (state.1 = BOLT_SUCCESS) && state.2.routing_table.isExpired mode round.checked

/-- A round of it, under the write lock. -/
def ensureRound (mode : BoltAccessMode) (round : Round) (state : Int × BoltRoutingPool) :
    Outcome BoltRoutingPool :=
  let (_, pool) := state
  if pool.routing_table.isExpired mode round.rechecked then
    let (status, pool) := pool.updateRoutingTable round.updated round.discovery
    if status = BOLT_SUCCESS then pool.cleanup.map fun pool => (status, pool)
    else some (status, pool)
  else some (BOLT_SUCCESS, pool)

/-- `BoltRoutingPool_ensure_routing_table`, with fuel for so many rounds. -/
def ensureRoutingTable (mode : BoltAccessMode) (fuel : Nat) (rounds : Nat → Round)
    (pool : BoltRoutingPool) : Option (Outcome BoltRoutingPool) :=
  Loops.run (goesOn mode) (ensureRound mode) fuel rounds (BOLT_SUCCESS, pool)

/-- A round with one reading of the clock is a turn of a thread with the write
lock. -/
theorem ensureRound_eq_refresh (mode : BoltAccessMode) (checked now status : Int)
    (discovery : Option Announcement) (pool : BoltRoutingPool) :
    ensureRound mode ⟨checked, now, now, discovery⟩ (status, pool) = pool.refresh mode now discovery :=
  rfl

/-! ## How the loop ends -/

/-- What a round leaves of the status and the routing table: the answer of the
discovery, if the second look finds the table expired. -/
def answered (mode : BoltAccessMode) (round : Round) (left : Int × RoutingTable) :
    Int × RoutingTable :=
  if left.2.isExpired mode round.rechecked then
    match round.discovery with
    | some announcement => (BOLT_SUCCESS, left.2.install announcement round.updated)
    | none => (BOLT_ROUTING_UNABLE_TO_RETRIEVE_ROUTING_TABLE, left.2)
  else (BOLT_SUCCESS, left.2)

/-- The status and the routing table that the answers of so many rounds leave. -/
def leftAfter (mode : BoltAccessMode) (rounds : Nat → Round) (table : RoutingTable) (n : Nat) :
    Int × RoutingTable :=
  Loops.described (answered mode) n rounds (BOLT_SUCCESS, table)

/-- The answer of a round is installed. -/
def Installed (mode : BoltAccessMode) (rounds : Nat → Round) (table : RoutingTable) (n : Nat)
    (announcement : Announcement) : Prop :=
  (leftAfter mode rounds table n).2.isExpired mode (rounds n).rechecked = true ∧
    (rounds n).discovery = some announcement

/-- An announcement has a server for the mode. -/
def Serves (mode : BoltAccessMode) (announcement : Announcement) : Prop :=
  match mode with
  | .read => announcement.readers ≠ []
  | .write => announcement.writers ≠ []

/-- The first look finds the table that the answers leave expired, up to a
number of rounds; then it finds it fresh, or the last discovery has failed. -/
def Settles (mode : BoltAccessMode) (rounds : Nat → Round) (table : RoutingTable) (n : Nat) : Prop :=
  (∀ m < n, (leftAfter mode rounds table m).1 = BOLT_SUCCESS ∧
    (leftAfter mode rounds table m).2.isExpired mode (rounds m).checked = true) ∧
  ((leftAfter mode rounds table n).1 ≠ BOLT_SUCCESS ∨
    (leftAfter mode rounds table n).2.isExpired mode (rounds n).checked = false)

/-- The call returns. -/
def Ensures (mode : BoltAccessMode) (rounds : Nat → Round) (pool : BoltRoutingPool) (status : Int) :
    Prop :=
  ∃ fuel pool', ensureRoutingTable mode fuel rounds pool = some (some (status, pool'))

/-- The loop on the routing pool is the loop on its table: no cleanup fails. -/
theorem ensureRound_answered (mode : BoltAccessMode) (round : Round) (state : Int × BoltRoutingPool)
    (h : state.2.Tenanted held) : ∃ state', ensureRound mode round state = some state' ∧
      state'.2.Tenanted held ∧
      (state'.1, state'.2.routing_table) = answered mode round (state.1, state.2.routing_table) := by
  obtain ⟨status, pool⟩ := state
  unfold ensureRound answered
  dsimp only at h ⊢
  by_cases hexpired : pool.routing_table.isExpired mode round.rechecked = true
  · rw [if_pos hexpired, if_pos hexpired]
    cases hdiscovery : round.discovery with
    | none => exact ⟨(_, pool), rfl, h, rfl⟩
    | some announcement =>
      have hinstalled : Tenanted { pool with
          routing_table := pool.routing_table.install announcement round.updated } held :=
        h.congr rfl rfl rfl
      obtain ⟨cleaned, hcleanup⟩ := hinstalled.exists_cleanup
      obtain ⟨allocated, hcleaned, -⟩ := cleanup_cases hinstalled.consistent hcleanup
      refine ⟨(BOLT_SUCCESS, cleaned), ?_, hinstalled.cleanup hcleanup, ?_⟩
      · simp only [updateRoutingTable, if_true, hcleanup, Option.map_some]
      · rw [hcleaned]
  · rw [if_neg hexpired, if_neg hexpired]
    exact ⟨(_, pool), rfl, h, rfl⟩

/-- The call returns, with a given status, when the answers settle the matter. -/
theorem ensures_iff (mode : BoltAccessMode) (rounds : Nat → Round) (h : Tenanted pool held)
    (status : Int) : Ensures mode rounds pool status ↔
      ∃ n, Settles mode rounds pool.routing_table n ∧
        (leftAfter mode rounds pool.routing_table n).1 = status := by
  have hrefines := @Loops.returns_iff_described Round (Int × BoltRoutingPool) (Int × RoutingTable)
    (goesOn mode) (ensureRound mode) rounds (BOLT_SUCCESS, pool)
    (fun state => state.2.Tenanted held) (fun state => (state.1, state.2.routing_table))
    (answered mode)
    (fun round left => decide (left.1 = BOLT_SUCCESS) && left.2.isExpired mode round.checked)
    (fun round state hstate => ensureRound_answered mode round state hstate) (fun _ _ => rfl) h
    (fun left => left.1 = status)
  have hreturns : Ensures mode rounds pool status ↔
      ∃ state, Loops.Returns (goesOn mode) (ensureRound mode) rounds (BOLT_SUCCESS, pool) state ∧
        state.1 = status := by
    constructor
    · rintro ⟨fuel, pool', hrun⟩
      exact ⟨(status, pool'), ⟨fuel, hrun⟩, rfl⟩
    · rintro ⟨⟨code, pool'⟩, ⟨fuel, hrun⟩, rfl⟩
      exact ⟨fuel, pool', hrun⟩
  rw [hreturns, hrefines]
  simp only [Settles, leftAfter, Bool.and_eq_true, Bool.and_eq_false_iff, decide_eq_true_eq,
    decide_eq_false_iff_not, and_assoc, and_left_comm]

/-- The call gets to a round. -/
def Reaches (mode : BoltAccessMode) (rounds : Nat → Round) (table : RoutingTable) (n : Nat) : Prop :=
  ∀ m ≤ n, (leftAfter mode rounds table m).1 = BOLT_SUCCESS ∧
    (leftAfter mode rounds table m).2.isExpired mode (rounds m).checked = true

/-- The call returns, and with an error when one of its refreshes has installed
a table without a server for the mode. -/
structure Ends (mode : BoltAccessMode) (rounds : Nat → Round) (pool : BoltRoutingPool) : Prop where
  returns : ∃ status, Ensures mode rounds pool status
  noServers : ∀ status n announcement, Ensures mode rounds pool status →
    Reaches mode rounds pool.routing_table n →
    Installed mode rounds pool.routing_table n announcement → ¬Serves mode announcement →
      status ≠ BOLT_SUCCESS

variable {mode : BoltAccessMode} {rounds : Nat → Round} {table : RoutingTable} {n m : Nat}

/-- A round that is reached is not one behind the last. -/
theorem Settles.lt_of_reaches (h : Settles mode rounds table n) (hreaches : Reaches mode rounds table m) :
    m < n := by
  by_contra hle
  obtain ⟨hsuccess, hexpired⟩ := hreaches n (Nat.le_of_not_lt hle)
  rcases h.2 with hfailed | hfresh
  · exact hfailed hsuccess
  · rw [hexpired] at hfresh
    cases hfresh

theorem Settles.reaches (h : Settles mode rounds table n) (hm : m < n) :
    Reaches mode rounds table m :=
  fun k hk => h.1 k (Nat.lt_of_le_of_lt hk hm)

theorem Settles.unique (h : Settles mode rounds table n) (h' : Settles mode rounds table m) :
    n = m := by
  rcases Nat.lt_trichotomy n m with hlt | heq | hgt
  · exact absurd (h.lt_of_reaches (h'.reaches hlt)) (Nat.lt_irrefl n)
  · exact heq
  · exact absurd (h'.lt_of_reaches (h.reaches hgt)) (Nat.lt_irrefl m)

/-- The call ends as it is to end if and only if the answers settle the matter
after some number of rounds, and no refresh has installed a table without a
server for the mode, unless the last discovery has failed. -/
theorem ends_iff (mode : BoltAccessMode) (rounds : Nat → Round) (h : Tenanted pool held) :
    Ends mode rounds pool ↔ ∃ n, Settles mode rounds pool.routing_table n ∧
      ((leftAfter mode rounds pool.routing_table n).1 = BOLT_SUCCESS → ∀ m < n, ∀ announcement,
        Installed mode rounds pool.routing_table m announcement → Serves mode announcement) := by
  constructor
  · intro hends
    obtain ⟨status, hensures⟩ := hends.returns
    obtain ⟨n, hsettles, hstatus⟩ := (ensures_iff mode rounds h status).mp hensures
    refine ⟨n, hsettles, fun hsuccess m hm announcement hinstalled => ?_⟩
    by_contra hserves
    exact hends.noServers status m announcement hensures (hsettles.reaches hm) hinstalled hserves
      (hstatus.symm.trans hsuccess)
  · rintro ⟨n, hsettles, hserves⟩
    refine ⟨⟨_, (ensures_iff mode rounds h _).mpr ⟨n, hsettles, rfl⟩⟩, ?_⟩
    intro status m announcement hensures hreaches hinstalled hbare hsuccess
    obtain ⟨k, hsettles', hstatus⟩ := (ensures_iff mode rounds h status).mp hensures
    obtain rfl := hsettles.unique hsettles'
    exact hbare (hserves (hstatus.trans hsuccess) m (hsettles.lt_of_reaches hreaches) announcement
      hinstalled)

/-- A discovery that always finds one reader. -/
def oneReader (n : Nat) : Round :=
  ⟨10 * n, 10 * n + 1, 10 * n + 2, some ⟨[⟨ascii "s", ascii "7687"⟩], [],
    [⟨ascii "r", ascii "7687"⟩], 1000⟩⟩

theorem ends_oneReader :
    Ends .read oneReader (create (ascii "agent") 0 0 (.dictionary []) 1) := by
  have htenanted : Tenanted (create (ascii "agent") 0 0 (.dictionary []) 1)
      ([] : List (Nat × Handle)) := tenanted_create _ _ _ _ _
  refine (ends_iff .read oneReader htenanted).mpr ⟨1, ⟨?_, .inr (by decide)⟩, ?_⟩
  · intro m hm
    obtain rfl := Nat.lt_one_iff.mp hm
    decide
  · intro _ m hm announcement hinstalled
    obtain rfl := Nat.lt_one_iff.mp hm
    rw [← Option.some.inj hinstalled.2]
    exact List.cons_ne_nil _ _

/-- A discovery that always finds a writer and no reader. -/
def noReader (n : Nat) : Round :=
  ⟨10 * n, 10 * n + 1, 10 * n + 2, some ⟨[], [⟨ascii "s", ascii "7687"⟩],
    [⟨ascii "r", ascii "7687"⟩], 1000⟩⟩

/-- A call that wants to read refreshes the table for ever. -/
theorem noReader_not_ends :
    ¬∀ (mode : BoltAccessMode) (rounds : Nat → Round) (pool : BoltRoutingPool),
      Tenanted pool ([] : List (Nat × Handle)) → Ends mode rounds pool := by
  intro hends
  have htenanted : Tenanted (create (ascii "agent") 0 0 (.dictionary []) 1)
      ([] : List (Nat × Handle)) := tenanted_create _ _ _ _ _
  obtain ⟨status, hensures⟩ := (hends .read noReader _ htenanted).returns
  obtain ⟨n, hsettles, -⟩ := (ensures_iff .read noReader htenanted status).mp hensures
  have hleft : ∀ n, (leftAfter .read noReader RoutingTable.create n).1 = BOLT_SUCCESS ∧
      (leftAfter .read noReader RoutingTable.create n).2.readers = [] := by
    intro n
    induction n with
    | zero => exact ⟨rfl, rfl⟩
    | succ n ih =>
      unfold leftAfter at ih ⊢
      rw [Loops.described_succ, answered]
      split_ifs
      · exact ⟨rfl, rfl⟩
      · exact ⟨rfl, ih.2⟩
  obtain ⟨hsuccess, hreaders⟩ := hleft n
  rcases hsettles.2 with hfailed | hfresh
  · exact hfailed hsuccess
  · change RoutingTable.isExpired .read _ (leftAfter .read noReader RoutingTable.create n).2 = false at hfresh
    unfold RoutingTable.isExpired at hfresh
    simp [hreaders] at hfresh

/-- A table that is expired stays so. -/
theorem isExpired_mono {now later : Int} (hle : now ≤ later)
    (h : table.isExpired mode now = true) : table.isExpired mode later = true := by
  unfold RoutingTable.isExpired at h ⊢
  simp only [Bool.or_eq_true, decide_eq_true_eq] at h ⊢
  rcases h with hempty | hexpires
  · exact .inl hempty
  · exact .inr (le_trans hexpires hle)

/-- While the clock does not go back, a call returns if and only if the table is
fresh at first, or one of the discoveries fails or finds a table that is fresh
when the call looks at it. -/
theorem ensures_iff_of_clock (h : Tenanted pool held)
    (hclock : ∀ n, (rounds n).checked ≤ (rounds n).rechecked) :
    (∃ status, Ensures mode rounds pool status) ↔
      pool.routing_table.isExpired mode (rounds 0).checked = false ∨
      ∃ n, ∀ announcement, (rounds n).discovery = some announcement →
        (pool.routing_table.install announcement (rounds n).updated).isExpired mode
          (rounds (n + 1)).checked = false := by
  have hsettles : (∃ status, Ensures mode rounds pool status) ↔
      ∃ n, Settles mode rounds pool.routing_table n := by
    constructor
    · rintro ⟨status, hensures⟩
      obtain ⟨n, hn, -⟩ := (ensures_iff mode rounds h status).mp hensures
      exact ⟨n, hn⟩
    · rintro ⟨n, hn⟩
      exact ⟨_, (ensures_iff mode rounds h _).mpr ⟨n, hn, rfl⟩⟩
  have hstep : ∀ n, Reaches mode rounds pool.routing_table n →
      leftAfter mode rounds pool.routing_table (n + 1) = (match (rounds n).discovery with
        | some announcement =>
          (BOLT_SUCCESS, pool.routing_table.install announcement (rounds n).updated)
        | none => (BOLT_ROUTING_UNABLE_TO_RETRIEVE_ROUTING_TABLE,
            (leftAfter mode rounds pool.routing_table n).2)) := by
    intro n hreaches
    unfold leftAfter
    rw [Loops.described_succ, answered, if_pos]
    · cases (rounds n).discovery with
      | none => rfl
      | some announcement => rfl
    · exact isExpired_mono (hclock n) (hreaches n (Nat.le_refl n)).2
  rw [hsettles]
  constructor
  · rintro ⟨n, hn⟩
    cases n with
    | zero =>
      refine .inl (hn.2.resolve_left ?_)
      exact fun hfailed => hfailed rfl
    | succ n =>
      refine .inr ⟨n, fun announcement hdiscovery => ?_⟩
      have hleft := hstep n (hn.reaches (Nat.lt_succ_self n))
      rw [hdiscovery] at hleft
      dsimp only at hleft
      have hlast := hn.2
      rw [hleft] at hlast
      exact hlast.resolve_left fun hfailed => hfailed rfl
  · intro hcase
    by_contra hnever
    have hreaches : ∀ n, Reaches mode rounds pool.routing_table n := by
      intro n
      induction n using Nat.strong_induction_on with
      | _ n ih =>
        intro m hm
        by_contra hstop
        apply hnever
        have hbefore : ∀ k < m, _ := fun k hk => ih k (Nat.lt_of_lt_of_le hk hm) k (Nat.le_refl k)
        refine ⟨m, hbefore, ?_⟩
        by_cases hsuccess : (leftAfter mode rounds pool.routing_table m).1 = BOLT_SUCCESS
        · exact .inr (Bool.eq_false_iff.mpr fun hexpired => hstop ⟨hsuccess, hexpired⟩)
        · exact .inl hsuccess
    rcases hcase with hfresh | ⟨n, hn⟩
    · have hexpired := (hreaches 0 0 (Nat.le_refl 0)).2
      change pool.routing_table.isExpired mode (rounds 0).checked = true at hexpired
      rw [hfresh] at hexpired
      cases hexpired
    · obtain ⟨hsuccess, hexpired⟩ := hreaches (n + 1) (n + 1) (Nat.le_refl _)
      rw [hstep n (hreaches n)] at hsuccess hexpired
      cases hdiscovery : (rounds n).discovery with
      | none =>
        rw [hdiscovery] at hsuccess
        exact absurd hsuccess
          (show BOLT_ROUTING_UNABLE_TO_RETRIEVE_ROUTING_TABLE ≠ BOLT_SUCCESS by decide)
      | some announcement =>
        rw [hdiscovery] at hexpired
        rw [hn announcement hdiscovery] at hexpired
        cases hexpired

end BoltRoutingPool

end Seabolt
