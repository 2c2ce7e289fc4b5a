import Seabolt.PlainCommunication
import Seabolt.Values

/-!
# Resolving an address

The unpooled scheme opens all of its connections with one address, and threads do so at
the same time: `BoltNoPool_acquire` takes no mutex for it.  `BoltAddress_resolve` writes the
hosts that `getaddrinfo` has found under the write lock of the address.
`BoltCommunication_open` asks for their number, twice, and then for one after the other, and
takes the read lock for each question only: the hosts may be others by then.

The resolution is related to the hosts of the lookups by `ResolvedAddress.Holds`, which each
turn of a thread keeps.  What the threads get for their questions in any interleaving
follows from it (`Openings.Served`).
-/

namespace Seabolt

open Blocks

/-! ## Hosts -/

inductive AddressFamily where
  | inet
  | inet6
  | other
  deriving DecidableEq

/-- `sockaddr_storage`, with the port in the byte order of the host. -/
structure SockAddr where
  ss_family : AddressFamily
  host : List UInt8
  port : UInt16
  deriving DecidableEq

/-- Whether `_open` makes an attempt with the host. -/
def SockAddr.supported (host : SockAddr) : Bool := host.ss_family != .other

/-- A node of the list that `getaddrinfo` returns. -/
structure AddrInfo where
  ai_family : AddressFamily
  ai_addr : SockAddr
  deriving DecidableEq

/-- What `getaddrinfo` does. -/
structure Lookup where
  gai_status : Int
  ai : List AddrInfo

abbrev SOCKADDR_STORAGE_SIZE : Nat := 128

/-- The number of values of an `unsigned short`. -/
abbrev USHORT_VALUES : Nat := 65536

/-- Whether the `switch` on `ai_family` takes the node. -/
def AddrInfo.isIp (node : AddrInfo) : Bool :=
  match node.ai_family with
  | .inet | .inet6 => true
  | .other => false

/-- The hosts of a lookup that `BoltAddress_resolve` cares about. -/
def Lookup.hosts (lookup : Lookup) : List SockAddr :=
  (lookup.ai.filter AddrInfo.isIp).map AddrInfo.ai_addr

/-! ## The address -/

/-- The fields of a `BoltAddress` that a resolution works on, with the memory that it
allocates.  A host that has not been written yet is indeterminate. -/
structure ResolvedAddress where
  n_resolved_hosts : Nat
  resolved_hosts : Option Nat
  block : List (Option SockAddr)
  resolved_port : UInt16
  heap : Blocks

namespace ResolvedAddress

/-- `BoltAddress_create`. -/
def create (heap : Blocks) : ResolvedAddress where
  n_resolved_hosts := 0
  resolved_hosts := none
  block := []
  resolved_port := 0
  heap := heap

/-- `BoltMem_reallocate` as `realloc` of the GNU C library does it: without a block it
allocates one, and a size of 0 frees it. -/
def reallocate (heap : Blocks) (pointer : Option Nat) (old_size new_size : Nat) :
    Option (Option Nat × Blocks) :=
  match pointer with
  | none => some (some (heap.allocate new_size).1, (heap.allocate new_size).2)
  | some pointer =>
    if new_size = 0 then (heap.deallocate pointer old_size).map fun heap => (none, heap)
    else (Blocks.reallocate heap pointer old_size new_size).map fun (pointer, heap) =>
      (some pointer, heap)

/-- The loop that copies the hosts.  A copy behind the end of the block has no result. -/
def copyHosts : List AddrInfo → Nat → List (Option SockAddr) → Option (List (Option SockAddr))
  | [], _, block => some block
  | node :: nodes, p, block =>
    if node.isIp then
      if p < block.length then copyHosts nodes (p + 1) (block.set p (some node.ai_addr)) else none
    else copyHosts nodes p block

/-- What `BoltAddress_resolve` does when the lookup has succeeded.  The hosts are counted
in an `unsigned short`. -/
def install (address : ResolvedAddress) (ai : List AddrInfo) : Option ResolvedAddress :=
  let count := (ai.countP AddrInfo.isIp) % USHORT_VALUES
  match reallocate address.heap address.resolved_hosts
    (address.n_resolved_hosts * SOCKADDR_STORAGE_SIZE) (count * SOCKADDR_STORAGE_SIZE) with
  | none => none
  | some (resolved_hosts, heap) =>
    (copyHosts ai 0 (BoltValue.resize address.block count none)).map fun block =>
      { address with
        n_resolved_hosts := count
        resolved_hosts := resolved_hosts
        block := block
        heap := heap }

/-- The port of the first host, if there is one. -/
def setPort (address : ResolvedAddress) : Option ResolvedAddress :=
  if address.n_resolved_hosts > 0 then
    match address.block with
    | some host :: _ => some { address with resolved_port := host.port }
    | _ => none
  else some address

/-- `BoltAddress_resolve`. -/
def resolve (address : ResolvedAddress) (lookup : Lookup) : Outcome ResolvedAddress :=
  ((if lookup.gai_status = 0 then address.install lookup.ai else some address).bind setPort).map
    fun address => (lookup.gai_status, address)

/-- `BoltAddress_resolved_count`. -/
def resolvedCount (address : ResolvedAddress) : Nat := address.n_resolved_hosts

/-- `BoltAddress_resolved_addr`: the target is left as it is when there is no such host. -/
def resolvedAddr (address : ResolvedAddress) (index : Nat) (target : Option SockAddr) :
    Option SockAddr :=
  if address.n_resolved_hosts > index then (address.block[index]?).join else target

/-- What `BoltAddress_destroy` does to the hosts. -/
def destroy (address : ResolvedAddress) : Option Blocks :=
  match address.resolved_hosts with
  | none => some address.heap
  | some pointer =>
    address.heap.deallocate pointer (address.n_resolved_hosts * SOCKADDR_STORAGE_SIZE)

/-- The block of the hosts. -/
def owned (address : ResolvedAddress) : List (Nat × Nat) :=
  address.resolved_hosts.toList.map fun pointer =>
    (pointer, address.n_resolved_hosts * SOCKADDR_STORAGE_SIZE)

/-- The address holds the hosts and the block for them, beside what others have
allocated. -/
structure Holds (address : ResolvedAddress) (hosts : List SockAddr) (others : List (Nat × Nat)) :
    Prop where
  count : address.n_resolved_hosts = hosts.length
  block : address.block = hosts.map some
  port : ∀ host ∈ hosts.head?, address.resolved_port = host.port
  account : address.heap.Account (address.owned ++ others)

end ResolvedAddress

/-! ## A resolution -/

/-- The hosts fit into the counter. -/
def Lookup.Few (lookup : Lookup) : Prop :=
  lookup.gai_status = 0 → lookup.hosts.length < USHORT_VALUES

/-- The hosts of an address after a lookup: a failure leaves them alone. -/
def Lookup.after (lookup : Lookup) (hosts : List SockAddr) : List SockAddr :=
  if lookup.gai_status = 0 then lookup.hosts else hosts

namespace ResolvedAddress

variable {address address' : ResolvedAddress} {hosts : List SockAddr} {others : List (Nat × Nat)}
  {lookup : Lookup}

theorem create_holds {heap : Blocks} (h : heap.Account others) :
    (create heap).Holds [] others :=
  ⟨rfl, rfl, fun _ hhost => absurd hhost (by simp), h⟩

/-- The copies stay in the block exactly if it has room for all hosts. -/
theorem copyHosts_eq (nodes : List AddrInfo) : ∀ (p : Nat) (block : List (Option SockAddr)),
    p ≤ block.length → copyHosts nodes p block =
      if p + nodes.countP AddrInfo.isIp ≤ block.length then
        some (block.take p ++ ((nodes.filter AddrInfo.isIp).map fun node => some node.ai_addr) ++
          block.drop (p + nodes.countP AddrInfo.isIp))
      else none := by
  induction nodes with
  | nil =>
    intro p block hp
    simp [copyHosts, hp]
  | cons node nodes ih =>
    intro p block hp
    unfold copyHosts
    by_cases hip : node.isIp = true
    · by_cases hroom : p < block.length
      · have hcount : p + (node :: nodes).countP AddrInfo.isIp =
            p + 1 + nodes.countP AddrInfo.isIp := by
          rw [List.countP_cons_of_pos hip]
          omega
        rw [if_pos hip, if_pos hroom, ih (p + 1) _ (by rw [List.length_set]; omega), hcount,
          List.length_set]
        split_ifs with hfits
        · congr 1
          rw [List.filter_cons_of_pos hip, List.map_cons,
            List.take_succ_eq_append_getElem (by simpa), List.getElem_set_self,
            List.take_set_of_le (Nat.le_refl p), List.drop_set_of_lt (by omega)]
          simp
        · rfl
      · have hfull : ¬p + (node :: nodes).countP AddrInfo.isIp ≤ block.length := by
          rw [List.countP_cons_of_pos hip]
          omega
        rw [if_pos hip, if_neg hroom, if_neg hfull]
    · rw [if_neg hip, ih p block hp, List.countP_cons_of_neg hip, List.filter_cons_of_neg hip]

theorem countP_hosts (lookup : Lookup) :
    lookup.ai.countP AddrInfo.isIp = lookup.hosts.length := by
  rw [Lookup.hosts, List.length_map, List.countP_eq_length_filter]

/-- The block for the hosts of a new lookup takes the place of the old one. -/
theorem reallocate_account (h : address.heap.Account (address.owned ++ others)) (count : Nat) :
    ∃ resolved_hosts heap, reallocate address.heap address.resolved_hosts
        (address.n_resolved_hosts * SOCKADDR_STORAGE_SIZE) (count * SOCKADDR_STORAGE_SIZE) =
          some (resolved_hosts, heap) ∧
      heap.Account ((resolved_hosts.toList.map fun pointer =>
        (pointer, count * SOCKADDR_STORAGE_SIZE)) ++ others) := by
  unfold owned at h
  unfold reallocate
  cases hpointer : address.resolved_hosts with
  | none =>
    rw [hpointer] at h
    exact ⟨_, _, rfl, Account.allocate h _⟩
  | some pointer =>
    rw [hpointer] at h
    by_cases hzero : count * SOCKADDR_STORAGE_SIZE = 0
    · obtain ⟨heap, hfree, haccount⟩ := Account.deallocate h
      refine ⟨none, heap, ?_, haccount⟩
      simp only [hzero, if_true, hfree, Option.map_some]
    · obtain ⟨pointer', heap, hmove, haccount⟩ :=
        Account.reallocate h (count * SOCKADDR_STORAGE_SIZE)
      refine ⟨some pointer', heap, ?_, haccount⟩
      simp only [hzero, if_false, hmove, Option.map_some]

theorem install_holds (h : address.Holds hosts others)
    (hfew : lookup.hosts.length < USHORT_VALUES) :
    ∃ address', address.install lookup.ai = some address' ∧
      address'.n_resolved_hosts = lookup.hosts.length ∧ address'.block = lookup.hosts.map some ∧
      address'.heap.Account (address'.owned ++ others) := by
  have hcount : lookup.ai.countP AddrInfo.isIp % USHORT_VALUES = lookup.hosts.length := by
    rw [countP_hosts, Nat.mod_eq_of_lt hfew]
  obtain ⟨resolved_hosts, heap, hrealloc, haccount⟩ :=
    reallocate_account h.account lookup.hosts.length
  have hcopied : copyHosts lookup.ai 0
      (BoltValue.resize address.block lookup.hosts.length none) = some (lookup.hosts.map some) := by
    have hdrop : (BoltValue.resize address.block lookup.hosts.length none).drop
        (0 + lookup.ai.countP AddrInfo.isIp) = [] := by
      rw [countP_hosts, Nat.zero_add]
      exact List.drop_of_length_le (Nat.le_of_eq (BoltValue.length_resize _ _ _))
    rw [copyHosts_eq _ _ _ (Nat.zero_le _), hdrop, countP_hosts, BoltValue.length_resize,
      if_pos (by omega), List.take_zero, List.nil_append, List.append_nil, Lookup.hosts,
      List.map_map]
    rfl
  refine ⟨{ address with
    n_resolved_hosts := lookup.hosts.length
    resolved_hosts := resolved_hosts
    block := lookup.hosts.map some
    heap := heap }, ?_, rfl, rfl, haccount⟩
  simp only [install, hcount, hrealloc, hcopied, Option.map_some]

theorem setPort_holds (hcount : address.n_resolved_hosts = hosts.length)
    (hblock : address.block = hosts.map some)
    (haccount : address.heap.Account (address.owned ++ others)) :
    ∃ address', address.setPort = some address' ∧ address'.Holds hosts others := by
  unfold setPort
  cases hosts with
  | nil =>
    refine ⟨address, ?_, hcount, hblock, fun _ hhost => absurd hhost (by simp), haccount⟩
    rw [hcount]
    rfl
  | cons host hosts =>
    refine ⟨{ address with resolved_port := host.port }, ?_, hcount, hblock, ?_, haccount⟩
    · simp only [hcount, List.length_cons, hblock, List.map_cons, gt_iff_lt, Nat.succ_pos, if_true]
    · intro first hfirst
      obtain rfl := Option.some.inj hfirst
      rfl

/-- After a resolution the address holds the hosts of the last lookup that has
succeeded. -/
theorem resolve_holds (h : address.Holds hosts others) (hfew : lookup.Few) :
    ∃ address', address.resolve lookup = some (lookup.gai_status, address') ∧
      address'.Holds (lookup.after hosts) others := by
  unfold resolve Lookup.after
  by_cases hfound : lookup.gai_status = 0
  · obtain ⟨installed, hinstall, hcount, hblock, haccount⟩ := install_holds h (hfew hfound)
    obtain ⟨address', hport, hholds⟩ := setPort_holds hcount hblock haccount
    rw [if_pos hfound, if_pos hfound, hinstall, Option.bind_some, hport]
    exact ⟨address', rfl, hholds⟩
  · obtain ⟨address', hport, hholds⟩ := setPort_holds h.count h.block h.account
    rw [if_neg hfound, if_neg hfound, Option.bind_some, hport]
    exact ⟨address', rfl, hholds⟩

/-- Nothing of a destroyed address stays allocated. -/
theorem Holds.destroy (h : address.Holds hosts others) :
    ∃ heap, address.destroy = some heap ∧ heap.Account others := by
  have haccount := h.account
  unfold owned at haccount
  unfold ResolvedAddress.destroy
  cases hpointer : address.resolved_hosts with
  | none =>
    rw [hpointer] at haccount
    exact ⟨address.heap, rfl, haccount⟩
  | some pointer =>
    rw [hpointer] at haccount
    exact Account.deallocate haccount

/-- A host is read, or the target is left as it is. -/
theorem Holds.resolvedAddr (h : address.Holds hosts others) (index : Nat)
    (target : Option SockAddr) :
    address.resolvedAddr index target = if index < hosts.length then hosts[index]? else target := by
  unfold ResolvedAddress.resolvedAddr
  rw [h.count, h.block, List.getElem?_map]
  split_ifs with hlt
  · rw [List.getElem?_eq_getElem hlt]
    rfl
  · rfl

end ResolvedAddress

/-! ## Threads that open the address -/

/-- Where a thread is in an opening. -/
inductive OpenStage where
  /-- Not in an opening. -/
  | idle
  /-- Before the first question of `BoltCommunication_open`. -/
  | resolved
  /-- Before its second question. -/
  | counted
  /-- Before the attempt `i` of so many, with the host of the attempt before. -/
  | opening (resolved_hosts i : Nat) (resolved_host : Option SockAddr)
  deriving DecidableEq

/-- An address that threads open. -/
structure Openings (τ : Type) where
  address : ResolvedAddress
  stages : τ → OpenStage

/-- The turns of the threads: the lock of the address is held within a turn only.  An
attempt ends with the status of `_open`. -/
inductive OpeningTurn (τ : Type) where
  | resolve (thread : τ) (lookup : Lookup)
  | count (thread : τ)
  | recount (thread : τ)
  | attempt (thread : τ) (status : Int)

/-- What a thread learns from its turn, with the result of `BoltCommunication_open` if that
returns. -/
inductive OpeningReport where
  | resolved (gai_status : Int)
  | counted (count : Nat) (returned : Option Int)
  | attempted (resolved_host : Option SockAddr) (returned : Option Int)
  deriving DecidableEq

/-- What `BoltCommunication_open` returns, if it does. -/
def OpeningReport.returned : OpeningReport → Option Int
  | resolved _ => none
  | counted _ returned | attempted _ returned => returned

/-- The head of the loop of `BoltCommunication_open`. -/
def OpenStage.next (resolved_hosts i : Nat) (resolved_host : Option SockAddr) (status : Int) :
    OpenStage × Option Int :=
  if i < resolved_hosts then (.opening resolved_hosts i resolved_host, none)
  else (.idle, some status)

/-- The end of a round of the loop, which a connection leaves. -/
def OpenStage.behind (resolved_hosts i : Nat) (resolved_host : Option SockAddr) (status : Int) :
    OpenStage × Option Int :=
  if status = BOLT_SUCCESS then (.idle, some BOLT_SUCCESS)
  else next resolved_hosts (i + 1) resolved_host status

/-- Whether the thread is in the loop. -/
def OpenStage.isOpening : OpenStage → Bool
  | opening .. => true
  | _ => false

theorem OpenStage.exists_of_isOpening {stage : OpenStage} (h : stage.isOpening = true) :
    ∃ resolved_hosts i resolved_host, stage = .opening resolved_hosts i resolved_host := by
  cases stage with
  | opening resolved_hosts i resolved_host => exact ⟨resolved_hosts, i, resolved_host, rfl⟩
  | idle | resolved | counted => cases h

/-- The hosts that the thread has counted and goes on with. -/
def OpenStage.expects : OpenStage → Nat
  | counted => 1
  | opening resolved_hosts _ _ => resolved_hosts
  | _ => 0

/-- The thread goes on with hosts that are there. -/
def OpenStage.Within (count : Nat) : OpenStage → Prop
  | counted => 0 < count
  | opening resolved_hosts i _ => i < resolved_hosts ∧ resolved_hosts ≤ count
  | _ => True

theorem OpenStage.Within.mono {stage : OpenStage} {count count' : Nat} (h : stage.Within count)
    (hexpects : stage.expects ≤ count') : stage.Within count' := by
  cases stage with
  | idle | resolved => trivial
  | counted => exact hexpects
  | opening resolved_hosts i resolved_host => exact ⟨h.1, hexpects⟩

theorem OpenStage.within_next {resolved_hosts count : Nat} (h : resolved_hosts ≤ count) (i : Nat)
    (resolved_host : Option SockAddr) (status : Int) :
    (OpenStage.next resolved_hosts i resolved_host status).1.Within count := by
  unfold OpenStage.next
  split_ifs with hlt
  · exact ⟨hlt, h⟩
  · trivial

namespace Openings

variable {τ : Type} [DecidableEq τ]

/-- An address that nobody opens. -/
def start (heap : Blocks) : Openings τ := ⟨.create heap, fun _ => .idle⟩

/-- The address after a turn, and where the thread is then. -/
def goTo (thread : τ) (stage : OpenStage) (address : ResolvedAddress) (openings : Openings τ) :
    Openings τ where
  address := address
  stages := Function.update openings.stages thread stage

/-- A turn, if it is the thread's to take. -/
def take : Runs.Step (OpeningTurn τ) (Openings τ) OpeningReport
  | .resolve thread lookup, openings =>
    match openings.stages thread with
    | .idle => (openings.address.resolve lookup).map fun resolution =>
        (.resolved resolution.1,
          openings.goTo thread (if resolution.1 = 0 then .resolved else .idle) resolution.2)
    | _ => none
  | .count thread, openings =>
    match openings.stages thread with
    | .resolved =>
      let count := openings.address.resolvedCount
      if count = 0 then
        some (.counted count (some BOLT_ADDRESS_NOT_RESOLVED),
          openings.goTo thread .idle openings.address)
      else some (.counted count none, openings.goTo thread .counted openings.address)
    | _ => none
  | .recount thread, openings =>
    match openings.stages thread with
    | .counted =>
      let count := openings.address.resolvedCount
      let next := OpenStage.next count 0 none BOLT_SUCCESS
      some (.counted count next.2, openings.goTo thread next.1 openings.address)
    | _ => none
  | .attempt thread status, openings =>
    match openings.stages thread with
    | .opening resolved_hosts i resolved_host =>
      let resolved_host := openings.address.resolvedAddr i resolved_host
      let next := OpenStage.behind resolved_hosts i resolved_host status
      some (.attempted resolved_host next.2, openings.goTo thread next.1 openings.address)
    | _ => none

/-- The turn is the thread's to take, and a lookup finds no more hosts than the counter can
count. -/
def Ready : OpeningTurn τ → Openings τ → Prop
  | .resolve thread lookup, openings => openings.stages thread = .idle ∧ lookup.Few
  | .count thread, openings => openings.stages thread = .resolved
  | .recount thread, openings => openings.stages thread = .counted
  | .attempt thread _, openings => (openings.stages thread).isOpening = true

instance : ∀ turn (openings : Openings τ), Decidable (Ready turn openings)
  | .resolve thread lookup, openings => inferInstanceAs (Decidable (openings.stages thread = .idle ∧
      (lookup.gai_status = 0 → lookup.hosts.length < USHORT_VALUES)))
  | .count thread, openings => inferInstanceAs (Decidable (openings.stages thread = .resolved))
  | .recount thread, openings => inferInstanceAs (Decidable (openings.stages thread = .counted))
  | .attempt thread _, openings =>
    inferInstanceAs (Decidable ((openings.stages thread).isOpening = true))

/-- A lookup leaves the hosts that the threads have counted. -/
def Spares : OpeningTurn τ → Openings τ → Prop
  | .resolve _ lookup, openings => lookup.gai_status = 0 →
      ∀ other, (openings.stages other).expects ≤ lookup.hosts.length
  | _, _ => True

instance [Fintype τ] : ∀ turn (openings : Openings τ), Decidable (Spares turn openings)
  | .resolve _ lookup, openings => inferInstanceAs (Decidable (lookup.gai_status = 0 →
      ∀ other, (openings.stages other).expects ≤ lookup.hosts.length))
  | .count _, _ | .recount _, _ | .attempt _ _, _ => .isTrue trivial

/-- What the threads get for their turns.  An attempt is made with the host of the last
lookup that has succeeded, or with that of the attempt before if the lookup has found
fewer. -/
def Served (others : List (Nat × Nat)) :
    OpeningTurn τ → Openings τ → OpeningReport → Openings τ → Prop
  | .resolve _ lookup, openings, report, openings' => ∃ hosts,
      openings.address.Holds hosts others ∧ openings'.address.Holds (lookup.after hosts) others ∧
      report = .resolved lookup.gai_status
  | .count _, openings, report, openings' | .recount _, openings, report, openings' => ∃ hosts,
      openings.address.Holds hosts others ∧ openings'.address = openings.address ∧
      ∃ returned, report = .counted hosts.length returned
  | .attempt thread _, openings, report, openings' => ∃ hosts,
      openings.address.Holds hosts others ∧ openings'.address = openings.address ∧
      ∃ resolved_hosts i resolved_host returned,
        openings.stages thread = .opening resolved_hosts i resolved_host ∧
        report = .attempted (if i < hosts.length then hosts[i]? else resolved_host) returned

/-- The threads go through the hosts: the loop of `BoltCommunication_open` has at least one
round, and an attempt is made with the host of that index. -/
def Exact (others : List (Nat × Nat)) :
    OpeningTurn τ → Openings τ → OpeningReport → Openings τ → Prop
  | .recount _, _, report, _ => ∃ count, 0 < count ∧ report = .counted count none
  | .attempt thread _, openings, report, _ => ∃ hosts, openings.address.Holds hosts others ∧
      ∃ resolved_hosts i resolved_host returned, ∃ hlt : i < hosts.length,
        openings.stages thread = .opening resolved_hosts i resolved_host ∧
        report = .attempted (some hosts[i]) returned
  | _, _, _, _ => True

/-- The address holds some hosts. -/
def Holding (others : List (Nat × Nat)) (openings : Openings τ) : Prop :=
  ∃ hosts, openings.address.Holds hosts others

/-- It holds the hosts that the threads go on with. -/
def Sparing (others : List (Nat × Nat)) (openings : Openings τ) : Prop :=
  ∃ hosts, openings.address.Holds hosts others ∧
    ∀ thread, (openings.stages thread).Within hosts.length

variable {openings : Openings τ} {turn : OpeningTurn τ} {others : List (Nat × Nat)}

/-- An attempt asks for the host of its index. -/
theorem take_attempt {thread : τ} {resolved_hosts i : Nat} {resolved_host : Option SockAddr}
    (status : Int) (hstage : openings.stages thread = .opening resolved_hosts i resolved_host) :
    take (.attempt thread status) openings =
      let resolved_host := openings.address.resolvedAddr i resolved_host
      let next := OpenStage.behind resolved_hosts i resolved_host status
      some (.attempted resolved_host next.2, openings.goTo thread next.1 openings.address) := by
  simp only [take, hstage]

/-- A turn that is the thread's to take is taken. -/
theorem take_served (h : openings.Holding others) (hready : Ready turn openings) :
    ∃ report openings', take turn openings = some (report, openings') ∧
      Served others turn openings report openings' ∧ openings'.Holding others := by
  obtain ⟨hosts, h⟩ := h
  cases turn with
  | resolve thread lookup =>
    obtain ⟨hidle, hfew⟩ := hready
    obtain ⟨address, hresolve, hholds⟩ := ResolvedAddress.resolve_holds h hfew
    simp only [take, hidle, hresolve, Option.map_some]
    exact ⟨_, _, rfl, ⟨hosts, h, hholds, rfl⟩, _, hholds⟩
  | count thread =>
    have hstage : openings.stages thread = .resolved := hready
    simp only [take, hstage]
    rw [show openings.address.resolvedCount = hosts.length from h.count]
    split_ifs
    · exact ⟨_, _, rfl, ⟨hosts, h, rfl, _, rfl⟩, hosts, h⟩
    · exact ⟨_, _, rfl, ⟨hosts, h, rfl, _, rfl⟩, hosts, h⟩
  | recount thread =>
    have hstage : openings.stages thread = .counted := hready
    simp only [take, hstage]
    rw [show openings.address.resolvedCount = hosts.length from h.count]
    exact ⟨_, _, rfl, ⟨hosts, h, rfl, _, rfl⟩, hosts, h⟩
  | attempt thread status =>
    obtain ⟨resolved_hosts, i, resolved_host, hstage⟩ := OpenStage.exists_of_isOpening hready
    exact ⟨_, _, take_attempt status hstage, ⟨hosts, h, rfl, resolved_hosts, i, resolved_host, _,
      hstage, by rw [h.resolvedAddr]⟩, hosts, h⟩

/-! ## Hosts that stay -/

theorem within_goTo {thread : τ} {stage : OpenStage} {address : ResolvedAddress} {count : Nat}
    (h : ∀ other, (openings.stages other).Within count) (hstage : stage.Within count) (other : τ) :
    ((openings.goTo thread stage address).stages other).Within count := by
  show (Function.update openings.stages thread stage other).Within count
  by_cases hsame : other = thread
  · subst hsame
    rwa [Function.update_self]
  · rw [Function.update_of_ne hsame]
    exact h other

/-- The lookups spare what the threads have counted, so the attempts find it. -/
theorem take_exact (h : openings.Sparing others) (hready : Ready turn openings)
    (hspares : Spares turn openings) :
    ∃ report openings', take turn openings = some (report, openings') ∧
      Exact others turn openings report openings' ∧ openings'.Sparing others := by
  obtain ⟨hosts, h, hwithin⟩ := h
  cases turn with
  | resolve thread lookup =>
    obtain ⟨hidle, hfew⟩ := hready
    obtain ⟨address, hresolve, hholds⟩ := ResolvedAddress.resolve_holds h hfew
    simp only [take, hidle, hresolve, Option.map_some]
    refine ⟨_, _, rfl, trivial, _, hholds, within_goTo (fun other => ?_) ?_⟩
    · unfold Lookup.after
      split_ifs with hfound
      · exact (hwithin other).mono (hspares hfound other)
      · exact hwithin other
    · split_ifs <;> trivial
  | count thread =>
    have hstage : openings.stages thread = .resolved := hready
    simp only [take, hstage]
    split_ifs with hzero
    · exact ⟨_, _, rfl, trivial, hosts, h, within_goTo hwithin trivial⟩
    · refine ⟨_, _, rfl, trivial, hosts, h, within_goTo hwithin ?_⟩
      show 0 < hosts.length
      rw [ResolvedAddress.resolvedCount, h.count] at hzero
      omega
  | recount thread =>
    have hstage : openings.stages thread = .counted := hready
    have hpos : 0 < hosts.length := by
      have hcounted := hwithin thread
      rwa [hstage] at hcounted
    simp only [take, hstage, ResolvedAddress.resolvedCount, h.count]
    refine ⟨_, _, rfl, ⟨hosts.length, hpos, ?_⟩, hosts, h,
      within_goTo hwithin (OpenStage.within_next (Nat.le_refl _) 0 none BOLT_SUCCESS)⟩
    rw [OpenStage.next, if_pos hpos]
  | attempt thread status =>
    obtain ⟨resolved_hosts, i, resolved_host, hstage⟩ := OpenStage.exists_of_isOpening hready
    have hcounted := hwithin thread
    rw [hstage] at hcounted
    obtain ⟨hlt, hle⟩ := hcounted
    have hhost : openings.address.resolvedAddr i resolved_host = some hosts[i] := by
      rw [h.resolvedAddr, if_pos (by omega), List.getElem?_eq_getElem]
    refine ⟨_, _, take_attempt status hstage, ⟨hosts, h, resolved_hosts, i, resolved_host, _,
      by omega, hstage, by rw [hhost]⟩, hosts, h, within_goTo hwithin ?_⟩
    unfold OpenStage.behind
    split_ifs
    · trivial
    · exact OpenStage.within_next hle (i + 1) _ status

/-- Threads open one address at the same time.  Every turn returns: nothing is read or written
outside the block of the hosts, and no block is freed twice.  An attempt is made with the host
of the last lookup that has succeeded, or with that of the attempt before if the lookup has
found fewer.  After a run the address can be destroyed, and nothing of it stays allocated.  If
the lookups spare what the threads have counted, each opening goes through the hosts. -/
theorem resolutions_opens {heap : Blocks} (haccount : heap.Account others)
    (turns : List (OpeningTurn τ)) (hready : Runs.Admissible take Ready turns (start heap)) :
    Runs.Meets take (Served others) turns (start heap) ∧
    (∃ reports final heap', Runs.run take turns (start heap) = some (reports, final) ∧
      final.address.destroy = some heap' ∧ heap'.Account others) ∧
    (Runs.Admissible take Spares turns (start heap) →
      Runs.Meets take (Exact others) turns (start heap)) := by
  have hstart : (start heap : Openings τ).address.Holds [] others :=
    ResolvedAddress.create_holds haccount
  have hholding : (start heap : Openings τ).Holding others := ⟨[], hstart⟩
  have hsparing : (start heap : Openings τ).Sparing others := ⟨[], hstart, fun _ => trivial⟩
  have hserved : Runs.Meets take (Served others) turns (start heap) :=
    Runs.meets_of_invariant (fun _ _ h hturn => take_served h hturn) turns _ hholding hready
  refine ⟨hserved, ?_, fun hspares => ?_⟩
  · obtain ⟨reports, final, hrun⟩ := Runs.run_of_meets hserved
    obtain ⟨hosts, hholds⟩ : final.Holding others := by
      refine Runs.keeps_of_admissible ?_ turns hholding hready hrun
      intro turn openings report openings' h hturn htake
      obtain ⟨_, _, htake', -, hkept⟩ := take_served h hturn
      obtain ⟨-, rfl⟩ := Prod.mk.inj (Option.some.inj (htake.symm.trans htake'))
      exact hkept
    obtain ⟨heap', hdestroy, haccount'⟩ := hholds.destroy
    exact ⟨reports, final, heap', hrun, hdestroy, haccount'⟩
  · exact Runs.meets_of_invariant (fun _ _ h hturn => take_exact h hturn.1 hturn.2) turns _ hsparing
      (hready.and _ hspares)

/-! ## An opening that nobody disturbs -/

end Openings

/-- The statuses of the attempts with the hosts. -/
def PlainCommunication.openStatuses : List Bool → PlainCommunication → List Int
  | [], _ => []
  | supported :: hosts, comm =>
    match if supported then comm.openHost else some (BOLT_UNSUPPORTED, comm) with
    | none => []
    | some (status, comm) =>
      status :: if status = BOLT_SUCCESS then [] else openStatuses hosts comm

namespace Openings

variable {τ : Type} [DecidableEq τ] {openings : Openings τ} {others : List (Nat × Nat)}

@[simp]
theorem goTo_stages (thread : τ) (stage : OpenStage) (address : ResolvedAddress) :
    (openings.goTo thread stage address).stages thread = stage :=
  Function.update_self ..

@[simp]
theorem goTo_address (thread : τ) (stage : OpenStage) (address : ResolvedAddress) :
    (openings.goTo thread stage address).address = address :=
  rfl

/-- The attempts of a thread that opens alone end as the loop of `BoltCommunication_open`
does. -/
theorem attempts_alone {thread : τ} (hosts : List SockAddr) (rest : List SockAddr) :
    ∀ {i : Nat} {resolved_host : Option SockAddr} {openings : Openings τ} {status result : Int}
      {comm comm' : PlainCommunication}, rest ≠ [] → hosts.drop i = rest →
      openings.stages thread = .opening hosts.length i resolved_host →
      PlainCommunication.openHosts status (rest.map SockAddr.supported) comm =
        some (result, comm') →
      ∃ (reports : List OpeningReport) (report : OpeningReport) (final : Openings τ),
        Runs.run take ((comm.openStatuses (rest.map SockAddr.supported)).map (.attempt thread))
          openings = some (reports ++ [report], final) ∧ report.returned = some result := by
  induction rest with
  | nil => exact fun hrest => absurd rfl hrest
  | cons host rest ih =>
    intro i resolved_host openings status result comm comm' _ hdrop hstage hopen
    have hrest : hosts.drop (i + 1) = rest := by
      rw [← List.drop_drop, hdrop, List.drop_one, List.tail_cons]
    rw [List.map_cons, PlainCommunication.openHosts] at hopen
    rw [List.map_cons, PlainCommunication.openStatuses]
    rcases hattempt : (if host.supported then comm.openHost else some (BOLT_UNSUPPORTED, comm))
      with _ | ⟨status1, comm1⟩
    · rw [hattempt] at hopen
      cases hopen
    rw [hattempt] at hopen
    dsimp only at hopen ⊢
    split_ifs at hopen ⊢ with hsuccess
    · obtain ⟨rfl, -⟩ := Prod.mk.inj (Option.some.inj hopen)
      have hstep := take_attempt status1 hstage
      simp only [OpenStage.behind, if_pos hsuccess] at hstep
      exact ⟨[], _, _, Runs.run_cons hstep rfl, rfl⟩
    · have hstep := take_attempt status1 hstage
      simp only [OpenStage.behind, if_neg hsuccess] at hstep
      by_cases hlast : rest = []
      · subst hlast
        obtain ⟨rfl, -⟩ := Prod.mk.inj (Option.some.inj hopen)
        rw [OpenStage.next, if_neg (Nat.not_lt.mpr (List.drop_eq_nil_iff.mp hrest))] at hstep
        exact ⟨[], _, _, Runs.run_cons hstep rfl, rfl⟩
      · have hmore : i + 1 < hosts.length := by
          by_contra hend
          exact hlast (hrest.symm.trans (List.drop_eq_nil_iff.mpr (Nat.le_of_not_lt hend)))
        rw [OpenStage.next, if_pos hmore] at hstep
        obtain ⟨reports, report, final, hrun, hreturned⟩ :=
          ih hlast hrest (goTo_stages ..) hopen
        exact ⟨_ :: reports, report, final, Runs.run_cons hstep hrun, hreturned⟩

/-- The turns of a thread that opens the hosts with the connection. -/
def alone (thread : τ) (hosts : List SockAddr) (comm : PlainCommunication) :
    List (OpeningTurn τ) :=
  if hosts = [] then [.count thread]
  else .count thread :: .recount thread ::
    (comm.openStatuses (hosts.map SockAddr.supported)).map (.attempt thread)

/-- An opening that nobody disturbs returns what `BoltCommunication_open` returns for the
hosts of the address. -/
theorem opening_alone {thread : τ} {hosts : List SockAddr} {result : Int}
    {comm comm' : PlainCommunication} (h : openings.address.Holds hosts others)
    (hstage : openings.stages thread = .resolved)
    (hopen : comm.openAddress (hosts.map SockAddr.supported) = some (result, comm')) :
    ∃ (reports : List OpeningReport) (report : OpeningReport) (final : Openings τ),
      Runs.run take (alone thread hosts comm) openings = some (reports ++ [report], final) ∧
        report.returned = some result := by
  have hcount : openings.address.resolvedCount = hosts.length := h.count
  unfold alone
  by_cases hhosts : hosts = []
  · subst hhosts
    obtain ⟨rfl, -⟩ := Prod.mk.inj (Option.some.inj hopen)
    have hstep : take (.count thread) openings =
        some (.counted 0 (some BOLT_ADDRESS_NOT_RESOLVED),
          openings.goTo thread .idle openings.address) := by
      simp only [take, hstage, hcount, List.length_nil, if_true]
    exact ⟨[], _, _, Runs.run_cons hstep rfl, rfl⟩
  · have hpos : 0 < hosts.length := List.length_pos_of_ne_nil hhosts
    have hfirst : take (.count thread) openings =
        some (.counted hosts.length none, openings.goTo thread .counted openings.address) := by
      simp only [take, hstage, hcount, if_neg (Nat.ne_of_gt hpos)]
    have hsecond : take (.recount thread) (openings.goTo thread .counted openings.address) =
        some (.counted hosts.length none,
          (openings.goTo thread .counted openings.address).goTo thread
            (.opening hosts.length 0 none) openings.address) := by
      simp only [take, goTo_stages, goTo_address, hcount, OpenStage.next, if_pos hpos]
    have hopening : ((openings.goTo thread .counted openings.address).goTo thread
        (.opening hosts.length 0 none) openings.address).stages thread =
          .opening hosts.length 0 none := goTo_stages ..
    rw [PlainCommunication.openAddress, if_neg (by rwa [List.map_eq_nil_iff])] at hopen
    rw [if_neg hhosts]
    obtain ⟨reports, report, final, hrun, hreturned⟩ :=
      attempts_alone hosts hosts hhosts List.drop_zero hopening hopen
    exact ⟨_ :: _ :: reports, report, final,
      Runs.run_cons hfirst (Runs.run_cons hsecond hrun), hreturned⟩

/-- A host of the documentation networks. -/
def hostNumbered (n : UInt8) : AddrInfo := ⟨.inet, ⟨.inet, [192, 0, 2, n], 7687⟩⟩

/-- Thread 0 has counted two hosts.  Before its second attempt, thread 1 finds another one only. -/
def moved : List (OpeningTurn (Fin 2)) :=
  [.resolve 0 ⟨0, [hostNumbered 1, hostNumbered 2]⟩, .count 0, .recount 0,
    .attempt 0 BOLT_CONNECTION_REFUSED, .resolve 1 ⟨0, [hostNumbered 3]⟩,
    .attempt 0 BOLT_CONNECTION_REFUSED]

/-- The same with two other hosts. -/
def spared : List (OpeningTurn (Fin 2)) :=
  [.resolve 0 ⟨0, [hostNumbered 1, hostNumbered 2]⟩, .count 0, .recount 0,
    .attempt 0 BOLT_CONNECTION_REFUSED,
    .resolve 1 ⟨0, [hostNumbered 3, hostNumbered 4]⟩, .attempt 0 BOLT_SUCCESS, .count 1]

/-- The second attempt is made with the first host again, or with the new second one. -/
theorem resolutions_opens_moved :
    Runs.Meets take (Served []) moved (start []) ∧
    (∃ reports final heap, Runs.run take moved (start []) = some (reports, final) ∧
      reports.getLast? = some (.attempted (some (hostNumbered 1).ai_addr)
        (some BOLT_CONNECTION_REFUSED)) ∧
      final.address.destroy = some heap ∧ heap.Account []) ∧
    Runs.Meets take (Exact []) spared (start []) ∧
    ∃ reports final, Runs.run take spared (start []) = some (reports, final) ∧
      reports[5]? = some (.attempted (some (hostNumbered 4).ai_addr) (some BOLT_SUCCESS)) := by
  have hready : Runs.Admissible take Ready moved (start []) := by decide +kernel
  have hready' : Runs.Admissible take Ready spared (start []) := by decide +kernel
  have hspares : Runs.Admissible take Spares spared (start []) := by decide +kernel
  have hlast : (Runs.run take moved (start [])).map (fun run => run.1.getLast?) =
      some (some (.attempted (some (hostNumbered 1).ai_addr) (some BOLT_CONNECTION_REFUSED))) := by
    decide +kernel
  have hsecond : (Runs.run take spared (start [])).map (fun run => run.1[5]?) =
      some (some (.attempted (some (hostNumbered 4).ai_addr) (some BOLT_SUCCESS))) := by
    decide +kernel
  obtain ⟨hserved, ⟨reports, final, heap, hrun, hdestroy, haccount⟩, -⟩ :=
    resolutions_opens Account.nil moved hready
  obtain ⟨-, ⟨reports', final', -, hrun', -, -⟩, hexact⟩ :=
    resolutions_opens Account.nil spared hready'
  rw [hrun] at hlast
  rw [hrun'] at hsecond
  exact ⟨hserved, ⟨reports, final, heap, hrun, Option.some.inj hlast, hdestroy, haccount⟩,
    hexact hspares, reports', final', hrun', Option.some.inj hsecond⟩

/-- A lookup without hosts between the two questions: the opening succeeds, and no attempt has
been made. -/
example : ((Runs.run take [.resolve 0 ⟨0, [hostNumbered 1]⟩, .count 0, .resolve 1 ⟨0, []⟩,
    .recount 0] (start [] : Openings (Fin 2))).map fun run => run.1.getLast?) =
      some (some (.counted 0 (some BOLT_SUCCESS))) := by
  decide +kernel

end Openings

end Seabolt
