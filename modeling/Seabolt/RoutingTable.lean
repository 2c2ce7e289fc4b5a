import Seabolt.Connection

/-!
# Routing tables

`address-set.c` and `routing-table.c`: the sets of addresses that a routing pool
keeps, and the table of the servers that it may use.

An address is the pair of its C strings, so that the two `strcmp` of
`BoltAddressSet_index_of` are equality.  The index -1 is `none`.
-/

namespace Seabolt

/-- `BoltAddress`, without what it resolves to. -/
structure BoltAddress where
  host : List UInt8
  port : List UInt8
  deriving DecidableEq, Repr

/-- `BoltAddressSet`: its elements. -/
abbrev BoltAddressSet := List BoltAddress

namespace BoltAddressSet

/-- `BoltAddressSet_index_of`. -/
def indexOf (set : BoltAddressSet) (address : BoltAddress) : Option Nat :=
  set.findIdx? fun current => address = current

/-- `BoltAddressSet_add`. -/
def add (set : BoltAddressSet) (address : BoltAddress) : Option Nat × BoltAddressSet :=
  match indexOf set address with
  | none => (some set.length, set ++ [address])
  | some _ => (none, set)

/-- `BoltAddressSet_remove`. -/
def remove (set : BoltAddressSet) (address : BoltAddress) : BoltAddressSet :=
  match indexOf set address with
  | some index => set.eraseIdx index
  | none => set

/-- `BoltAddressSet_add_all`. -/
def addAll (destination source : BoltAddressSet) : BoltAddressSet :=
  source.foldl (fun set address => (add set address).2) destination

variable {set : BoltAddressSet} {address : BoltAddress}

theorem indexOf_eq_none : indexOf set address = none ↔ address ∉ set := by
  unfold indexOf
  rw [List.findIdx?_eq_none_iff]
  constructor
  · intro h hmem
    have hne := h address hmem
    simp at hne
  · intro h current hcurrent
    rw [decide_eq_false_iff_not]
    rintro rfl
    exact h hcurrent

theorem getElem?_of_indexOf {index : Nat} (h : indexOf set address = some index) :
    set[index]? = some address := by
  obtain ⟨hlt, heq, -⟩ := List.findIdx?_eq_some_iff_getElem.mp h
  rw [List.getElem?_eq_getElem hlt]
  simp only [decide_eq_true_eq] at heq
  rw [heq]

theorem add_of_not_mem (h : address ∉ set) :
    add set address = (some set.length, set ++ [address]) := by
  rw [add, indexOf_eq_none.mpr h]

theorem mem_add {address' : BoltAddress} :
    address ∈ (add set address').2 ↔ address ∈ set ∨ address = address' := by
  unfold add
  split
  · simp
  · next index hindex =>
    have hmem := List.mem_of_getElem? (getElem?_of_indexOf hindex)
    constructor
    · exact .inl
    · rintro (hold | rfl)
      · exact hold
      · exact hmem

theorem mem_addAll (source : BoltAddressSet) : ∀ destination : BoltAddressSet,
    address ∈ addAll destination source ↔ address ∈ destination ∨ address ∈ source := by
  induction source with
  | nil => simp [addAll]
  | cons first source ih =>
    intro destination
    show address ∈ addAll (add destination first).2 source ↔ _
    rw [ih, mem_add, List.mem_cons, or_assoc]

theorem nodup_add (h : set.Nodup) (address : BoltAddress) : (add set address).2.Nodup := by
  unfold add
  split
  · next hindex =>
    have hconcat : (set.concat address).Nodup := List.Nodup.concat (indexOf_eq_none.mp hindex) h
    simpa using hconcat
  · exact h

theorem nodup_addAll (source : BoltAddressSet) :
    ∀ {destination : BoltAddressSet}, destination.Nodup → (addAll destination source).Nodup := by
  induction source with
  | nil => exact fun h => h
  | cons address source ih => exact fun h => ih (nodup_add h address)

theorem add_of_mem (h : address ∈ set) : (add set address).2 = set := by
  obtain ⟨index, hindex⟩ := Option.ne_none_iff_exists'.mp fun hnone => indexOf_eq_none.mp hnone h
  rw [add, hindex]

/-- Adding what a set has been made of adds the same. -/
theorem addAll_addAll (source : BoltAddressSet) : ∀ destination first : BoltAddressSet,
    addAll destination (addAll first source) = addAll (addAll destination first) source := by
  induction source using List.reverseRecOn with
  | nil => exact fun _ _ => rfl
  | append_singleton source address ih =>
    intro destination first
    have hlast : ∀ set : BoltAddressSet,
        addAll set (source ++ [address]) = (add (addAll set source) address).2 :=
      fun set => List.foldl_append
    rw [hlast, hlast, ← ih]
    by_cases hmem : address ∈ addAll first source
    · have hagain : address ∈ addAll destination (addAll first source) :=
        (mem_addAll _ _).mpr (.inr hmem)
      rw [add_of_mem hmem, add_of_mem hagain]
    · rw [add_of_not_mem hmem]
      exact List.foldl_append

end BoltAddressSet

/-- `RoutingTable`. -/
structure RoutingTable where
  expires : Int
  last_updated : Int
  readers : BoltAddressSet
  writers : BoltAddressSet
  routers : BoltAddressSet

/-- The result of an `int64_t` operation, which wraps. -/
def toInt64 (x : Int) : Int := Int.bmod x 0x10000000000000000

/-- What a discovery has announced: the addresses for each role that
`RoutingTable_update` reads from a valid response, and the time to live in
milliseconds. -/
structure Announcement where
  readers : List BoltAddress
  writers : List BoltAddress
  routers : List BoltAddress
  ttl : Int

namespace RoutingTable

/-- `RoutingTable_create`. -/
def create : RoutingTable := ⟨0, 0, [], [], []⟩

/-- The end of `RoutingTable_update`, for a valid response. -/
def install (announcement : Announcement) (now : Int) (_ : RoutingTable) : RoutingTable where
  expires := toInt64 (now + announcement.ttl)
  last_updated := now
  readers := BoltAddressSet.addAll [] announcement.readers
  writers := BoltAddressSet.addAll [] announcement.writers
  routers := BoltAddressSet.addAll [] announcement.routers

/-- `RoutingTable_is_expired`. -/
def isExpired (mode : BoltAccessMode) (now : Int) (state : RoutingTable) : Bool :=
  state.routers.isEmpty ||
    (match mode with
      | .read => state.readers.isEmpty
      | .write => state.writers.isEmpty) ||
    state.expires ≤ now

/-- `RoutingTable_forget_server`. -/
def forgetServer (address : BoltAddress) (state : RoutingTable) : RoutingTable :=
  { state with
    routers := BoltAddressSet.remove state.routers address
    readers := BoltAddressSet.remove state.readers address
    writers := BoltAddressSet.remove state.writers address }

/-- `RoutingTable_forget_writer`. -/
def forgetWriter (address : BoltAddress) (state : RoutingTable) : RoutingTable :=
  { state with writers := BoltAddressSet.remove state.writers address }

/-- The servers that `BoltRoutingPool_cleanup` keeps in any case. -/
def activeServers (table : RoutingTable) : BoltAddressSet :=
  BoltAddressSet.addAll (BoltAddressSet.addAll (BoltAddressSet.addAll [] table.routers)
    table.writers) table.readers

end RoutingTable

end Seabolt
