import Seabolt.Addresses
import Seabolt.Forgetting
import Seabolt.Lib.Heap
import Seabolt.Lib.Runs

/-!
# Address sets in memory

`address-set.c` on its memory: a set object has the block of pointers to its elements,
which every change reallocates or builds anew, and each element is an address object of
its own.

`AddressSets.step` is one call on one of several sets, `AddressSets.listStep` the same
call on lists of addresses without repetitions, with the functions of the routing tables.
Every run on lists is a run on memory with the same results (`represents_run`).  A read
or write outside a block, of a pointer that has not been written or of an address that
has been destroyed has no result.

Sizes are natural numbers: a set has fewer than `2 ^ 31` elements.  Allocations succeed.
-/

namespace Seabolt

/-! ## Blocks of pointers -/

/-- A block of pointers; a cell that has not been written yet is `none`. -/
abbrev Cells := List (Option Nat)

namespace Cells

/-- `BoltMem_allocate` for `n` pointers. -/
def allocate (n : Nat) : Cells := List.replicate n none

/-- `BoltMem_reallocate` to `n` pointers. -/
def reallocate (cells : Cells) (n : Nat) : Cells := cells.take n ++ allocate (n - cells.length)

/-- The pointer in a cell. -/
def load (cells : Cells) (i : Nat) : Option Nat := cells[i]?.join

/-- Write a pointer to a cell. -/
def store (cells : Cells) (i pointer : Nat) : Option Cells :=
  if i < cells.length then some (cells.set i (some pointer)) else none

end Cells

/-- `struct BoltAddressSet`. -/
structure AddressSet where
  size : Nat
  elements : Cells
  deriving DecidableEq

/-- The address objects. -/
abbrev Objects := Heap BoltAddress

namespace AddressSet

/-- `BoltAddressSet_create`. -/
def create : AddressSet := ⟨0, []⟩

/-- The address at an index. -/
def address (set : AddressSet) (objects : Objects) (i : Nat) : Option BoltAddress :=
  (set.elements.load i).bind objects.read

/-- The loop of `BoltAddressSet_index_of` over `n` elements from the `i`th on. -/
def indexOfFrom (objects : Objects) (set : AddressSet) (address : BoltAddress) :
    Nat → Nat → Option Int
  | 0, _ => some (-1)
  | n + 1, i => do
    let current ← set.address objects i
    if BoltAddressSet.matching address current then some i
    else indexOfFrom objects set address n (i + 1)

/-- `BoltAddressSet_index_of`. -/
def indexOf (objects : Objects) (set : AddressSet) (address : BoltAddress) : Option Int :=
  indexOfFrom objects set address set.size 0

/-- `BoltAddressSet_add`. -/
def add (set : AddressSet) (address : BoltAddress) (objects : Objects) :
    Option (Int × Objects × AddressSet) := do
  if (← indexOf objects set address) = -1 then
    let elements := set.elements.reallocate (set.size + 1)
    let elements ← elements.store set.size objects.length
    let objects := objects.alloc (.create address.host address.port)
    some (set.size, objects, ⟨set.size + 1, elements⟩)
  else some (-1, objects, set)

/-- The loop of `BoltAddressSet_remove` over `n` elements from the `i`th on: all but the
one at the index are copied to the new block, from its `next`th cell on. -/
def copyOthers (index : Nat) (old : Cells) : Nat → Nat → Nat → Cells → Option Cells
  | 0, _, _, new => some new
  | n + 1, i, next, new =>
    if i = index then copyOthers index old n (i + 1) next new
    else do
      let pointer ← old.load i
      let new ← new.store next pointer
      copyOthers index old n (i + 1) (next + 1) new

/-- `BoltAddress_destroy`. -/
def destroy (objects : Objects) (pointer : Nat) : Option Objects :=
  (objects.read pointer).map fun _ => objects.free pointer

/-- `BoltAddressSet_remove`. -/
def remove (set : AddressSet) (address : BoltAddress) (objects : Objects) :
    Option (Int × Objects × AddressSet) := do
  let index ← indexOf objects set address
  if index ≥ 0 then
    let elements ← copyOthers index.toNat set.elements set.size 0 0 (.allocate (set.size - 1))
    let pointer ← set.elements.load index.toNat
    let objects ← destroy objects pointer
    some (index, objects, ⟨set.size - 1, elements⟩)
  else some (-1, objects, set)

/-- The first loop of `BoltAddressSet_replace`. -/
def destroyFrom (elements : Cells) : Nat → Nat → Objects → Option Objects
  | 0, _, objects => some objects
  | n + 1, i, objects => do
    let pointer ← elements.load i
    let objects ← destroy objects pointer
    destroyFrom elements n (i + 1) objects

/-- The second loop of `BoltAddressSet_replace`. -/
def copyFrom (source : AddressSet) : Nat → Nat → Objects → Cells → Option (Objects × Cells)
  | 0, _, objects, elements => some (objects, elements)
  | n + 1, i, objects, elements => do
    let address ← source.address objects i
    let elements ← elements.store i objects.length
    copyFrom source n (i + 1) (objects.alloc (.create address.host address.port)) elements

/-- `BoltAddressSet_replace`, with two sets. -/
def replace (dest source : AddressSet) (objects : Objects) :
    Option (Objects × AddressSet) := do
  let objects ← destroyFrom dest.elements dest.size 0 objects
  let elements := dest.elements.reallocate source.size
  let (objects, elements) ← copyFrom source source.size 0 objects elements
  some (objects, ⟨source.size, elements⟩)

/-- The loop of `BoltAddressSet_add_all`. -/
def addFrom (source : AddressSet) : Nat → Nat → Objects → AddressSet → Option (Objects × AddressSet)
  | 0, _, objects, destination => some (objects, destination)
  | n + 1, i, objects, destination => do
    let address ← source.address objects i
    let (_, objects, destination) ← destination.add address objects
    addFrom source n (i + 1) objects destination

/-- `BoltAddressSet_add_all`, with two sets. -/
def addAll (destination source : AddressSet) (objects : Objects) :
    Option (Objects × AddressSet) :=
  addFrom source source.size 0 objects destination

end AddressSet

/-! ## Addresses -/

/-- An address as `BoltAddress_create` makes them. -/
structure BoltAddress.Created (address : BoltAddress) : Prop where
  host : address.host ≠ []
  port : address.port ≠ []
  chars : address.IsCString

theorem BoltAddress.create_created {host port : List UInt8} (hhost : 0 ∉ host) (hport : 0 ∉ port) :
    (create host port).Created where
  host := by
    show (if host = [] then DEFAULT_BOLT_HOST else host) ≠ []
    split_ifs with h
    · decide
    · exact h
  port := by
    show (if port = [] then DEFAULT_BOLT_PORT else port) ≠ []
    split_ifs with h
    · decide
    · exact h
  chars := create_isCString hhost hport

/-- A copy of such an address is the same address. -/
theorem BoltAddress.Created.create_eq {address : BoltAddress} (h : address.Created) :
    create address.host address.port = address := by
  unfold create
  rw [if_neg h.host, if_neg h.port]

/-- The result of a function that returns an index or -1. -/
def toIndex : Option Nat → Int
  | none => -1
  | some i => i

/-! ## Cells -/

namespace Cells

variable {cells : Cells} {i pointer : Nat}

theorem length_reallocate (cells : Cells) (n : Nat) :
    (cells.reallocate n).length = n := by
  simp only [reallocate, allocate, List.length_append, List.length_take, List.length_replicate]
  omega

/-- A block that grows keeps its cells. -/
theorem take_reallocate {n : Nat} (h : cells.length ≤ n) :
    (cells.reallocate n).take cells.length = cells := by
  rw [reallocate, List.take_of_length_le h, List.take_left]

/-- Cells that are written in order are filled from the start. -/
theorem store_next (pointer : Nat) (h : i < cells.length) :
    ∃ cells', cells.store i pointer = some cells' ∧ cells'.length = cells.length ∧
      cells'.take (i + 1) = cells.take i ++ [some pointer] := by
  refine ⟨cells.set i (some pointer), if_pos h, List.length_set, ?_⟩
  rw [List.take_add_one, List.take_set_of_le (Nat.le_refl i), List.getElem?_set_self h,
    Option.toList_some]

theorem load_append {before : Cells} :
    load (before ++ some pointer :: cells) before.length = some pointer := by
  simp [load]

end Cells

namespace AddressSet

/-! ## What a set holds -/

/-- The cells point to objects that are the addresses of a list. -/
abbrev PointTo (objects : Objects) (cells : Cells) (list : BoltAddressSet) : Prop :=
  List.Forall₂ (fun cell address => cell.bind objects.read = some address) cells list

/-- The set object holds a list of addresses. -/
structure Holds (objects : Objects) (set : AddressSet) (list : BoltAddressSet) : Prop where
  size : set.size = list.length
  addresses : PointTo objects set.elements list

/-- What a function does that changes a set: other live objects stay as they are, and the
elements are old ones or new objects. -/
structure Changes (objects : Objects) (set : AddressSet) (objects' : Objects) (set' : AddressSet) :
    Prop where
  frame : ∀ pointer address, objects.read pointer = some address → some pointer ∉ set.elements →
    objects'.read pointer = some address
  cells : ∀ cell ∈ set'.elements, cell ∈ set.elements ∨
    ∃ pointer, cell = some pointer ∧ objects.length ≤ pointer
  length : objects.length ≤ objects'.length
  nodup : set'.elements.Nodup

variable {objects objects' objects'' : Objects} {set set' set'' : AddressSet}
  {list : BoltAddressSet} {x : BoltAddress} {cells : Cells}

theorem Changes.refl (h : set.elements.Nodup) : Changes objects set objects set :=
  ⟨fun _ _ hread _ => hread, fun _ hcell => .inl hcell, Nat.le_refl _, h⟩

theorem Changes.trans (h : Changes objects set objects' set')
    (h' : Changes objects' set' objects'' set'') : Changes objects set objects'' set'' where
  frame pointer address hread hother := by
    refine h'.frame pointer address (h.frame pointer address hread hother) fun hmem => ?_
    rcases h.cells _ hmem with hold | ⟨fresh, hfresh, hle⟩
    · exact hother hold
    · cases hfresh
      exact absurd (Heap.lt_of_read hread) (Nat.not_lt.mpr hle)
  cells cell hcell := by
    rcases h'.cells cell hcell with hold | ⟨pointer, rfl, hle⟩
    · exact h.cells cell hold
    · exact .inr ⟨pointer, rfl, Nat.le_trans h.length hle⟩
  length := Nat.le_trans h.length h'.length
  nodup := h'.nodup

/-- The cells that hold addresses hold pointers to live objects. -/
theorem PointTo.pointer
    (h : PointTo objects cells list)
    {cell : Option Nat} (hcell : cell ∈ cells) :
    ∃ pointer address, cell = some pointer ∧ objects.read pointer = some address := by
  induction h with
  | nil => cases hcell
  | @cons first address cells list hfirst _ ih =>
    rcases List.mem_cons.mp hcell with rfl | hrest
    · obtain ⟨pointer, hpointer, hread⟩ := Option.bind_eq_some_iff.mp hfirst
      exact ⟨pointer, address, hpointer, hread⟩
    · exact ih hrest

/-- What holds of the objects that the cells point to. -/
theorem PointTo.of_frame (objects' : Objects)
    (h : PointTo objects cells list)
    (hframe : ∀ pointer address, some pointer ∈ cells → objects.read pointer = some address →
      objects'.read pointer = some address) :
    PointTo objects' cells list := by
  induction h with
  | nil => exact .nil
  | @cons first address cells list hfirst _ ih =>
    obtain ⟨pointer, rfl, hread⟩ := Option.bind_eq_some_iff.mp hfirst
    refine .cons (hframe pointer address List.mem_cons_self hread) (ih ?_)
    exact fun pointer address hmem => hframe pointer address (List.mem_cons_of_mem _ hmem)

theorem Holds.length (h : Holds objects set list) : set.elements.length = set.size := by
  rw [h.size, h.addresses.length_eq]

/-! ## Looking up -/

theorem indexOfFrom_eq (address : BoltAddress)
    (h : PointTo objects cells list) :
    ∀ before : Cells, set.elements = before ++ cells →
      indexOfFrom objects set address cells.length before.length =
        some (toIndex ((BoltAddressSet.scan list address).map (· + before.length))) := by
  induction h with
  | nil => exact fun _ _ => rfl
  | @cons cell current cells list hcell _ ih =>
    intro before hsplit
    obtain ⟨pointer, rfl, hread⟩ := Option.bind_eq_some_iff.mp hcell
    have hcurrent : set.address objects before.length = some current := by
      rw [AddressSet.address, hsplit, Cells.load_append]
      exact hread
    simp only [List.length_cons, indexOfFrom, Option.bind_eq_bind, hcurrent, Option.bind_some]
    rw [BoltAddressSet.scan, List.findIdx?_cons]
    by_cases hmatch : BoltAddressSet.matching address current = true
    · rw [if_pos hmatch, if_pos hmatch]
      simp [toIndex]
    · have hrest := ih (before ++ [some pointer]) (by rw [hsplit]; simp)
      rw [List.length_append, List.length_singleton] at hrest
      rw [if_neg hmatch, if_neg hmatch, hrest, Option.map_map]
      congr 3
      funext i
      show i + (before.length + 1) = i + 1 + before.length
      omega

/-- `BoltAddressSet_index_of` is the search in the list. -/
theorem indexOf_eq (h : Holds objects set list) (hlist : ∀ a ∈ list, a.Created) (hx : x.Created) :
    indexOf objects set x = some (toIndex (BoltAddressSet.indexOf list x)) := by
  have hscan := indexOfFrom_eq x h.addresses [] rfl
  rw [BoltAddressSet.scan_eq_indexOf hx.chars fun a ha => (hlist a ha).chars] at hscan
  rw [indexOf, ← h.length]
  simpa using hscan

/-! ## Adding -/

/-- `BoltAddressSet_add`. -/
theorem add_eq (h : Holds objects set list) (hset : set.elements.Nodup)
    (hlist : ∀ a ∈ list, a.Created) (hx : x.Created) :
    ∃ objects' set', set.add x objects =
        some (toIndex (BoltAddressSet.add list x).1, objects', set') ∧
      Holds objects' set' (BoltAddressSet.add list x).2 ∧ Changes objects set objects' set' := by
  have hindex := indexOf_eq h hlist hx
  unfold add
  cases hfound : BoltAddressSet.indexOf list x with
  | some index =>
    have hthere : BoltAddressSet.add list x = (none, list) := by rw [BoltAddressSet.add, hfound]
    have hne : ¬(toIndex (some index) = -1) := by
      show ¬((index : Int) = -1)
      omega
    rw [hthere]
    simp only [Option.bind_eq_bind, hindex, hfound, Option.bind_some, if_neg hne]
    exact ⟨objects, set, rfl, h, .refl hset⟩
  | none =>
    have hnew : BoltAddressSet.add list x = (some list.length, list ++ [x]) := by
      rw [BoltAddressSet.add, hfound]
    have hroom : set.size < (set.elements.reallocate (set.size + 1)).length := by
      rw [Cells.length_reallocate]
      exact Nat.lt_succ_self _
    obtain ⟨elements, hstore, hlength, htake⟩ := Cells.store_next objects.length hroom
    have helements : elements = set.elements ++ [some objects.length] := by
      rw [Cells.length_reallocate] at hlength
      rw [List.take_of_length_le (Nat.le_of_eq hlength)] at htake
      have hold := Cells.take_reallocate (show set.elements.length ≤ set.size + 1 by
        rw [h.length]
        exact Nat.le_succ _)
      rw [h.length] at hold
      rw [htake, hold]
    rw [hnew]
    simp only [Option.bind_eq_bind, hindex, hfound, Option.bind_some, toIndex, if_true, hstore,
      hx.create_eq]
    rw [helements, h.size]
    refine ⟨_, _, rfl, ⟨?_, ?_⟩, ?_⟩
    · rw [List.length_append, List.length_singleton]
    · have hold := PointTo.of_frame (objects.alloc x) h.addresses fun _ _ _ hread =>
        Heap.read_alloc hread
      exact List.rel_append hold (.cons Heap.read_alloc_self .nil)
    · refine ⟨fun _ _ hread _ => Heap.read_alloc hread, ?_, ?_, ?_⟩
      · intro cell hcell
        rcases List.mem_append.mp hcell with hold | hfresh
        · exact .inl hold
        · exact .inr ⟨_, List.mem_singleton.mp hfresh, Nat.le_refl _⟩
      · simp [Heap.alloc]
      · refine List.nodup_append.mpr ⟨hset, List.nodup_singleton _, ?_⟩
        rintro cell hcell _ hfresh rfl
        obtain ⟨pointer, address, rfl, hread⟩ := PointTo.pointer h.addresses hcell
        rw [Option.some.inj (List.mem_singleton.mp hfresh)] at hread
        exact Nat.lt_irrefl _ (Heap.lt_of_read hread)

/-! ## Removing -/

/-- Behind the index everything is copied. -/
theorem copyOthers_after (index : Nat) {old : Cells} (cells : Cells) :
    ∀ (before new : Cells) (next : Nat), old = before ++ cells → (∀ cell ∈ cells, cell.isSome) →
      index < before.length → new.length = next + cells.length →
      copyOthers index old cells.length before.length next new = some (new.take next ++ cells) := by
  induction cells with
  | nil =>
    intro before new next _ _ _ hlength
    have hall : new.length ≤ next := Nat.le_of_eq hlength
    rw [List.take_of_length_le hall, List.append_nil]
    rfl
  | cons cell cells ih =>
    intro before new next hsplit hsome hindex hlength
    obtain ⟨hcell, hothers⟩ := List.forall_mem_cons.mp hsome
    obtain ⟨pointer, rfl⟩ := Option.isSome_iff_exists.mp hcell
    rw [List.length_cons] at hlength
    obtain ⟨new', hstore, hlength', htake⟩ :=
      Cells.store_next pointer (show next < new.length by omega)
    have hload : old.load before.length = some pointer := by rw [hsplit, Cells.load_append]
    have hrest := ih (before ++ [some pointer]) new' (next + 1)
      (by rw [hsplit]; simp) hothers (by simp; omega) (by omega)
    rw [List.length_append, List.length_singleton] at hrest
    simp only [List.length_cons, copyOthers, Option.bind_eq_bind, hload, hstore, Option.bind_some]
    rw [if_neg (by omega), hrest, htake, List.append_assoc, List.singleton_append]

/-- From an element on up to the index everything is copied but what is there. -/
theorem copyOthers_eq {old : Cells} (cells : Cells) :
    ∀ (index : Nat) (before new : Cells) (next : Nat), old = before ++ cells →
      (∀ cell ∈ cells, cell.isSome) → index < cells.length →
      new.length + 1 = next + cells.length →
      copyOthers (before.length + index) old cells.length before.length next new =
        some (new.take next ++ cells.eraseIdx index) := by
  induction cells with
  | nil =>
    intro index before new next _ _ hindex _
    exact absurd hindex (Nat.not_lt_zero _)
  | cons cell cells ih =>
    intro index before new next hsplit hsome hindex hlength
    obtain ⟨hcell, hothers⟩ := List.forall_mem_cons.mp hsome
    obtain ⟨pointer, rfl⟩ := Option.isSome_iff_exists.mp hcell
    have hsplit' : old = (before ++ [some pointer]) ++ cells := by rw [hsplit]; simp
    have hbefore : (before ++ [some pointer]).length = before.length + 1 := by simp
    rw [List.length_cons] at hlength hindex
    cases index with
    | zero =>
      have hrest := copyOthers_after before.length cells _ new next
        hsplit' hothers (by omega) (by omega)
      rw [hbefore] at hrest
      rw [List.length_cons, Nat.add_zero, copyOthers, if_pos rfl, hrest]
      rfl
    | succ index =>
      obtain ⟨new', hstore, hlength', htake⟩ :=
        Cells.store_next pointer (show next < new.length by omega)
      have hload : old.load before.length = some pointer := by rw [hsplit, Cells.load_append]
      have hrest := ih index _ new' (next + 1) hsplit' hothers
        (by omega) (by omega)
      rw [hbefore] at hrest
      simp only [List.length_cons, copyOthers, Option.bind_eq_bind, hload, hstore, Option.bind_some]
      rw [if_neg (by omega), show before.length + (index + 1) = before.length + 1 + index by omega,
        hrest, htake, List.append_assoc, List.singleton_append, List.eraseIdx_cons_succ]

/-- `BoltAddressSet_remove`. -/
theorem remove_eq (h : Holds objects set list) (hset : set.elements.Nodup)
    (hlist : ∀ a ∈ list, a.Created) (hx : x.Created) :
    ∃ objects' set', set.remove x objects =
        some (toIndex (BoltAddressSet.indexOf list x), objects', set') ∧
      Holds objects' set' (BoltAddressSet.remove list x) ∧ Changes objects set objects' set' := by
  have hindex := indexOf_eq h hlist hx
  unfold remove
  cases hfound : BoltAddressSet.indexOf list x with
  | none =>
    have hgone : BoltAddressSet.remove list x = list := by rw [BoltAddressSet.remove, hfound]
    rw [hgone]
    simp only [Option.bind_eq_bind, hindex, hfound, Option.bind_some, toIndex]
    exact ⟨objects, set, rfl, h, .refl hset⟩
  | some index =>
    have hrest : BoltAddressSet.remove list x = list.eraseIdx index := by
      rw [BoltAddressSet.remove, hfound]
    have hlt : index < set.elements.length := by
      rw [h.addresses.length_eq]
      exact (List.getElem?_eq_some_iff.mp (BoltAddressSet.getElem?_of_indexOf hfound)).1
    have hsome : ∀ cell ∈ set.elements, cell.isSome := by
      intro cell hcell
      obtain ⟨pointer, -, rfl, -⟩ := PointTo.pointer h.addresses hcell
      rfl
    have hcopy := copyOthers_eq set.elements index [] (.allocate (set.size - 1)) 0 rfl hsome hlt (by
        simp only [Cells.allocate, List.length_replicate, ← h.length]
        omega)
    obtain ⟨pointer, address, hcell, hread⟩ :=
      PointTo.pointer h.addresses (List.getElem_mem hlt)
    have hload : set.elements.load index = some pointer := by
      rw [Cells.load, List.getElem?_eq_getElem hlt, hcell, Option.join_some]
    have hpos : toIndex (some index) ≥ 0 := Int.natCast_nonneg index
    have hnat : (toIndex (some index)).toNat = index := Int.toNat_natCast index
    simp only [List.length_nil, Nat.zero_add, List.take_zero, List.nil_append] at hcopy
    rw [hrest]
    rw [h.length] at hcopy
    simp only [Option.bind_eq_bind, hindex, hfound, Option.bind_some, if_pos hpos, hnat, hcopy,
      hload, destroy, hread, Option.map_some]
    have hkept : some pointer ∉ set.elements.eraseIdx index := by
      rw [← hset.erase_getElem index hlt, hcell]
      exact hset.not_mem_erase
    have hothers : PointTo objects
        (set.elements.eraseIdx index) (list.eraseIdx index) := by
      rw [List.eraseIdx_eq_take_drop_succ, List.eraseIdx_eq_take_drop_succ]
      exact List.rel_append (List.forall₂_take index h.addresses)
        (List.forall₂_drop (index + 1) h.addresses)
    have hsub := List.eraseIdx_sublist set.elements index
    refine ⟨_, _, rfl, ⟨?_, ?_⟩, ?_⟩
    · rw [List.length_eraseIdx_of_lt (h.addresses.length_eq ▸ hlt), ← h.size]
    · refine PointTo.of_frame _ hothers fun other a hother hread => ?_
      rw [Heap.read_free_ne]
      · exact hread
      · rintro rfl
        exact hkept hother
    · refine ⟨fun other a hother hnot => ?_, fun cell hcell => .inl (hsub.subset hcell), ?_, ?_⟩
      · rw [Heap.read_free_ne]
        · exact hother
        · rintro rfl
          exact hnot (hcell ▸ List.getElem_mem hlt)
      · simp [Heap.free]
      · exact hset.sublist hsub

/-! ## Replacing -/

/-- The objects behind the cells are destroyed, and no other. -/
theorem destroyFrom_eq {elements : Cells} (h : PointTo objects cells list) :
    ∀ before : Cells, elements = before ++ cells → cells.Nodup →
      ∃ objects', destroyFrom elements cells.length before.length objects = some objects' ∧
        objects'.length = objects.length ∧
        ∀ pointer, some pointer ∉ cells → objects'.read pointer = objects.read pointer := by
  induction cells generalizing objects list with
  | nil => exact fun _ _ _ => ⟨objects, rfl, rfl, fun _ _ => rfl⟩
  | cons cell cells ih =>
    intro before hsplit hnodup
    obtain ⟨hcell, hothers⟩ := List.nodup_cons.mp hnodup
    cases h with
    | @cons _ address _ list hfirst hrest =>
      obtain ⟨pointer, rfl, hread⟩ := Option.bind_eq_some_iff.mp hfirst
      have hload : elements.load before.length = some pointer := by
        rw [hsplit, Cells.load_append]
      have hother : ∀ other, some other ∈ cells →
          (objects.free pointer).read other = objects.read other := by
        intro other hmem
        apply Heap.read_free_ne
        rintro rfl
        exact hcell hmem
      have hfreed := PointTo.of_frame (objects.free pointer) hrest
        fun other a hmem hread => (hother other hmem).trans hread
      obtain ⟨objects', hdestroy, hlength, hframe⟩ :=
        ih hfreed (before ++ [some pointer]) (by rw [hsplit]; simp) hothers
      rw [List.length_append, List.length_singleton] at hdestroy
      refine ⟨objects', ?_, ?_, fun other hmem => ?_⟩
      · simp only [List.length_cons, destroyFrom, Option.bind_eq_bind, hload, destroy, hread,
          Option.bind_some, Option.map_some, hdestroy]
      · rw [hlength]
        simp [Heap.free]
      · rw [hframe other fun hold => hmem (List.mem_cons_of_mem _ hold), Heap.read_free_ne]
        rintro rfl
        exact hmem List.mem_cons_self

/-- A new object for each address, and the pointers to them in order. -/
theorem copyFrom_eq {source : AddressSet} (before elements : Cells)
    (h : PointTo objects cells list)
    (hlist : ∀ a ∈ list, a.Created) (hsplit : source.elements = before ++ cells)
    (hroom : elements.length = before.length + cells.length) :
    copyFrom source cells.length before.length objects elements =
      some (objects ++ list.map some, elements.take before.length ++
        (List.range' objects.length list.length).map some) := by
  induction cells generalizing objects list before elements with
  | nil =>
    cases h
    have hall : elements.length ≤ before.length := Nat.le_of_eq hroom
    rw [List.take_of_length_le hall]
    simp [copyFrom]
  | cons cell cells ih =>
    cases h with
    | @cons _ address _ list hfirst hrest =>
      obtain ⟨pointer, rfl, hread⟩ := Option.bind_eq_some_iff.mp hfirst
      obtain ⟨haddress, hlist⟩ := List.forall_mem_cons.mp hlist
      rw [List.length_cons] at hroom
      have hcurrent : source.address objects before.length = some address := by
        rw [AddressSet.address, hsplit, Cells.load_append]
        exact hread
      obtain ⟨elements', hstore, hlength, htake⟩ :=
        Cells.store_next objects.length (show before.length < elements.length by omega)
      have hgrown := PointTo.of_frame (objects.alloc address) hrest
        fun _ _ _ hread => Heap.read_alloc hread
      have hcopied := ih (before ++ [some pointer]) elements' hgrown hlist
        (by rw [hsplit]; simp) (by simp; omega)
      rw [List.length_append, List.length_singleton] at hcopied
      simp only [List.length_cons, copyFrom, Option.bind_eq_bind, hcurrent, hstore,
        Option.bind_some, haddress.create_eq, hcopied, htake]
      simp [Heap.alloc, List.range'_succ]

/-- The objects that have been added at the end of the heap. -/
theorem pointTo_range' (objects : Objects) (list : BoltAddressSet) :
    PointTo (objects ++ list.map some) ((List.range' objects.length list.length).map some)
      list := by
  refine List.forall₂_iff_get.mpr ⟨by simp, fun i hi hi' => ?_⟩
  simp [Heap.read, hi']

/-- `BoltAddressSet_replace`. -/
theorem replace_eq {source : AddressSet} {copied : BoltAddressSet} (h : Holds objects set list)
    (hset : set.elements.Nodup) (hsource : Holds objects source copied)
    (hdisjoint : ∀ cell ∈ source.elements, cell ∉ set.elements)
    (hcopied : ∀ a ∈ copied, a.Created) :
    ∃ objects' set', set.replace source objects = some (objects', set') ∧
      Holds objects' set' copied ∧ Changes objects set objects' set' := by
  obtain ⟨freed, hdestroy, hlength, hframe⟩ := destroyFrom_eq h.addresses [] rfl hset
  have hkept := PointTo.of_frame freed hsource.addresses fun pointer a hmem hread =>
    (hframe pointer (hdisjoint _ hmem)).trans hread
  have hroom : (set.elements.reallocate source.size).length =
      ([] : Cells).length + source.elements.length := by
    rw [Cells.length_reallocate, hsource.length, List.length_nil, Nat.zero_add]
  have hcopy := copyFrom_eq [] (set.elements.reallocate source.size) hkept hcopied rfl hroom
  rw [List.length_nil, List.take_zero, List.nil_append, hsource.length] at hcopy
  rw [List.nil_append, List.length_nil, h.length] at hdestroy
  unfold replace
  simp only [Option.bind_eq_bind, hdestroy, Option.bind_some, hcopy]
  refine ⟨_, _, rfl, ⟨hsource.size, pointTo_range' freed copied⟩, ?_⟩
  refine ⟨fun pointer a hread hother => ?_, fun cell hcell => .inr ?_, ?_, ?_⟩
  · have hlt : pointer < freed.length := by
      rw [hlength]
      exact Heap.lt_of_read hread
    rw [← hread, ← hframe pointer hother]
    unfold Heap.read
    rw [List.getElem?_append_left hlt]
  · obtain ⟨pointer, hpointer, rfl⟩ := List.mem_map.mp hcell
    refine ⟨pointer, rfl, ?_⟩
    rw [← hlength]
    exact (List.mem_range'_1.mp hpointer).1
  · simp [hlength]
  · exact (List.nodup_range' 1 Nat.one_pos).map fun _ _ => Option.some.inj

/-! ## Adding all -/

theorem addFrom_eq {source : AddressSet} (before : Cells) {copied : BoltAddressSet}
    (hcopied : PointTo objects cells copied)
    (h : Holds objects set list) (hset : set.elements.Nodup) (hlist : ∀ a ∈ list, a.Created)
    (hcreated : ∀ a ∈ copied, a.Created) (hsplit : source.elements = before ++ cells)
    (hdisjoint : ∀ cell ∈ cells, cell ∉ set.elements) :
    ∃ objects' set', addFrom source cells.length before.length objects set = some (objects', set') ∧
      Holds objects' set' (BoltAddressSet.addAll list copied) ∧
      Changes objects set objects' set' := by
  induction cells generalizing objects set list copied before with
  | nil =>
    cases hcopied
    exact ⟨objects, set, rfl, h, .refl hset⟩
  | cons cell cells ih =>
    cases hcopied with
    | @cons _ address _ copied hfirst hrest =>
      obtain ⟨pointer, rfl, hread⟩ := Option.bind_eq_some_iff.mp hfirst
      obtain ⟨haddress, hcreated⟩ := List.forall_mem_cons.mp hcreated
      obtain ⟨-, hothers⟩ := List.forall_mem_cons.mp hdisjoint
      have hcurrent : source.address objects before.length = some address := by
        rw [AddressSet.address, hsplit, Cells.load_append]
        exact hread
      obtain ⟨objects1, set1, hadd, hholds1, hchanges1⟩ := add_eq h hset hlist haddress
      have hrest1 := PointTo.of_frame objects1 hrest fun other a hmem hread =>
        hchanges1.frame other a hread (hothers _ hmem)
      have hlist1 : ∀ a ∈ (BoltAddressSet.add list address).2, a.Created := by
        intro a ha
        rcases BoltAddressSet.mem_add.mp ha with hold | rfl
        · exact hlist a hold
        · exact haddress
      have hdisjoint1 : ∀ cell ∈ cells, cell ∉ set1.elements := by
        intro cell hcell hmem
        rcases hchanges1.cells cell hmem with hold | ⟨fresh, rfl, hle⟩
        · exact hothers cell hcell hold
        · obtain ⟨other, a, hother, hread⟩ := PointTo.pointer hrest hcell
          rw [Option.some.inj hother] at hle
          exact absurd (Heap.lt_of_read hread) (Nat.not_lt.mpr hle)
      obtain ⟨objects2, set2, hall, hholds2, hchanges2⟩ :=
        ih (before ++ [some pointer]) hrest1 hholds1 hchanges1.nodup hlist1 hcreated
          (by rw [hsplit]; simp) hdisjoint1
      rw [List.length_append, List.length_singleton] at hall
      refine ⟨objects2, set2, ?_, hholds2, hchanges1.trans hchanges2⟩
      simp only [List.length_cons, addFrom, Option.bind_eq_bind, hcurrent, hadd, Option.bind_some,
        hall]

/-- `BoltAddressSet_add_all`. -/
theorem addAll_eq {source : AddressSet} {copied : BoltAddressSet} (h : Holds objects set list)
    (hset : set.elements.Nodup) (hlist : ∀ a ∈ list, a.Created)
    (hsource : Holds objects source copied)
    (hdisjoint : ∀ cell ∈ source.elements, cell ∉ set.elements)
    (hcopied : ∀ a ∈ copied, a.Created) :
    ∃ objects' set', set.addAll source objects = some (objects', set') ∧
      Holds objects' set' (BoltAddressSet.addAll list copied) ∧
      Changes objects set objects' set' := by
  have hall := addFrom_eq [] hsource.addresses h hset hlist hcopied rfl hdisjoint
  rwa [hsource.length] at hall

end AddressSet

/-! ## Several sets -/

namespace AddressSets

/-- The address objects and the set objects. -/
structure Memory where
  objects : Objects
  sets : List AddressSet
  deriving DecidableEq

/-- An address that is given to a function: one of the caller, created from two strings,
or an element of a set. -/
inductive Arg where
  | own (host port : List UInt8)
  | element (set index : Nat)
  deriving DecidableEq, Repr

/-- The calls, on sets by their numbers. -/
inductive Call where
  | create
  | indexOf (set : Nat) (address : Arg)
  | add (set : Nat) (address : Arg)
  | remove (set : Nat) (address : Arg)
  | replace (dest source : Nat)
  | addAll (destination source : Nat)
  deriving DecidableEq, Repr

/-- The address behind an argument. -/
def Arg.read (memory : Memory) : Arg → Option BoltAddress
  | own host port => some (.create (upToNul host) (upToNul port))
  | element set index => do
    let set ← memory.sets[set]?
    set.address memory.objects index

/-- One call; the functions that return nothing have no index.  A set that is changed by
itself is left out, as these two functions are written for two sets. -/
def step : Runs.Step Call Memory (Option Int)
  | .create, memory => some (none, { memory with sets := memory.sets ++ [.create] })
  | .indexOf i address, memory => do
    let set ← memory.sets[i]?
    let address ← address.read memory
    let index ← set.indexOf memory.objects address
    some (some index, memory)
  | .add i address, memory => do
    let set ← memory.sets[i]?
    let address ← address.read memory
    let (index, objects, set) ← set.add address memory.objects
    some (some index, ⟨objects, memory.sets.set i set⟩)
  | .remove i address, memory => do
    let set ← memory.sets[i]?
    let address ← address.read memory
    let (index, objects, set) ← set.remove address memory.objects
    some (some index, ⟨objects, memory.sets.set i set⟩)
  | .replace i j, memory =>
    if i = j then none
    else do
      let dest ← memory.sets[i]?
      let source ← memory.sets[j]?
      let (objects, dest) ← dest.replace source memory.objects
      some (none, ⟨objects, memory.sets.set i dest⟩)
  | .addAll i j, memory =>
    if i = j then none
    else do
      let destination ← memory.sets[i]?
      let source ← memory.sets[j]?
      let (objects, destination) ← destination.addAll source memory.objects
      some (none, ⟨objects, memory.sets.set i destination⟩)

/-! ### On lists -/

/-- The address behind an argument. -/
def Arg.value (lists : List BoltAddressSet) : Arg → Option BoltAddress
  | own host port => some (.create (upToNul host) (upToNul port))
  | element set index => do
    let list ← lists[set]?
    list[index]?

/-- One call on lists. -/
def listStep : Runs.Step Call (List BoltAddressSet) (Option Int)
  | .create, lists => some (none, lists ++ [[]])
  | .indexOf i address, lists => do
    let list ← lists[i]?
    let address ← address.value lists
    some (some (toIndex (list.indexOf address)), lists)
  | .add i address, lists => do
    let list ← lists[i]?
    let address ← address.value lists
    some (some (toIndex (list.add address).1), lists.set i (list.add address).2)
  | .remove i address, lists => do
    let list ← lists[i]?
    let address ← address.value lists
    some (some (toIndex (list.indexOf address)), lists.set i (list.remove address))
  | .replace i j, lists =>
    if i = j then none
    else do
      let _ ← lists[i]?
      let source ← lists[j]?
      some (none, lists.set i source)
  | .addAll i j, lists =>
    if i = j then none
    else do
      let destination ← lists[i]?
      let source ← lists[j]?
      some (none, lists.set i (destination.addAll source))

/-! ### The memory represents the lists -/

/-- Each set object holds its list, no two share an address object, and the lists have no
repetitions. -/
structure Represents (lists : List BoltAddressSet) (memory : Memory) : Prop where
  length : memory.sets.length = lists.length
  holds : ∀ (i : Nat) (set : AddressSet) (list : BoltAddressSet), memory.sets[i]? = some set →
    lists[i]? = some list → set.Holds memory.objects list
  elements : ∀ set ∈ memory.sets, set.elements.Nodup
  disjoint : ∀ (i j : Nat) (set set' : AddressSet), memory.sets[i]? = some set →
    memory.sets[j]? = some set' → i ≠ j → ∀ cell ∈ set.elements, cell ∉ set'.elements
  created : ∀ list ∈ lists, ∀ a ∈ list, a.Created
  nodup : ∀ list ∈ lists, list.Nodup

variable {lists : List BoltAddressSet} {memory : Memory} {i : Nat} {set set' : AddressSet}
  {list list' : BoltAddressSet} {objects : Objects}

theorem represents_nil : Represents [] ⟨[], []⟩ where
  length := rfl
  holds := by simp
  elements := by simp
  disjoint := by simp
  created := by simp
  nodup := by simp

/-- The set object of a list. -/
theorem Represents.get (h : Represents lists memory) (hlist : lists[i]? = some list) :
    ∃ set, memory.sets[i]? = some set ∧ set.Holds memory.objects list ∧ set.elements.Nodup ∧
      (∀ a ∈ list, a.Created) ∧ list.Nodup := by
  obtain ⟨hlt, -⟩ := List.getElem?_eq_some_iff.mp hlist
  have hset := List.getElem?_eq_getElem (h.length ▸ hlt)
  exact ⟨_, hset, h.holds i _ list hset hlist, h.elements _ (List.mem_of_getElem? hset),
    h.created list (List.mem_of_getElem? hlist), h.nodup list (List.mem_of_getElem? hlist)⟩

/-- An argument is an address that `BoltAddress_create` has made, and the same on either
side. -/
theorem Represents.read (h : Represents lists memory) {arg : Arg} {x : BoltAddress}
    (hvalue : arg.value lists = some x) : arg.read memory = some x ∧ x.Created := by
  cases arg with
  | own host port =>
    refine ⟨hvalue, ?_⟩
    rw [← Option.some.inj hvalue]
    exact BoltAddress.create_created (zero_notMem_upToNul host) (zero_notMem_upToNul port)
  | element i index =>
    obtain ⟨list, hlist, hx⟩ := Option.bind_eq_some_iff.mp hvalue
    obtain ⟨set, hset, hholds, -, hcreated, -⟩ := h.get hlist
    refine ⟨?_, hcreated x (List.mem_of_getElem? hx)⟩
    obtain ⟨hlt, hget⟩ := List.getElem?_eq_some_iff.mp hx
    have hlt' : index < set.elements.length := hholds.addresses.length_eq ▸ hlt
    have hcell := hholds.addresses.get hlt' hlt
    simp only [List.get_eq_getElem, hget] at hcell
    simp only [Arg.read, Option.bind_eq_bind, hset, Option.bind_some, AddressSet.address,
      Cells.load, List.getElem?_eq_getElem hlt', Option.join_some, hcell]

/-- A set of those that there are, or the one that has been added. -/
theorem append_cases {α : Type} {sets : List α} {new set : α} {i : Nat}
    (h : (sets ++ [new])[i]? = some set) :
    i < sets.length ∧ sets[i]? = some set ∨ i = sets.length ∧ new = set := by
  rcases Nat.lt_trichotomy i sets.length with hlt | rfl | hgt
  · rw [List.getElem?_append_left hlt] at h
    exact .inl ⟨hlt, h⟩
  · simp only [List.getElem?_concat_length] at h
    exact .inr ⟨rfl, Option.some.inj h⟩
  · rw [List.getElem?_eq_none (by simp; omega)] at h
    cases h

theorem Represents.create (h : Represents lists memory) :
    Represents (lists ++ [[]]) { memory with sets := memory.sets ++ [.create] } where
  length := by simp [h.length]
  holds i set list hset hlist := by
    have hlength := h.length
    rcases append_cases hset with ⟨hlt, hset⟩ | ⟨rfl, rfl⟩
    · rcases append_cases hlist with ⟨-, hlist⟩ | ⟨rfl, -⟩
      · exact h.holds i set list hset hlist
      · omega
    · rcases append_cases hlist with ⟨hlt, -⟩ | ⟨-, rfl⟩
      · omega
      · exact ⟨rfl, .nil⟩
  elements set hset := by
    rcases List.mem_append.mp hset with hold | hnew
    · exact h.elements set hold
    · rw [List.mem_singleton.mp hnew]
      exact List.nodup_nil
  disjoint i j set set' hset hset' hne cell hcell := by
    rcases append_cases hset with ⟨-, hset⟩ | ⟨-, rfl⟩
    · rcases append_cases hset' with ⟨-, hset'⟩ | ⟨-, rfl⟩
      · exact h.disjoint i j set set' hset hset' hne cell hcell
      · exact List.not_mem_nil
    · cases hcell
  created list hlist := by
    rcases List.mem_append.mp hlist with hold | hnew
    · exact h.created list hold
    · rw [List.mem_singleton.mp hnew]
      exact fun _ hmem => absurd hmem List.not_mem_nil
  nodup list hlist := by
    rcases List.mem_append.mp hlist with hold | hnew
    · exact h.nodup list hold
    · rw [List.mem_singleton.mp hnew]
      exact List.nodup_nil

/-- The entry that has been put at an index, or another one. -/
theorem set_cases {α : Type} {sets : List α} {new set : α} {i j : Nat}
    (h : (sets.set i new)[j]? = some set) : i = j ∧ new = set ∨ i ≠ j ∧ sets[j]? = some set := by
  by_cases hij : i = j
  · subst hij
    rw [List.getElem?_set_self'] at h
    obtain ⟨_, -, hnew⟩ := Option.map_eq_some_iff.mp h
    exact .inl ⟨rfl, hnew⟩
  · rw [List.getElem?_set_ne hij] at h
    exact .inr ⟨hij, h⟩

/-- A set that a function has changed. -/
theorem Represents.change (h : Represents lists memory) (hset : memory.sets[i]? = some set)
    (hchanges : set.Changes memory.objects objects set') (hholds : set'.Holds objects list')
    (hcreated : ∀ a ∈ list', a.Created) (hnodup : list'.Nodup) :
    Represents (lists.set i list') ⟨objects, memory.sets.set i set'⟩ := by
  have hother : ∀ (j : Nat) (other : AddressSet), memory.sets[j]? = some other → i ≠ j →
      (∀ cell ∈ other.elements, cell ∉ set.elements) ∧
        ∀ cell ∈ other.elements, cell ∉ set'.elements := by
    intro j other hother hne
    have hold := h.disjoint j i other set hother hset (Ne.symm hne)
    refine ⟨hold, fun cell hcell hmem => ?_⟩
    rcases hchanges.cells cell hmem with hmem | ⟨fresh, rfl, hle⟩
    · exact hold cell hcell hmem
    · obtain ⟨hlt, -⟩ := List.getElem?_eq_some_iff.mp hother
      have hlist := List.getElem?_eq_getElem (h.length ▸ hlt)
      obtain ⟨pointer, address, hpointer, hread⟩ :=
        AddressSet.PointTo.pointer (h.holds j other _ hother hlist).addresses hcell
      rw [Option.some.inj hpointer] at hle
      exact absurd (Heap.lt_of_read hread) (Nat.not_lt.mpr hle)
  constructor
  · simp [h.length]
  · intro j other list hother' hlist
    rcases set_cases hother' with ⟨rfl, rfl⟩ | ⟨hne, hother'⟩
    · rcases set_cases hlist with ⟨-, rfl⟩ | ⟨hne, -⟩
      · exact hholds
      · exact absurd rfl hne
    · rcases set_cases hlist with ⟨heq, -⟩ | ⟨-, hlist⟩
      · exact absurd heq hne
      · have hold := h.holds j other list hother' hlist
        have haddresses := AddressSet.PointTo.of_frame objects hold.addresses
          fun pointer a hmem hread =>
            hchanges.frame pointer a hread ((hother j other hother' hne).1 _ hmem)
        exact ⟨hold.size, haddresses⟩
  · intro other hmem
    rcases List.mem_or_eq_of_mem_set hmem with hold | rfl
    · exact h.elements other hold
    · exact hchanges.nodup
  · intro j k first second hfirst hsecond hne cell hcell
    rcases set_cases hfirst with ⟨rfl, rfl⟩ | ⟨hij, hfirst⟩
    · rcases set_cases hsecond with ⟨heq, -⟩ | ⟨hik, hsecond⟩
      · exact absurd heq hne
      · exact fun hmem => (hother k second hsecond hik).2 cell hmem hcell
    · rcases set_cases hsecond with ⟨rfl, rfl⟩ | ⟨-, hsecond⟩
      · exact (hother j first hfirst hij).2 cell hcell
      · exact h.disjoint j k first second hfirst hsecond hne cell hcell
  · intro list hmem
    rcases List.mem_or_eq_of_mem_set hmem with hold | rfl
    · exact h.created list hold
    · exact hcreated
  · intro list hmem
    rcases List.mem_or_eq_of_mem_set hmem with hold | rfl
    · exact h.nodup list hold
    · exact hnodup

/-- Every call on lists is a call on memory with the same result. -/
theorem simulates : Runs.Simulates listStep step Represents := by
  intro call lists memory reply lists' h hcall
  cases call with
  | create =>
    obtain ⟨rfl, rfl⟩ := Prod.mk.inj (Option.some.inj hcall)
    exact ⟨_, rfl, h.create⟩
  | indexOf i arg =>
    obtain ⟨list, hlist, hcall⟩ := Option.bind_eq_some_iff.mp hcall
    obtain ⟨x, hx, hcall⟩ := Option.bind_eq_some_iff.mp hcall
    obtain ⟨rfl, rfl⟩ := Prod.mk.inj (Option.some.inj hcall)
    obtain ⟨set, hset, hholds, -, hcreated, -⟩ := h.get hlist
    obtain ⟨hread, hxcreated⟩ := h.read hx
    refine ⟨memory, ?_, h⟩
    simp only [step, Option.bind_eq_bind, hset, Option.bind_some, hread,
      AddressSet.indexOf_eq hholds hcreated hxcreated]
  | add i arg =>
    obtain ⟨list, hlist, hcall⟩ := Option.bind_eq_some_iff.mp hcall
    obtain ⟨x, hx, hcall⟩ := Option.bind_eq_some_iff.mp hcall
    obtain ⟨rfl, rfl⟩ := Prod.mk.inj (Option.some.inj hcall)
    obtain ⟨set, hset, hholds, helements, hcreated, hnodup⟩ := h.get hlist
    obtain ⟨hread, hxcreated⟩ := h.read hx
    obtain ⟨objects, set', hadd, hholds', hchanges⟩ :=
      AddressSet.add_eq hholds helements hcreated hxcreated
    refine ⟨_, ?_, h.change hset hchanges hholds' (fun a ha => ?_)
      (BoltAddressSet.nodup_add hnodup x)⟩
    · simp only [step, Option.bind_eq_bind, hset, Option.bind_some, hread, hadd]
    · rcases BoltAddressSet.mem_add.mp ha with hold | rfl
      · exact hcreated a hold
      · exact hxcreated
  | remove i arg =>
    obtain ⟨list, hlist, hcall⟩ := Option.bind_eq_some_iff.mp hcall
    obtain ⟨x, hx, hcall⟩ := Option.bind_eq_some_iff.mp hcall
    obtain ⟨rfl, rfl⟩ := Prod.mk.inj (Option.some.inj hcall)
    obtain ⟨set, hset, hholds, helements, hcreated, hnodup⟩ := h.get hlist
    obtain ⟨hread, hxcreated⟩ := h.read hx
    obtain ⟨objects, set', hremove, hholds', hchanges⟩ :=
      AddressSet.remove_eq hholds helements hcreated hxcreated
    have hsub : (list.remove x).Sublist list := by
      rw [RoutingTable.remove_eq_erase]
      exact List.erase_sublist
    refine ⟨_, ?_, h.change hset hchanges hholds' (fun a ha => hcreated a (hsub.subset ha))
      (hnodup.sublist hsub)⟩
    simp only [step, Option.bind_eq_bind, hset, Option.bind_some, hread, hremove]
  | replace i j =>
    by_cases hij : i = j
    · simp only [listStep, if_pos hij] at hcall
      cases hcall
    simp only [listStep, if_neg hij] at hcall
    obtain ⟨list, hlist, hcall⟩ := Option.bind_eq_some_iff.mp hcall
    obtain ⟨copied, hcopied, hcall⟩ := Option.bind_eq_some_iff.mp hcall
    obtain ⟨rfl, rfl⟩ := Prod.mk.inj (Option.some.inj hcall)
    obtain ⟨set, hset, hholds, helements, -, -⟩ := h.get hlist
    obtain ⟨source, hsource, hsourceHolds, -, hcreated, hnodup⟩ := h.get hcopied
    obtain ⟨objects, set', hreplace, hholds', hchanges⟩ := AddressSet.replace_eq hholds helements
      hsourceHolds (h.disjoint j i source set hsource hset (Ne.symm hij)) hcreated
    refine ⟨_, ?_, h.change hset hchanges hholds' hcreated hnodup⟩
    simp only [step, if_neg hij, Option.bind_eq_bind, hset, hsource, Option.bind_some, hreplace]
  | addAll i j =>
    by_cases hij : i = j
    · simp only [listStep, if_pos hij] at hcall
      cases hcall
    simp only [listStep, if_neg hij] at hcall
    obtain ⟨list, hlist, hcall⟩ := Option.bind_eq_some_iff.mp hcall
    obtain ⟨copied, hcopied, hcall⟩ := Option.bind_eq_some_iff.mp hcall
    obtain ⟨rfl, rfl⟩ := Prod.mk.inj (Option.some.inj hcall)
    obtain ⟨set, hset, hholds, helements, hcreated, hnodup⟩ := h.get hlist
    obtain ⟨source, hsource, hsourceHolds, -, hcreated', -⟩ := h.get hcopied
    obtain ⟨objects, set', hall, hholds', hchanges⟩ := AddressSet.addAll_eq hholds helements
      hcreated hsourceHolds (h.disjoint j i source set hsource hset (Ne.symm hij)) hcreated'
    refine ⟨_, ?_, h.change hset hchanges hholds' (fun a ha => ?_)
      (BoltAddressSet.nodup_addAll copied hnodup)⟩
    · simp only [step, if_neg hij, Option.bind_eq_bind, hset, hsource, Option.bind_some, hall]
    · rcases (BoltAddressSet.mem_addAll copied list).mp ha with hold | hnew
      · exact hcreated a hold
      · exact hcreated' a hnew

/-! ## Runs -/

/-- The index is the only position of an address in a list, or -1 if there is none. -/
def IsPosition (list : BoltAddressSet) (x : BoltAddress) (index : Int) : Prop :=
  index = -1 ∧ x ∉ list ∨
    ∃ k : Nat, index = k ∧ list[k]? = some x ∧ ∀ j, list[j]? = some x → j = k

theorem isPosition_indexOf {x : BoltAddress} (h : list.Nodup) :
    IsPosition list x (toIndex (list.indexOf x)) := by
  cases hindex : list.indexOf x with
  | none => exact .inl ⟨rfl, BoltAddressSet.indexOf_eq_none.mp hindex⟩
  | some k =>
    have hk := BoltAddressSet.getElem?_of_indexOf hindex
    refine .inr ⟨k, rfl, hk, fun j hj => ?_⟩
    obtain ⟨hjlt, -⟩ := List.getElem?_eq_some_iff.mp hj
    exact (List.getElem?_inj hjlt h).mp (hj.trans hk.symm)

/-- Every run on lists is a run on memory with the same results: the set objects hold the
lists, no two share an object, and the lists have no repetitions.  Then
`BoltAddressSet_index_of` finds the only position of an address. -/
theorem represents_run {calls : List Call} {replies : List (Option Int)}
    (hrun : Runs.run listStep calls [] = some (replies, lists)) :
    ∃ memory, Runs.run step calls ⟨[], []⟩ = some (replies, memory) ∧ Represents lists memory ∧
      ∀ (i : Nat) (set : AddressSet) (list : BoltAddressSet), memory.sets[i]? = some set →
        lists[i]? = some list → ∀ x : BoltAddress, x.Created →
          ∃ index, set.indexOf memory.objects x = some index ∧ IsPosition list x index := by
  obtain ⟨memory, hrun', hrepresents⟩ := simulates.run calls represents_nil hrun
  refine ⟨memory, hrun', hrepresents, fun i set list hset hlist x hx => ?_⟩
  obtain ⟨set', hset', hholds, -, hcreated, hnodup⟩ := hrepresents.get hlist
  obtain rfl := Option.some.inj (hset.symm.trans hset')
  exact ⟨_, AddressSet.indexOf_eq hholds hcreated hx, isPosition_indexOf hnodup⟩

/-- Two sets: the second gets the addresses of the first, which then loses them and gets
them back. -/
def exchange : List Call :=
  [.create, .create, .add 0 (.own [65] []), .add 0 (.own [] [66]), .add 0 (.own [65, 0, 1] []),
    .replace 1 0, .remove 0 (.element 1 0), .remove 0 (.element 0 0), .addAll 0 1,
    .indexOf 0 (.own [] [66])]

theorem represents_run_exchange : ∃ memory, Runs.run step exchange ⟨[], []⟩ =
    some ([none, none, some 0, some 1, some (-1), none, some 0, some 0, none, some 1], memory) := by
  have hlists : Runs.run listStep exchange [] =
      some ([none, none, some 0, some 1, some (-1), none, some 0, some 0, none, some 1],
        [[.create [65] [], .create [] [66]], [.create [65] [], .create [] [66]]]) := by
    decide +kernel
  obtain ⟨memory, hrun, -⟩ := represents_run hlists
  exact ⟨memory, hrun⟩

end AddressSets

end Seabolt
