import Mathlib.Data.List.Forall2
import Mathlib.Data.List.Nodup

/-!
# Heaps of objects

Objects that are allocated and freed.  A pointer is a number that is never used
again, so reading through a pointer to an object that has been freed is seen.
-/

/-- Objects in the order of their allocation; one that has been freed is
`none`. -/
abbrev Heap (α : Type) := List (Option α)

namespace Heap

variable {α : Type}

/-- The object that a pointer points to. -/
def read (heap : Heap α) (pointer : Nat) : Option α := heap[pointer]?.join

/-- A new object.  Its pointer is the length of the heap. -/
def alloc (heap : Heap α) (object : α) : Heap α := heap ++ [some object]

/-- Put another object in the place of one. -/
def write (heap : Heap α) (pointer : Nat) (object : α) : Heap α := heap.set pointer (some object)

/-- Free an object. -/
def free (heap : Heap α) (pointer : Nat) : Heap α := heap.set pointer none

variable {heap : Heap α} {pointer other : Nat} {object : α}

theorem lt_of_read (h : heap.read pointer = some object) : pointer < heap.length := by
  have hentry : heap[pointer]? = some (some object) := Option.join_eq_some_iff.mp h
  exact (List.getElem?_eq_some_iff.mp hentry).1

theorem read_alloc_self : (heap.alloc object).read heap.length = some object := by
  simp [read, alloc]

theorem read_alloc_of_lt (h : pointer < heap.length) :
    (heap.alloc object).read pointer = heap.read pointer := by
  unfold read alloc
  rw [List.getElem?_append_left h]

/-- What is in the heap stays there. -/
theorem read_alloc {object' : α} (h : heap.read pointer = some object') :
    (heap.alloc object).read pointer = some object' := by
  rw [read_alloc_of_lt (lt_of_read h), h]

/-- What is in the heap after an allocation is the new object or was there. -/
theorem read_alloc_cases {object' : α} (h : (heap.alloc object).read pointer = some object') :
    pointer = heap.length ∨ heap.read pointer = some object' := by
  have hlt := lt_of_read h
  rw [alloc, List.length_append, List.length_singleton] at hlt
  rcases Nat.lt_succ_iff_lt_or_eq.mp hlt with hold | hnew
  · rw [read_alloc_of_lt hold] at h
    exact .inr h
  · exact .inl hnew

theorem read_write_self (h : pointer < heap.length) :
    (heap.write pointer object).read pointer = some object := by
  unfold read write
  rw [List.getElem?_set_self h]
  rfl

theorem read_write_ne (h : pointer ≠ other) :
    (heap.write pointer object).read other = heap.read other := by
  unfold read write
  rw [List.getElem?_set_ne h]

theorem read_free_self : (heap.free pointer).read pointer = none := by
  unfold read free
  rcases Nat.lt_or_ge pointer heap.length with hlt | hge
  · rw [List.getElem?_set_self hlt]
    rfl
  · rw [List.getElem?_eq_none (by rwa [List.length_set])]
    rfl

theorem read_free_ne (h : pointer ≠ other) : (heap.free pointer).read other = heap.read other := by
  unfold read free
  rw [List.getElem?_set_ne h]

/-! A heap with a function on its objects. -/

variable {β : Type}

theorem read_map (f : α → β) (heap : Heap α) (pointer : Nat) :
    read (heap.map (Option.map f)) pointer = (heap.read pointer).map f := by
  unfold read
  rw [List.getElem?_map]
  cases heap[pointer]? with
  | none => rfl
  | some entry => rfl

theorem map_alloc (f : α → β) : (heap.alloc object).map (Option.map f) =
    alloc (heap.map (Option.map f)) (f object) := List.map_append

theorem map_write (f : α → β) : (heap.write pointer object).map (Option.map f) =
    write (heap.map (Option.map f)) pointer (f object) := List.map_set

theorem map_free (f : α → β) : (heap.free pointer).map (Option.map f) =
    free (heap.map (Option.map f)) pointer := List.map_set

end Heap

/-! ## Directories

Two arrays side by side: keys, and for each key a pointer to an object that
knows its key. -/

/-- The keys are distinct, each has an object of its own in the heap, and every
object of the heap is the one of a key. -/
structure Directory {α κ : Type} (key : α → κ) (keys : List κ) (pointers : List Nat)
    (heap : Heap α) : Prop where
  nodup : keys.Nodup
  objects : List.Forall₂ (fun k pointer => (heap.read pointer).map key = some k) keys pointers
  listed : ∀ pointer object, heap.read pointer = some object → pointer ∈ pointers

namespace Directory

variable {α κ : Type} {key : α → κ} {keys : List κ} {pointers : List Nat} {heap : Heap α}
  {pointer i : Nat} {k : κ} {object : α}

theorem nil : Directory key [] [] [] where
  nodup := List.nodup_nil
  objects := .nil
  listed := by simp [Heap.read]

theorem length (h : Directory key keys pointers heap) : keys.length = pointers.length :=
  h.objects.length_eq

/-- The object at an index. -/
theorem object_at (h : Directory key keys pointers heap) (hkey : keys[i]? = some k) :
    ∃ pointer object, pointers[i]? = some pointer ∧ heap.read pointer = some object ∧
      key object = k := by
  obtain ⟨hlt, hget⟩ := List.getElem?_eq_some_iff.mp hkey
  have hlt' : i < pointers.length := h.length ▸ hlt
  have hobject := h.objects.get hlt hlt'
  simp only [List.get_eq_getElem, hget] at hobject
  obtain ⟨object, hread, hk⟩ := Option.map_eq_some_iff.mp hobject
  exact ⟨_, object, List.getElem?_eq_getElem hlt', hread, hk⟩

/-- Different pointers have different keys. -/
theorem nodup_pointers (h : Directory key keys pointers heap) : pointers.Nodup := by
  have hmap : pointers.map (fun pointer => (heap.read pointer).map key) = keys.map some := by
    have hobjects := h.objects
    clear h
    induction hobjects with
    | nil => rfl
    | cons hhead _ ih => rw [List.map_cons, List.map_cons, hhead, ih]
  exact List.Nodup.of_map _ (hmap ▸ h.nodup.map fun _ _ => Option.some.inj)

/-- A new key with a new object. -/
theorem alloc (h : Directory key keys pointers heap) (hkey : key object = k) (hnew : k ∉ keys) :
    Directory key (keys ++ [k]) (pointers ++ [heap.length]) (heap.alloc object) where
  nodup := by
    refine List.nodup_append.mpr ⟨h.nodup, List.nodup_singleton _, ?_⟩
    rintro k' hk' _ hobject rfl
    rw [List.mem_singleton.mp hobject] at hk'
    exact hnew hk'
  objects := by
    refine List.rel_append ?_ (.cons ?_ .nil)
    · refine h.objects.imp fun k' pointer hpointer => ?_
      obtain ⟨object', hread, hk'⟩ := Option.map_eq_some_iff.mp hpointer
      rw [Heap.read_alloc hread, Option.map_some, hk']
    · rw [Heap.read_alloc_self, Option.map_some, hkey]
  listed := by
    intro pointer object' hread
    rcases Heap.read_alloc_cases hread with rfl | hold
    · simp
    · exact List.mem_append_left _ (h.listed pointer object' hold)

/-- Only the keys of the objects matter. -/
theorem congr (h : Directory key keys pointers heap) {heap' : Heap α}
    (hkeys : ∀ pointer, (heap'.read pointer).map key = (heap.read pointer).map key) :
    Directory key keys pointers heap' where
  nodup := h.nodup
  objects := h.objects.imp fun k pointer hpointer => (hkeys pointer).trans hpointer
  listed := by
    intro pointer object hread
    have hsome := hkeys pointer
    rw [hread, Option.map_some] at hsome
    obtain ⟨object', hread', -⟩ := Option.map_eq_some_iff.mp hsome.symm
    exact h.listed pointer object' hread'

/-- Some of the entries are kept, and the objects of the others are freed. -/
theorem filter (h : Directory key keys pointers heap) {heap' : Heap α} (keeps : κ × Nat → Bool)
    (hkept : ∀ entry ∈ keys.zip pointers, keeps entry = true →
      heap'.read entry.2 = heap.read entry.2)
    (hfreed : ∀ pointer object, heap'.read pointer = some object → ∃ k,
      (k, pointer) ∈ keys.zip pointers ∧ keeps (k, pointer) = true) :
    Directory key (((keys.zip pointers).filter keeps).map Prod.fst)
      (((keys.zip pointers).filter keeps).map Prod.snd) heap' where
  nodup := by
    refine List.Nodup.sublist ?_ h.nodup
    have hfst : (keys.zip pointers).map Prod.fst = keys :=
      List.map_fst_zip (Nat.le_of_eq h.length)
    have hsub := (List.filter_sublist (p := keeps) (l := keys.zip pointers)).map Prod.fst
    rwa [hfst] at hsub
  objects := by
    rw [List.forall₂_map_left_iff, List.forall₂_map_right_iff, List.forall₂_same]
    intro entry hentry
    obtain ⟨hmem, hkeeps⟩ := List.mem_filter.mp hentry
    rw [hkept entry hmem hkeeps]
    exact List.forall₂_zip h.objects hmem
  listed := by
    intro pointer object hread
    obtain ⟨k, hmem, hkeeps⟩ := hfreed pointer object hread
    exact List.mem_map.mpr ⟨(k, pointer), List.mem_filter.mpr ⟨hmem, hkeeps⟩, rfl⟩

end Directory
