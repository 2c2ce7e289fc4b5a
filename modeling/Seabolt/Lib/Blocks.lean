import Mathlib.Data.List.Perm.Basic
import Seabolt.Lib.Heap

/-!
# Accounts of sized blocks

Blocks of memory of which only the sizes matter.  A block is returned with the size that
it was allocated with; anything else, a second return of it included, has no result.

An account lists the blocks that are in use with their sizes.  It is closed exactly if
every block that was ever allocated has been returned (`Account.closed`).
-/

/-- The sizes of the blocks that have been allocated; one that has been returned is
`none`. -/
abbrev Blocks := Heap Nat

namespace Blocks

/-- A new block and its pointer. -/
def allocate (blocks : Blocks) (size : Nat) : Nat × Blocks := (blocks.length, blocks.alloc size)

/-- Return a block. -/
def deallocate (blocks : Blocks) (pointer size : Nat) : Option Blocks :=
  if blocks.read pointer = some size then some (blocks.free pointer) else none

/-- Another block in the place of one. -/
def reallocate (blocks : Blocks) (pointer oldSize newSize : Nat) : Option (Nat × Blocks) :=
  (blocks.deallocate pointer oldSize).map fun blocks => blocks.allocate newSize

/-- The blocks in use are those that the account lists, each with its size. -/
structure Account (blocks : Blocks) (owned : List (Nat × Nat)) : Prop where
  nodup : (owned.map Prod.fst).Nodup
  live : ∀ pointer size, blocks.read pointer = some size ↔ (pointer, size) ∈ owned

namespace Account

variable {blocks : Blocks} {owned owned' : List (Nat × Nat)} {pointer size : Nat}

theorem nil : Account [] [] where
  nodup := List.nodup_nil
  live pointer size := by simp [Heap.read]

/-- The order of the entries does not matter. -/
theorem perm (h : Account blocks owned) (hperm : owned.Perm owned') : Account blocks owned' where
  nodup := (hperm.map Prod.fst).nodup_iff.mp h.nodup
  live pointer size := (h.live pointer size).trans hperm.mem_iff

theorem allocate (h : Account blocks owned) (size : Nat) :
    Account (blocks.allocate size).2 (((blocks.allocate size).1, size) :: owned) where
  nodup := by
    refine List.nodup_cons.mpr ⟨fun hmem => ?_, h.nodup⟩
    obtain ⟨entry, hentry, hpointer⟩ := List.mem_map.mp hmem
    have hlt := Heap.lt_of_read ((h.live entry.1 entry.2).mpr hentry)
    rw [hpointer] at hlt
    exact Nat.lt_irrefl _ hlt
  live pointer size' := by
    show (blocks.alloc size).read pointer = some size' ↔
      (pointer, size') ∈ (blocks.length, size) :: owned
    by_cases hnew : pointer = blocks.length
    · subst hnew
      have hfresh : (blocks.length, size') ∉ owned := fun hmem =>
        Nat.lt_irrefl _ (Heap.lt_of_read ((h.live _ size').mpr hmem))
      simp [Heap.read_alloc_self, hfresh, eq_comm]
    · have hold : (blocks.alloc size).read pointer = some size' ↔
          blocks.read pointer = some size' := by
        constructor
        · intro hread
          exact (Heap.read_alloc_cases hread).resolve_left hnew
        · exact Heap.read_alloc
      rw [hold, h.live]
      simp [hnew]

/-- A block of the account is returned with the size that the account says. -/
theorem deallocate (h : Account blocks ((pointer, size) :: owned)) :
    ∃ blocks', blocks.deallocate pointer size = some blocks' ∧ Account blocks' owned := by
  obtain ⟨hnew, hnodup⟩ := List.nodup_cons.mp h.nodup
  refine ⟨blocks.free pointer, if_pos ((h.live pointer size).mpr List.mem_cons_self), hnodup, ?_⟩
  intro other size'
  by_cases hsame : pointer = other
  · subst hsame
    rw [Heap.read_free_self]
    refine iff_of_false (by simp) fun hmem => hnew ?_
    exact List.mem_map.mpr ⟨_, hmem, rfl⟩
  · rw [Heap.read_free_ne hsame, h.live]
    simp [Ne.symm hsame]

theorem reallocate (h : Account blocks ((pointer, size) :: owned)) (newSize : Nat) :
    ∃ pointer' blocks', blocks.reallocate pointer size newSize = some (pointer', blocks') ∧
      Account blocks' ((pointer', newSize) :: owned) := by
  obtain ⟨freed, hfree, haccount⟩ := h.deallocate
  refine ⟨_, _, ?_, haccount.allocate newSize⟩
  rw [Blocks.reallocate, hfree]
  rfl

/-- An empty account: every block has been returned. -/
theorem closed (h : Account blocks []) (pointer : Nat) : blocks.read pointer = none := by
  cases hread : blocks.read pointer with
  | none => rfl
  | some size => cases (h.live pointer size).mp hread

end Account

end Blocks
