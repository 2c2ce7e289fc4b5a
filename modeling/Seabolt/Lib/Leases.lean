import Mathlib.Data.List.Count
import Mathlib.Data.List.Nodup

/-!
# Leases

Numbered slots that are lent to clients, one client at a time.  A slot has a
flag that says whether it is lent; what the clients hold is a list of clients
with the slots that they have.  `Sound` says that the flags and the list agree.

Nothing is assumed of the clients: a client may hold several slots.
-/

namespace Leases

variable {τ : Type}

/-- What a client holds can be looked up. -/
instance lawful [DecidableEq τ] : LawfulBEq (τ × Nat) := Prod.instLawfulBEq

/-- Every slot that is held is lent, to one client only, and no other slot is
lent. -/
structure Sound (flags : List Bool) (held : List (τ × Nat)) : Prop where
  nodup : (held.map Prod.snd).Nodup
  lent : ∀ i ∈ held.map Prod.snd, flags[i]? = some true
  count : held.length = flags.count true

variable {flags : List Bool} {held : List (τ × Nat)} {client : τ} {i : Nat}

/-- Nobody holds anything. -/
theorem sound_replicate (n : Nat) : Sound (List.replicate n false) ([] : List (τ × Nat)) where
  nodup := List.nodup_nil
  lent := by simp
  count := by simp [List.count_replicate]

/-- There are not more slots held than there are slots. -/
theorem Sound.length_le (h : Sound flags held) : held.length ≤ flags.length := by
  rw [h.count]
  exact List.count_le_length

/-- A slot whose flag is not set is held by nobody. -/
theorem Sound.free (h : Sound flags held) (hfree : flags[i]? = some false) :
    i ∉ held.map Prod.snd := by
  intro hheld
  have hlent := h.lent i hheld
  rw [hfree] at hlent
  cases hlent

theorem count_set_true (hfree : flags[i]? = some false) :
    (flags.set i true).count true = flags.count true + 1 := by
  obtain ⟨hlt, hget⟩ := List.getElem?_eq_some_iff.mp hfree
  rw [List.count_set hlt, hget]
  simp

theorem count_set_false (hlent : flags[i]? = some true) :
    (flags.set i false).count true = flags.count true - 1 := by
  obtain ⟨hlt, hget⟩ := List.getElem?_eq_some_iff.mp hlent
  rw [List.count_set hlt, hget]
  simp

/-- A free slot is lent to a client. -/
theorem Sound.take (h : Sound flags held) (hfree : flags[i]? = some false) (client : τ) :
    Sound (flags.set i true) ((client, i) :: held) where
  nodup := List.nodup_cons.mpr ⟨h.free hfree, h.nodup⟩
  lent := by
    intro j hj
    obtain ⟨hlt, -⟩ := List.getElem?_eq_some_iff.mp hfree
    by_cases hij : i = j
    · subst hij
      rw [List.getElem?_set_self hlt]
    · rw [List.getElem?_set_ne hij]
      refine h.lent j ?_
      simpa [Ne.symm hij] using hj
  count := by
    rw [count_set_true hfree, List.length_cons, h.count]

/-- A client gives back what it holds. -/
theorem Sound.give [DecidableEq τ] (h : Sound flags held) (hheld : (client, i) ∈ held) :
    Sound (flags.set i false) (held.erase (client, i)) where
  nodup := (List.Sublist.map Prod.snd List.erase_sublist).nodup h.nodup
  lent := by
    intro j hj
    obtain ⟨⟨other, j⟩, hmem, rfl⟩ := List.mem_map.mp hj
    have hheld' := List.mem_of_mem_erase hmem
    have hij : i ≠ j := by
      rintro rfl
      have hsame := List.inj_on_of_nodup_map h.nodup hheld hheld' rfl
      rw [← hsame] at hmem
      exact (List.Nodup.not_mem_erase (List.Nodup.of_map _ h.nodup)) hmem
    rw [List.getElem?_set_ne hij]
    exact h.lent j (List.mem_map_of_mem hheld')
  count := by
    rw [count_set_false (h.lent i (List.mem_map_of_mem hheld)), List.length_erase_of_mem hheld,
      h.count]

/-- There are not more distinct slots that are lent than flags that are set. -/
theorem length_le_count (slots : List Nat) :
    ∀ {flags : List Bool}, slots.Nodup → (∀ i ∈ slots, flags[i]? = some true) →
      slots.length ≤ flags.count true := by
  induction slots with
  | nil => exact fun _ _ => Nat.zero_le _
  | cons i slots ih =>
    intro flags hnodup hlent
    obtain ⟨hnew, hnodup⟩ := List.nodup_cons.mp hnodup
    have hfirst := hlent i List.mem_cons_self
    have hrest := @ih (flags.set i false) hnodup fun j hj => by
      have hij : i ≠ j := by
        rintro rfl
        exact hnew hj
      rw [List.getElem?_set_ne hij]
      exact hlent j (List.mem_cons_of_mem i hj)
    rw [count_set_false hfirst] at hrest
    have hpos : 0 < flags.count true :=
      List.count_pos_iff.mpr (List.mem_of_getElem? hfirst)
    rw [List.length_cons]
    omega

/-- A slot whose flag is set is held. -/
theorem Sound.mem_of_lent (h : Sound flags held) (hlent : flags[i]? = some true) :
    i ∈ held.map Prod.snd := by
  by_contra hnot
  have hle := length_le_count (i :: held.map Prod.snd) (List.nodup_cons.mpr ⟨hnot, h.nodup⟩)
    (List.forall_mem_cons.mpr ⟨hlent, h.lent⟩)
  rw [List.length_cons, List.length_map, h.count] at hle
  omega

end Leases
