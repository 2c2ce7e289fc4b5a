import Mathlib.Tactic

/-!
# Condition variables

Threads wait for one of a number of free resources.  `waiting` are the threads
that wait, and `woken` are those of them whose wait has ended and that have not
looked again.  A signal wakes one of the others, whichever the scheduler picks.

`Covered` says that a thread which still waits has not been forgotten: every
free resource has a woken thread that is on its way to it.
-/

namespace Signals

variable {τ : Type} [DecidableEq τ]

/-- The threads that wait for a signal. -/
def blocked (waiting woken : List τ) : List τ :=
  waiting.filter fun thread => thread ∉ woken

/-- The thread that a signal wakes, if any thread waits for it. -/
def signal (pick : Nat) (threads : List τ) : List τ :=
  threads[pick % threads.length]?.toList

variable {waiting woken : List τ} {thread : τ} {free : Nat}

theorem mem_blocked : thread ∈ blocked waiting woken ↔ thread ∈ waiting ∧ thread ∉ woken := by
  simp [blocked]

theorem blocked_nil : blocked waiting [] = waiting := by
  simp [blocked]

omit [DecidableEq τ] in
theorem length_signal {threads : List τ} (pick : Nat) (h : threads ≠ []) :
    (signal pick threads).length = 1 := by
  have hlt : pick % threads.length < threads.length :=
    Nat.mod_lt _ (List.length_pos_of_ne_nil h)
  rw [signal, List.getElem?_eq_getElem hlt]
  rfl

/-- Nobody comes to wait for a signal when a thread leaves. -/
theorem blocked_leave (hnodup : waiting.Nodup) :
    blocked (waiting.erase thread) (woken.erase thread) ⊆ blocked waiting woken := by
  intro other hother
  obtain ⟨hwaits, hasleep⟩ := mem_blocked.mp hother
  obtain ⟨hne, hin⟩ := hnodup.mem_erase_iff.mp hwaits
  exact mem_blocked.mpr ⟨hin, fun hwoken => hasleep ((List.mem_erase_of_ne hne).mpr hwoken)⟩

/-- There is a woken thread for every free resource, or nobody waits for a
signal. -/
structure Covered (free : Nat) (waiting woken : List τ) : Prop where
  nodup : waiting.Nodup
  enough : blocked waiting woken ≠ [] → free ≤ woken.length

namespace Covered

/-- When nobody is on its way, nothing is free. -/
theorem quiet (h : Covered free waiting []) (hwaits : waiting ≠ []) : free = 0 := by
  have henough := h.enough (by rwa [blocked_nil])
  exact Nat.le_zero.mp henough

/-- A thread begins to wait when nothing is free. -/
theorem wait (h : Covered free waiting woken) (hnew : thread ∉ waiting) :
    Covered 0 (thread :: waiting) woken :=
  ⟨List.nodup_cons.mpr ⟨hnew, h.nodup⟩, fun _ => Nat.zero_le _⟩

/-- A resource is taken by a thread that has not waited. -/
theorem take (h : Covered (free + 1) waiting woken) : Covered free waiting woken := by
  refine ⟨h.nodup, fun hblocked => ?_⟩
  have henough := h.enough hblocked
  omega

/-- Who still waits for a signal has waited for one before. -/
theorem enough_of_subset {waiting' woken' : List τ} (h : Covered free waiting woken)
    (hsubset : blocked waiting' woken' ⊆ blocked waiting woken)
    (hblocked : blocked waiting' woken' ≠ []) : free ≤ woken.length :=
  h.enough fun hnone => hblocked (List.eq_nil_of_subset_nil (hnone ▸ hsubset))

/-- A resource is taken by a woken thread. -/
theorem takeWoken (h : Covered (free + 1) waiting woken) (hwoken : thread ∈ woken) :
    Covered free (waiting.erase thread) (woken.erase thread) := by
  refine ⟨h.nodup.erase thread, fun hblocked => ?_⟩
  have henough := h.enough_of_subset (blocked_leave h.nodup) hblocked
  rw [List.length_erase_of_mem hwoken]
  omega

/-- A woken thread waits again, because nothing is free. -/
theorem waitAgain (h : Covered free waiting woken) :
    Covered 0 (thread :: waiting.erase thread) (woken.erase thread) :=
  ⟨List.nodup_cons.mpr ⟨h.nodup.not_mem_erase, h.nodup.erase thread⟩, fun _ => Nat.zero_le _⟩

/-- A woken thread leaves with nothing. -/
theorem leave (h : Covered free waiting woken)
    (hleft : blocked waiting woken = [] ∨ free ≤ (woken.erase thread).length) :
    Covered free (waiting.erase thread) (woken.erase thread) := by
  refine ⟨h.nodup.erase thread, fun hblocked => ?_⟩
  rcases hleft with hnone | henough
  · have hsubset := @blocked_leave τ _ waiting woken thread h.nodup
    rw [hnone] at hsubset
    exact absurd (List.eq_nil_of_subset_nil hsubset) hblocked
  · exact henough

/-- A thread stops waiting. -/
theorem timeout (h : Covered free waiting woken) : Covered free (waiting.erase thread) woken := by
  refine ⟨h.nodup.erase thread, h.enough_of_subset fun other hother => ?_⟩
  obtain ⟨hwaits, hasleep⟩ := mem_blocked.mp hother
  exact mem_blocked.mpr ⟨List.mem_of_mem_erase hwaits, hasleep⟩

/-- A thread wakes without a signal. -/
theorem wake (h : Covered free waiting woken) : Covered free waiting (thread :: woken) := by
  refine ⟨h.nodup, fun hblocked => ?_⟩
  have henough := h.enough_of_subset (fun other hother => ?_) hblocked
  · rw [List.length_cons]
    omega
  · obtain ⟨hwaits, hasleep⟩ := mem_blocked.mp hother
    exact mem_blocked.mpr ⟨hwaits, fun hwoken => hasleep (List.mem_cons_of_mem thread hwoken)⟩

/-- A resource is given back with a signal. -/
theorem give (h : Covered free waiting woken) (pick : Nat) :
    Covered (free + 1) waiting (signal pick (blocked waiting woken) ++ woken) := by
  refine ⟨h.nodup, fun hblocked => ?_⟩
  by_cases hnone : blocked waiting woken = []
  · rw [hnone] at hblocked
    exact absurd hnone hblocked
  · have henough := h.enough hnone
    rw [List.length_append, length_signal pick hnone]
    omega

end Covered

end Signals
