import Mathlib.Tactic

/-!
# Waiting for what blocked threads hold

Threads wait for resources, and other threads hold them.  A thread that is
blocked gives nothing back, so a thread waits in vain for a resource that is held
by blocked threads only.

`Live` says that this does not happen.  The rules below say what keeps it: a
thread that begins to wait finds somebody who can give the resource back, and a
thread that blocks, or gives a resource back, leaves somebody behind who can.
-/

namespace Contention

variable {τ ρ : Type} {waits waits' holds holds' : τ → ρ → Prop} {blocked blocked' : τ → Prop}
  {thread : τ} {resource : ρ}

/-- Somebody waits for a resource that is held, but by blocked threads only. -/
def Stuck (waits holds : τ → ρ → Prop) (blocked : τ → Prop) : Prop :=
  ∃ resource, (∃ thread, waits thread resource) ∧ (∃ thread, holds thread resource) ∧
    ∀ thread, holds thread resource → blocked thread

/-- If anybody holds the resource, then somebody does who is not blocked. -/
def Served (holds : τ → ρ → Prop) (blocked : τ → Prop) (resource : ρ) : Prop :=
  (∃ thread, holds thread resource) → ∃ thread, holds thread resource ∧ ¬blocked thread

/-- Whatever anybody waits for can be given back. -/
def Live (waits holds : τ → ρ → Prop) (blocked : τ → Prop) : Prop :=
  ∀ thread resource, waits thread resource → Served holds blocked resource

theorem Live.not_stuck (h : Live waits holds blocked) : ¬Stuck waits holds blocked := by
  rintro ⟨resource, ⟨thread, hwaits⟩, hheld, hblocked⟩
  obtain ⟨other, hother, hfree⟩ := h thread resource hwaits hheld
  exact hfree (hblocked other hother)

theorem live_of_nobody (h : ∀ thread resource, ¬waits thread resource) :
    Live waits holds blocked :=
  fun thread resource hwaits => absurd hwaits (h thread resource)

/-- Threads stop waiting. -/
theorem Live.leave (h : Live waits holds blocked)
    (hwaits : ∀ thread resource, waits' thread resource → waits thread resource) :
    Live waits' holds blocked :=
  fun thread resource hwaits' => h thread resource (hwaits thread resource hwaits')

/-- A thread begins to wait. -/
theorem Live.wait (h : Live waits holds blocked) (hserved : Served holds blocked resource)
    (hwaits : ∀ thread other, waits' thread other → waits thread other ∨ other = resource) :
    Live waits' holds blocked := by
  intro thread other hwaits'
  rcases hwaits thread other hwaits' with hbefore | rfl
  · exact h thread other hbefore
  · exact hserved

/-- A thread that blocks is not the last one that could give something back. -/
theorem Live.block (h : Live waits holds blocked)
    (hblocked : ∀ other, blocked' other → blocked other ∨ other = thread)
    (hothers : ∀ waiting resource, waits waiting resource → holds thread resource →
      ∃ other ≠ thread, holds other resource ∧ ¬blocked other) :
    Live waits holds blocked' := by
  intro waiting resource hwaits hheld
  have hstays : ∀ other ≠ thread, ¬blocked other → ¬blocked' other :=
    fun other hne hfree hafter => (hblocked other hafter).elim hfree hne
  obtain ⟨other, hother, hfree⟩ := h waiting resource hwaits hheld
  by_cases heq : other = thread
  · subst heq
    obtain ⟨another, hne, hanother, hfree'⟩ := hothers waiting resource hwaits hother
    exact ⟨another, hanother, hstays another hne hfree'⟩
  · exact ⟨other, hother, hstays other heq hfree⟩

/-- A thread that is not blocked takes a resource. -/
theorem Live.take (h : Live waits holds blocked)
    (hkeeps : ∀ other resource, holds other resource → holds' other resource)
    (hnew : ∀ other resource, holds' other resource → holds other resource ∨ ¬blocked other) :
    Live waits holds' blocked := by
  rintro waiting resource hwaits ⟨other, hother⟩
  rcases hnew other resource hother with hbefore | hfree
  · obtain ⟨another, hanother, hfree⟩ := h waiting resource hwaits ⟨other, hbefore⟩
    exact ⟨another, hkeeps another resource hanother, hfree⟩
  · exact ⟨other, hother, hfree⟩

/-- A thread gives a resource back.  Whoever waits for it then is served by
another thread. -/
theorem Live.give (h : Live waits holds blocked)
    (hothers : ∀ other ≠ resource, ∀ thread, holds' thread other ↔ holds thread other)
    (hwaits : ∀ thread other, waits' thread other → waits thread other)
    (hserved : ∀ thread, waits' thread resource → Served holds' blocked resource) :
    Live waits' holds' blocked := by
  intro waiting other hwaits'
  by_cases heq : other = resource
  · subst heq
    exact hserved waiting hwaits'
  · rintro ⟨thread, hheld⟩
    obtain ⟨another, hanother, hfree⟩ :=
      h waiting other (hwaits waiting other hwaits') ⟨thread, (hothers other heq thread).mp hheld⟩
    exact ⟨another, (hothers other heq another).mpr hanother, hfree⟩

end Contention
