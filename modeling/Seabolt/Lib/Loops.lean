import Mathlib.Tactic

/-!
# Loops that ask their surroundings

`while (test) body`, where every round learns something from outside: the test
and the body of round `n` are given the `n`-th input.  The body may be undefined,
and nothing says that the loop ends.

`Returns` is the meaning of the loop: with enough fuel it ends in a state.
`returns_iff` replaces the loop by the states after so many rounds, and
`after_refines` follows these states through a simpler description of the body.
-/

namespace Loops

variable {ι σ α : Type}

/-- The inputs of the rounds behind the first. -/
def rest (inputs : Nat → ι) : Nat → ι := fun n => inputs (n + 1)

/-- Run the loop with fuel for so many rounds.  The result is `none` when the
fuel does not suffice, and `some none` when a body is undefined. -/
def run (test : ι → σ → Bool) (body : ι → σ → Option σ) :
    Nat → (Nat → ι) → σ → Option (Option σ)
  | 0, inputs, s => if test (inputs 0) s then none else some (some s)
  | fuel + 1, inputs, s =>
    if test (inputs 0) s then
      match body (inputs 0) s with
      | none => some none
      | some s => run test body fuel (rest inputs) s
    else some (some s)

/-- The loop ends in a state. -/
def Returns (test : ι → σ → Bool) (body : ι → σ → Option σ) (inputs : Nat → ι) (s s' : σ) : Prop :=
  ∃ fuel, run test body fuel inputs s = some (some s')

/-- The state after so many rounds, whatever the test says. -/
def after (body : ι → σ → Option σ) : Nat → (Nat → ι) → σ → Option σ
  | 0, _, s => some s
  | n + 1, inputs, s => (body (inputs 0) s).bind (after body n (rest inputs))

variable {test : ι → σ → Bool} {body : ι → σ → Option σ} {inputs : Nat → ι} {s s' : σ}

/-- The loop ends after `n` rounds: the test has held up to there, and does not
hold any more. -/
def EndsAfter (test : ι → σ → Bool) (body : ι → σ → Option σ) (inputs : Nat → ι) (s : σ) (n : Nat)
    (s' : σ) : Prop :=
  after body n inputs s = some s' ∧ test (inputs n) s' = false ∧
    ∀ m < n, ∀ middle, after body m inputs s = some middle → test (inputs m) middle = true

theorem endsAfter_zero : EndsAfter test body inputs s 0 s' ↔ s = s' ∧ test (inputs 0) s = false := by
  constructor
  · rintro ⟨hafter, htest, -⟩
    obtain rfl := Option.some.inj hafter
    exact ⟨rfl, htest⟩
  · rintro ⟨rfl, htest⟩
    exact ⟨rfl, htest, fun m hm => absurd hm (Nat.not_lt_zero m)⟩

/-- One round, and then as many as there are left. -/
theorem endsAfter_succ {n : Nat} : EndsAfter test body inputs s (n + 1) s' ↔
    test (inputs 0) s = true ∧
      ∃ middle, body (inputs 0) s = some middle ∧ EndsAfter test body (rest inputs) middle n s' := by
  constructor
  · rintro ⟨hafter, htest, hbefore⟩
    obtain ⟨middle, hbody, hafter⟩ := Option.bind_eq_some_iff.mp hafter
    refine ⟨hbefore 0 (Nat.succ_pos n) s rfl, middle, hbody, hafter, htest, ?_⟩
    intro m hm state hstate
    refine hbefore (m + 1) (Nat.succ_lt_succ hm) state ?_
    rw [after, hbody]
    exact hstate
  · rintro ⟨hfirst, middle, hbody, hafter, htest, hbefore⟩
    refine ⟨?_, htest, ?_⟩
    · rw [after, hbody]
      exact hafter
    · intro m hm state hstate
      cases m with
      | zero =>
        obtain rfl := Option.some.inj hstate
        exact hfirst
      | succ m =>
        rw [after, hbody] at hstate
        exact hbefore m (Nat.lt_of_succ_lt_succ hm) state hstate

theorem run_eq_some (fuel : Nat) : ∀ (inputs : Nat → ι) (s : σ),
    run test body fuel inputs s = some (some s') ↔
      ∃ n ≤ fuel, EndsAfter test body inputs s n s' := by
  induction fuel with
  | zero =>
    intro inputs s
    cases htest : test (inputs 0) s with
    | true => simp [run, endsAfter_zero, htest]
    | false => simp [run, endsAfter_zero, htest]
  | succ fuel ih =>
    intro inputs s
    constructor
    · intro hrun
      simp only [run] at hrun
      split_ifs at hrun with htest
      · split at hrun
        · cases hrun
        · next middle hbody =>
          obtain ⟨n, hn, hends⟩ := (ih _ _).mp hrun
          exact ⟨n + 1, Nat.succ_le_succ hn, endsAfter_succ.mpr ⟨htest, middle, hbody, hends⟩⟩
      · obtain rfl := Option.some.inj (Option.some.inj hrun)
        exact ⟨0, Nat.zero_le _, endsAfter_zero.mpr ⟨rfl, by simpa using htest⟩⟩
    · rintro ⟨n, hn, hends⟩
      cases n with
      | zero =>
        obtain ⟨rfl, htest⟩ := endsAfter_zero.mp hends
        simp [run, htest]
      | succ n =>
        obtain ⟨htest, middle, hbody, hends⟩ := endsAfter_succ.mp hends
        simp only [run, htest, if_true, hbody]
        exact (ih _ _).mpr ⟨n, Nat.le_of_succ_le_succ hn, hends⟩

/-- The loop returns when it ends after some number of rounds. -/
theorem returns_iff : Returns test body inputs s s' ↔ ∃ n, EndsAfter test body inputs s n s' := by
  constructor
  · rintro ⟨fuel, hrun⟩
    obtain ⟨n, -, hends⟩ := (run_eq_some fuel inputs s).mp hrun
    exact ⟨n, hends⟩
  · rintro ⟨n, hends⟩
    exact ⟨n, (run_eq_some n inputs s).mpr ⟨n, Nat.le_refl n, hends⟩⟩

/-! ## Describing the body -/

/-- The description of the state after so many rounds. -/
def described (describe : ι → α → α) : Nat → (Nat → ι) → α → α
  | 0, _, a => a
  | n + 1, inputs, a => described describe n (rest inputs) (describe (inputs 0) a)

/-- The last round is described by itself. -/
theorem described_succ (describe : ι → α → α) (n : Nat) : ∀ (inputs : Nat → ι) (a : α),
    described describe (n + 1) inputs a = describe (inputs n) (described describe n inputs a) := by
  induction n with
  | zero => exact fun _ _ => rfl
  | succ n ih => exact fun inputs a => ih (rest inputs) (describe (inputs 0) a)

/-- A body that is described by a total function, on the states with an
invariant, is described by it for any number of rounds. -/
theorem after_refines {inv : σ → Prop} {view : σ → α} {describe : ι → α → α}
    (hbody : ∀ i s, inv s → ∃ s', body i s = some s' ∧ inv s' ∧ view s' = describe i (view s))
    (n : Nat) : ∀ (inputs : Nat → ι) (s : σ), inv s →
      ∃ s', after body n inputs s = some s' ∧ inv s' ∧
        view s' = described describe n inputs (view s) := by
  induction n with
  | zero => exact fun _ s hs => ⟨s, rfl, hs, rfl⟩
  | succ n ih =>
    intro inputs s hs
    obtain ⟨middle, hmiddle, hinv, hview⟩ := hbody (inputs 0) s hs
    obtain ⟨s', hafter, hinv', hview'⟩ := ih (rest inputs) middle hinv
    refine ⟨s', ?_, hinv', ?_⟩
    · rw [after, hmiddle]
      exact hafter
    · rw [hview', hview]
      rfl

/-- The loop returns if and only if its test fails for the description of some
number of rounds.  The first such number is the one after which it ends. -/
theorem returns_iff_described {inv : σ → Prop} {view : σ → α} {describe : ι → α → α}
    {check : ι → α → Bool}
    (hbody : ∀ i s, inv s → ∃ s', body i s = some s' ∧ inv s' ∧ view s' = describe i (view s))
    (htest : ∀ i s, test i s = check i (view s)) (hs : inv s) {P : α → Prop} :
    (∃ s', Returns test body inputs s s' ∧ P (view s')) ↔
      ∃ n, check (inputs n) (described describe n inputs (view s)) = false ∧
        (∀ m < n, check (inputs m) (described describe m inputs (view s)) = true) ∧
        P (described describe n inputs (view s)) := by
  constructor
  · rintro ⟨s', hreturns, hP⟩
    obtain ⟨n, hafter, hends, hbefore⟩ := returns_iff.mp hreturns
    obtain ⟨s1, hafter', -, hview⟩ := after_refines hbody n inputs s hs
    rw [hafter, Option.some.injEq] at hafter'
    subst hafter'
    rw [htest, hview] at hends
    refine ⟨n, hends, fun m hm => ?_, hview ▸ hP⟩
    obtain ⟨middle, hmiddle, -, hviewed⟩ := after_refines hbody m inputs s hs
    rw [← hviewed, ← htest]
    exact hbefore m hm middle hmiddle
  · rintro ⟨n, hends, hbefore, hP⟩
    obtain ⟨s', hafter, -, hview⟩ := after_refines hbody n inputs s hs
    refine ⟨s', returns_iff.mpr ⟨n, hafter, ?_, ?_⟩, hview ▸ hP⟩
    · rw [htest, hview]
      exact hends
    · intro m hm middle hmiddle
      obtain ⟨s1, hafter', -, hviewed⟩ := after_refines hbody m inputs s hs
      rw [hmiddle, Option.some.injEq] at hafter'
      subst hafter'
      rw [htest, hviewed]
      exact hbefore m hm

end Loops
