import Seabolt.Lib.Runs

/-!
# The discipline of a readers-writer lock

The calls that a thread makes to a lock that many readers or one writer may
hold, and its calls of code that may take the lock itself.  `follow` says what a
thread holds after its calls, if they are in order: it takes the lock only when
it does not hold it, gives back what it holds, once, and calls other code only
when it holds nothing.
-/

namespace Locks

/-- A call; the write lock may fail to be taken. -/
inductive Call where
  | rdlock
  | rdunlock
  | wrlock (taken : Bool)
  | wrunlock
  | callback
  deriving DecidableEq

/-- What a thread holds. -/
inductive Holding where
  | nothing
  | reading
  | writing
  deriving DecidableEq

/-- What a thread holds after a call that is in order. -/
def Holding.after : Holding → Call → Option Holding
  | nothing, .rdlock => some reading
  | nothing, .wrlock true => some writing
  | nothing, .wrlock false => some nothing
  | nothing, .callback => some nothing
  | reading, .rdunlock => some nothing
  | writing, .wrunlock => some nothing
  | _, _ => none

/-- What a thread holds after calls that are in order. -/
def follow (holding : Holding) : List Call → Option Holding
  | [] => some holding
  | call :: calls => (holding.after call).bind fun holding => follow holding calls

variable {holding : Holding} {calls more : List Call}

theorem follow_append : follow holding (calls ++ more) =
    (follow holding calls).bind fun holding => follow holding more := by
  induction calls generalizing holding with
  | nil => rfl
  | cons call calls ih =>
    show (holding.after call).bind _ = ((holding.after call).bind _).bind _
    rw [Option.bind_assoc]
    congr 1
    funext next
    exact ih

section Runs

variable {ι σ β τ : Type} [DecidableEq τ]

/-- The calls of one thread in a run, given whose inputs are whose and which
calls an output reports. -/
def callsOf (who : ι → τ) (calls : β → List Call) (thread : τ) (inputs : List ι)
    (outputs : List β) : List Call :=
  (inputs.zip outputs).flatMap fun made =>
    if who made.1 = thread then calls made.2 else []

/-- If a thread's calls are in order in every step of its own, and it holds what
it holds in the steps of others, its calls are in order in every run. -/
theorem follows_of_run {step : Runs.Step ι σ β} {ok : ι → Prop} {inv : σ → Prop} {who : ι → τ}
    {calls : β → List Call} {holds : τ → σ → Holding}
    (hstep : ∀ i s b s', inv s → ok i → step i s = some (b, s') →
      inv s' ∧ follow (holds (who i) s) (calls b) = some (holds (who i) s') ∧
        ∀ other ≠ who i, holds other s' = holds other s)
    (is : List ι) : ∀ {s bs s'}, inv s → (∀ i ∈ is, ok i) → Runs.run step is s = some (bs, s') →
      ∀ thread, follow (holds thread s) (callsOf who calls thread is bs) = some (holds thread s') := by
  induction is with
  | nil =>
    intro s bs s' hs hok hrun thread
    obtain ⟨rfl, rfl⟩ := Prod.mk.inj (Option.some.inj hrun)
    rfl
  | cons i is ih =>
    intro s bs s' hs hok hrun thread
    obtain ⟨b, s1, bs1, hb, hrest, rfl⟩ := Runs.run_uncons hrun
    obtain ⟨hs1, hown, hothers⟩ := hstep i s b s1 hs (hok i List.mem_cons_self) hb
    have hlater := ih hs1 (fun j hj => hok j (List.mem_cons_of_mem i hj)) hrest thread
    unfold callsOf at hlater ⊢
    rw [List.zip_cons_cons, List.flatMap_cons, follow_append]
    dsimp only
    by_cases hwho : who i = thread
    · subst hwho
      rw [if_pos rfl, hown, Option.bind_some]
      exact hlater
    · rw [if_neg hwho, ← hothers thread (Ne.symm hwho)]
      exact hlater

end Runs

end Locks
