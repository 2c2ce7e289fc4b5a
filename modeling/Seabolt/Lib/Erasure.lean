import Mathlib.Control.Monad.Writer

/-!
# Results of computations that write

A computation that writes as it goes along, and may be undefined.  Its result forgets what
it has written: `result` takes each step of a computation to a step on results.
-/

namespace Erasure

variable {ω α β : Type}

/-- A computation that writes. -/
abbrev Writing (ω α : Type) := WriterT ω Option α

/-- What a computation returns, without what it writes. -/
def result (x : Writing ω α) : Option α := x.run.map Prod.fst

@[simp] theorem result_tell (w : ω) : result (tell w : Writing ω Unit) = some () := rfl

@[simp] theorem result_ite (c : Prop) [Decidable c] (x y : Writing ω α) :
    result (if c then x else y) = if c then result x else result y :=
  apply_ite result c x y

section Steps

variable [EmptyCollection ω]

@[simp] theorem result_liftM (x : Option α) : result (liftM x : Writing ω α) = x := by
  cases x with
  | none => rfl
  | some a => rfl

variable [Append ω]

/-- A step that is taken on a condition only. -/
def onlyIf (c : Prop) [Decidable c] (x : Writing ω Unit) : Writing ω Unit :=
  if c then x else pure ()

@[simp] theorem result_pure (a : α) : result (pure a : Writing ω α) = some a := rfl

@[simp] theorem result_bind (x : Writing ω α) (f : α → Writing ω β) :
    result (x >>= f) = (result x).bind fun a => result (f a) := by
  unfold result
  cases hx : x.run with
  | none => simp only [WriterT.run_bind, hx, Option.bind_eq_bind, Option.bind_none, Option.map_none]
  | some outcome =>
    simp only [WriterT.run_bind, hx, Option.bind_eq_bind, Option.bind_some, Option.map_some,
      Option.map_eq_map, Option.map_map]
    rfl

/-- A step that returns nothing does not matter, whether or not it is taken. -/
theorem result_onlyIf {x : Writing ω Unit} (h : result x = some ()) (c : Prop) [Decidable c] :
    result (onlyIf c x) = some () := by
  rw [onlyIf, result_ite, h, result_pure, ite_self]

end Steps

end Erasure
