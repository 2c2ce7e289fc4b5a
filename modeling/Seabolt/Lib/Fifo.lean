import Seabolt.Lib.Runs

/-!
# First-in first-out queues

A queue takes items at its end and gives them out at its front.  A request for more
items than the queue holds is refused and changes nothing.

What a queue held at first and what was put into it since are what was taken out of it
and what it still holds, in this order (`conservation`).
-/

namespace Fifo

variable {α : Type}

/-- What is asked of a queue. -/
inductive Op (α : Type) where
  | put (items : List α)
  | take (n : Nat)
  | look (n : Nat)
  | rest
  deriving Repr, DecidableEq

/-- One request: the items that it gives out, or `none` when it is refused, and the
queue after it. -/
def step : Runs.Step (Op α) (List α) (Option (List α))
  | .put items, queue => some (some [], queue ++ items)
  | .take n, queue =>
    if queue.length < n then some (none, queue) else some (some (queue.take n), queue.drop n)
  | .look n, queue =>
    if queue.length < n then some (none, queue) else some (some (queue.take n), queue)
  | .rest, queue => some (some [], queue)

/-- The items that a request puts into the queue. -/
def Op.given : Op α → List α
  | .put items => items
  | _ => []

/-- The items that a request has taken out of the queue, by its reply. -/
def Op.taken : Op α → Option (List α) → List α
  | .take _, some items => items
  | _, _ => []

/-- All that is put into the queue. -/
def puts (ops : List (Op α)) : List α := ops.flatMap Op.given

/-- All that is taken out of the queue. -/
def takes (ops : List (Op α)) (replies : List (Option (List α))) : List α :=
  (List.zipWith Op.taken ops replies).flatten

variable {op : Op α} {queue queue' : List α} {reply : Option (List α)}

theorem step_take_append (items rest : List α) :
    step (.take items.length) (items ++ rest) = some (some items, rest) := by
  rw [step, if_neg (by simp), List.take_left, List.drop_left]

theorem step_look_append (items rest : List α) :
    step (.look items.length) (items ++ rest) = some (some items, items ++ rest) := by
  rw [step, if_neg (by simp), List.take_left]

/-- What one request does to the items. -/
theorem step_conserves (h : step op queue = some (reply, queue')) :
    queue ++ op.given = op.taken reply ++ queue' := by
  cases op with
  | put items =>
    obtain ⟨-, rfl⟩ := Prod.mk.inj (Option.some.inj h)
    rfl
  | take n =>
    rw [step] at h
    by_cases hn : queue.length < n
    · rw [if_pos hn] at h
      obtain ⟨rfl, rfl⟩ := Prod.mk.inj (Option.some.inj h)
      exact List.append_nil queue
    · rw [if_neg hn] at h
      obtain ⟨rfl, rfl⟩ := Prod.mk.inj (Option.some.inj h)
      simp [Op.given, Op.taken]
  | look n =>
    rw [step] at h
    by_cases hn : queue.length < n
    · rw [if_pos hn] at h
      obtain ⟨rfl, rfl⟩ := Prod.mk.inj (Option.some.inj h)
      exact List.append_nil queue
    · rw [if_neg hn] at h
      obtain ⟨rfl, rfl⟩ := Prod.mk.inj (Option.some.inj h)
      exact List.append_nil queue
  | rest =>
    obtain ⟨-, rfl⟩ := Prod.mk.inj (Option.some.inj h)
    exact List.append_nil queue

/-- Nothing is lost, made up or put out of order. -/
theorem conservation (ops : List (Op α)) :
    ∀ {queue queue' : List α} {replies : List (Option (List α))},
      Runs.run step ops queue = some (replies, queue') →
      queue ++ puts ops = takes ops replies ++ queue' := by
  induction ops with
  | nil =>
    intro queue queue' replies hrun
    obtain ⟨rfl, rfl⟩ := Prod.mk.inj (Option.some.inj hrun)
    exact List.append_nil queue
  | cons op ops ih =>
    intro queue queue' replies hrun
    obtain ⟨reply, mid, replies, hstep, hrest, rfl⟩ := Runs.run_uncons hrun
    have hfirst := step_conserves hstep
    have hrest' := ih hrest
    calc queue ++ puts (op :: ops)
        = (queue ++ op.given) ++ puts ops := by simp [puts]
      _ = op.taken reply ++ (mid ++ puts ops) := by rw [hfirst, List.append_assoc]
      _ = takes (op :: ops) (reply :: replies) ++ queue' := by rw [hrest']; simp [takes]

end Fifo
