import Mathlib.Data.List.ReduceOption
import Mathlib.Tactic

/-!
# Streams in pieces

A source hands out a stream piece by piece.  A reader that asks for `n` items
gets at most `n`, all of them out of the first piece; what it leaves of that piece
comes next.

`Reads` is a sequence of attempts to read, some of which may fail and then change
nothing.  What the attempts have returned and what is left make up the stream
(`Reads.flatten`).
-/

namespace Pieces

variable {α : Type}

/-- Read `n` items: what is returned, and the pieces that are left. -/
def read (n : Nat) : List (List α) → Option (List α × List (List α))
  | [] => none
  | piece :: pieces =>
    some (piece.take n, if piece.length ≤ n then pieces else piece.drop n :: pieces)

/-- Attempts to read: the numbers of items that are asked for, and what each
attempt returns. -/
inductive Reads : List Nat → List (List α) → List (Option (List α)) → List (List α) → Prop where
  | nil (pieces : List (List α)) : Reads [] pieces [] pieces
  | miss (n : Nat) {ns : List Nat} {pieces rest : List (List α)} {results : List (Option (List α))}
      (h : Reads ns pieces results rest) : Reads (n :: ns) pieces (none :: results) rest
  | take {n : Nat} {ns : List Nat} {pieces left rest : List (List α)} {items : List α}
      {results : List (Option (List α))} (hread : read n pieces = some (items, left))
      (h : Reads ns left results rest) : Reads (n :: ns) pieces (some items :: results) rest

variable {n : Nat} {ns : List Nat} {pieces left rest : List (List α)} {items : List α}
  {results : List (Option (List α))}

/-- A read takes the first items of the stream. -/
theorem read_flatten (h : read n pieces = some (items, left)) :
    items ++ left.flatten = pieces.flatten := by
  cases pieces with
  | nil => cases h
  | cons piece pieces =>
    obtain ⟨rfl, rfl⟩ := Prod.mk.inj (Option.some.inj h)
    split_ifs with hle
    · rw [List.take_of_length_le hle, List.flatten_cons]
    · rw [List.flatten_cons, List.flatten_cons, ← List.append_assoc, List.take_append_drop]

/-- What is returned and what is left make up the stream. -/
theorem Reads.flatten (h : Reads ns pieces results rest) :
    results.reduceOption.flatten ++ rest.flatten = pieces.flatten := by
  induction h with
  | nil => rfl
  | miss n h ih => rwa [List.reduceOption_cons_of_none]
  | take hread h ih =>
    rw [List.reduceOption_cons_of_some, List.flatten_cons, List.append_assoc, ih,
      read_flatten hread]

end Pieces
