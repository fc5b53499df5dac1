import KvIndexer.Lib.Run
import Mathlib.Data.List.DropRight

/-!
The last entries of a record.

A ring of capacity `n` takes an entry at its end and drops what is too much in front. Whatever
is recorded, it holds the last `n` entries (`run_keepLast`).
-/

namespace KvIndexer

variable {α : Type}

/-- The ring with one more entry. -/
def keepLast (n : Nat) (ring : List α) (x : α) : List α := (ring ++ [x]).rtake n

theorem keepLast_rtake (n : Nat) (recorded : List α) (x : α) :
    keepLast n (recorded.rtake n) x = (recorded ++ [x]).rtake n := by
  rcases Nat.le_total recorded.length n with short | long
  · have whole : recorded.rtake n = recorded := by
      rw [List.rtake, Nat.sub_eq_zero_of_le short, List.drop_zero]
    rw [whole, keepLast]
  · have kept : (recorded ++ [x]).drop (recorded.length - n) = recorded.rtake n ++ [x] := by
      rw [List.rtake, List.drop_append_of_le_length (Nat.sub_le _ _)]
    rw [keepLast, ← kept, List.rtake, List.rtake, List.drop_drop, List.length_drop,
      List.length_append, List.length_singleton]
    exact congrArg (fun n => (recorded ++ [x]).drop n) (by omega)

theorem run_keepLast (n : Nat) (recorded xs : List α) :
    Run.run (keepLast n) (recorded.rtake n) xs = (recorded ++ xs).rtake n := by
  induction xs generalizing recorded with
  | nil => rw [Run.run_nil, List.append_nil]
  | cons x xs ih =>
      rw [Run.run_cons, keepLast_rtake, ih, List.append_assoc, List.singleton_append]

end KvIndexer
