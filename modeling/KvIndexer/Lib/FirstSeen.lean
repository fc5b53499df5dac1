import Mathlib.Data.Finset.Insert
import Mathlib.Data.List.Nodup

/-!
A loop that skips what it has seen.

`firstSeen key seen xs` goes through `xs` and keeps an element unless its key was seen
before. It keeps one element for each key (`nodup_firstSeen`, `exists_firstSeen`), and a
prefix without repetitions as it is (`prefix_firstSeen`). The element kept for a key is the
first one with it (`eq_of_mem_firstSeen`).
-/

namespace KvIndexer

variable {α κ : Type} [DecidableEq κ]

def firstSeen (key : α → κ) (seen : Finset κ) : List α → List α
  | [] => []
  | x :: xs =>
      if key x ∈ seen then firstSeen key seen xs else x :: firstSeen key (insert (key x) seen) xs

variable {key : α → κ} {seen : Finset κ} {xs ys : List α} {x : α}

theorem mem_of_mem_firstSeen (member : x ∈ firstSeen key seen xs) : x ∈ xs ∧ key x ∉ seen := by
  induction xs generalizing seen with
  | nil => exact absurd member List.not_mem_nil
  | cons y xs ih =>
      rw [firstSeen] at member
      split at member
      · exact ⟨List.mem_cons_of_mem y (ih member).1, (ih member).2⟩
      · rename_i unseen
        rcases List.mem_cons.mp member with rfl | later
        · exact ⟨List.mem_cons_self, unseen⟩
        · obtain ⟨listed, fresh⟩ := ih later
          exact ⟨List.mem_cons_of_mem y listed, fun old => fresh (Finset.mem_insert_of_mem old)⟩

/-- No two elements that are kept have the same key. -/
theorem nodup_firstSeen : ((firstSeen key seen xs).map key).Nodup := by
  induction xs generalizing seen with
  | nil => exact List.nodup_nil
  | cons x xs ih =>
      rw [firstSeen]
      split
      · exact ih
      · rw [List.map_cons, List.nodup_cons]
        refine ⟨fun again => ?_, ih⟩
        obtain ⟨y, kept, same⟩ := List.mem_map.mp again
        refine (mem_of_mem_firstSeen kept).2 ?_
        rw [same]
        exact Finset.mem_insert_self _ _

/-- An element is kept under its key, unless the key was seen. -/
theorem exists_firstSeen (member : x ∈ xs) (unseen : key x ∉ seen) :
    ∃ y ∈ firstSeen key seen xs, key y = key x := by
  induction xs generalizing seen with
  | nil => exact absurd member List.not_mem_nil
  | cons y xs ih =>
      rw [firstSeen]
      rcases List.mem_cons.mp member with rfl | later
      · rw [if_neg unseen]
        exact ⟨x, List.mem_cons_self, rfl⟩
      · split
        · exact ih later unseen
        · by_cases same : key y = key x
          · exact ⟨y, List.mem_cons_self, same⟩
          · have fresh : key x ∉ insert (key y) seen := by
              rw [Finset.mem_insert, not_or]
              exact ⟨Ne.symm same, unseen⟩
            obtain ⟨z, kept, same⟩ := ih later fresh
            exact ⟨z, List.mem_cons_of_mem y kept, same⟩

/-- The element that is kept under a key is the first one. -/
theorem eq_of_mem_firstSeen {front back : List α} {y : α} (fresh : ∀ z ∈ front, key z ≠ key x)
    (kept : y ∈ firstSeen key seen (front ++ x :: back)) (same : key y = key x) : y = x := by
  induction front generalizing seen with
  | nil =>
      rw [List.nil_append, firstSeen] at kept
      split at kept
      · rename_i old
        exact absurd (same ▸ old) (mem_of_mem_firstSeen kept).2
      · rcases List.mem_cons.mp kept with rfl | later
        · rfl
        · refine absurd ?_ (mem_of_mem_firstSeen later).2
          rw [same]
          exact Finset.mem_insert_self _ _
  | cons z front ih =>
      have rest := fun w member => fresh w (List.mem_cons_of_mem z member)
      rw [List.cons_append, firstSeen] at kept
      split at kept
      · exact ih rest kept
      · rcases List.mem_cons.mp kept with rfl | later
        · exact absurd same (fresh y List.mem_cons_self)
        · exact ih rest later

/-- What comes first and has no repetitions is kept. -/
theorem prefix_firstSeen (once : (xs.map key).Nodup) (unseen : ∀ x ∈ xs, key x ∉ seen) :
    xs <+: firstSeen key seen (xs ++ ys) := by
  induction xs generalizing seen with
  | nil => exact List.nil_prefix
  | cons x xs ih =>
      rw [List.map_cons, List.nodup_cons] at once
      rw [List.cons_append, firstSeen, if_neg (unseen x List.mem_cons_self), List.prefix_cons_inj]
      refine ih once.2 fun y member => ?_
      rw [Finset.mem_insert, not_or]
      refine ⟨fun same => once.1 ?_, unseen y (List.mem_cons_of_mem x member)⟩
      rw [← same]
      exact List.mem_map_of_mem member

end KvIndexer
