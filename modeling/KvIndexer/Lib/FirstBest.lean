import Mathlib.Data.List.Induction

/-!
A scan that keeps the first greatest element.

The scan starts from a threshold and takes every element whose score exceeds the best so
far. `Leads` says of an element, without the scan, that its score exceeds the threshold
and that no score exceeds it; the scan finds the first such element (`scan_eq_find`). The
scores need a strict order that is total above the threshold. A loop that writes down what
it takes, over what it took before, is such a scan (`foldl_write`).
-/

namespace KvIndexer.FirstBest

variable {α S : Type}

section Scan

variable (lt : S → S → Prop) [DecidableRel lt] (score : α → S)

/-- Take `a` if its score exceeds the best so far. -/
def scanStep (best : S × Option α) (a : α) : S × Option α :=
  if lt best.1 (score a) then (score a, some a) else best

/-- The best score and the element it belongs to, none if no score exceeds `start`. -/
def scan (start : S) (xs : List α) : S × Option α := xs.foldl (scanStep lt score) (start, none)

theorem scan_concat (start : S) (xs : List α) (a : α) :
    scan lt score start (xs ++ [a]) = scanStep lt score (scan lt score start xs) a := by
  rw [scan, List.foldl_append]
  rfl

/-- The loop over a scan that writes down the element it takes. -/
theorem foldl_write {D : Type} (write : D → α → D)
    (overwrites : ∀ d a b, write (write d a) b = write d b) (d : D) (xs : List α)
    (best : S × Option α) :
    xs.foldl (fun best a => if lt best.1 (score a) then (score a, write best.2 a) else best)
        (best.1, best.2.elim d (write d)) =
      let last := xs.foldl (scanStep lt score) best
      (last.1, last.2.elim d (write d)) := by
  induction xs generalizing best with
  | nil => rfl
  | cons a xs ih =>
      rw [List.foldl_cons, List.foldl_cons, ← ih, scanStep]
      congr 1
      split
      · cases best.2 with
        | none => rfl
        | some b => exact congrArg (Prod.mk _) (overwrites d b a)
      · rfl

end Scan

/-- The score of `a` exceeds the threshold, and no score of `xs` exceeds it. -/
def Leads (lt : S → S → Prop) (score : α → S) (start : S) (xs : List α) (a : α) : Prop :=
  lt start (score a) ∧ ∀ x ∈ xs, ¬ lt (score a) (score x)

instance (lt : S → S → Prop) [DecidableRel lt] (score : α → S) (start : S) (xs : List α) (a : α) :
    Decidable (Leads lt score start xs a) :=
  inferInstanceAs (Decidable (_ ∧ _))

section Leads

variable {lt : S → S → Prop} {score : α → S} {start : S}

theorem leads_concat {xs : List α} {a b : α} :
    Leads lt score start (xs ++ [a]) b ↔
      Leads lt score start xs b ∧ ¬ lt (score b) (score a) := by
  simp only [Leads, List.forall_mem_append, List.forall_mem_singleton, and_assoc]

end Leads

/-- What a scan of `xs` can end in: nothing exceeds the threshold, or `b` is the first
element that leads. -/
inductive Chosen (lt : S → S → Prop) (score : α → S) (start : S) (xs : List α) :
    S × Option α → Prop
  | nothing : (∀ x ∈ xs, ¬ lt start (score x)) → Chosen lt score start xs (start, none)
  | first {pre : List α} {b : α} {post : List α} : xs = pre ++ b :: post →
      Leads lt score start xs b → (∀ x ∈ pre, ¬ Leads lt score start xs x) →
      Chosen lt score start xs (score b, some b)

section Ordered

variable {lt : S → S → Prop} [DecidableRel lt] {score : α → S} {start : S}
  (irrefl : ∀ s, ¬ lt s s) (trans : ∀ s t u, lt s t → lt t u → lt s u)
  (cotrans : ∀ s t u, lt start t → lt s u → lt s t ∨ lt t u)

include irrefl trans cotrans

/-- One more element keeps the choice right. -/
theorem Chosen.concat {xs : List α} {best : S × Option α} (a : α)
    (chosen : Chosen lt score start xs best) :
    Chosen lt score start (xs ++ [a]) (scanStep lt score best a) := by
  cases chosen with
  | nothing low =>
      unfold scanStep
      split
      · rename_i above
        refine .first (@rfl _ (xs ++ [a])) (leads_concat.mpr ⟨⟨above, fun x member more => ?_⟩,
          irrefl _⟩) fun x member leads => low x member leads.1
        exact low x member (trans _ _ _ above more)
      · rename_i notAbove
        refine .nothing fun x member => ?_
        rcases List.mem_append.mp member with old | new
        · exact low x old
        · rwa [List.mem_singleton.mp new]
  | @first pre b post split leads earlier =>
      unfold scanStep
      split
      · -- `a` exceeds the leader, so it exceeds every element above the threshold
        rename_i more
        have above : lt start (score a) := trans _ _ _ leads.1 more
        refine .first (@rfl _ (xs ++ [a])) (leads_concat.mpr ⟨⟨above, fun x member beyond => ?_⟩,
          irrefl _⟩) fun x member leads' => ?_
        · exact leads.2 x member (trans _ _ _ more beyond)
        · rcases cotrans _ (score x) _ leads'.1 more with beyond | below
          · exact leads.2 x member beyond
          · exact (leads_concat.mp leads').2 below
      · rename_i notMore
        have split' : xs ++ [a] = pre ++ b :: (post ++ [a]) := by simp [split]
        refine .first split' (leads_concat.mpr ⟨leads, notMore⟩) ?_
        exact fun x member leads' => earlier x member (leads_concat.mp leads').1

theorem scan_chosen (xs : List α) : Chosen lt score start xs (scan lt score start xs) := by
  induction xs using List.reverseRecOn with
  | nil => exact .nothing (by simp)
  | append_singleton xs a ih =>
      rw [scan_concat]
      exact ih.concat irrefl trans cotrans a

/-- The scan finds the first element that leads. -/
theorem scan_eq_find (xs : List α) :
    (scan lt score start xs).2 = xs.find? (Leads lt score start xs ·) := by
  have chosen : Chosen lt score start xs (scan lt score start xs) :=
    scan_chosen irrefl trans cotrans xs
  generalize scan lt score start xs = best at chosen
  cases chosen with
  | nothing low =>
      refine (List.find?_eq_none.mpr fun x member leads => ?_).symm
      exact low x member (of_decide_eq_true leads).1
  | @first pre b post split leads earlier =>
      refine (List.find?_eq_some_iff_append.mpr ⟨?_, pre, post, split, ?_⟩).symm
      · exact decide_eq_true leads
      · exact fun x member => by simpa using earlier x member

/-- If no element leads, no score exceeds the threshold. -/
theorem low_of_find?_eq_none {xs : List α}
    (nothing : xs.find? (Leads lt score start xs ·) = none) : ∀ x ∈ xs, ¬ lt start (score x) := by
  have chosen : Chosen lt score start xs (scan lt score start xs) :=
    scan_chosen irrefl trans cotrans xs
  have found := @scan_eq_find α S lt _ score start irrefl trans cotrans xs
  rw [nothing] at found
  generalize scan lt score start xs = best at chosen found
  cases chosen with
  | nothing low => exact low
  | first _ _ _ => cases found

end Ordered

end KvIndexer.FirstBest
