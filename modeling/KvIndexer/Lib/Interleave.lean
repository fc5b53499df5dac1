import KvIndexer.Lib.Run

/-!
Interleavings of components that do not touch each other.

Each operation of a schedule belongs to one component (`tag`), and changes that component's
part of the state only (`Parted`). A part then cannot tell the schedule from the operations of
its own component, taken alone:

* `Parted.part_run`: the part after the schedule is what the component's own operations make
  of it;
* `Parted.eachStep`: a condition that looks at the part of the operation's component holds
  throughout the schedule if it holds throughout the operations of each component;
* `exists_labels`: labels that each component has for its own operations, in order, can be put
  to the operations of the schedule.
-/

namespace KvIndexer.Interleave

open Run

variable {σ τ α β ι : Type} [DecidableEq ι] {tag : α → ι}

/-- The operations of component `i`, in their order. -/
def own (tag : α → ι) (i : ι) (ops : List α) : List α := ops.filter fun a => tag a = i

@[simp] theorem own_nil (i : ι) : own tag i [] = [] := rfl

theorem own_cons (i : ι) (a : α) (ops : List α) :
    own tag i (a :: ops) = if tag a = i then a :: own tag i ops else own tag i ops := by
  simp only [own, List.filter_cons, decide_eq_true_eq]

theorem own_concat (i : ι) (ops : List α) (a : α) :
    own tag i (ops ++ [a]) = if tag a = i then own tag i ops ++ [a] else own tag i ops := by
  rw [own, List.filter_append, ← own, ← own, own_cons, own_nil]
  split
  · rfl
  · exact List.append_nil _

theorem mem_own {i : ι} {a : α} {ops : List α} : a ∈ own tag i ops ↔ a ∈ ops ∧ tag a = i := by
  rw [own, List.mem_filter, decide_eq_true_eq]

/-- Picking commutes with a relabelling that keeps the tags. -/
theorem own_map (f : β → α) (i : ι) (ops : List β) :
    own tag i (ops.map f) = (own (fun b => tag (f b)) i ops).map f := by
  rw [own, List.filter_map]
  rfl

/-- Each operation changes the part of its own component, in a way that only looks at it. -/
structure Parted (tag : α → ι) (part : ι → σ → τ) (step : σ → α → σ) (ownStep : τ → α → τ) :
    Prop where
  mine : ∀ s a, part (tag a) (step s a) = ownStep (part (tag a) s) a
  others : ∀ s a i, tag a ≠ i → part i (step s a) = part i s

namespace Parted

variable {part : ι → σ → τ} {step : σ → α → σ} {ownStep : τ → α → τ}

theorem part_run (parted : Parted tag part step ownStep) (s : σ) (ops : List α) (i : ι) :
    part i (run step s ops) = run ownStep (part i s) (own tag i ops) := by
  induction ops generalizing s with
  | nil => rfl
  | cons a ops ih =>
      rw [run_cons, ih, own_cons]
      by_cases mine : tag a = i
      · subst mine
        rw [if_pos rfl, run_cons, parted.mine]
      · rw [if_neg mine, parted.others s a i mine]

theorem eachStep (parted : Parted tag part step ownStep) {C : τ → α → Prop} {s : σ}
    {ops : List α} (each : ∀ i, EachStep ownStep C (part i s) (own tag i ops)) :
    EachStep step (fun s a => C (part (tag a) s) a) s ops := by
  induction ops generalizing s with
  | nil => trivial
  | cons a ops ih =>
      have first := each (tag a)
      rw [own_cons, if_pos rfl] at first
      refine ⟨first.1, ih fun i => ?_⟩
      by_cases mine : tag a = i
      · subst mine
        rw [parted.mine]
        exact first.2
      · have rest := each i
        rw [own_cons, if_neg mine] at rest
        rwa [parted.others s a i mine]

end Parted

/-- Labels for the operations of a schedule, each component's own in order. -/
theorem exists_labels (tag : α → ι) (labels : ι → List β) {ops : List α}
    (enough : ∀ i, (own tag i ops).length ≤ (labels i).length) :
    ∃ labelled : List (α × β), labelled.map Prod.fst = ops ∧
      ∀ i, (own (fun l => tag l.1) i labelled).map Prod.snd =
        (labels i).take (own tag i ops).length := by
  induction ops using List.reverseRecOn with
  | nil => exact ⟨[], rfl, fun i => rfl⟩
  | append_singleton ops a ih =>
      have before : ∀ i, (own tag i ops).length ≤ (labels i).length := by
        intro i
        refine le_trans ?_ (enough i)
        rw [own_concat]
        split
        · rw [List.length_append]
          exact Nat.le_add_right _ _
        · exact le_rfl
      have room : (own tag (tag a) ops).length < (labels (tag a)).length := by
        have whole := enough (tag a)
        rwa [own_concat, if_pos rfl, List.length_append] at whole
      obtain ⟨labelled, same, ordered⟩ := ih before
      refine ⟨labelled ++ [(a, (labels (tag a))[(own tag (tag a) ops).length])], ?_, fun i => ?_⟩
      · rw [List.map_append, same]
        rfl
      · rw [own_concat, own_concat]
        by_cases mine : tag a = i
        · subst mine
          rw [if_pos rfl, if_pos rfl, List.map_append, ordered, List.length_append,
            List.length_singleton, List.take_succ_eq_append_getElem room]
          rfl
        · rw [if_neg mine, if_neg mine, ordered]

end KvIndexer.Interleave
