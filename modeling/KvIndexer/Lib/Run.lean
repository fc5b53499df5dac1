import Mathlib.Data.List.Infix

/-!
Runs of a deterministic state machine.

`run step s ops` applies a list of operations in order. `EachStep` says that a
condition on the state and the operation holds at every step of the run; it is
the form in which a conditional run result takes its condition. Four rules carry
the induction over a run once and for all:

* `run_invariant`: a property kept by every step that meets the condition holds
  at the end of the run;
* `always_iff_eachStep`: when the condition says of each step whether it keeps a
  property, it says of each run whether the property holds throughout;
* `run_simulation`: two machines, one of which skips some operations, stay
  related if each single step keeps them related;
* `lastWrite`: a fact that steps can set and clear holds at the end exactly when
  the last step that touched it set it.
-/

namespace KvIndexer.Run

variable {σ τ α : Type}

/-- The state after the operations `ops`, in order. -/
def run (step : σ → α → σ) (s : σ) (ops : List α) : σ := ops.foldl step s

section Machine

variable (step : σ → α → σ)

@[simp] theorem run_nil (s : σ) : run step s [] = s := rfl

@[simp] theorem run_cons (s : σ) (a : α) (ops : List α) :
    run step s (a :: ops) = run step (step s a) ops := rfl

theorem run_append (s : σ) (pre post : List α) :
    run step s (pre ++ post) = run step (run step s pre) post :=
  List.foldl_append

@[simp] theorem run_concat (s : σ) (ops : List α) (a : α) :
    run step s (ops ++ [a]) = step (run step s ops) a := by
  rw [run_append, run_cons, run_nil]

/-- Condition `C` holds of the state and the operation at every step of the run. -/
def EachStep (C : σ → α → Prop) : σ → List α → Prop
  | _, [] => True
  | s, a :: ops => C s a ∧ EachStep C (step s a) ops

variable {step} {C : σ → α → Prop}

instance instDecidableEachStep [∀ s a, Decidable (C s a)] (s : σ) (ops : List α) :
    Decidable (EachStep step C s ops) :=
  match ops with
  | [] => .isTrue trivial
  | a :: ops =>
      have : Decidable (EachStep step C (step s a) ops) := instDecidableEachStep (step s a) ops
      inferInstanceAs (Decidable (C s a ∧ EachStep step C (step s a) ops))

theorem eachStep_append {s : σ} {pre post : List α} :
    EachStep step C s (pre ++ post) ↔
      EachStep step C s pre ∧ EachStep step C (run step s pre) post := by
  induction pre generalizing s with
  | nil => simp [EachStep]
  | cons a pre ih => simp only [List.cons_append, EachStep, ih, run_cons, and_assoc]

theorem eachStep_concat {s : σ} {ops : List α} {a : α} :
    EachStep step C s (ops ++ [a]) ↔ EachStep step C s ops ∧ C (run step s ops) a := by
  rw [eachStep_append]
  simp [EachStep]

/-- The condition, read at an arbitrary position of the run. -/
theorem eachStep_iff {s : σ} {ops : List α} :
    EachStep step C s ops ↔ ∀ pre a post, ops = pre ++ a :: post → C (run step s pre) a := by
  constructor
  · rintro each pre a post rfl
    exact (eachStep_append.mp each).2.1
  · intro each
    induction ops generalizing s with
    | nil => trivial
    | cons a ops ih =>
        refine ⟨each [] a ops rfl, ih fun pre b post split => ?_⟩
        exact each (a :: pre) b post (congrArg (a :: ·) split)

/-- A run that breaks the condition breaks it for a first time. -/
theorem exists_first_failure {s : σ} {ops : List α} (fails : ¬ EachStep step C s ops) :
    ∃ pre a post, ops = pre ++ a :: post ∧ EachStep step C s pre ∧ ¬ C (run step s pre) a := by
  induction ops generalizing s with
  | nil => exact absurd trivial fails
  | cons a ops ih =>
      by_cases here : C s a
      · obtain ⟨pre, b, post, split, each, breaks⟩ := ih fun each => fails ⟨here, each⟩
        exact ⟨a :: pre, b, post, congrArg (a :: ·) split, ⟨here, each⟩, breaks⟩
      · exact ⟨[], a, ops, rfl, trivial, here⟩

/-- The invariant rule, for runs whose steps meet `C`. -/
theorem run_invariant {Inv : σ → Prop} (kept : ∀ s a, C s a → Inv s → Inv (step s a))
    {s : σ} {ops : List α} (start : Inv s) (each : EachStep step C s ops) :
    Inv (run step s ops) := by
  induction ops generalizing s with
  | nil => exact start
  | cons a ops ih => exact ih (kept s a each.1 start) each.2

/-- A property holds in every state of a run exactly when each step meets the condition
under which that step keeps it. -/
theorem always_iff_eachStep {Good P : σ → Prop} (good : ∀ s a, Good s → Good (step s a))
    (exact : ∀ s a, Good s → P s → (P (step s a) ↔ C s a)) {s : σ} (start : Good s) (holds : P s)
    (ops : List α) :
    (∀ pre post, ops = pre ++ post → P (run step s pre)) ↔ EachStep step C s ops := by
  induction ops generalizing s with
  | nil =>
      refine iff_of_true (fun pre post split => ?_) trivial
      obtain ⟨rfl, -⟩ := List.append_eq_nil_iff.mp split.symm
      exact holds
  | cons a ops ih =>
      have next := exact s a start holds
      constructor
      · intro always
        have kept : P (step s a) := always [a] ops rfl
        refine ⟨next.mp kept, (ih (good s a start) kept).mp fun pre post split => ?_⟩
        exact always (a :: pre) post (congrArg (a :: ·) split)
      · rintro ⟨here, rest⟩ pre post split
        rcases List.cons_eq_append_iff.mp split with ⟨rfl, -⟩ | ⟨front, rfl, rfl⟩
        · exact holds
        · exact (ih (good s a start) (next.mpr here)).mpr rest front post rfl

/-- A condition on the operation alone holds at each step when it holds of each
operation. -/
theorem eachStep_forall {p : α → Prop} {s : σ} {ops : List α} :
    EachStep step (fun _ a => p a) s ops ↔ ∀ a ∈ ops, p a := by
  induction ops generalizing s with
  | nil => simp [EachStep]
  | cons a ops ih => rw [EachStep, ih, List.forall_mem_cons]

end Machine

/-- Where an element can stand in a list that grew by one at the end. -/
theorem split_concat {xs pre post : List α} {x y : α} (split : xs ++ [y] = pre ++ x :: post) :
    (post = [] ∧ pre = xs ∧ x = y) ∨ ∃ front, post = front ++ [y] ∧ xs = pre ++ x :: front := by
  rcases List.eq_nil_or_concat post with rfl | ⟨front, z, rfl⟩
  · obtain ⟨rfl, same⟩ := List.append_inj' split rfl
    exact Or.inl ⟨rfl, rfl, (List.singleton_inj.mp same).symm⟩
  · have whole : xs ++ [y] = (pre ++ x :: front) ++ [z] := by
      rw [split]
      simp
    obtain ⟨rfl, same⟩ := List.append_inj' whole rfl
    obtain rfl := List.singleton_inj.mp same
    exact Or.inr ⟨front, List.concat_eq_append, rfl⟩

/-- What a prefix of a list that grew by one at the end can be. -/
theorem prefix_concat {xs pre post : List α} {y : α} (split : xs ++ [y] = pre ++ post) :
    pre = xs ++ [y] ∨ ∃ front, xs = pre ++ front := by
  rcases List.eq_nil_or_concat post with rfl | ⟨front, z, rfl⟩
  · exact Or.inl (by simpa using split.symm)
  · have whole : xs ++ [y] = (pre ++ front) ++ [z] := by simpa using split
    exact Or.inr ⟨front, (List.append_inj' whole rfl).1⟩

/-- Of the elements with a property, one is the last. -/
theorem exists_last {p : α → Prop} {xs : List α} (some : ∃ x ∈ xs, p x) :
    ∃ pre x post, xs = pre ++ x :: post ∧ p x ∧ ∀ y ∈ post, ¬ p y := by
  induction xs using List.reverseRecOn with
  | nil => simp at some
  | append_singleton xs y ih =>
      by_cases last : p y
      · exact ⟨xs, y, [], rfl, last, by simp⟩
      · obtain ⟨x, member, holds⟩ := some
        have earlier : x ∈ xs := by
          rcases List.mem_append.mp member with inFront | atEnd
          · exact inFront
          · obtain rfl : x = y := by simpa using atEnd
            exact absurd holds last
        obtain ⟨pre, x, post, rfl, holds, none⟩ := ih ⟨x, earlier, holds⟩
        refine ⟨pre, x, post ++ [y], by simp, holds, fun z member => ?_⟩
        rcases List.mem_append.mp member with inPost | atEnd
        · exact none z inPost
        · obtain rfl : z = y := by simpa using atEnd
          exact last

/-! ### Two machines -/

/-- Two-run simulation with stuttering: the second machine runs only the
operations selected by `keep`. -/
theorem run_simulation {step₁ : σ → α → σ} {step₂ : τ → α → τ} {keep : α → Bool}
    {C : σ → α → Prop} {R : σ → τ → Prop}
    (both : ∀ s t a, keep a = true → C s a → R s t → R (step₁ s a) (step₂ t a))
    (left : ∀ s t a, keep a = false → C s a → R s t → R (step₁ s a) t)
    {s : σ} {t : τ} {ops : List α} (start : R s t) (each : EachStep step₁ C s ops) :
    R (run step₁ s ops) (run step₂ t (ops.filter keep)) := by
  induction ops generalizing s t with
  | nil => exact start
  | cons a ops ih =>
      cases kept : keep a with
      | true =>
          rw [List.filter_cons_of_pos kept]
          exact ih (both s t a kept each.1 start) each.2
      | false =>
          rw [List.filter_cons_of_neg (by simp [kept])]
          exact ih (left s t a kept each.1 start) each.2

/-! ### Facts that steps set and clear -/

/-- If each step of a run sets a fact, or keeps it unless it clears it, then the
fact holds at the end exactly when some step set it and no later step cleared
it. -/
theorem lastWrite {step : σ → α → σ} (Fact : σ → Prop) {Sets Clears : σ → α → Prop}
    {s : σ} {ops : List α} (start : ¬ Fact s)
    (each : EachStep step
      (fun s a => Fact (step s a) ↔ Sets s a ∨ (Fact s ∧ ¬ Clears s a)) s ops) :
    Fact (run step s ops) ↔
      ∃ pre a post, ops = pre ++ a :: post ∧ Sets (run step s pre) a ∧
        EachStep step (fun s b => ¬ Clears s b) (run step s (pre ++ [a])) post := by
  induction ops using List.reverseRecOn with
  | nil => simp [start]
  | append_singleton ops b ih =>
      obtain ⟨before, last⟩ := eachStep_concat.mp each
      rw [run_concat, last, ih before]
      constructor
      · rintro (sets | ⟨⟨pre, a, post, rfl, sets, uncleared⟩, keeps⟩)
        · exact ⟨ops, b, [], rfl, sets, trivial⟩
        · refine ⟨pre, a, post ++ [b], by simp, sets, eachStep_concat.mpr ⟨uncleared, ?_⟩⟩
          rwa [← run_append, List.append_assoc, List.singleton_append]
      · rintro ⟨pre, a, post, split, sets, uncleared⟩
        rcases split_concat split with ⟨rfl, rfl, rfl⟩ | ⟨front, rfl, rfl⟩
        · exact Or.inl sets
        · obtain ⟨inside, keeps⟩ := eachStep_concat.mp uncleared
          refine Or.inr ⟨⟨pre, a, front, rfl, sets, inside⟩, ?_⟩
          rwa [← run_append, List.append_assoc, List.singleton_append] at keeps

end KvIndexer.Run
