import Mathlib.Logic.Basic

/-!
Machines whose actions can be refused.

`step s a` is `none` when action `a` is not enabled in `s`, as a send to a full channel
is not. `exec` carries out a list of actions, an interleaving of whoever acts, and fails
with the first action that is refused.

* `exec_invariant`: what every enabled action keeps holds after every interleaving;
* `countP_le_of_variant`: if every own action lowers a measure that no other action
  raises, then no interleaving has more own actions than the measure says.
-/

namespace KvIndexer.Guarded

variable {σ α : Type}

/-- The state after the actions, in order, if each is enabled where it is taken. -/
def exec (step : σ → α → Option σ) (s : σ) : List α → Option σ
  | [] => some s
  | a :: acts => (step s a).bind fun s => exec step s acts

section Machine

variable {step : σ → α → Option σ}

theorem exec_cons_eq_some {s s' : σ} {a : α} {acts : List α} :
    exec step s (a :: acts) = some s' ↔
      ∃ next, step s a = some next ∧ exec step next acts = some s' := by
  rw [exec, Option.bind_eq_some_iff]

theorem exec_append_eq_some {s s' : σ} {pre post : List α} :
    exec step s (pre ++ post) = some s' ↔
      ∃ mid, exec step s pre = some mid ∧ exec step mid post = some s' := by
  induction pre generalizing s with
  | nil => simp [exec]
  | cons a pre ih =>
      rw [List.cons_append, exec_cons_eq_some]
      simp only [ih, exec_cons_eq_some]
      constructor
      · rintro ⟨next, now, mid, front, back⟩
        exact ⟨mid, ⟨next, now, front⟩, back⟩
      · rintro ⟨mid, ⟨next, now, front⟩, back⟩
        exact ⟨next, now, mid, front, back⟩

/-- The invariant rule. -/
theorem exec_invariant {Inv : σ → Prop}
    (kept : ∀ s a s', Inv s → step s a = some s' → Inv s') {s s' : σ} {acts : List α}
    (start : Inv s) (run : exec step s acts = some s') : Inv s' := by
  induction acts generalizing s with
  | nil =>
      cases run
      exact start
  | cons a acts ih =>
      obtain ⟨next, now, later⟩ := exec_cons_eq_some.mp run
      exact ih (kept s a next start now) later

/-- The variant rule: own actions are bounded by the measure. -/
theorem countP_le_of_variant {Inv : σ → Prop} {own : α → Bool} {measure : σ → Nat}
    (kept : ∀ s a s', Inv s → step s a = some s' → Inv s')
    (lowered : ∀ s a s', Inv s → step s a = some s' →
      measure s' + (if own a then 1 else 0) ≤ measure s)
    {s s' : σ} {acts : List α} (start : Inv s) (run : exec step s acts = some s') :
    acts.countP own + measure s' ≤ measure s := by
  induction acts generalizing s with
  | nil =>
      cases run
      simp
  | cons a acts ih =>
      obtain ⟨next, now, later⟩ := exec_cons_eq_some.mp run
      have rest := ih (kept s a next start now) later
      have first := lowered s a next start now
      rw [List.countP_cons]
      omega

end Machine

end KvIndexer.Guarded
