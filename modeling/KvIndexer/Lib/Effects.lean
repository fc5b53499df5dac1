import Mathlib.Tactic.Common

/-!
Computations over a state that may fail, and that keep the state they reached.

`Simulates R m n` says that `m` and `n`, started in related states, both return the
same value or both fail alike, and end in related states. A program built from calls
that simulate one another simulates the program built from the others: there is a
rule for each way of putting calls together.

`Keeps R Q m` says that `m` takes a state to one that `R` relates it to, whether it
fails or not, and returns only values with `Q`. For a reflexive and transitive `R` it
has the same rules; it is how one says what a program leaves alone. `Returns Q m` is the
second half alone, and only the last call counts for it.
-/

namespace KvIndexer.Effects

variable {ε σ τ α β : Type}

/-- The state a computation ends in, whether it fails or not. -/
def endState : EStateM.Result ε σ α → σ
  | .ok _ s => s
  | .error _ s => s

section Bind

variable {m : EStateM ε σ α} {next : α → EStateM ε σ β} {s t : σ}

theorem bind_of_ok {a : α} (done : m s = .ok a t) : (m >>= next) s = next a t := by
  show EStateM.bind m next s = _
  unfold EStateM.bind
  rw [done]

theorem bind_of_error {e : ε} (failed : m s = .error e t) : (m >>= next) s = .error e t := by
  show EStateM.bind m next s = _
  unfold EStateM.bind
  rw [failed]

/-- What follows a call may leave alone what the call did. -/
theorem endState_bind {γ : Type} (view : σ → γ)
    (kept : ∀ a t, view (endState (next a t)) = view t) :
    view (endState ((m >>= next) s)) = view (endState (m s)) := by
  cases ended : m s with
  | ok a t =>
      rw [bind_of_ok ended]
      exact kept a t
  | error e t =>
      rw [bind_of_error ended]
      rfl

end Bind

/-- Two computations ended alike, in related states. -/
inductive SameEnd (R : σ → τ → Prop) :
    EStateM.Result ε σ α → EStateM.Result ε τ α → Prop where
  | ok (a : α) {s : σ} {t : τ} (related : R s t) : SameEnd R (.ok a s) (.ok a t)
  | error (e : ε) {s : σ} {t : τ} (related : R s t) : SameEnd R (.error e s) (.error e t)

theorem SameEnd.related {R : σ → τ → Prop} {x : EStateM.Result ε σ α} {y : EStateM.Result ε τ α}
    (same : SameEnd R x y) : R (endState x) (endState y) := by
  cases same <;> assumption

def Simulates (R : σ → τ → Prop) (m : EStateM ε σ α) (n : EStateM ε τ α) : Prop :=
  ∀ s t, R s t → SameEnd R (m s) (n t)

namespace Simulates

variable {R : σ → τ → Prop}

theorem pure (a : α) : Simulates R (pure a : EStateM ε σ α) (pure a : EStateM ε τ α) :=
  fun _ _ related => .ok a related

theorem throw (e : ε) : Simulates R (throw e : EStateM ε σ α) (throw e : EStateM ε τ α) :=
  fun _ _ related => .error e related

theorem bind {m : EStateM ε σ α} {n : EStateM ε τ α} {f : α → EStateM ε σ β}
    {g : α → EStateM ε τ β} (first : Simulates R m n) (next : ∀ a, Simulates R (f a) (g a)) :
    Simulates R (m >>= f) (n >>= g) := by
  intro s t related
  show SameEnd R (EStateM.bind m f s) (EStateM.bind n g t)
  unfold EStateM.bind
  have ended := first s t related
  generalize m s = x at ended ⊢
  generalize n t = y at ended ⊢
  cases ended with
  | ok a related => exact next a _ _ related
  | error e related => exact .error e related

/-- A loop over a list, one iteration at a time. -/
theorem forM {γ : Type} {f : γ → EStateM ε σ PUnit} {g : γ → EStateM ε τ PUnit}
    (each : ∀ c, Simulates R (f c) (g c)) (cs : List γ) :
    Simulates R (cs.forM f) (cs.forM g) := by
  induction cs with
  | nil => exact Simulates.pure _
  | cons c cs ih => exact (each c).bind fun _ => ih

end Simulates

/-- Whatever the computation returns has `Q`. -/
def Returns (Q : α → Prop) (m : EStateM ε σ α) : Prop := ∀ s a s', m s = .ok a s' → Q a

namespace Returns

variable {Q : α → Prop}

theorem pure {a : α} (value : Q a) : Returns Q (pure a : EStateM ε σ α) := by
  intro s b s' returned
  obtain ⟨rfl, -⟩ := EStateM.Result.ok.inj returned
  exact value

theorem bind {Q : β → Prop} {m : EStateM ε σ α} {f : α → EStateM ε σ β}
    (next : ∀ a, Returns Q (f a)) : Returns Q (m >>= f) := by
  intro s b s' returned
  change EStateM.bind m f s = _ at returned
  unfold EStateM.bind at returned
  split at returned
  · exact next _ _ _ _ returned
  · cases returned

end Returns

/-- A computation ended in a state with `P` and, if it returned, with a value with `Q`. -/
inductive EndsIn (P : σ → Prop) (Q : α → Prop) : EStateM.Result ε σ α → Prop where
  | ok {a : α} {s : σ} (value : Q a) (state : P s) : EndsIn P Q (.ok a s)
  | error (e : ε) {s : σ} (state : P s) : EndsIn P Q (.error e s)

theorem EndsIn.state {P : σ → Prop} {Q : α → Prop} {x : EStateM.Result ε σ α}
    (ends : EndsIn P Q x) : P (endState x) := by
  cases ends <;> assumption

def Keeps (R : σ → σ → Prop) (Q : α → Prop) (m : EStateM ε σ α) : Prop :=
  ∀ s, EndsIn (R s) Q (m s)

namespace Keeps

variable {R : σ → σ → Prop} {Q : α → Prop}

theorem pure [Std.Refl R] {a : α} (value : Q a) : Keeps R Q (pure a : EStateM ε σ α) :=
  fun s => .ok value (Std.Refl.refl s)

theorem throw [Std.Refl R] (e : ε) : Keeps R Q (throw e : EStateM ε σ α) :=
  fun s => .error e (Std.Refl.refl s)

theorem bind [IsTrans σ R] {Q' : β → Prop} {m : EStateM ε σ α} {f : α → EStateM ε σ β}
    (first : Keeps R Q m) (next : ∀ a, Q a → Keeps R Q' (f a)) : Keeps R Q' (m >>= f) := by
  intro s
  show EndsIn (R s) Q' (EStateM.bind m f s)
  unfold EStateM.bind
  have ended := first s
  generalize m s = x at ended ⊢
  cases ended with
  | error e state => exact .error e state
  | ok value state =>
      rename_i a t
      have rest := next a value t
      show EndsIn (R s) Q' (f a t)
      generalize f a t = y at rest ⊢
      cases rest with
      | ok value' state' => exact .ok value' (IsTrans.trans _ _ _ state state')
      | error e state' => exact .error e (IsTrans.trans _ _ _ state state')

theorem forM [Std.Refl R] [IsTrans σ R] {γ : Type} {f : γ → EStateM ε σ PUnit}
    (each : ∀ c, Keeps R (fun _ => True) (f c)) (cs : List γ) :
    Keeps R (fun _ => True) (cs.forM f) := by
  induction cs with
  | nil => exact Keeps.pure trivial
  | cons c cs ih => exact (each c).bind fun _ _ => ih

end Keeps

end KvIndexer.Effects
