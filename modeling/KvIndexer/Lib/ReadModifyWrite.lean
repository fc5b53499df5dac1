import KvIndexer.Lib.Run
import Mathlib.Logic.Function.Basic

/-!
Two read-modify-write transactions on one shared state.

A transaction reads in one step and writes, from what it read, in a later one. A schedule
lists whose turn it is; a turn of a finished transaction does nothing. Two transactions
that both finish run one after the other, or both read before either writes. Then the
second write is made of what the state was before the first (`final_eq_overtaken`).
-/

namespace KvIndexer.ReadModifyWrite

variable {σ α : Type}

structure Transaction (σ α : Type) where
  read : σ → α
  write : α → σ → σ

/-- The transaction in one piece. -/
def Transaction.run (t : Transaction σ α) (s : σ) : σ := t.write (t.read s) s

/-- How far a transaction has come. -/
inductive Phase (α : Type)
  | start
  | reading (seen : α)
  | finished

/-- The shared state and the two transactions on it. -/
structure Race (σ α : Type) where
  state : σ
  phase : Bool → Phase α

/-- Neither transaction has started. -/
def Race.init (s : σ) : Race σ α := ⟨s, fun _ => .start⟩

/-- One turn. -/
def Race.step (txn : Bool → Transaction σ α) (r : Race σ α) (who : Bool) : Race σ α :=
  match r.phase who with
  | .start => { r with phase := Function.update r.phase who (.reading ((txn who).read r.state)) }
  | .reading seen =>
      { state := (txn who).write seen r.state, phase := Function.update r.phase who .finished }
  | .finished => r

/-- The state a schedule ends in. -/
def final (txn : Bool → Transaction σ α) (s : σ) (schedule : List Bool) : σ :=
  (Run.run (Race.step txn) (Race.init s) schedule).state

/-- One after the other, `first` first. -/
def serial (txn : Bool → Transaction σ α) (s : σ) (first : Bool) : σ :=
  (txn !first).run ((txn first).run s)

/-- Both transactions have two turns. -/
def Complete (schedule : List Bool) : Prop := ∀ who, 2 ≤ schedule.count who

instance (schedule : List Bool) : Decidable (Complete schedule) :=
  inferInstanceAs (Decidable (∀ who, 2 ≤ schedule.count who))

/-- The transaction that writes first after both have read, none if one finishes before the
other starts. -/
def overtaken : List Bool → Option Bool
  | x :: y :: z :: _ => if x = y then none else some z
  | _ => none

theorem not_ne_self (who : Bool) : (!who) ≠ who := by cases who <;> decide

theorem eq_or_eq_not (who turn : Bool) : turn = who ∨ turn = !who := by
  cases who <;> cases turn <;> decide

section Turns

variable {txn : Bool → Transaction σ α} {s : σ} {phase : Bool → Phase α} {who : Bool} {seen : α}
  {schedule : List Bool}

theorem step_start (here : phase who = .start) :
    Race.step txn ⟨s, phase⟩ who =
      ⟨s, Function.update phase who (.reading ((txn who).read s))⟩ := by
  unfold Race.step
  dsimp only
  rw [here]

theorem step_reading (here : phase who = .reading seen) :
    Race.step txn ⟨s, phase⟩ who =
      ⟨(txn who).write seen s, Function.update phase who .finished⟩ := by
  unfold Race.step
  dsimp only
  rw [here]

theorem step_finished (here : phase who = .finished) :
    Race.step txn ⟨s, phase⟩ who = ⟨s, phase⟩ := by
  unfold Race.step
  dsimp only
  rw [here]

/-- A turn leaves the phase of the other transaction alone. -/
theorem update_other (phase : Bool → Phase α) (who : Bool) (next : Phase α) :
    Function.update phase who next (!who) = phase !who :=
  Function.update_of_ne (not_ne_self who) next phase

/-- After both have finished nothing changes. -/
theorem run_finished (other : phase (!who) = .finished) (here : phase who = .finished)
    (schedule : List Bool) : Run.run (Race.step txn) ⟨s, phase⟩ schedule = ⟨s, phase⟩ := by
  induction schedule with
  | nil => rfl
  | cons turn rest ih =>
      have idle : Race.step txn ⟨s, phase⟩ turn = ⟨s, phase⟩ := by
        rcases eq_or_eq_not who turn with rfl | rfl
        · exact step_finished here
        · exact step_finished other
      rw [Run.run_cons, idle, ih]

/-- Alone, a transaction that has read writes at its next turn. -/
theorem state_run_reading (other : phase (!who) = .finished) (here : phase who = .reading seen)
    (turns : 1 ≤ schedule.count who) :
    (Run.run (Race.step txn) ⟨s, phase⟩ schedule).state = (txn who).write seen s := by
  induction schedule with
  | nil => simp at turns
  | cons turn rest ih =>
      rw [Run.run_cons]
      rcases eq_or_eq_not who turn with rfl | rfl
      · rw [step_reading here, run_finished ((update_other _ _ _).trans other)
          (Function.update_self _ _ _)]
      · rw [step_finished other]
        exact ih (by simpa [List.count_cons, not_ne_self] using turns)

/-- Alone, a transaction that has not started runs in one piece. -/
theorem state_run_start (other : phase (!who) = .finished) (here : phase who = .start)
    (turns : 2 ≤ schedule.count who) :
    (Run.run (Race.step txn) ⟨s, phase⟩ schedule).state = (txn who).run s := by
  induction schedule with
  | nil => simp at turns
  | cons turn rest ih =>
      rw [Run.run_cons]
      rcases eq_or_eq_not who turn with rfl | rfl
      · have left : 1 ≤ rest.count turn := by simpa using turns
        rw [step_start here, state_run_reading ((update_other _ _ _).trans other)
          (Function.update_self _ _ _) left]
        rfl
      · rw [step_finished other]
        exact ih (by simpa [List.count_cons, not_ne_self] using turns)

end Turns

section Final

variable {txn : Bool → Transaction σ α} {s : σ} {schedule : List Bool}

theorem step_init (who : Bool) :
    Race.step txn (Race.init s) who =
      ⟨s, Function.update (fun _ => .start) who (.reading ((txn who).read s))⟩ :=
  step_start rfl

/-- In a schedule with two turns of each, one finishes before the other starts, or both
read and then one of them writes. -/
theorem Complete.cases (complete : Complete schedule) :
    (∃ x rest, schedule = x :: x :: rest ∧ 2 ≤ rest.count !x) ∨
      ∃ x y rest, schedule = x :: (!x) :: y :: rest ∧ 1 ≤ rest.count !y := by
  match schedule, complete with
  | [], complete => simpa using complete true
  | [x], complete =>
      have turns := complete x
      simp at turns
  | x :: y :: rest, complete =>
      rcases eq_or_eq_not x y with rfl | rfl
      · left
        exact ⟨y, rest, rfl, by simpa [List.count_cons] using complete !y⟩
      · right
        cases rest with
        | nil =>
            have turns := complete x
            simp at turns
        | cons z rest =>
            refine ⟨x, z, rest, rfl, ?_⟩
            have turns := complete !z
            rcases eq_or_eq_not x z with rfl | rfl
            · simpa [List.count_cons, not_ne_self] using turns
            · simpa [List.count_cons, not_ne_self] using turns

/-- Transactions that do not overlap run one after the other. -/
theorem final_eq_serial (complete : Complete schedule) (apart : overtaken schedule = none) :
    ∃ first, final txn s schedule = serial txn s first := by
  rcases complete.cases with ⟨x, rest, rfl, turns⟩ | ⟨x, y, rest, rfl, turns⟩
  · refine ⟨x, ?_⟩
    unfold final serial
    rw [Run.run_cons, Run.run_cons, step_init, step_reading (Function.update_self _ _ _)]
    refine state_run_start ?_ ?_ turns
    · rw [Bool.not_not, Function.update_self]
    · rw [update_other, update_other]
  · simp [overtaken] at apart

/-- Of transactions that overlap, the last to write writes what it makes of the state both
read. -/
theorem final_eq_overtaken {first : Bool} (complete : Complete schedule)
    (overlap : overtaken schedule = some first) :
    final txn s schedule = (txn !first).write ((txn !first).read s) ((txn first).run s) := by
  rcases complete.cases with ⟨x, rest, rfl, turns⟩ | ⟨x, y, rest, rfl, turns⟩
  · cases rest with
    | nil => simp [overtaken] at overlap
    | cons z rest => simp [overtaken] at overlap
  · obtain rfl : y = first := by simpa [overtaken] using overlap
    have idle : Function.update (fun _ => Phase.start) x (.reading ((txn x).read s)) (!x) =
        .start := update_other _ _ _
    unfold final
    rw [Run.run_cons, Run.run_cons, step_init, step_start idle, Run.run_cons]
    have read : ∀ who, Function.update (Function.update (fun _ => Phase.start) x
        (.reading ((txn x).read s))) (!x) (.reading ((txn !x).read s)) who =
        .reading ((txn who).read s) := by
      intro who
      rcases eq_or_eq_not x who with rfl | rfl
      · rw [Function.update_of_ne (not_ne_self who).symm, Function.update_self]
      · rw [Function.update_self]
    rw [step_reading (read y)]
    refine state_run_reading ?_ ?_ turns
    · rw [Bool.not_not, Function.update_self]
    · rw [update_other, read]

end Final

end KvIndexer.ReadModifyWrite
