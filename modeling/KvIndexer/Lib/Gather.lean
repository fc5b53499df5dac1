import KvIndexer.Lib.Run
import Mathlib.Data.Finset.Basic
import Mathlib.Data.Finset.Range

/-!
Goroutines that fill one slot each, and the wait group they report to.

A slice of `n` zero values is allocated and `n` goroutines are started. Goroutine `i` alone
writes slot `i`; it may also leave it, and it may panic, which ends the process. `Wait` returns
when all are done (`Joined`). They finish in any order, and the slots do not show in which
(`slots_of_joined`).
-/

namespace KvIndexer

variable {β : Type}

/-- How a goroutine ends. -/
inductive Outcome (β : Type)
  | wrote (v : β)
  | left
  | panicked
deriving DecidableEq

/-- What the slot holds then. -/
def Outcome.getD (zero : β) : Outcome β → β
  | wrote v => v
  | left => zero
  | panicked => zero

structure Gather (β : Type) where
  slots : List β
  running : Finset ℕ
  crashed : Bool := false

namespace Gather

variable (zero : β) (outcome : ℕ → Outcome β)

def start (n : ℕ) : Gather β where
  slots := List.replicate n zero
  running := Finset.range n

/-- Goroutine `i` ends, if it runs. -/
def finish (g : Gather β) (i : ℕ) : Gather β :=
  if g.crashed = true ∨ i ∉ g.running then g
  else
    match outcome i with
    | .wrote v => { g with slots := g.slots.set i v, running := g.running.erase i }
    | .left => { g with running := g.running.erase i }
    | .panicked => { g with crashed := true }

/-- `Wait` returns. -/
structure Joined (g : Gather β) : Prop where
  alive : g.crashed = false
  done : g.running = ∅

/-- A slot holds what its goroutine left there, once that is done. -/
structure Filled (n : ℕ) (g : Gather β) : Prop where
  length : g.slots.length = n
  slot : ∀ i < n, g.slots[i]? = some (if i ∈ g.running then zero else (outcome i).getD zero)
  sound : ∀ i < n, i ∉ g.running → outcome i ≠ .panicked

variable {zero} {outcome} {n : ℕ}

theorem Filled.start : Filled zero outcome n (start zero n) where
  length := List.length_replicate
  slot i lt := by
    have runs : i ∈ (Gather.start zero n).running := Finset.mem_range.mpr lt
    rw [if_pos runs]
    exact List.getElem?_replicate_of_lt lt
  sound i lt done := absurd (Finset.mem_range.mpr lt) done

theorem Filled.finish {g : Gather β} (filled : Filled zero outcome n g) (i : ℕ) :
    Filled zero outcome n (g.finish outcome i) := by
  unfold Gather.finish
  split
  · exact filled
  · rename_i runs
    rw [not_or, not_not] at runs
    have others : ∀ {j : ℕ}, j ≠ i → (j ∈ g.running.erase i ↔ j ∈ g.running) := fun other => by
      rw [Finset.mem_erase, and_iff_right other]
    have here : i ∉ g.running.erase i := Finset.notMem_erase i _
    cases ends : outcome i with
    | wrote v =>
        refine ⟨by rw [List.length_set, filled.length], fun j lt => ?_, fun j lt done => ?_⟩
        · dsimp only
          by_cases same : j = i
          · have inside : i < g.slots.length := by rwa [filled.length, ← same]
            rw [same, if_neg here, ends, List.getElem?_set_self inside]
            rfl
          · rw [List.getElem?_set_ne (Ne.symm same), filled.slot j lt]
            simp only [others same]
        · by_cases same : j = i
          · rw [same, ends]
            intro panics
            cases panics
          · exact filled.sound j lt fun before => done ((others same).mpr before)
    | left =>
        refine ⟨filled.length, fun j lt => ?_, fun j lt done => ?_⟩
        · dsimp only
          rw [filled.slot j lt]
          by_cases same : j = i
          · rw [same, if_neg here, if_pos runs.2, ends]
            rfl
          · simp only [others same]
        · by_cases same : j = i
          · rw [same, ends]
            intro panics
            cases panics
          · exact filled.sound j lt fun before => done ((others same).mpr before)
    | panicked => exact ⟨filled.length, filled.slot, filled.sound⟩

theorem Filled.run {g : Gather β} (filled : Filled zero outcome n g) (order : List ℕ) :
    Filled zero outcome n (Run.run (Gather.finish outcome) g order) := by
  induction order generalizing g with
  | nil => exact filled
  | cons i order ih => exact ih (filled.finish i)

/-- When `Wait` returns, no goroutine has panicked, and the slots hold what each of them left. -/
theorem slots_of_joined {g : Gather β} (filled : Filled zero outcome n g) (joined : g.Joined) :
    (∀ i < n, outcome i ≠ .panicked) ∧
      g.slots = (List.range n).map fun i => (outcome i).getD zero := by
  have done : ∀ i, i ∉ g.running := fun i => joined.done ▸ Finset.notMem_empty i
  refine ⟨fun i lt => filled.sound i lt (done i), List.ext_getElem? fun i => ?_⟩
  rw [List.getElem?_map]
  by_cases lt : i < n
  · rw [filled.slot i lt, if_neg (done i), List.getElem?_range lt, Option.map_some]
  · rw [List.getElem?_eq_none (by rw [filled.length]; omega),
      List.getElem?_eq_none (by rw [List.length_range]; omega), Option.map_none]

/-- What still runs are those that have not finished, as long as none panics. -/
theorem running_run {g : Gather β} (alive : g.crashed = false)
    (sound : ∀ i ∈ g.running, outcome i ≠ .panicked) (order : List ℕ) :
    (Run.run (Gather.finish outcome) g order).crashed = false ∧
      (Run.run (Gather.finish outcome) g order).running = g.running \ order.toFinset := by
  induction order generalizing g with
  | nil => exact ⟨alive, by simp⟩
  | cons i order ih =>
      have step : (g.finish outcome i).crashed = false ∧
          (g.finish outcome i).running = g.running.erase i := by
        unfold Gather.finish
        by_cases runs : i ∈ g.running
        · rw [if_neg (by simp [alive, runs])]
          cases ends : outcome i with
          | wrote v => exact ⟨alive, rfl⟩
          | left => exact ⟨alive, rfl⟩
          | panicked => exact absurd ends (sound i runs)
        · rw [if_pos (Or.inr runs)]
          exact ⟨alive, (Finset.erase_eq_of_notMem runs).symm⟩
      have later := ih step.1 fun j member => by
        rw [step.2] at member
        exact sound j (Finset.mem_of_mem_erase member)
      rw [Run.run_cons, later.2, step.2, List.toFinset_cons]
      refine ⟨later.1, ?_⟩
      ext j
      simp only [Finset.mem_sdiff, Finset.mem_erase, Finset.mem_insert, not_or]
      tauto

/-- If all finish and none panics, `Wait` returns. -/
theorem joined_run (sound : ∀ i < n, outcome i ≠ .panicked) {order : List ℕ}
    (all : ∀ i < n, i ∈ order) : (Run.run (finish outcome) (start zero n) order).Joined := by
  obtain ⟨alive, running⟩ := @running_run β outcome (start zero n) rfl
    (fun i runs => sound i (Finset.mem_range.mp runs)) order
  refine ⟨alive, ?_⟩
  rw [running, Finset.sdiff_eq_empty_iff_subset]
  intro i runs
  exact List.mem_toFinset.mpr (all i (Finset.mem_range.mp runs))

end Gather

end KvIndexer
