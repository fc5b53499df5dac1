import KvIndexer.Admission.Evaluate

/-!
Admission and the order of the range over the instances.

The range of `bestHit` keeps the first instance of the greatest score, so the outcome is
the same for every order exactly when there is no choice to make: a synthetic hit, or at
most one instance on top (`deterministic_iff`). Instances tie with quite different hits,
since a long match in a slow tier weighs as much as a short one on the device.
-/

namespace KvIndexer.Admission

open Config Residency

/-- What an evaluation answers. -/
def Result.outcome (res : Result) : Decision × Reason × Int64 × Bool × HitInfo × String :=
  (res.decision, res.reason, res.httpStatus, res.fallback, res.hit, res.matchedRuleID)

/-- The answer is the same for every order of the range. -/
def Deterministic (platform : Platform) (input : Input) : Prop :=
  ∀ order order', (evaluate platform order input).outcome = (evaluate platform order' input).outcome

/-- The order matters only through the hit, and always through the hit. -/
theorem deterministic_iff_bestHit (platform : Platform) (input : Input) :
    Deterministic platform input ↔
      ∀ order order', bestHit platform order input = bestHit platform order' input := by
  constructor
  · intro deterministic order order'
    have same := congrArg (fun outcome => outcome.2.2.2.2.1) (deterministic order order')
    simp only [Result.outcome, evaluate_eq_judge, hit_judge] at same
    exact same
  · intro same order order'
    rw [evaluate_eq_judge, evaluate_eq_judge, same order order']

/-- With one instance on top, every order chooses it. -/
theorem leadingInstance_unique {instances : GoMap String InstanceHit}
    (unique : ∀ id id', TopInstance instances id → TopInstance instances id' → id = id')
    (order order' : InstanceOrder) :
    leadingInstance order instances = leadingInstance order' instances := by
  cases chosen : leadingInstance order instances with
  | none =>
      cases chosen' : leadingInstance order' instances with
      | none => rfl
      | some inst' =>
          exact absurd (leadingInstance_top chosen').2 (leadingInstance_eq_none chosen inst'.1)
  | some inst =>
      obtain ⟨found, top⟩ := leadingInstance_top chosen
      cases chosen' : leadingInstance order' instances with
      | none => exact absurd top (leadingInstance_eq_none chosen' inst.1)
      | some inst' =>
          obtain ⟨found', top'⟩ := leadingInstance_top chosen'
          obtain ⟨id, hit⟩ := inst
          obtain ⟨id', hit'⟩ := inst'
          obtain rfl := unique id id' top top'
          obtain rfl := Option.some.inj (found.symm.trans found')
          rfl

/-- Admission is deterministic exactly when no two instances share the greatest score. -/
theorem deterministic_iff (platform : Platform) (input : Input) :
    Deterministic platform input ↔
      input.hitOverride.isSome ∨ ∀ query, input.query = some query →
        ∀ id id', TopInstance query.instances id → TopInstance query.instances id' → id = id' := by
  rw [deterministic_iff_bestHit]
  cases live : input.hitOverride with
  | some hit =>
      refine iff_of_true (fun order order' => ?_) (Or.inl rfl)
      unfold bestHit
      rw [live]
  | none =>
      simp only [Option.isSome_none, Bool.false_eq_true, false_or]
      constructor
      · intro same query asked id id' top top'
        obtain ⟨order, inst, chosen⟩ := exists_leadingInstance top
        obtain ⟨order', inst', chosen'⟩ := exists_leadingInstance top'
        have named := congrArg HitInfo.instanceID (same order order')
        rw [instanceID_bestHit platform live asked, instanceID_bestHit platform live asked,
          chosen, chosen'] at named
        exact named
      · intro unique order order'
        cases asked : input.query with
        | none =>
            unfold bestHit
            rw [live, asked]
        | some query =>
            rw [bestHit_eq platform order live asked, bestHit_eq platform order' live asked,
              leadingInstance_unique (unique query asked) order order']

/-- Sixteen tokens on the device weigh as much as sixty-four on disk. -/
def tiedInstances : GoMap String InstanceHit :=
  [⟨"a", ⟨16, 16, 16, 16, ∅⟩⟩, ⟨"b", ⟨64, 0, 0, 64, ∅⟩⟩].toFinmap

/-- A prompt of sixty-four tokens under a rule that rejects a match of fewer. -/
def tiedInput : Input where
  inputTokens := 64
  fresh := true
  tokenized := true
  hashSupported := true
  hasCandidates := true
  rules := [{
    ruleID := "long"
    conditions := [⟨ConditionFieldBestHitTokens, ConditionOpLT, .int 64⟩]
    action := { type := ActionReject } }]
  query := some ⟨tiedInstances, 0⟩

def deviceFirst : tiedInstances.Order where
  entries := [⟨"a", ⟨16, 16, 16, 16, ∅⟩⟩, ⟨"b", ⟨64, 0, 0, 64, ∅⟩⟩]
  all := by decide +kernel

def diskFirst : tiedInstances.Order where
  entries := [⟨"b", ⟨64, 0, 0, 64, ∅⟩⟩, ⟨"a", ⟨16, 16, 16, 16, ∅⟩⟩]
  all := by decide +kernel

/-- One order rejects the prompt and the other accepts it. -/
theorem not_deterministic : ¬ ∀ platform input, Deterministic platform input := by
  intro always
  obtain ⟨order, device⟩ := GoMap.exists_orders deviceFirst
  obtain ⟨order', disk⟩ := GoMap.exists_orders diskFirst
  have decisions := congrArg Prod.fst (always .plain tiedInput order order')
  have rejects : (judge .plain tiedInput.toRequest tiedInput.rules
      (bestHitOf .plain 64 deviceFirst.entries)).decision = .reject := by decide +kernel
  have accepts : (judge .plain tiedInput.toRequest tiedInput.rules
      (bestHitOf .plain 64 diskFirst.entries)).decision = .accept := by decide +kernel
  have hit : bestHit .plain order tiedInput = bestHitOf .plain 64 deviceFirst.entries := by
    rw [← device]
    rfl
  have hit' : bestHit .plain order' tiedInput = bestHitOf .plain 64 diskFirst.entries := by
    rw [← disk]
    rfl
  simp only [Result.outcome, evaluate_eq_judge, hit, hit', rejects, accepts] at decisions
  cases decisions

end KvIndexer.Admission
