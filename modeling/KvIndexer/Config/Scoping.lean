import KvIndexer.Admission.Identifiers
import KvIndexer.Config.Bootstrap

/-!
Policy scoping.

A scoped bootstrap drops a policy by its conditions on the cluster and the model
(`Excludes`), comparing texts. The evaluation compares what the texts read as first. So a
policy that is dropped can still match: exactly when its other conditions hold and each
condition it was dropped by names a value that reads like the request's identifier
(`dropped_iff`).
-/

namespace KvIndexer.Config

open Admission

section Scope

variable (platform : Platform) (clusterID : String) (servedModels : List String)

/-- The condition takes its policy out of scope. -/
def Excludes (c : RuleCondition) : Prop :=
  c.field = ConditionFieldClusterID ∧ conditionExcludesString platform c clusterID = true ∨
    c.field = ConditionFieldModelID ∧ conditionExcludesServedModel platform c servedModels = true

instance (c : RuleCondition) : Decidable (Excludes platform clusterID servedModels c) :=
  inferInstanceAs (Decidable (_ ∨ _))

/-- The values a condition compares with. -/
def comparedValues (c : RuleCondition) : List Value :=
  if c.op = ConditionOpIn then valueList c.value else [c.value]

/-- A value of the condition reads like the identifier that the request gives. -/
def ReadsLike (r : Request) (c : RuleCondition) : Prop :=
  ∃ v ∈ comparedValues c,
    readAlike platform (if c.field = ConditionFieldClusterID then r.clusterID else r.modelID) v

end Scope

variable {platform : Platform} {clusterID : String} {servedModels : List String}

/-- A policy is dropped when one of its conditions excludes it. -/
theorem policyInScope_iff (p : BootstrapPolicy) :
    policyInScope platform p clusterID servedModels = true ↔
      ∀ c ∈ p.conditions, ¬ Excludes platform clusterID servedModels c := by
  rw [policyInScope, List.all_eq_true]
  refine forall₂_congr fun c _ => ?_
  have fields : ConditionFieldModelID ≠ ConditionFieldClusterID := by decide
  unfold Excludes
  by_cases cluster : c.field = ConditionFieldClusterID
  · simp [cluster, fields.symm]
  · by_cases model : c.field = ConditionFieldModelID
    · simp [model, fields]
    · simp [cluster, model]

/-! ### The conditions that exclude -/

/-- The operators that exclude, and the values that do not spell a served model. -/
theorem conditionExcludesServedModel_iff {c : RuleCondition} :
    conditionExcludesServedModel platform c servedModels = true ↔
      (c.op = ConditionOpEq ∨ c.op = ConditionOpIn) ∧
        ∀ v ∈ comparedValues c, sprint platform v ∉ servedModels := by
  have operators : ConditionOpEq ≠ ConditionOpIn := by decide
  unfold conditionExcludesServedModel comparedValues
  by_cases eq : c.op = ConditionOpEq
  · simp [eq, operators]
  · by_cases isIn : c.op = ConditionOpIn
    · simp [isIn, operators.symm]
    · simp [eq, isIn]

/-- A cluster is compared as the one model that is served. -/
theorem conditionExcludesString_eq {c : RuleCondition} {value : String} :
    conditionExcludesString platform c value =
      conditionExcludesServedModel platform c [value] := by
  unfold conditionExcludesString conditionExcludesServedModel
  simp only [List.mem_singleton]

theorem conditionExcludesString_iff {c : RuleCondition} {value : String} :
    conditionExcludesString platform c value = true ↔
      (c.op = ConditionOpEq ∨ c.op = ConditionOpIn) ∧
        ∀ v ∈ comparedValues c, sprint platform v ≠ value := by
  rw [conditionExcludesString_eq, conditionExcludesServedModel_iff]
  simp only [List.mem_singleton]

/-- The evaluation of such a condition on an identifier that no value spells. -/
theorem matchesCondition_unspelled {c : RuleCondition} {id : String}
    (operator : c.op = ConditionOpEq ∨ c.op = ConditionOpIn)
    (unspelled : ∀ v ∈ comparedValues c, sprint platform v ≠ id) :
    matchesCondition platform (.string id) c = true ↔
      ∃ v ∈ comparedValues c, readAlike platform id v := by
  rcases operator with eq | isIn
  · have values : comparedValues c = [c.value] := by
      rw [comparedValues, eq]
      rfl
    rw [values] at unspelled ⊢
    have evaluated : matchesCondition platform (.string id) c =
        valuesEqual platform (.string id) c.value := by
      rw [matchesCondition, eq]
      rfl
    rw [evaluated, valuesEqual_of_ne (unspelled c.value List.mem_cons_self)]
    simp only [List.mem_singleton, exists_eq_left]
  · have values : comparedValues c = valueList c.value := by
      rw [comparedValues, isIn]
      rfl
    rw [values] at unspelled ⊢
    have evaluated : matchesCondition platform (.string id) c =
        (valueList c.value).any (valuesEqual platform (.string id)) := by
      rw [matchesCondition, isIn]
      cases c.value with
      | list values => rfl
      | _ => exact (Bool.or_false _).symm
    rw [evaluated, List.any_eq_true]
    refine exists_congr fun v => and_congr_right fun named => ?_
    rw [valuesEqual_of_ne (unspelled v named)]

/-- The request is for the cluster and for one of the models it serves. -/
structure ServedRequest (clusterID : String) (servedModels : List String) (r : Request) :
    Prop where
  cluster : r.clusterID = clusterID
  model : r.modelID ∈ servedModels

/-- A condition that excludes its policy holds only of an identifier it reads alike. -/
theorem conditionHolds_excluded {r : Request} (within : ServedRequest clusterID servedModels r)
    (hit : HitInfo) {c : RuleCondition} (excludes : Excludes platform clusterID servedModels c) :
    conditionHolds platform r hit c = true ↔ ReadsLike platform r c := by
  have fields : ConditionFieldModelID ≠ ConditionFieldClusterID := by decide
  unfold ReadsLike
  rcases excludes with ⟨field, excluded⟩ | ⟨field, excluded⟩
  · obtain ⟨operator, unspelled⟩ := conditionExcludesString_iff.mp excluded
    have holds : conditionHolds platform r hit c =
        matchesCondition platform (.string r.clusterID) c := by
      rw [conditionHolds, field]
      rfl
    rw [holds, if_pos field]
    refine matchesCondition_unspelled operator fun v named => ?_
    rw [within.cluster]
    exact unspelled v named
  · obtain ⟨operator, unspelled⟩ := conditionExcludesServedModel_iff.mp excluded
    have holds : conditionHolds platform r hit c =
        matchesCondition platform (.string r.modelID) c := by
      rw [conditionHolds, field]
      rfl
    have other : c.field ≠ ConditionFieldClusterID := by
      rw [field]
      exact fields
    rw [holds, if_neg other]
    refine matchesCondition_unspelled operator fun v named same => ?_
    exact unspelled v named (same ▸ within.model)

/-! ### The policy -/

/-- A dropped policy cannot decide a request: a condition it is not dropped by fails, or
one it is dropped by names no value that reads like the request's identifier. -/
def RightlyDropped (platform : Platform) (clusterID : String) (servedModels : List String)
    (r : Request) (hit : HitInfo) (p : BootstrapPolicy) : Prop :=
  ∃ c ∈ p.conditions, if Excludes platform clusterID servedModels c then ¬ ReadsLike platform r c
    else conditionHolds platform r hit c = false

theorem matchesRule_toPolicy (r : Request) (hit : HitInfo) (p : BootstrapPolicy) :
    matchesRule platform r hit p.toPolicy = p.conditions.all (conditionHolds platform r hit) := rfl

theorem rightlyDropped_iff {r : Request} (within : ServedRequest clusterID servedModels r)
    (hit : HitInfo) (p : BootstrapPolicy) :
    RightlyDropped platform clusterID servedModels r hit p ↔
      matchesRule platform r hit p.toPolicy = false := by
  rw [matchesRule_toPolicy, List.all_eq_false, RightlyDropped]
  refine exists_congr fun c => and_congr_right fun _ => ?_
  split
  · rename_i excludes
    rw [conditionHolds_excluded within hit excludes]
  · rw [Bool.not_eq_true]

/-- Scoping is sound for a request exactly when the policy is in scope or rightly dropped. -/
theorem dropped_iff {r : Request} (within : ServedRequest clusterID servedModels r)
    (hit : HitInfo) (p : BootstrapPolicy) :
    (policyInScope platform p clusterID servedModels = false →
        matchesRule platform r hit p.toPolicy = false) ↔
      (∀ c ∈ p.conditions, ¬ Excludes platform clusterID servedModels c) ∨
        RightlyDropped platform clusterID servedModels r hit p := by
  rw [rightlyDropped_iff within hit p, ← policyInScope_iff, ← Bool.not_eq_true]
  exact or_iff_not_imp_left.symm

/-- A policy for the cluster "T", in the document of the cluster "t". -/
def capitalPolicy : BootstrapPolicy where
  ruleID := "capital"
  conditions := [⟨ConditionFieldClusterID, ConditionOpEq, .string "T"⟩]

/-- It is dropped there and matches there, both names being spellings of true. -/
theorem not_dropped_sound : ¬ ∀ platform clusterID servedModels r hit p,
    ServedRequest clusterID servedModels r →
      policyInScope platform p clusterID servedModels = false →
        matchesRule platform r hit p.toPolicy = false := by
  intro sound
  have fails := sound .plain "t" ["m"] { clusterID := "t", modelID := "m" } {} capitalPolicy
    ⟨rfl, List.mem_singleton_self "m"⟩ (by decide)
  have holds : matchesRule .plain { clusterID := "t", modelID := "m" } {}
      capitalPolicy.toPolicy = true := by decide
  rw [holds] at fails
  cases fails

/-- It is rightly dropped in the document of the cluster "u". -/
theorem dropped_iff_capital :
    matchesRule .plain { clusterID := "u", modelID := "m" } {} capitalPolicy.toPolicy = false := by
  have within : ServedRequest "u" ["m"] { clusterID := "u", modelID := "m" } :=
    ⟨rfl, List.mem_singleton_self "m"⟩
  refine (dropped_iff within {} capitalPolicy).mpr (Or.inr ?_) (by decide)
  refine ⟨_, List.mem_singleton_self _, ?_⟩
  rw [if_pos (by decide)]
  rintro ⟨v, named, alike⟩
  obtain rfl := List.mem_singleton.mp named
  cases alike

end KvIndexer.Config
