import KvIndexer.Itoa
import KvIndexer.Lib.SortSlice
import Mathlib.Data.List.Infix
import Mathlib.Data.Prod.Lex
import Mathlib.Data.String.Basic

/-!
Admission rules as configuration (`internal/config/model.go`).

A rule is a list of conditions, all of which must hold, and an action. Condition
values come from documents, so they are dynamically typed (`Value`).
-/

namespace KvIndexer.Config

/-- A decoded document value (`any`). JSON gives every number as `float`; YAML and BSON
also give integers. -/
inductive Value where
  | nil
  | bool (b : Bool)
  | int (n : Int64)
  | uint (n : UInt64)
  | float (f : Float)
  | string (s : String)
  | list (values : List Value)
  /-- entries in key order -/
  | map (entries : List (String × Value))

structure RuleCondition where
  field : String
  op : String := ""
  value : Value := .nil

def ConditionOpEq : String := "eq"
def ConditionOpNeq : String := "neq"
def ConditionOpIn : String := "in"
def ConditionOpNotIn : String := "not_in"
def ConditionOpGT : String := "gt"
def ConditionOpGTE : String := "gte"
def ConditionOpLT : String := "lt"
def ConditionOpLTE : String := "lte"
def ConditionOpContains : String := "contains"

def ConditionFieldClusterID : String := "cluster_id"
def ConditionFieldModelID : String := "model_id"
def ConditionFieldTenantID : String := "tenant_id"
def ConditionFieldInputTokens : String := "input_tokens"
def ConditionFieldHitRatio : String := "hit_ratio"
def ConditionFieldBestHitTokens : String := "best_hit_tokens"
def ConditionFieldEffectiveCachedTokens : String := "effective_cached_tokens"
def ConditionFieldKVEventState : String := "kv_event_state"
def ConditionFieldTokenized : String := "tokenized"
def ConditionFieldHashSupported : String := "hash_supported"
def ConditionFieldHasCandidates : String := "has_candidates"

def KVEventStateAvailable : String := "available"
def KVEventStateStale : String := "stale"

/-- What a matching rule does. -/
structure RuleAction where
  type : String := ""
  minHitRatio : Option Float := none
  onLowHit : String := ""
  onUncertain : String := ""
  rejectStatus : Int64 := 0
deriving DecidableEq

def ActionAccept : String := "accept"
def ActionReject : String := "reject"
def ActionRequireCacheHit : String := "require_cache_hit"

/-- The three actions are told apart by their names. -/
theorem actions_distinct :
    ActionReject ≠ ActionAccept ∧ ActionRequireCacheHit ≠ ActionAccept ∧
      ActionRequireCacheHit ≠ ActionReject := by
  decide

def RuleOutcomeAccept : String := "accept"
def RuleOutcomeReject : String := "reject"
def RuleOutcomeFallbackAccept : String := "fallback_accept"

/-- One admission rule. An empty condition list matches every request. -/
structure Policy where
  ruleID : String
  name : String := ""
  priority : Int64 := 0
  conditions : List RuleCondition := []
  action : RuleAction := {}
  /-- nil means enabled -/
  enabled : Option Bool := none

/-! ### Defaults -/

def Policy.isEnabled (p : Policy) : Bool := p.enabled.getD true

def Policy.displayName (p : Policy) : String := if p.name ≠ "" then p.name else p.ruleID

namespace RuleAction

def typeOrDefault (a : RuleAction) : String := if a.type = "" then ActionAccept else a.type

def rejectStatusOrDefault (a : RuleAction) : Int64 :=
  if a.rejectStatus > 0 then a.rejectStatus else 429

def minHitRatioOrDefault (a : RuleAction) : Float := a.minHitRatio.getD 0

def onLowHitOrDefault (a : RuleAction) : String :=
  if a.onLowHit ≠ "" then a.onLowHit else RuleOutcomeReject

def onUncertainOrDefault (a : RuleAction) : String :=
  if a.onUncertain ≠ "" then a.onUncertain else RuleOutcomeFallbackAccept

/-- The status of a rejection is positive, so `reject` never replaces it. -/
theorem rejectStatusOrDefault_pos (a : RuleAction) : 0 < a.rejectStatusOrDefault := by
  unfold rejectStatusOrDefault
  split
  · assumption
  · decide

end RuleAction

/-! ### The order of rules -/

/-- The comparison of `sortPolicies`: priority descending, then rule id. -/
def policyLess (p q : Policy) : Bool :=
  if p.priority ≠ q.priority then p.priority > q.priority else p.ruleID < q.ruleID

/-- What the comparison looks at. -/
def policyKey (p : Policy) : Int ×ₗ String := toLex (-p.priority.toInt, p.ruleID)

theorem policyLess_eq (p q : Policy) : policyLess p q = decide (policyKey p < policyKey q) := by
  rw [Bool.eq_iff_iff, decide_eq_true_eq, policyKey, policyKey, Prod.Lex.toLex_lt_toLex]
  unfold policyLess
  by_cases same : p.priority = q.priority
  · simp [same]
  · have other : p.priority.toInt ≠ q.priority.toInt := fun h => same (Int64.toInt_inj.mp h)
    simp only [ne_eq, same, not_false_eq_true, if_true, decide_eq_true_eq, gt_iff_lt,
      Int64.lt_iff_toInt_lt]
    omega

/-- `sortPolicies`, by a stable sort. -/
def policySort : SortSlice policyLess := .byKey policyLess_eq

end KvIndexer.Config
