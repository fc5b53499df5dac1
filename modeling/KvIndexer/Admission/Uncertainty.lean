import KvIndexer.Admission.Evaluate

/-!
Admission under an uncertain cache signal.

An action never looks at the hit when the signal is uncertain: what a rule then rules is
read off the rule alone (`untrustedRuling`). The conditions do look: a rule on the hit
ratio, the matched tokens or the effective tokens is matched against an untrusted hit.

Which rules may decide, whatever the hit is, can be read off the request and the rules
(`possibleDeciders`). Where these rule alike, the verdict does not depend on the query
(`untrusted_of_unswayed`); there is one of them only when no enabled rule reads a hit field
(`unswayed_of_blind`).
-/

namespace KvIndexer.Admission

open Config Residency

/-- Decision, reason and status. -/
abbrev Verdict := Decision × Reason × Int64

def Result.verdict (res : Result) : Verdict := (res.decision, res.reason, res.httpStatus)

/-- What a deciding rule rules when the signal is uncertain for `reason`. -/
def untrustedRuling (reason : Reason) : Option Policy → Verdict
  | none => (.accept, .noMatchingRule, 200)
  | some rule =>
      let status := rule.action.rejectStatusOrDefault
      if rule.action.typeOrDefault = ActionAccept then (.accept, .ruleAccepted, 200)
      else if rule.action.typeOrDefault = ActionReject then (.reject, .ruleRejected, status)
      else if rule.action.typeOrDefault = ActionRequireCacheHit then
        if rule.action.onUncertainOrDefault = RuleOutcomeReject then (.reject, reason, status)
        else (.accept, reason, 200)
      else (.reject, .unknownAction, status)

theorem verdict_reject (res : Result) (reason : Reason) {status : Int64} (positive : 0 < status) :
    (reject res reason status).verdict = (.reject, reason, status) := by
  have kept : ¬ status ≤ 0 := by
    rw [Int64.not_le]
    exact positive
  simp only [Result.verdict, reject, if_neg kept]

/-- An uncertain signal rejects only when the configured outcome says so. -/
theorem verdict_applyOutcome (res : Result) (outcome : String) (reason : Reason) {status : Int64}
    (positive : 0 < status) :
    (applyOutcome res outcome reason status true).verdict =
      if outcome = RuleOutcomeReject then (.reject, reason, status)
      else (.accept, reason, 200) := by
  unfold applyOutcome
  by_cases accepts : outcome = RuleOutcomeAccept
  · subst accepts
    rfl
  · by_cases falls : outcome = RuleOutcomeFallbackAccept
    · subst falls
      rfl
    · rw [if_neg accepts, if_neg falls, if_pos rfl]
      split
      · exact verdict_reject res reason positive
      · rfl

/-- Under an uncertain signal the hit plays no part in what a rule leads to. -/
theorem verdict_ruleResult {r : Request} {reason : Reason}
    (uncertain : uncertaintyReason r = some reason) (res : Result) (rule : Option Policy) :
    (ruleResult r res rule).verdict = untrustedRuling reason rule := by
  cases rule with
  | none => rfl
  | some rule =>
      have positive := rule.action.rejectStatusOrDefault_pos
      simp only [ruleResult, applyAction, untrustedRuling, uncertain]
      split
      · rfl
      · split
        · exact verdict_reject _ _ positive
        · split
          · exact verdict_applyOutcome _ _ _ positive
          · exact verdict_reject _ _ positive

/-- The rule that decides an input. -/
def Input.decider (platform : Platform) (order : InstanceOrder) (input : Input) : Option Policy :=
  decidingRule platform input.toRequest (bestHit platform order input)
    (platform.sortRules.sort input.rules)

theorem verdict_evaluate {platform : Platform} {order : InstanceOrder} {input : Input}
    {reason : Reason} (uncertain : uncertaintyReason input.toRequest = some reason) :
    (evaluate platform order input).verdict =
      untrustedRuling reason (input.decider platform order) := by
  rw [evaluate_eq_judge]
  obtain ⟨ids, same⟩ := judge_eq platform input.toRequest input.rules
    (bestHit platform order input)
  rw [same, verdict_ruleResult uncertain]
  rfl

/-- Two inputs that differ in the query only. -/
structure SameButQuery (input input' : Input) : Prop where
  request : input.toRequest = input'.toRequest
  rules : input.rules = input'.rules
  live : input.hitOverride = none
  live' : input'.hitOverride = none

/-! ### The rules that may decide -/

/-- No condition of the rule reads a field that residency decides. -/
def ReadsNoHit (rule : Policy) : Prop := ∀ cond ∈ rule.conditions, cond.field ∉ hitFields

instance (rule : Policy) : Decidable (ReadsNoHit rule) :=
  inferInstanceAs (Decidable (∀ cond ∈ rule.conditions, cond.field ∉ hitFields))

/-- The rule with the conditions that read no hit field. -/
def withoutHitConditions (rule : Policy) : Policy :=
  { rule with conditions := rule.conditions.filter fun cond => cond.field ∉ hitFields }

/-- The rules that may decide under some hit, in their order: enabled ones whose other conditions
hold, up to the first that reads no hit field. None, if there is no such rule. -/
def possibleDeciders (platform : Platform) (r : Request) : List Policy → List (Option Policy)
  | [] => [none]
  | rule :: rules =>
      if qualifies platform r {} (withoutHitConditions rule) then
        if ReadsNoHit rule then [some rule] else some rule :: possibleDeciders platform r rules
      else possibleDeciders platform r rules

/-- All rules that may decide rule alike when the signal is uncertain for `reason`. -/
def Unswayed (platform : Platform) (r : Request) (reason : Reason) (rules : List Policy) : Prop :=
  ∀ rule ∈ possibleDeciders platform r rules, ∀ rule' ∈ possibleDeciders platform r rules,
    untrustedRuling reason rule = untrustedRuling reason rule'

instance (platform : Platform) (r : Request) (reason : Reason) (rules : List Policy) :
    Decidable (Unswayed platform r reason rules) :=
  inferInstanceAs (Decidable (∀ rule ∈ possibleDeciders platform r rules,
    ∀ rule' ∈ possibleDeciders platform r rules,
      untrustedRuling reason rule = untrustedRuling reason rule'))

section Deciders

variable {platform : Platform} {r : Request} {hit : HitInfo}

/-- A rule that qualifies under some hit does so without its conditions on the hit. -/
theorem qualifies_withoutHitConditions {rule : Policy}
    (qualified : qualifies platform r hit rule = true) :
    qualifies platform r {} (withoutHitConditions rule) = true := by
  unfold qualifies at qualified ⊢
  rw [Bool.and_eq_true] at qualified ⊢
  refine ⟨qualified.1, List.all_eq_true.mpr fun cond member => ?_⟩
  obtain ⟨inRule, other⟩ := List.mem_filter.mp member
  rw [conditionValue_congr r {} hit (of_decide_eq_true other)]
  exact List.all_eq_true.mp qualified.2 cond inRule

/-- A rule that reads no hit field qualifies under every hit or under none. -/
theorem qualifies_of_readsNoHit {rule : Policy} (blind : ReadsNoHit rule) :
    qualifies platform r hit rule = qualifies platform r {} (withoutHitConditions rule) := by
  have whole : withoutHitConditions rule = rule := by
    unfold withoutHitConditions
    rw [List.filter_eq_self.mpr fun cond member => decide_eq_true (blind cond member)]
  rw [whole, qualifies, qualifies]
  congr 1
  exact matchesRule_congr fun cond member => conditionValue_congr r hit {} (blind cond member)

/-- Whatever the hit, the deciding rule is one of them. -/
theorem decidingRule_mem_possibleDeciders (rules : List Policy) :
    decidingRule platform r hit rules ∈ possibleDeciders platform r rules := by
  induction rules with
  | nil => exact List.mem_singleton_self none
  | cons rule rules ih =>
      rw [decidingRule_cons, possibleDeciders]
      by_cases qualified : qualifies platform r hit rule = true
      · rw [if_pos qualified, if_pos (qualifies_withoutHitConditions qualified)]
        split
        · exact List.mem_singleton_self _
        · exact List.mem_cons_self
      · rw [if_neg qualified]
        split
        · rename_i may
          split
          · rename_i blind
            exact absurd ((qualifies_of_readsNoHit blind).trans may) qualified
          · exact List.mem_cons_of_mem _ ih
        · exact ih

/-- There is one only when no enabled rule reads a hit field. -/
theorem possibleDeciders_of_blind {rules : List Policy}
    (blind : ∀ rule ∈ rules, rule.isEnabled = true → ReadsNoHit rule) :
    ∃ rule, possibleDeciders platform r rules = [rule] := by
  induction rules with
  | nil => exact ⟨none, rfl⟩
  | cons rule rules ih =>
      obtain ⟨first, rest⟩ := List.forall_mem_cons.mp blind
      rw [possibleDeciders]
      split
      · rename_i may
        unfold qualifies at may
        rw [Bool.and_eq_true, Bool.and_eq_true] at may
        exact ⟨some rule, if_pos (first may.1.1)⟩
      · exact ih rest

/-- Then the deciding rule is the same under two hits. -/
theorem decidingRule_of_blind (platform : Platform) (r : Request) (hit hit' : HitInfo)
    {rules : List Policy} (blind : ∀ rule ∈ rules, rule.isEnabled = true → ReadsNoHit rule) :
    decidingRule platform r hit rules = decidingRule platform r hit' rules := by
  obtain ⟨only, single⟩ := @possibleDeciders_of_blind platform r rules blind
  have here := @decidingRule_mem_possibleDeciders platform r hit rules
  have there := @decidingRule_mem_possibleDeciders platform r hit' rules
  rw [single] at here there
  exact (List.mem_singleton.mp here).trans (List.mem_singleton.mp there).symm

/-- And no query sways the verdict. -/
theorem unswayed_of_blind {rules : List Policy}
    (blind : ∀ rule ∈ rules, rule.isEnabled = true → ReadsNoHit rule) (reason : Reason) :
    Unswayed platform r reason rules := by
  obtain ⟨only, single⟩ := @possibleDeciders_of_blind platform r rules blind
  unfold Unswayed
  rw [single]
  intro rule member rule' member'
  rw [List.mem_singleton.mp member, List.mem_singleton.mp member']

end Deciders

/-- Where the rules that may decide rule alike, an untrusted query never decides. -/
theorem untrusted_of_unswayed (platform : Platform) (order order' : InstanceOrder)
    (input input' : Input) (same : SameButQuery input input') (reason : Reason)
    (uncertain : uncertaintyReason input.toRequest = some reason)
    (unswayed : Unswayed platform input.toRequest reason (platform.sortRules.sort input.rules)) :
    (evaluate platform order input).verdict = (evaluate platform order' input').verdict := by
  have uncertain' : uncertaintyReason input'.toRequest = some reason := same.request ▸ uncertain
  rw [verdict_evaluate uncertain, verdict_evaluate uncertain']
  refine unswayed _ (decidingRule_mem_possibleDeciders _) _ ?_
  unfold Input.decider
  rw [← same.request, ← same.rules]
  exact decidingRule_mem_possibleDeciders _

/-- A 64-token prompt on a stream that is not fresh. -/
def staleInput (rules : List Policy) (query : QueryResult) : Input where
  inputTokens := 64
  tokenized := true
  hashSupported := true
  hasCandidates := true
  rules := rules
  query := some query

/-- A rule that rejects a low hit ratio. -/
def coldRule : Policy where
  ruleID := "cold"
  conditions := [⟨ConditionFieldHitRatio, ConditionOpLT, .float 0.5⟩]
  action := { type := ActionReject }

/-- The prompt is resident on one instance. -/
def residentQuery : QueryResult := ⟨Finmap.singleton "a" ⟨64, 64, 64, 64, ∅⟩, 0⟩

theorem decision_stale_resident (order : InstanceOrder) :
    (evaluate .plain order (staleInput [coldRule] residentQuery)).decision = .accept := by
  have entries : (order residentQuery.instances).entries = [⟨"a", ⟨64, 64, 64, 64, ∅⟩⟩] :=
    GoMap.entries_singleton (order residentQuery.instances)
  have hit : bestHit .plain order (staleInput [coldRule] residentQuery) =
      bestHitOf .plain 64 [⟨"a", ⟨64, 64, 64, 64, ∅⟩⟩] := by
    rw [← entries]
    rfl
  rw [evaluate_eq_judge, hit]
  decide +kernel

theorem decision_stale_empty (order : InstanceOrder) :
    (evaluate .plain order (staleInput [coldRule] ⟨∅, 0⟩)).decision = .reject := by
  have entries : (order ∅).entries = [] := (Multiset.coe_eq_zero _).mp (order ∅).all
  have hit : bestHit .plain order (staleInput [coldRule] ⟨∅, 0⟩) = bestHitOf .plain 64 [] := by
    rw [← entries]
    rfl
  rw [evaluate_eq_judge, hit]
  decide +kernel

/-- A stale index that misses the prompt turns the accept into a rejection. -/
theorem not_untrusted : ¬ ∀ platform order order' input input' reason, SameButQuery input input' →
    uncertaintyReason input.toRequest = some reason →
    (evaluate platform order input).verdict = (evaluate platform order' input').verdict := by
  intro always
  have same := congrArg Prod.fst
    (always .plain default default (staleInput [coldRule] residentQuery)
      (staleInput [coldRule] ⟨∅, 0⟩) .fallbackStale ⟨rfl, rfl, rfl, rfl⟩ rfl)
  have accepts := decision_stale_resident default
  have rejects := decision_stale_empty default
  simp only [Result.verdict, accepts, rejects] at same
  cases same

/-- A rule on the hit sways nothing where it is for another tenant. -/
theorem untrusted_otherTenant :
    let foreign : Policy := { coldRule with
      conditions := ⟨ConditionFieldTenantID, ConditionOpEq, .string "t"⟩ :: coldRule.conditions }
    (evaluate .plain default (staleInput [foreign] residentQuery)).verdict =
      (evaluate .plain default (staleInput [foreign] ⟨∅, 0⟩)).verdict :=
  untrusted_of_unswayed .plain default default _ _ ⟨rfl, rfl, rfl, rfl⟩ .fallbackStale rfl
    (by decide +kernel)

end KvIndexer.Admission
