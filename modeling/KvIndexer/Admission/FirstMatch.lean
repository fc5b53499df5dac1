import KvIndexer.Admission.Evaluate

/-!
First-match semantics of a rule list.

The specification names no loop and no sort: the rule that decides is one that qualifies
and that no other qualifying rule comes before, and the ids reported are those of the
rules that do not come after it. `evaluate_firstMatch` is the agreement; with distinct
rule ids there is one such rule, and the order of the list does not matter.
-/

namespace KvIndexer.Admission

open Config

section Semantics

variable (platform : Platform) (r : Request) (rules : List Policy) (hit : HitInfo)

/-- The rule is enabled, has an id, and all its conditions hold. -/
structure Qualifies (rule : Policy) : Prop where
  enabled : rule.isEnabled = true
  named : rule.ruleID ≠ ""
  holds : matchesRule platform r hit rule = true

/-- No rule that qualifies comes before this one. -/
structure Decides (rule : Policy) : Prop where
  member : rule ∈ rules
  qualifies : Qualifies platform r hit rule
  first : ∀ other ∈ rules, Qualifies platform r hit other → policyLess other rule = false

/-- The names of the visited rules, and no others, in the order of the rules. -/
structure Lists (visited : Policy → Prop) (ids : List String) : Prop where
  names : ∀ id, id ∈ ids ↔ id ≠ "" ∧ ∃ rule ∈ rules, visited rule ∧ rule.ruleID = id
  ordered : ∃ sorted : List Policy, sorted.Perm rules ∧
    sorted.Pairwise (fun a b => policyLess b a = false) ∧
    ids <+: (sorted.map Policy.ruleID).filter (· ≠ "")

/-- What the first match makes of a rule list. -/
inductive FirstMatch : Result → Prop where
  | decided {rule : Policy} {ids : List String} : Decides platform r rules hit rule →
      Lists rules (fun other => policyLess rule other = false) ids →
      FirstMatch
        (applyAction r
          { hit := hit, evaluatedRuleIDs := ids, matchedRuleID := rule.ruleID,
            matchedRuleName := rule.displayName, matchedRulePriority := rule.priority }
          rule.action)
  | undecided {ids : List String} : (∀ rule ∈ rules, ¬ Qualifies platform r hit rule) →
      Lists rules (fun _ => True) ids →
      FirstMatch (accept { hit := hit, evaluatedRuleIDs := ids } .noMatchingRule false)

end Semantics

/-- Id, name and priority of the rule a result reports. -/
def Result.matched (res : Result) : String × String × Int64 :=
  (res.matchedRuleID, res.matchedRuleName, res.matchedRulePriority)

variable {platform : Platform} {r : Request} {rules : List Policy} {hit : HitInfo}

theorem qualifies_iff {rule : Policy} :
    qualifies platform r hit rule = true ↔ Qualifies platform r hit rule := by
  rw [qualifies, Bool.and_eq_true, Bool.and_eq_true, decide_eq_true_eq]
  constructor
  · rintro ⟨⟨enabled, named⟩, holds⟩
    exact ⟨enabled, named, holds⟩
  · rintro ⟨enabled, named, holds⟩
    exact ⟨⟨enabled, named⟩, holds⟩

/-- Rules that compare equal have one id. -/
theorem ruleID_of_policyKey {p q : Policy} (same : policyKey p = policyKey q) :
    p.ruleID = q.ruleID :=
  congrArg Prod.snd (toLex.injective same)

/-- Distinct ids tell rules apart in the order of evaluation. -/
theorem eq_of_policyKey (distinct : (rules.map Policy.ruleID).Nodup) :
    ∀ p ∈ rules, ∀ q ∈ rules, policyKey p = policyKey q → p = q :=
  fun _ inRules _ inRules' same =>
    List.inj_on_of_nodup_map distinct inRules inRules' (ruleID_of_policyKey same)

/-- The ids of the rules that are visited are a first part of the ids in order. -/
theorem visitedIDs_ordered :
    ∃ sorted : List Policy, sorted.Perm rules ∧
      sorted.Pairwise (fun a b => policyLess b a = false) ∧
      visitedIDs platform r hit (platform.sortRules.sort rules) <+:
        (sorted.map Policy.ruleID).filter (· ≠ "") :=
  ⟨platform.sortRules.sort rules, platform.sortRules.perm rules, platform.sortRules.sorted rules,
    (through_isPrefix.map Policy.ruleID).filter _⟩

theorem mem_visitedIDs {sorted : List Policy} {id : String} :
    id ∈ visitedIDs platform r hit sorted ↔
      id ≠ "" ∧ ∃ rule ∈ through (qualifies platform r hit) sorted, rule.ruleID = id := by
  rw [visitedIDs, List.mem_filter, List.mem_map, decide_eq_true_eq, and_comm]

theorem decidingRule_eq_find? (sorted : List Policy) :
    decidingRule platform r hit sorted = sorted.find? (qualifies platform r hit) := rfl

theorem decides_of_decidingRule {rule : Policy}
    (decides : decidingRule platform r hit (platform.sortRules.sort rules) = some rule) :
    Decides platform r rules hit rule := by
  obtain ⟨member, holds, first⟩ := SortSlice.find?_sort policyLess_eq decides
  exact ⟨member, qualifies_iff.mp holds, fun other inRules ready =>
    first other inRules (qualifies_iff.mpr ready)⟩

/-- Of rules with distinct ids at most one decides. -/
theorem Decides.unique (distinct : (rules.map Policy.ruleID).Nodup) {rule other : Policy}
    (decides : Decides platform r rules hit rule) (decides' : Decides platform r rules hit other) :
    rule = other := by
  have notAfter := decides.first other decides'.member decides'.qualifies
  have notBefore := decides'.first rule decides.member decides.qualifies
  rw [policyLess_eq, decide_eq_false_iff_not, not_lt] at notAfter notBefore
  exact eq_of_policyKey distinct rule decides.member other decides'.member
    (le_antisymm notAfter notBefore)

theorem not_qualifies_of_undecided
    (nothing : decidingRule platform r hit (platform.sortRules.sort rules) = none) {rule : Policy}
    (member : rule ∈ rules) : ¬ Qualifies platform r hit rule := by
  intro ready
  have sorted := platform.sortRules.mem_sort.mpr member
  exact List.find?_eq_none.mp nothing rule sorted (qualifies_iff.mpr ready)

/-- With distinct ids, the rule that decides is the one the loop ends in. -/
theorem decidingRule_eq_some (distinct : (rules.map Policy.ruleID).Nodup) {rule : Policy} :
    decidingRule platform r hit (platform.sortRules.sort rules) = some rule ↔
      Decides platform r rules hit rule := by
  refine ⟨decides_of_decidingRule, fun decides => ?_⟩
  refine (SortSlice.find?_sort_iff policyLess_eq (eq_of_policyKey distinct)).mpr
    ⟨decides.member, ?_, ?_⟩
  · exact qualifies_iff.mpr decides.qualifies
  · exact fun other member holds => decides.first other member (qualifies_iff.mp holds)

theorem matched_applyAction (r : Request) (res : Result) (action : RuleAction) :
    (applyAction r res action).matched = res.matched :=
  applyAction_cases (motive := fun out => out.matched = res.matched) (fun _ _ _ => rfl)
    fun _ _ => rfl

/-- A judgment reports the rule that decides. -/
theorem matched_judge (platform : Platform) (r : Request) (rules : List Policy) (hit : HitInfo) :
    (judge platform r rules hit).matched =
      (decidingRule platform r hit (platform.sortRules.sort rules)).elim ("", "", 0) fun rule =>
        (rule.ruleID, rule.displayName, rule.priority) := by
  obtain ⟨ids, judged⟩ := judge_eq platform r rules hit
  rw [judged]
  cases decidingRule platform r hit (platform.sortRules.sort rules) with
  | none => rfl
  | some rule => exact matched_applyAction _ _ _

theorem lists_of_decidingRule {rule : Policy}
    (decides : decidingRule platform r hit (platform.sortRules.sort rules) = some rule) :
    Lists rules (fun other => policyLess rule other = false)
      (visitedIDs platform r hit (platform.sortRules.sort rules)) := by
  refine ⟨fun id => ?_, visitedIDs_ordered⟩
  rw [mem_visitedIDs]
  refine and_congr_right fun _ => ?_
  constructor
  · rintro ⟨other, passed, rfl⟩
    obtain ⟨member, notAfter⟩ := (SortSlice.mem_through_sort policyLess_eq decides).1 passed
    exact ⟨other, member, notAfter, rfl⟩
  · rintro ⟨other, member, notAfter, rfl⟩
    rcases (SortSlice.mem_through_sort policyLess_eq decides).2 member notAfter with passed | tied
    · exact ⟨other, passed, rfl⟩
    · -- a rule with the key of the deciding one may come after it, but has its id
      obtain ⟨front, back, -, walked⟩ := through_of_find? decides
      refine ⟨rule, ?_, (ruleID_of_policyKey tied).symm⟩
      exact walked ▸ List.mem_append_right _ List.mem_cons_self

theorem lists_of_undecided
    (nothing : decidingRule platform r hit (platform.sortRules.sort rules) = none) :
    Lists rules (fun _ => True) (visitedIDs platform r hit (platform.sortRules.sort rules)) := by
  refine ⟨fun id => ?_, visitedIDs_ordered⟩
  rw [decidingRule_eq_find?] at nothing
  rw [mem_visitedIDs, through_of_find?_eq_none nothing]
  simp only [platform.sortRules.mem_sort, true_and]

/-- The judgment on a hit is the first match. -/
theorem judge_firstMatch (platform : Platform) (r : Request) (rules : List Policy)
    (hit : HitInfo) : FirstMatch platform r rules hit (judge platform r rules hit) := by
  rw [judge, evaluateRules_eq]
  cases decides : decidingRule platform r hit (platform.sortRules.sort rules) with
  | none =>
      exact .undecided (fun rule => not_qualifies_of_undecided decides)
        (lists_of_undecided decides)
  | some rule => exact .decided (decides_of_decidingRule decides) (lists_of_decidingRule decides)

/-- Distinct rule ids leave the sort no choice. -/
theorem sortRules_perm (platform : Platform) {rules rules' : List Policy}
    (distinct : (rules.map Policy.ruleID).Nodup) (same : rules.Perm rules') :
    platform.sortRules.sort rules = platform.sortRules.sort rules' :=
  SortSlice.sort_eq policyLess_eq platform.sortRules platform.sortRules same
    (eq_of_policyKey distinct)

/-- An evaluation is the first match, and a list of distinct rule ids may be permuted. -/
theorem evaluate_firstMatch (platform : Platform) (order : InstanceOrder) (input : Input) :
    FirstMatch platform input.toRequest input.rules (bestHit platform order input)
        (evaluate platform order input) ∧
      ((input.rules.map Policy.ruleID).Nodup → ∀ rules', input.rules.Perm rules' →
        evaluate platform order { input with rules := rules' } =
          evaluate platform order input) := by
  refine ⟨?_, fun distinct rules' same => ?_⟩
  · rw [evaluate_eq_judge]
    exact judge_firstMatch platform input.toRequest input.rules _
  · have hit : bestHit platform order { input with rules := rules' } =
        bestHit platform order input := rfl
    rw [evaluate_eq_judge, evaluate_eq_judge, hit, judge, judge, sortRules_perm platform distinct
      same]

/-- Two rules in either order. -/
theorem evaluate_firstMatch_swapped :
    evaluate .plain default { rules := [{ ruleID := "b" }, { ruleID := "a", priority := 1 }] } =
      evaluate .plain default { rules := [{ ruleID := "a", priority := 1 }, { ruleID := "b" }] } :=
  (evaluate_firstMatch .plain default
    { rules := [{ ruleID := "a", priority := 1 }, { ruleID := "b" }] }).2 (by decide)
    [{ ruleID := "b" }, { ruleID := "a", priority := 1 }] (List.Perm.swap _ _ _)

end KvIndexer.Admission
