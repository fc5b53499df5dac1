import KvIndexer.Admission.FirstMatch

/-!
Two readings of one rule list.

A reading is a request with its hit, and the rules as they are seen: some may be left out, and
the conditions rewritten (`Sight`). What a judgment announces, its decision, its reason and
the rule, depends on the reading only through the rule that decides, the hit ratio and what
makes the signal uncertain. So two readings that share these last two announce the same
exactly when the first rule that matches one of them matches both (`announced_judge_iff`).
-/

namespace KvIndexer.Admission

open Config

/-- What a judgment announces. -/
def Result.announced (res : Result) : Decision × Reason × (String × String × Int64) :=
  (res.decision, res.reason, res.matched)

/-- An action sees the same signal in both readings. -/
structure SameSignal (r r' : Request) (hit hit' : HitInfo) : Prop where
  uncertainty : uncertaintyReason r = uncertaintyReason r'
  hitRatio : hit.hitRatio = hit'.hitRatio

/-- How a list of rules is seen: rules may be left out, and their conditions rewritten. -/
structure Sight where
  keep : Policy → Bool
  rewrite : Policy → Policy
  rewrite_eq : ∀ p, rewrite p = { p with conditions := (rewrite p).conditions }

def Sight.see (sight : Sight) (rules : List Policy) : List Policy :=
  (rules.filter sight.keep).map sight.rewrite

/-- The rules as they are. -/
def Sight.plain : Sight := ⟨fun _ => true, id, fun _ => rfl⟩

@[simp]
theorem Sight.see_plain (rules : List Policy) : Sight.plain.see rules = rules := by
  rw [see, plain, List.map_id, List.filter_eq_self]
  exact fun _ _ => rfl

/-- The rule is seen, and as it is seen it qualifies. -/
structure Matches (platform : Platform) (sight : Sight) (r : Request) (hit : HitInfo)
    (rule : Policy) : Prop where
  seen : sight.keep rule = true
  qualifies : Qualifies platform r hit (sight.rewrite rule)

/-- A rule that matches one of two readings, and no such rule comes before it. -/
structure FirstOfEither (rules : List Policy) (here there : Policy → Prop) (rule : Policy) :
    Prop where
  member : rule ∈ rules
  matching : here rule ∨ there rule
  first : ∀ other ∈ rules, here other ∨ there other → policyLess other rule = false

/-- The first rule that matches one of two readings matches both. -/
def OneFirst (rules : List Policy) (here there : Policy → Prop) : Prop :=
  ∀ rule, FirstOfEither rules here there rule → here rule ∧ there rule

theorem OneFirst.congr {rules : List Policy} {here there here' there' : Policy → Prop}
    (same : ∀ rule ∈ rules, here rule ↔ here' rule)
    (same' : ∀ rule ∈ rules, there rule ↔ there' rule) :
    OneFirst rules here there ↔ OneFirst rules here' there' := by
  have either (rule : Policy) (member : rule ∈ rules) :=
    or_congr (same rule member) (same' rule member)
  have both (rule : Policy) (member : rule ∈ rules) :=
    and_congr (same rule member) (same' rule member)
  constructor
  · rintro always rule ⟨member, matching, first⟩
    exact (both rule member).mp (always rule ⟨member, (either rule member).mpr matching,
      fun other inRules => first other inRules ∘ (either other inRules).mp⟩)
  · rintro always rule ⟨member, matching, first⟩
    exact (both rule member).mpr (always rule ⟨member, (either rule member).mp matching,
      fun other inRules => first other inRules ∘ (either other inRules).mpr⟩)

variable {platform : Platform} {rules : List Policy} {sight sight' : Sight} {r r' : Request}
  {hit hit' : HitInfo}

theorem matches_plain_iff {rule : Policy} :
    Matches platform .plain r hit rule ↔ Qualifies platform r hit rule :=
  ⟨Matches.qualifies, fun ready => ⟨rfl, ready⟩⟩

section Rewriting

variable (sight : Sight) (rule : Policy)

theorem Sight.ruleID_rewrite : (sight.rewrite rule).ruleID = rule.ruleID := by
  rw [sight.rewrite_eq]

theorem Sight.action_rewrite : (sight.rewrite rule).action = rule.action := by
  rw [sight.rewrite_eq]

theorem Sight.policyKey_rewrite : policyKey (sight.rewrite rule) = policyKey rule := by
  rw [sight.rewrite_eq]
  rfl

/-- The name a judgment reports for the rule. -/
theorem Sight.named_rewrite :
    ((sight.rewrite rule).ruleID, (sight.rewrite rule).displayName,
      (sight.rewrite rule).priority) = (rule.ruleID, rule.displayName, rule.priority) := by
  rw [sight.rewrite_eq]
  rfl

end Rewriting

/-! ### Readings that match the same rules -/

theorem applyAction_congr (certain : uncertaintyReason r = uncertaintyReason r') (res : Result)
    (action : RuleAction) : applyAction r res action = applyAction r' res action := by
  unfold applyAction
  rw [certain]

/-- Requests that match the same rules under a hit, with one signal, have one judgment. -/
theorem judge_congr (certain : uncertaintyReason r = uncertaintyReason r')
    (matching : ∀ rule ∈ rules,
      matchesRule platform r hit rule = matchesRule platform r' hit rule) :
    judge platform r rules hit = judge platform r' rules hit := by
  have loop : ∀ (sorted : List Policy), (∀ rule ∈ sorted, rule ∈ rules) → ∀ res,
      evaluateRules platform r hit sorted res = evaluateRules platform r' hit sorted res := by
    intro sorted
    induction sorted with
    | nil => exact fun _ _ => rfl
    | cons rule sorted ih =>
        intro among res
        have rest := ih fun other later => among other (List.mem_cons_of_mem _ later)
        unfold evaluateRules
        dsimp only
        rw [matching rule (among rule List.mem_cons_self), rest, applyAction_congr certain]
  exact loop _ (fun _ sorted => platform.sortRules.mem_sort.mp sorted) _

/-! ### What an action sees -/

theorem announced_applyOutcome {res res' : Result} (matched : res.matched = res'.matched)
    (outcome : String) (reason : Reason) (status : Int64) (uncertainty : Bool) :
    (applyOutcome res outcome reason status uncertainty).announced =
      (applyOutcome res' outcome reason status uncertainty).announced := by
  unfold applyOutcome
  split_ifs
  all_goals exact congrArg (fun rule => (_, _, rule)) matched

theorem announced_applyAction {res res' : Result} (same : SameSignal r r' res.hit res'.hit)
    (matched : res.matched = res'.matched) (action : RuleAction) :
    (applyAction r res action).announced = (applyAction r' res' action).announced := by
  unfold applyAction
  rw [← same.uncertainty]
  by_cases accepts : action.typeOrDefault = ActionAccept
  · rw [if_pos accepts, if_pos accepts]
    exact congrArg (fun rule => (_, _, rule)) matched
  by_cases rejects : action.typeOrDefault = ActionReject
  · rw [if_neg accepts, if_pos rejects, if_neg accepts, if_pos rejects]
    exact congrArg (fun rule => (_, _, rule)) matched
  rw [if_neg accepts, if_neg rejects, if_neg accepts, if_neg rejects]
  by_cases requires : action.typeOrDefault = ActionRequireCacheHit
  · rw [if_pos requires, if_pos requires]
    cases uncertaintyReason r with
    | some reason =>
        refine announced_applyOutcome ?_ _ _ _ _
        exact matched
    | none =>
        dsimp only
        rw [same.hitRatio]
        split
        · refine announced_applyOutcome ?_ _ _ _ _
          exact matched
        · exact congrArg (fun rule => (_, _, rule)) matched
  · rw [if_neg requires, if_neg requires]
    exact congrArg (fun rule => (_, _, rule)) matched

/-! ### The rule that decides -/

/-- The first rule that matches a reading. -/
def firstSeen (platform : Platform) (sight : Sight) (r : Request) (hit : HitInfo)
    (rules : List Policy) : Option Policy :=
  (platform.sortRules.sort rules).find? fun rule =>
    sight.keep rule && qualifies platform r hit (sight.rewrite rule)

theorem matches_iff {rule : Policy} :
    (sight.keep rule && qualifies platform r hit (sight.rewrite rule)) = true ↔
      Matches platform sight r hit rule := by
  rw [Bool.and_eq_true, qualifies_iff]
  exact ⟨fun both => ⟨both.1, both.2⟩, fun matching => ⟨matching.seen, matching.qualifies⟩⟩

/-- The rule that decides a reading is the first one that matches it, as it is seen. -/
theorem decidingRule_see (distinct : (rules.map Policy.ruleID).Nodup) :
    decidingRule platform r hit (platform.sortRules.sort (sight.see rules)) =
      (firstSeen platform sight r hit rules).map sight.rewrite := by
  have ids : (sight.see rules).map Policy.ruleID =
      (rules.filter sight.keep).map Policy.ruleID := by
    rw [Sight.see, List.map_map]
    exact List.map_congr_left fun rule _ => sight.ruleID_rewrite rule
  have told : ((sight.see rules).map Policy.ruleID).Nodup := by
    rw [ids]
    exact distinct.sublist (List.filter_sublist.map Policy.ruleID)
  have sorted : platform.sortRules.sort (sight.see rules) =
      ((platform.sortRules.sort rules).filter sight.keep).map sight.rewrite := by
    rw [Sight.see, SortSlice.sort_map policyLess_eq _
        (fun rule _ => sight.policyKey_rewrite rule) (eq_of_policyKey told),
      SortSlice.sort_filter policyLess_eq _ _ (eq_of_policyKey distinct)]
  rw [decidingRule_eq_find?, sorted, List.find?_map, List.find?_filter]
  simp only [firstSeen, Bool.decide_and, Bool.decide_eq_true, Function.comp_apply]

theorem mem_of_firstSeen {rule : Policy}
    (decides : firstSeen platform sight r hit rules = some rule) :
    rule ∈ rules ∧ Matches platform sight r hit rule := by
  unfold firstSeen at decides
  have matching := List.find?_some decides
  exact ⟨platform.sortRules.mem_sort.mp (List.mem_of_find?_eq_some decides),
    matches_iff.mp matching⟩

/-- One rule decides both readings exactly when the first rule that matches either matches
both. -/
theorem firstSeen_eq_iff (distinct : (rules.map Policy.ruleID).Nodup) :
    firstSeen platform sight r hit rules = firstSeen platform sight' r' hit' rules ↔
      OneFirst rules (Matches platform sight r hit) (Matches platform sight' r' hit') := by
  unfold firstSeen
  rw [find?_eq_find?_iff]
  refine forall_congr' fun rule => ?_
  rw [SortSlice.find?_sort_iff policyLess_eq (eq_of_policyKey distinct)]
  simp only [Bool.or_eq_true, matches_iff]
  constructor
  · rintro always ⟨member, matching, first⟩
    exact always ⟨member, matching, first⟩
  · rintro always ⟨member, matching, first⟩
    exact always ⟨member, matching, first⟩

/-- What a judgment reports of the first rule that matches. -/
theorem matched_judge_see (distinct : (rules.map Policy.ruleID).Nodup) :
    (judge platform r (sight.see rules) hit).matched =
      (firstSeen platform sight r hit rules).elim ("", "", 0) fun rule =>
        (rule.ruleID, rule.displayName, rule.priority) := by
  rw [matched_judge, decidingRule_see distinct]
  cases firstSeen platform sight r hit rules with
  | none => rfl
  | some rule => exact sight.named_rewrite rule

/-- A judgment names the rule that decides. -/
theorem firstSeen_of_matched (distinct : (rules.map Policy.ruleID).Nodup)
    (same : (judge platform r (sight.see rules) hit).matched =
      (judge platform r' (sight'.see rules) hit').matched) :
    firstSeen platform sight r hit rules = firstSeen platform sight' r' hit' rules := by
  rw [matched_judge_see distinct, matched_judge_see distinct] at same
  have names := congrArg Prod.fst same
  have named {sight : Sight} {r : Request} {hit : HitInfo} {rule : Policy}
      (decides : firstSeen platform sight r hit rules = some rule) : rule.ruleID ≠ "" := by
    rw [← sight.ruleID_rewrite]
    exact (mem_of_firstSeen decides).2.qualifies.named
  cases decides : firstSeen platform sight r hit rules with
  | none =>
      cases decides' : firstSeen platform sight' r' hit' rules with
      | none => rfl
      | some rule' =>
          rw [decides, decides'] at names
          exact absurd names.symm (named decides')
  | some rule =>
      cases decides' : firstSeen platform sight' r' hit' rules with
      | none =>
          rw [decides, decides'] at names
          exact absurd names (named decides)
      | some rule' =>
          rw [decides, decides'] at names
          exact congrArg some (List.inj_on_of_nodup_map distinct (mem_of_firstSeen decides).1
            (mem_of_firstSeen decides').1 names)

/-- Two readings with one signal announce the same exactly when the first rule that matches
one of them matches both. -/
theorem announced_judge_iff (distinct : (rules.map Policy.ruleID).Nodup)
    (same : SameSignal r r' hit hit') :
    (judge platform r (sight.see rules) hit).announced =
        (judge platform r' (sight'.see rules) hit').announced ↔
      OneFirst rules (Matches platform sight r hit) (Matches platform sight' r' hit') := by
  rw [← firstSeen_eq_iff distinct]
  constructor
  · intro announced
    exact firstSeen_of_matched distinct (congrArg (fun announced => announced.2.2) announced)
  · intro deciders
    obtain ⟨ids, judged⟩ := judge_eq platform r (sight.see rules) hit
    obtain ⟨ids', judged'⟩ := judge_eq platform r' (sight'.see rules) hit'
    rw [judged, judged', decidingRule_see distinct, decidingRule_see distinct, ← deciders]
    cases firstSeen platform sight r hit rules with
    | none => rfl
    | some rule =>
        rw [Option.map_some, Option.map_some, ruleResult, ruleResult, sight.action_rewrite,
          sight'.action_rewrite]
        refine announced_applyAction ?_ ?_ rule.action
        · exact same
        · exact (sight.named_rewrite rule).trans (sight'.named_rewrite rule).symm

/-! ### Rules that count no tokens -/

/-- No condition reads the matched or the effective tokens. -/
def CountsNoTokens (rules : List Policy) : Prop :=
  ∀ rule ∈ rules, ∀ cond ∈ rule.conditions,
    cond.field ∉ [ConditionFieldBestHitTokens, ConditionFieldEffectiveCachedTokens]

/-- Such a rule reads of a hit its ratio. -/
theorem qualifies_congr (blind : CountsNoTokens rules) (ratio : hit.hitRatio = hit'.hitRatio)
    {rule : Policy} (member : rule ∈ rules) :
    Qualifies platform r hit rule ↔ Qualifies platform r hit' rule := by
  have fields : ∀ cond ∈ rule.conditions,
      conditionValue r hit cond.field = conditionValue r hit' cond.field := by
    intro cond inRule
    have other := blind rule member cond inRule
    simp only [List.mem_cons, List.not_mem_nil, or_false, not_or] at other
    simp only [conditionValue, if_neg other.1, if_neg other.2, ratio]
  have matching : matchesRule platform r hit rule = matchesRule platform r hit' rule :=
    matchesRule_congr fields
  constructor
  · rintro ⟨enabled, named, holds⟩
    exact ⟨enabled, named, matching ▸ holds⟩
  · rintro ⟨enabled, named, holds⟩
    exact ⟨enabled, named, matching ▸ holds⟩

/-- For such rules the two hits may be replaced by any hit with their ratio. -/
theorem announced_judge_iff_of_ratio (distinct : (rules.map Policy.ruleID).Nodup)
    (blind : CountsNoTokens (rules.map sight.rewrite))
    (blind' : CountsNoTokens (rules.map sight'.rewrite))
    (uncertainty : uncertaintyReason r = uncertaintyReason r')
    {shown : HitInfo} (ratio : hit.hitRatio = shown.hitRatio)
    (ratio' : hit'.hitRatio = shown.hitRatio) :
    (judge platform r (sight.see rules) hit).announced =
        (judge platform r' (sight'.see rules) hit').announced ↔
      OneFirst rules (Matches platform sight r shown) (Matches platform sight' r' shown) := by
  have reads {sight : Sight} {r : Request} {hit : HitInfo}
      (blind : CountsNoTokens (rules.map sight.rewrite)) (ratio : hit.hitRatio = shown.hitRatio)
      (rule : Policy) (member : rule ∈ rules) :
      Matches platform sight r hit rule ↔ Matches platform sight r shown rule := by
    have same := @qualifies_congr platform (rules.map sight.rewrite) r hit shown blind ratio
      (sight.rewrite rule) (List.mem_map_of_mem member)
    exact ⟨fun matching => ⟨matching.seen, same.mp matching.qualifies⟩,
      fun matching => ⟨matching.seen, same.mpr matching.qualifies⟩⟩
  rw [announced_judge_iff distinct ⟨uncertainty, ratio.trans ratio'.symm⟩]
  exact OneFirst.congr (reads blind ratio) (reads blind' ratio')

end KvIndexer.Admission
