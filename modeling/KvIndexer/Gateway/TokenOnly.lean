import KvIndexer.Admission.FirstMatch
import KvIndexer.Admission.Uncertainty
import KvIndexer.HttpApi.Route

/-!
Judging without a cache (`internal/gateway/local_tokenizer.go`).

For a model that the gateway tokenizes itself it judges with the rules that need no cache
data (`tokenOnlyPolicies`). Such a rule reads neither the hit nor the state of the event
stream, and its action looks at no hit, so the judgment is a function of the tokens alone
(`ruling_tokenOnly`). Leaving the other rules out keeps the first match if it is one of
the kept ones, or if there is none.
-/

namespace KvIndexer.Gateway

open Config Admission HttpApi

/-! ### The rules kept -/

def isTokenOnlyCondition (field : String) : Bool :=
  field ∈ ["", ConditionFieldClusterID, ConditionFieldModelID, ConditionFieldTenantID,
    ConditionFieldInputTokens, ConditionFieldTokenized, ConditionFieldHashSupported,
    ConditionFieldHasCandidates]

/-- A rule that reads no cache data. -/
def isTokenOnly (p : Policy) : Bool :=
  p.action.typeOrDefault ≠ ActionRequireCacheHit &&
    p.conditions.all fun c => isTokenOnlyCondition c.field

def tokenOnlyPolicies (rules : List Policy) : List Policy := rules.filter isTokenOnly

/-! ### The judgment -/

def pickLocalTarget (engines : List Engine) : Option HttpApi.Target :=
  engines.head?.map HttpApi.Target.ofEngine

/-- What admission is asked for a request that the gateway tokenized. -/
def localInput (rr : RouteRequest) (rules : List Policy) (engines : List Engine)
    (inputTokens : Int64) (fallbackCluster : String) : Input where
  clusterID :=
    match engines.head? with
    | some e => if e.clusterID ≠ "" then e.clusterID else fallbackCluster
    | none => fallbackCluster
  modelID := rr.model
  tenantID := if rr.tenantID = "" then "default" else rr.tenantID
  inputTokens := inputTokens
  rules := rules
  fresh := true
  tokenized := true
  hashSupported := true
  hasCandidates := engines.length > 0

/-- The response type is the gateway's copy of the backends'. -/
def evaluateLocal (platform : Platform) (order : InstanceOrder) (rr : RouteRequest)
    (prof : ModelProfile) (rules : List Policy) (engines : List Engine) (inputTokens : Int64)
    (configVersion : Int64) (fallbackCluster : String) : RouteResponse :=
  let result := Admission.evaluate platform order
    (localInput rr rules engines inputTokens fallbackCluster)
  { decision := result.decision
    reason := result.reason
    httpStatus := result.httpStatus
    cache := result.hit
    fallback := result.fallback
    protocol := rr.protocol
    config :=
      { modelProfileVersion := prof.version
        ns := prof.namespace
        evaluatedRuleIDs := result.evaluatedRuleIDs
        matchedRuleID := result.matchedRuleID
        matchedRuleName := result.matchedRuleName
        matchedRulePriority := result.matchedRulePriority
        configVersion := configVersion }
    error :=
      if result.decision = .reject then
        some
          { type := result.reason
            inputTokens := result.hit.inputTokens
            bestHitTokens := result.hit.bestHitTokens
            hitRatio := result.hit.hitRatio
            minRequiredHitRatio := result.minRequiredHitRatio }
      else none
    target := if result.decision = .reject then none else pickLocalTarget engines }

/-! ### What the kept rules read -/

/-- Two requests that differ in the state of the event stream only. -/
structure SameTokens (r r' : Admission.Request) : Prop where
  clusterID : r.clusterID = r'.clusterID
  modelID : r.modelID = r'.modelID
  tenantID : r.tenantID = r'.tenantID
  inputTokens : r.inputTokens = r'.inputTokens
  tokenized : r.tokenized = r'.tokenized
  hashSupported : r.hashSupported = r'.hashSupported
  hasCandidates : r.hasCandidates = r'.hasCandidates

variable {platform : Platform} {r r' : Admission.Request}

theorem SameTokens.exists_fresh (same : SameTokens r r') :
    ∃ fresh, r' = { r with fresh := fresh } := by
  obtain ⟨cluster, model, tenant, tokens, tokenized, supported, candidates⟩ := same
  cases r'
  cases cluster
  cases model
  cases tenant
  cases tokens
  cases tokenized
  cases supported
  cases candidates
  exact ⟨_, rfl⟩

theorem conditionValue_tokenOnly (same : SameTokens r r') (hit hit' : HitInfo) {field : String}
    (tokenOnly : isTokenOnlyCondition field = true) :
    conditionValue r hit field = conditionValue r' hit' field := by
  obtain ⟨fresh, rfl⟩ := same.exists_fresh
  have fields := of_decide_eq_true tokenOnly
  simp only [List.mem_cons, List.not_mem_nil, or_false] at fields
  rcases fields with rfl | rfl | rfl | rfl | rfl | rfl | rfl | rfl
  all_goals rfl

theorem matchesRule_tokenOnly (same : SameTokens r r') (hit hit' : HitInfo) {rule : Policy}
    (tokenOnly : isTokenOnly rule = true) :
    matchesRule platform r hit rule = matchesRule platform r' hit' rule := by
  unfold isTokenOnly at tokenOnly
  have reads := List.all_eq_true.mp (Bool.and_eq_true_iff.mp tokenOnly).2
  refine matchesRule_congr ?_
  intro cond member
  exact conditionValue_tokenOnly same hit hit' (reads cond member)

/-- The kept rules have the same first match under every hit. -/
theorem decidingRule_tokenOnly (same : SameTokens r r') (hit hit' : HitInfo)
    (rules : List Policy) :
    decidingRule platform r hit (platform.sortRules.sort (tokenOnlyPolicies rules)) =
      decidingRule platform r' hit' (platform.sortRules.sort (tokenOnlyPolicies rules)) := by
  refine decidingRule_congr ?_
  intro rule sorted _
  have member := platform.sortRules.mem_sort.mp sorted
  exact matchesRule_tokenOnly same hit hit' (List.mem_filter.mp member).2

/-! ### What they rule -/

/-- What a result says of the request. -/
def ruling (res : Result) : Verdict × Bool × (String × String × Int64) :=
  (res.verdict, res.fallback, res.matched)

/-- An action that requires no hit looks at nothing. -/
theorem ruling_applyAction {action : RuleAction}
    (free : action.typeOrDefault ≠ ActionRequireCacheHit) {res res' : Result}
    (matched : res.matched = res'.matched) (fallback : res.fallback = res'.fallback) :
    ruling (applyAction r res action) = ruling (applyAction r' res' action) := by
  unfold applyAction
  by_cases accepts : action.typeOrDefault = ActionAccept
  · rw [if_pos accepts, if_pos accepts]
    exact congrArg (fun rule => (_, _, rule)) matched
  · by_cases rejects : action.typeOrDefault = ActionReject
    · rw [if_neg accepts, if_pos rejects, if_neg accepts, if_pos rejects]
      exact congrArg₂ (fun fallback rule => (_, fallback, rule)) fallback matched
    · rw [if_neg accepts, if_neg rejects, if_neg free, if_neg accepts, if_neg rejects, if_neg free]
      exact congrArg₂ (fun fallback rule => (_, fallback, rule)) fallback matched

theorem action_of_decidingRule {rules : List Policy} {hit : HitInfo} {rule : Policy}
    (decides : decidingRule platform r hit
      (platform.sortRules.sort (tokenOnlyPolicies rules)) = some rule) :
    rule.action.typeOrDefault ≠ ActionRequireCacheHit := by
  have member := (decides_of_decidingRule decides).member
  have tokenOnly := (List.mem_filter.mp member).2
  unfold isTokenOnly at tokenOnly
  exact of_decide_eq_true (Bool.and_eq_true_iff.mp tokenOnly).1

/-- Where a kept rule decides two judgments, or no rule does, they rule alike. -/
theorem ruling_of_deciders {rules rules' : List Policy} {hit hit' : HitInfo}
    (deciders : decidingRule platform r hit (platform.sortRules.sort (tokenOnlyPolicies rules)) =
      decidingRule platform r' hit' (platform.sortRules.sort rules')) :
    ruling (judge platform r (tokenOnlyPolicies rules) hit) =
      ruling (judge platform r' rules' hit') := by
  obtain ⟨ids, judged⟩ := judge_eq platform r (tokenOnlyPolicies rules) hit
  obtain ⟨ids', judged'⟩ := judge_eq platform r' rules' hit'
  rw [judged, judged', ← deciders]
  cases decides : decidingRule platform r hit
      (platform.sortRules.sort (tokenOnlyPolicies rules)) with
  | none => rfl
  | some rule => exact ruling_applyAction (action_of_decidingRule decides) rfl rfl

/-- The judgment of the kept rules is a function of the tokens. -/
theorem ruling_tokenOnly (same : SameTokens r r') (hit hit' : HitInfo) (rules : List Policy) :
    ruling (judge platform r (tokenOnlyPolicies rules) hit) =
      ruling (judge platform r' (tokenOnlyPolicies rules) hit') :=
  ruling_of_deciders (decidingRule_tokenOnly same hit hit' rules)

/-! ### The first match -/

section Kept

variable {rules : List Policy} {hit : HitInfo}

/-- The judgment matches a rule that is kept, or none. -/
def MatchesKept (rules : List Policy) (res : Result) : Prop :=
  res.matchedRuleID = "" ∨ ∃ rule ∈ tokenOnlyPolicies rules, rule.ruleID = res.matchedRuleID

theorem distinct_tokenOnly (distinct : (rules.map Policy.ruleID).Nodup) :
    ((tokenOnlyPolicies rules).map Policy.ruleID).Nodup :=
  distinct.sublist (List.filter_sublist.map Policy.ruleID)

/-- Leaving rules out keeps a first match that is kept, and adds none. -/
theorem decidingRule_kept (distinct : (rules.map Policy.ruleID).Nodup)
    (kept : MatchesKept rules (judge platform r rules hit)) :
    decidingRule platform r hit (platform.sortRules.sort (tokenOnlyPolicies rules)) =
      decidingRule platform r hit (platform.sortRules.sort rules) := by
  have reported := congrArg Prod.fst (matched_judge platform r rules hit)
  cases decides : decidingRule platform r hit (platform.sortRules.sort rules) with
  | none =>
      refine List.find?_eq_none.mpr fun rule sorted ready => ?_
      have member := List.mem_of_mem_filter (platform.sortRules.mem_sort.mp sorted)
      exact not_qualifies_of_undecided decides member (qualifies_iff.mp ready)
  | some rule =>
      rw [decides] at reported
      have first := decides_of_decidingRule decides
      have isKept : rule ∈ tokenOnlyPolicies rules := by
        rcases kept with none | ⟨other, member, same⟩
        · exact absurd (reported.symm.trans none) first.qualifies.named
        · have one := List.inj_on_of_nodup_map distinct (List.mem_of_mem_filter member)
            first.member (same.trans reported)
          exact one ▸ member
      refine (decidingRule_eq_some (distinct_tokenOnly distinct)).mpr ⟨isKept, first.qualifies, ?_⟩
      exact fun other member ready => first.first other (List.mem_of_mem_filter member) ready

theorem ruling_kept (distinct : (rules.map Policy.ruleID).Nodup)
    (kept : MatchesKept rules (judge platform r rules hit)) :
    ruling (judge platform r (tokenOnlyPolicies rules) hit) =
      ruling (judge platform r rules hit) :=
  ruling_of_deciders (decidingRule_kept distinct kept)

end Kept

/-- Judging with the kept rules is blind to the cache, and it is what judging with all rules
would be wherever that matches a kept rule or none. -/
theorem tokenOnly_faithful (platform : Platform) (rules : List Policy)
    (distinct : (rules.map Policy.ruleID).Nodup) :
    (∀ (order order' : InstanceOrder) (input input' : Input),
      SameTokens input.toRequest input'.toRequest →
        ruling (evaluate platform order { input with rules := tokenOnlyPolicies rules }) =
          ruling (evaluate platform order' { input' with rules := tokenOnlyPolicies rules })) ∧
    ∀ (order : InstanceOrder) (input : Input),
      MatchesKept rules (evaluate platform order { input with rules := rules }) →
        ruling (evaluate platform order { input with rules := tokenOnlyPolicies rules }) =
          ruling (evaluate platform order { input with rules := rules }) := by
  constructor
  · intro order order' input input' same
    rw [evaluate_eq_judge, evaluate_eq_judge]
    exact ruling_tokenOnly same _ _ rules
  · intro order input kept
    rw [evaluate_eq_judge] at kept ⊢
    rw [evaluate_eq_judge]
    exact ruling_kept distinct kept

def shortRule : Policy where
  ruleID := "short"
  conditions := [⟨ConditionFieldInputTokens, ConditionOpLT, .int 256⟩]

/-- A rule on the input tokens among one that requires a hit. -/
def mixedRules : List Policy :=
  [shortRule, { ruleID := "warm", priority := -1, action := { type := ActionRequireCacheHit } }]

/-- A request of 100 tokens. -/
def shortRequest : Input := { inputTokens := 100 }

/-- The rule on the tokens comes first and matches it. -/
theorem matchesKept_short :
    MatchesKept mixedRules (evaluate .plain default { shortRequest with rules := mixedRules }) := by
  have decides : Decides .plain shortRequest.toRequest mixedRules
      (bestHit .plain default { shortRequest with rules := mixedRules }) shortRule := by
    refine ⟨List.mem_cons_self, ⟨rfl, by decide, by decide +kernel⟩, fun other member _ => ?_⟩
    rcases List.mem_pair.mp member with rfl | rfl
    · decide
    · decide
  have matched := matched_judge .plain shortRequest.toRequest mixedRules
    (bestHit .plain default { shortRequest with rules := mixedRules })
  rw [(decidingRule_eq_some (by decide)).mpr decides] at matched
  have kept : shortRule ∈ tokenOnlyPolicies mixedRules :=
    List.mem_filter.mpr ⟨List.mem_cons_self, by decide⟩
  exact Or.inr ⟨shortRule, kept, (congrArg Prod.fst matched).symm⟩

theorem tokenOnly_faithful_mixed :
    ruling (evaluate .plain default { fresh := true, rules := tokenOnlyPolicies mixedRules }) =
        ruling (evaluate .plain default
          { query := some ⟨∅, 0⟩, rules := tokenOnlyPolicies mixedRules }) ∧
      ruling (evaluate .plain default
          { shortRequest with rules := tokenOnlyPolicies mixedRules }) =
        ruling (evaluate .plain default { shortRequest with rules := mixedRules }) := by
  have faithful := tokenOnly_faithful .plain mixedRules (by decide)
  exact ⟨faithful.1 default default { fresh := true } { query := some ⟨∅, 0⟩ }
      ⟨rfl, rfl, rfl, rfl, rfl, rfl, rfl⟩,
    faithful.2 default shortRequest matchesKept_short⟩

end KvIndexer.Gateway
