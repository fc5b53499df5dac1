import KvIndexer.Admission.Rules
import KvIndexer.Lib.FirstBest
import KvIndexer.Residency.Index
import Mathlib.Data.List.Find

/-!
Rule-based admission (`internal/admission/admission.go`).

`bestHit` ranges over the instances of a query, which is a map, and keeps the instance
whose score exceeds the best so far; the order of the range is an argument. Then the
first enabled rule whose conditions all hold decides (`judge_eq`): `decidingRule`
names it, and its action sees the hit only when the signal is certain.
-/

namespace KvIndexer.Admission

open Config Residency

def gpuHitWeight : Float := 1.0
def cpuHitWeight : Float := 0.75
def diskHitWeight : Float := 0.25

inductive Decision
  | accept
  | reject
deriving DecidableEq, Repr

inductive Reason
  | noMatchingRule
  | ruleAccepted
  | ruleRejected
  | cacheHitRequirement
  | cacheHitTooLow
  | fallbackStale
  | fallbackUnavailable
  | fallbackHashMismatch
  | noCandidates
  | unknownAction
deriving DecidableEq, Repr

/-- Everything the judgment needs. The block size is left out: nothing reads it. -/
structure Input (ν : Type := Int64) extends Request where
  rules : List Policy := []
  /-- nil if no query was possible -/
  query : Option (QueryResult ν) := none
  /-- synthetic hit, used by previews -/
  hitOverride : Option HitInfo := none

structure Result where
  decision : Decision := .accept
  reason : Reason := .noMatchingRule
  httpStatus : Int64 := 0
  fallback : Bool := false
  hit : HitInfo := {}
  minRequiredHitRatio : Float := 0
  matchedRuleID : String := ""
  matchedRuleName : String := ""
  matchedRulePriority : Int64 := 0
  evaluatedRuleIDs : List String := []
deriving DecidableEq

/-! ### The best hit -/

/-- The weighted credit of an instance. Its tier counts are cumulative and are made
disjoint here. -/
def effectiveTokens (inst : InstanceHit) : Float :=
  let gpu := inst.gpu
  let cpuOnly := inst.cpu - inst.gpu
  let diskOnly := inst.disk - inst.cpu
  let cpuOnly := if cpuOnly < 0 then 0 else cpuOnly
  let diskOnly := if diskOnly < 0 then 0 else diskOnly
  float64 gpu * gpuHitWeight + float64 cpuOnly * cpuHitWeight + float64 diskOnly * diskHitWeight

/-- An instance of the query with its id. -/
abbrev Instance (ν : Type := Int64) := Sigma fun _ : String => InstanceHit ν

/-- The score of an instance in the range of `bestHit`. -/
def Instance.score (inst : Instance) : Float := effectiveTokens inst.2

/-- The initial `bestEff`. -/
def bestEffStart : Float := -1.0

/-- The hit fields of the chosen instance. -/
def HitInfo.ofInstance (platform : Platform) (hi : HitInfo) (inst : Instance) : HitInfo :=
  { hi with
    instanceID := inst.1
    bestHitTokens := inst.2.longestMatched
    gpuTokens := inst.2.gpu
    cpuTokens := inst.2.cpu
    diskTokens := inst.2.disk
    effectiveCachedTokens := platform.int inst.score }

/-- The loop body of `bestHit`: the best score so far, and the hit it gave. -/
def bestHitStep (platform : Platform) (best : Float × HitInfo) (inst : Instance) :
    Float × HitInfo :=
  if inst.score > best.1 then (inst.score, best.2.ofInstance platform inst) else best

/-- The share of the input that the effective tokens cover, at most all of it. -/
def HitInfo.withRatio (inputTokens : Int64) (hi : HitInfo) : HitInfo :=
  if inputTokens > 0 then
    let eff :=
      if hi.effectiveCachedTokens > inputTokens then inputTokens else hi.effectiveCachedTokens
    { hi with hitRatio := float64 eff / float64 inputTokens }
  else hi

/-- Orders of the range over the instances, one for each query. -/
abbrev InstanceOrder (ν : Type := Int64) := GoMap.Orders String (InstanceHit ν)

/-- The loop of `bestHit` over the instances in the order of the range. -/
def bestHitOf (platform : Platform) (inputTokens : Int64) (insts : List Instance) : HitInfo :=
  let best := insts.foldl (bestHitStep platform) (bestEffStart, { inputTokens := inputTokens })
  best.2.withRatio inputTokens

/-- The instance with the largest weighted credit. -/
def bestHit (platform : Platform) (order : InstanceOrder) (input : Input) : HitInfo :=
  match input.hitOverride with
  | some hi => if hi.inputTokens = 0 then { hi with inputTokens := input.inputTokens } else hi
  | none =>
      match input.query with
      | none => { inputTokens := input.inputTokens }
      | some query => bestHitOf platform input.inputTokens (order query.instances).entries

/-! ### The judgment -/

def accept (res : Result) (reason : Reason) (fallback : Bool) : Result :=
  { res with decision := .accept, reason := reason, httpStatus := 200, fallback := fallback }

def reject (res : Result) (reason : Reason) (status : Int64) : Result :=
  { res with
    decision := .reject
    reason := reason
    httpStatus := if status ≤ 0 then 429 else status }

/-- Why the cache signal is not to be trusted, if it is not. -/
def uncertaintyReason (r : Request) : Option Reason :=
  if !r.tokenized then some .fallbackUnavailable
  else if !r.hashSupported then some .fallbackHashMismatch
  else if !r.hasCandidates then some .noCandidates
  else if !r.fresh then some .fallbackStale
  else none

def applyOutcome (res : Result) (outcome : String) (reason : Reason) (status : Int64)
    (uncertainty : Bool) : Result :=
  if outcome = RuleOutcomeAccept then accept res reason false
  else if outcome = RuleOutcomeFallbackAccept then accept res reason true
  else if outcome = RuleOutcomeReject then reject res reason status
  else if uncertainty then accept res reason true
  else reject res reason status

def applyAction (r : Request) (res : Result) (action : RuleAction) : Result :=
  if action.typeOrDefault = ActionAccept then accept res .ruleAccepted false
  else if action.typeOrDefault = ActionReject then
    reject res .ruleRejected action.rejectStatusOrDefault
  else if action.typeOrDefault = ActionRequireCacheHit then
    let res := { res with minRequiredHitRatio := action.minHitRatioOrDefault }
    match uncertaintyReason r with
    | some reason =>
        applyOutcome res action.onUncertainOrDefault reason action.rejectStatusOrDefault true
    | none =>
        if res.hit.hitRatio < res.minRequiredHitRatio then
          applyOutcome res action.onLowHitOrDefault .cacheHitTooLow action.rejectStatusOrDefault
            false
        else accept res .cacheHitRequirement false
  else reject res .unknownAction action.rejectStatusOrDefault

/-- The loop over the sorted rules. -/
def evaluateRules (platform : Platform) (r : Request) (hit : HitInfo) :
    List Policy → Result → Result
  | [], res => accept res .noMatchingRule false
  | rule :: rules, res =>
      let res :=
        if rule.ruleID ≠ "" then
          { res with evaluatedRuleIDs := res.evaluatedRuleIDs ++ [rule.ruleID] }
        else res
      if !rule.isEnabled || rule.ruleID = "" then evaluateRules platform r hit rules res
      else if !matchesRule platform r hit rule then evaluateRules platform r hit rules res
      else
        applyAction r
          { res with
            matchedRuleID := rule.ruleID
            matchedRuleName := rule.displayName
            matchedRulePriority := rule.priority }
          rule.action

/-- `Evaluate` -/
def evaluate (platform : Platform) (order : InstanceOrder) (input : Input) : Result :=
  let hit := bestHit platform order input
  evaluateRules platform input.toRequest hit (platform.sortRules.sort input.rules) { hit := hit }

/-! ### The hit chosen -/

/-- The credit of an instance is not below zero, so it counts in the range. -/
theorem bestEffStart_lt {inst : InstanceHit} (gpu : 0 ≤ inst.gpu) :
    bestEffStart < effectiveTokens inst := by
  have clipped (n : Int64) : 0 ≤ if n < 0 then 0 else n := by
    split
    · exact Int64.le_refl 0
    · rename_i above
      exact Int64.not_lt.mp above
  refine Float64.lt_of_nonneg (by decide +kernel) ?_
  unfold effectiveTokens
  refine Float64.Nonneg.add (Float64.Nonneg.add ?_ ?_) ?_
  · exact (Float64.nonneg_float64 gpu).mul (g := gpuHitWeight) rfl
  · exact (Float64.nonneg_float64 (clipped _)).mul (g := cpuHitWeight) rfl
  · exact (Float64.nonneg_float64 (clipped _)).mul (g := diskHitWeight) rfl

/-- An instance scores above the threshold and no instance scores above it. -/
def TopInstance (instances : GoMap String InstanceHit) (id : String) : Prop :=
  ∃ inst, instances.lookup id = some inst ∧ bestEffStart < effectiveTokens inst ∧
    ∀ id' inst', instances.lookup id' = some inst' → ¬ effectiveTokens inst < effectiveTokens inst'

theorem TopInstance.found {instances : GoMap String InstanceHit} {id : String}
    (top : TopInstance instances id) : ∃ inst, instances.lookup id = some inst := by
  obtain ⟨inst, found, -⟩ := top
  exact ⟨inst, found⟩

/-- The instance the range chooses: the first one on top, none if no score is above the
threshold. -/
def leadingInstance (order : InstanceOrder) (instances : GoMap String InstanceHit) :
    Option Instance :=
  (order instances).entries.find?
    (FirstBest.Leads (· < ·) Instance.score bestEffStart (order instances).entries ·)

theorem leads_iff {instances : GoMap String InstanceHit} (order : instances.Order) {id : String}
    {inst : InstanceHit} (found : instances.lookup id = some inst) :
    FirstBest.Leads (· < ·) Instance.score bestEffStart order.entries ⟨id, inst⟩ ↔
      TopInstance instances id := by
  constructor
  · rintro ⟨above, top⟩
    refine ⟨inst, found, above, fun id' inst' found' => ?_⟩
    exact top ⟨id', inst'⟩ (order.mem_entries.mpr found')
  · rintro ⟨inst', found', above, top⟩
    obtain rfl := Option.some.inj (found.symm.trans found')
    exact ⟨above, fun other member => top other.1 other.2 (order.mem_entries.mp member)⟩

/-- A chosen instance is one of the query's, and on top. -/
theorem leadingInstance_top {order : InstanceOrder} {instances : GoMap String InstanceHit}
    {inst : Instance} (leading : leadingInstance order instances = some inst) :
    instances.lookup inst.1 = some inst.2 ∧ TopInstance instances inst.1 := by
  unfold leadingInstance at leading
  have found := (order instances).mem_entries.mp (List.mem_of_find?_eq_some leading)
  have leads := List.find?_some leading
  rw [decide_eq_true_eq] at leads
  exact ⟨found, (leads_iff _ found).mp leads⟩

/-- Nothing is chosen only when nothing is on top. -/
theorem leadingInstance_eq_none {order : InstanceOrder} {instances : GoMap String InstanceHit}
    (nothing : leadingInstance order instances = none) (id : String) :
    ¬ TopInstance instances id := by
  intro top
  obtain ⟨inst, found⟩ := top.found
  unfold leadingInstance at nothing
  have member := (order instances).mem_entries.mpr found
  have notLeads := List.find?_eq_none.mp nothing ⟨id, inst⟩ member
  rw [decide_eq_true_eq] at notLeads
  exact notLeads ((leads_iff _ found).mpr top)

/-- Every instance on top is chosen in some order. -/
theorem exists_leadingInstance {instances : GoMap String InstanceHit} {id : String}
    (top : TopInstance instances id) :
    ∃ order inst, leadingInstance order instances = some ⟨id, inst⟩ := by
  obtain ⟨inst, found⟩ := top.found
  obtain ⟨first, rest, split⟩ := GoMap.exists_order_head found
  obtain ⟨order, chosen⟩ := GoMap.exists_orders first
  refine ⟨order, inst, ?_⟩
  have leads := (leads_iff first found).mpr top
  rw [leadingInstance, chosen, split, List.find?_cons_of_pos]
  rw [← split]
  exact decide_eq_true leads

/-- The loop over the instances, as a scan. -/
theorem foldl_bestHitStep (platform : Platform) (hi : HitInfo) (insts : List Instance)
    (best : Float × Option Instance) :
    insts.foldl (bestHitStep platform) (best.1, best.2.elim hi (hi.ofInstance platform)) =
      let last := insts.foldl (FirstBest.scanStep (· < ·) Instance.score) best
      (last.1, last.2.elim hi (hi.ofInstance platform)) :=
  FirstBest.foldl_write (· < ·) Instance.score (HitInfo.ofInstance platform)
    (fun _ _ _ => rfl) hi insts best

/-- The hit of a query, from the instance the range chooses. -/
theorem bestHit_eq (platform : Platform) (order : InstanceOrder) {input : Input}
    {query : QueryResult} (live : input.hitOverride = none) (asked : input.query = some query) :
    bestHit platform order input =
      ((leadingInstance order query.instances).elim { inputTokens := input.inputTokens }
        (HitInfo.ofInstance platform { inputTokens := input.inputTokens })).withRatio
        input.inputTokens := by
  have scanned := @FirstBest.scan_eq_find Instance Float (· < ·) _ Instance.score bestEffStart
    Float64.lt_irrefl (fun _ _ _ => Float64.lt_trans) (fun _ _ _ => Float64.lt_or_lt)
    (order query.instances).entries
  unfold bestHit
  rw [live, asked]
  dsimp only
  have loop := foldl_bestHitStep platform { inputTokens := input.inputTokens }
    (order query.instances).entries (bestEffStart, none)
  rw [leadingInstance, ← scanned]
  exact congrArg (fun best => best.2.withRatio input.inputTokens) loop

/-- The hit names the instance that was chosen. -/
theorem instanceID_bestHit (platform : Platform) {order : InstanceOrder} {input : Input}
    {query : QueryResult} (live : input.hitOverride = none) (asked : input.query = some query) :
    (bestHit platform order input).instanceID =
      ((leadingInstance order query.instances).map Sigma.fst).getD "" := by
  rw [bestHit_eq platform order live asked]
  unfold HitInfo.withRatio
  cases leadingInstance order query.instances with
  | none => split <;> rfl
  | some inst => split <;> rfl

/-! ### The rule that decides -/

/-- The first enabled rule whose conditions hold. -/
def decidingRule (platform : Platform) (r : Request) (hit : HitInfo) (rules : List Policy) :
    Option Policy :=
  rules.find? fun rule => rule.isEnabled && rule.ruleID ≠ "" && matchesRule platform r hit rule

/-- The result a rule leads to: its action's, after its name is recorded. -/
def ruleResult (r : Request) (res : Result) : Option Policy → Result
  | none => accept res .noMatchingRule false
  | some rule =>
      applyAction r
        { res with
          matchedRuleID := rule.ruleID
          matchedRuleName := rule.displayName
          matchedRulePriority := rule.priority }
        rule.action

/-- The rule is enabled and named, and its conditions hold. -/
def qualifies (platform : Platform) (r : Request) (hit : HitInfo) (rule : Policy) : Bool :=
  rule.isEnabled && rule.ruleID ≠ "" && matchesRule platform r hit rule

/-- The names of the rules up to the deciding one. -/
def visitedIDs (platform : Platform) (r : Request) (hit : HitInfo) (rules : List Policy) :
    List String :=
  ((through (qualifies platform r hit) rules).map Policy.ruleID).filter (· ≠ "")

theorem visitedIDs_cons (platform : Platform) (r : Request) (hit : HitInfo) (rule : Policy)
    (rules : List Policy) :
    visitedIDs platform r hit (rule :: rules) = [rule.ruleID].filter (· ≠ "") ++
      if qualifies platform r hit rule then [] else visitedIDs platform r hit rules := by
  rw [visitedIDs, through]
  split
  · rw [List.append_nil, List.map_singleton]
  · rw [List.map_cons, ← List.singleton_append, List.filter_append]
    rfl

theorem decidingRule_cons (platform : Platform) (r : Request) (hit : HitInfo) (rule : Policy)
    (rules : List Policy) :
    decidingRule platform r hit (rule :: rules) =
      if qualifies platform r hit rule then some rule
      else decidingRule platform r hit rules := by
  have same : (rule.isEnabled && rule.ruleID ≠ "" && matchesRule platform r hit rule) =
      qualifies platform r hit rule := rfl
  rw [decidingRule, List.find?_cons, same]
  cases qualifies platform r hit rule <;> rfl

/-- Requests that the enabled rules match alike have one deciding rule. -/
theorem decidingRule_congr {platform : Platform} {r r' : Request} {hit hit' : HitInfo}
    {rules : List Policy}
    (matching : ∀ rule ∈ rules, rule.isEnabled = true →
      matchesRule platform r hit rule = matchesRule platform r' hit' rule) :
    decidingRule platform r hit rules = decidingRule platform r' hit' rules := by
  refine List.find?_congr fun rule member => ?_
  cases enabled : rule.isEnabled with
  | false => rfl
  | true => rw [matching rule member enabled]

/-- The loop ends in the deciding rule; before it, rules only leave their ids. -/
theorem evaluateRules_eq (platform : Platform) (r : Request) (hit : HitInfo) (rules : List Policy)
    (res : Result) :
    evaluateRules platform r hit rules res =
      ruleResult r
        { res with
          evaluatedRuleIDs := res.evaluatedRuleIDs ++ visitedIDs platform r hit rules }
        (decidingRule platform r hit rules) := by
  induction rules generalizing res with
  | nil =>
      have nothing : visitedIDs platform r hit [] = [] := rfl
      rw [nothing, List.append_nil]
      rfl
  | cons rule rules ih =>
      -- the id of the rule at hand is noted first, whatever becomes of the rule
      have noted : (if rule.ruleID ≠ "" then
          { res with evaluatedRuleIDs := res.evaluatedRuleIDs ++ [rule.ruleID] } else res) =
          { res with
            evaluatedRuleIDs := res.evaluatedRuleIDs ++ [rule.ruleID].filter (· ≠ "") } := by
        by_cases named : rule.ruleID = ""
        · simp [named]
        · simp [named]
      rw [evaluateRules, noted, visitedIDs_cons, decidingRule_cons, ← List.append_assoc]
      by_cases skipped : (!rule.isEnabled || rule.ruleID = "") = true
      · have passes : qualifies platform r hit rule = false := by
          unfold qualifies
          cases enabled : rule.isEnabled with
          | false => rfl
          | true =>
              have unnamed : rule.ruleID = "" := by simpa [enabled] using skipped
              simp [unnamed]
        rw [if_pos skipped, passes, ih]
        rfl
      · have named : (rule.isEnabled && rule.ruleID ≠ "") = true := by simpa using skipped
        have decides : qualifies platform r hit rule = matchesRule platform r hit rule := by
          rw [qualifies, named, Bool.true_and]
        rw [if_neg skipped, decides]
        cases matchesRule platform r hit rule with
        | false =>
            rw [ih]
            rfl
        | true =>
            rw [if_pos rfl, List.append_nil]
            rfl

/-- The judgment with the hit given. -/
def judge (platform : Platform) (r : Request) (rules : List Policy) (hit : HitInfo) : Result :=
  evaluateRules platform r hit (platform.sortRules.sort rules) { hit := hit }

theorem evaluate_eq_judge (platform : Platform) (order : InstanceOrder) (input : Input) :
    evaluate platform order input =
      judge platform input.toRequest input.rules (bestHit platform order input) := rfl

/-- The first rule of the sorted list that matches decides. -/
theorem judge_eq (platform : Platform) (r : Request) (rules : List Policy) (hit : HitInfo) :
    ∃ ids, judge platform r rules hit =
      ruleResult r { hit := hit, evaluatedRuleIDs := ids }
        (decidingRule platform r hit (platform.sortRules.sort rules)) :=
  ⟨_, evaluateRules_eq platform r hit (platform.sortRules.sort rules) { hit := hit }⟩

/-- An action may set the required ratio, and then it accepts, or rejects with the status of
the rule. -/
theorem applyAction_cases {motive : Result → Prop} {r : Request} {res : Result}
    {action : RuleAction}
    (accepts : ∀ ratio reason fallback,
      motive (accept { res with minRequiredHitRatio := ratio } reason fallback))
    (rejects : ∀ ratio reason,
      motive (reject { res with minRequiredHitRatio := ratio } reason
        action.rejectStatusOrDefault)) :
    motive (applyAction r res action) := by
  have outcomes (ratio : Float) (outcome : String) (reason : Reason) (uncertainty : Bool) :
      motive (applyOutcome { res with minRequiredHitRatio := ratio } outcome reason
        action.rejectStatusOrDefault uncertainty) := by
    unfold applyOutcome
    split_ifs
    · exact accepts ratio reason false
    · exact accepts ratio reason true
    · exact rejects ratio reason
    · exact accepts ratio reason true
    · exact rejects ratio reason
  unfold applyAction
  split_ifs
  · exact accepts res.minRequiredHitRatio .ruleAccepted false
  · exact rejects res.minRequiredHitRatio .ruleRejected
  · cases uncertaintyReason r with
    | some reason => exact outcomes _ _ reason true
    | none =>
        dsimp only
        split
        · exact outcomes _ _ .cacheHitTooLow false
        · exact accepts _ .cacheHitRequirement false
  · exact rejects res.minRequiredHitRatio .unknownAction

theorem hit_applyAction (r : Request) (res : Result) (action : RuleAction) :
    (applyAction r res action).hit = res.hit :=
  applyAction_cases (motive := fun out => out.hit = res.hit) (fun _ _ _ => rfl) fun _ _ => rfl

theorem hit_ruleResult (r : Request) (res : Result) (rule : Option Policy) :
    (ruleResult r res rule).hit = res.hit := by
  cases rule with
  | none => rfl
  | some rule => exact hit_applyAction _ _ _

/-- The result reports the hit it was judged on. -/
theorem hit_judge (platform : Platform) (r : Request) (rules : List Policy) (hit : HitInfo) :
    (judge platform r rules hit).hit = hit := by
  obtain ⟨ids, same⟩ := judge_eq platform r rules hit
  rw [same, hit_ruleResult]

/-! ### A requirement that is met -/

theorem reason_applyOutcome (res : Result) (outcome : String) (reason : Reason) (status : Int64)
    (uncertainty : Bool) :
    (applyOutcome res outcome reason status uncertainty).reason = reason := by
  unfold applyOutcome
  split_ifs <;> rfl

theorem uncertaintyReason_ne {r : Request} {reason : Reason}
    (uncertain : uncertaintyReason r = some reason) : reason ≠ .cacheHitRequirement := by
  rintro rfl
  unfold uncertaintyReason at uncertain
  split_ifs at uncertain <;> cases uncertain

/-- The signal is trusted, and the deciding rule requires a hit ratio that the hit has. -/
def RequirementMet (platform : Platform) (r : Request) (rules : List Policy) (hit : HitInfo) :
    Prop :=
  uncertaintyReason r = none ∧
    ∃ rule, decidingRule platform r hit (platform.sortRules.sort rules) = some rule ∧
      rule.action.typeOrDefault = ActionRequireCacheHit ∧
      ¬ hit.hitRatio < rule.action.minHitRatioOrDefault

theorem applyAction_requirement (r : Request) (res : Result) (action : RuleAction) :
    (applyAction r res action).reason = .cacheHitRequirement ↔
      uncertaintyReason r = none ∧ action.typeOrDefault = ActionRequireCacheHit ∧
        ¬ res.hit.hitRatio < action.minHitRatioOrDefault := by
  obtain ⟨-, notAccept, notReject⟩ := actions_distinct
  unfold applyAction
  by_cases accepts : action.typeOrDefault = ActionAccept
  · rw [if_pos accepts, accepts]
    simp [notAccept.symm, accept]
  · by_cases rejects : action.typeOrDefault = ActionReject
    · rw [if_neg accepts, if_pos rejects, rejects]
      simp [notReject.symm, reject]
    · by_cases requires : action.typeOrDefault = ActionRequireCacheHit
      · rw [if_neg accepts, if_neg rejects, if_pos requires]
        dsimp only
        cases certain : uncertaintyReason r with
        | some reason =>
            simp only [reason_applyOutcome, uncertaintyReason_ne certain, reduceCtorEq, false_and]
        | none =>
            dsimp only
            by_cases low : res.hit.hitRatio < action.minHitRatioOrDefault
            · simp [low, reason_applyOutcome]
            · simp [low, requires, accept]
      · simp [accepts, rejects, requires, reject]

/-- An evaluation answers that the requirement is met exactly when it is. -/
theorem judge_requirement (platform : Platform) (r : Request) (rules : List Policy)
    (hit : HitInfo) :
    (judge platform r rules hit).reason = .cacheHitRequirement ↔
      RequirementMet platform r rules hit := by
  obtain ⟨ids, same⟩ := judge_eq platform r rules hit
  rw [same, RequirementMet]
  cases decidingRule platform r hit (platform.sortRules.sort rules) with
  | none => simp [ruleResult, accept]
  | some rule =>
      simp only [ruleResult, applyAction_requirement, Option.some.injEq, exists_eq_left']

/-- Such an evaluation accepts. -/
theorem decision_of_requirement {platform : Platform} {r : Request} {rules : List Policy}
    {hit : HitInfo} (met : RequirementMet platform r rules hit) :
    (judge platform r rules hit).decision = .accept := by
  obtain ⟨certain, rule, decides, requires, high⟩ := met
  obtain ⟨ids, same⟩ := judge_eq platform r rules hit
  obtain ⟨-, notAccept, notReject⟩ := actions_distinct
  rw [same, decides]
  simp only [ruleResult, applyAction, requires, notAccept, notReject, certain, high, if_false,
    if_true]
  rfl

end KvIndexer.Admission
