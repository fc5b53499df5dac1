import KvIndexer.Admission.Uncertainty
import KvIndexer.Residency.Monotone
import Mathlib.Algebra.Order.Floor.Ring
import Mathlib.Data.Rat.Floor
import Mathlib.Tactic.Linarith

/-!
Admission over exact numbers.

`bestHit` once more, with rationals for floats, over the counts of a query in unbounded
integers or in `Int64`. The judgment needs no second version: what an action decides depends on
the hit through one comparison alone (`decision_applyAction`), so a judgment is a choice of
rule and an answer to that comparison (`decision_judge`), in either arithmetic.

Over exact numbers more cache never hurts (`moreCache`): a store raises every score of a
query or leaves it, so the best score, its integer part, the part of it within the input
and the ratio; and a higher ratio turns no accept into a rejection.
-/

namespace KvIndexer.Admission

open Config Residency

/-! ### The decision and the hit -/

def outcomeDecision (outcome : String) (uncertainty : Bool) : Decision :=
  if outcome = RuleOutcomeAccept then .accept
  else if outcome = RuleOutcomeFallbackAccept then .accept
  else if outcome = RuleOutcomeReject then .reject
  else if uncertainty then .accept
  else .reject

/-- What an action decides, when the hit ratio is `low` or is not. -/
def actionDecision (r : Request) (action : RuleAction) (low : Bool) : Decision :=
  if action.typeOrDefault = ActionAccept then .accept
  else if action.typeOrDefault = ActionReject then .reject
  else if action.typeOrDefault = ActionRequireCacheHit then
    match uncertaintyReason r with
    | some _ => outcomeDecision action.onUncertainOrDefault true
    | none => if low then outcomeDecision action.onLowHitOrDefault false else .accept
  else .reject

theorem decision_applyOutcome (res : Result) (outcome : String) (reason : Reason) (status : Int64)
    (uncertainty : Bool) :
    (applyOutcome res outcome reason status uncertainty).decision =
      outcomeDecision outcome uncertainty := by
  unfold applyOutcome outcomeDecision
  split_ifs <;> rfl

/-- An action looks at the hit once. -/
theorem decision_applyAction (r : Request) (res : Result) (action : RuleAction) :
    (applyAction r res action).decision =
      actionDecision r action (decide (res.hit.hitRatio < action.minHitRatioOrDefault)) := by
  unfold applyAction actionDecision
  by_cases accepts : action.typeOrDefault = ActionAccept
  · rw [if_pos accepts, if_pos accepts]
    rfl
  · by_cases rejects : action.typeOrDefault = ActionReject
    · rw [if_neg accepts, if_pos rejects, if_neg accepts, if_pos rejects]
      rfl
    · by_cases requires : action.typeOrDefault = ActionRequireCacheHit
      · rw [if_neg accepts, if_neg rejects, if_pos requires, if_neg accepts, if_neg rejects,
          if_pos requires]
        cases uncertaintyReason r with
        | some reason => exact decision_applyOutcome _ _ _ _ _
        | none =>
            dsimp only
            by_cases low : res.hit.hitRatio < action.minHitRatioOrDefault
            · rw [if_pos low, if_pos (decide_eq_true low)]
              exact decision_applyOutcome _ _ _ _ _
            · rw [if_neg low, if_neg (by simpa using low)]
              rfl
      · rw [if_neg accepts, if_neg rejects, if_neg requires, if_neg accepts, if_neg rejects,
          if_neg requires]
        rfl

/-- A ratio that is not low is accepted where a low one is. -/
theorem actionDecision_mono {r : Request} {action : RuleAction} {low low' : Bool}
    (higher : low' = true → low = true) (accepted : actionDecision r action low = .accept) :
    actionDecision r action low' = .accept := by
  cases low' with
  | true => rwa [higher rfl] at accepted
  | false =>
      unfold actionDecision at accepted ⊢
      by_cases accepts : action.typeOrDefault = ActionAccept
      · rw [if_pos accepts]
      · by_cases rejects : action.typeOrDefault = ActionReject
        · rw [if_neg accepts, if_pos rejects] at accepted
          cases accepted
        · by_cases requires : action.typeOrDefault = ActionRequireCacheHit
          · rw [if_neg accepts, if_neg rejects, if_pos requires] at accepted ⊢
            cases uncertain : uncertaintyReason r with
            | some reason =>
                rw [uncertain] at accepted
                exact accepted
            | none => rfl
          · rw [if_neg accepts, if_neg rejects, if_neg requires] at accepted
            cases accepted

/-- The decision of a rule list, by the answer to the comparison with the hit ratio. -/
def decisionOf (platform : Platform) (r : Request) (rules : List Policy) (hit : HitInfo)
    (low : RuleAction → Bool) : Decision :=
  match decidingRule platform r hit (platform.sortRules.sort rules) with
  | none => .accept
  | some rule => actionDecision r rule.action (low rule.action)

/-- A judgment compares the ratio of its hit with the threshold of the action. -/
theorem decision_judge (platform : Platform) (r : Request) (rules : List Policy) (hit : HitInfo) :
    (judge platform r rules hit).decision =
      decisionOf platform r rules hit fun action =>
        decide (hit.hitRatio < action.minHitRatioOrDefault) := by
  obtain ⟨ids, same⟩ := judge_eq platform r rules hit
  rw [same, decisionOf]
  cases decidingRule platform r hit (platform.sortRules.sort rules) with
  | none => rfl
  | some rule => exact decision_applyAction r _ rule.action

/-- No condition reads a field that residency decides. -/
def Blind (rules : List Policy) : Prop :=
  ∀ rule ∈ rules, ∀ cond ∈ rule.conditions, cond.field ∉ hitFields

theorem decisionOf_mono {platform : Platform} {r : Request} {rules : List Policy}
    (blind : Blind rules) {hit hit' : HitInfo} {low low' : RuleAction → Bool}
    (higher : ∀ action, low' action = true → low action = true)
    (accepted : decisionOf platform r rules hit low = .accept) :
    decisionOf platform r rules hit' low' = .accept := by
  have deciders : decidingRule platform r hit (platform.sortRules.sort rules) =
      decidingRule platform r hit' (platform.sortRules.sort rules) :=
    decidingRule_of_blind platform r hit hit' fun rule member _ =>
      blind rule (platform.sortRules.mem_sort.mp member)
  unfold decisionOf at accepted ⊢
  rw [← deciders]
  cases decides : decidingRule platform r hit (platform.sortRules.sort rules) with
  | none => rfl
  | some rule =>
      rw [decides] at accepted
      exact actionDecision_mono (higher rule.action) accepted

namespace Exact

/-! ### The best hit, exactly -/

def gpuHitWeight : ℚ := 1
def cpuHitWeight : ℚ := 3 / 4
def diskHitWeight : ℚ := 1 / 4

/-- `HitInfo` -/
structure Hit where
  instanceID : String := ""
  inputTokens : Int := 0
  bestHitTokens : Int := 0
  hitRatio : ℚ := 0
  gpuTokens : Int := 0
  cpuTokens : Int := 0
  diskTokens : Int := 0
  effectiveCachedTokens : Int := 0

section Hits

open Counter

-- the numbers a query counts in
variable {ν : Type} [Counter ν]

/-- The weighted credit of an instance. -/
def effectiveTokens (inst : InstanceHit ν) : ℚ :=
  let cpuOnly := toInt (inst.cpu - inst.gpu)
  let diskOnly := toInt (inst.disk - inst.cpu)
  let cpuOnly := if cpuOnly < 0 then 0 else cpuOnly
  let diskOnly := if diskOnly < 0 then 0 else diskOnly
  toInt inst.gpu * gpuHitWeight + cpuOnly * cpuHitWeight + diskOnly * diskHitWeight

def score (inst : Instance ν) : ℚ := effectiveTokens inst.2

/-- `int(f)`: the fraction is dropped. -/
def truncate (q : ℚ) : Int := if 0 ≤ q then ⌊q⌋ else ⌈q⌉

/-- The initial `bestEff`. -/
def bestEffStart : ℚ := -1

/-- The hit fields of the chosen instance. -/
def Hit.ofInstance (hi : Hit) (inst : Instance ν) : Hit :=
  { hi with
    instanceID := inst.1
    bestHitTokens := toInt inst.2.longestMatched
    gpuTokens := toInt inst.2.gpu
    cpuTokens := toInt inst.2.cpu
    diskTokens := toInt inst.2.disk
    effectiveCachedTokens := truncate (score inst) }

/-- The loop body of `bestHit`. -/
def bestHitStep (best : ℚ × Hit) (inst : Instance ν) : ℚ × Hit :=
  if score inst > best.1 then (score inst, best.2.ofInstance inst) else best

/-- The share of the input that the effective tokens cover. -/
def Hit.withRatio (inputTokens : Int) (hi : Hit) : Hit :=
  if inputTokens > 0 then
    let eff :=
      if hi.effectiveCachedTokens > inputTokens then inputTokens else hi.effectiveCachedTokens
    { hi with hitRatio := eff / inputTokens }
  else hi

def bestHitOf (inputTokens : Int) (insts : List (Instance ν)) : Hit :=
  let best := insts.foldl bestHitStep (bestEffStart, { inputTokens := inputTokens })
  best.2.withRatio inputTokens

/-- A synthetic hit, its ratio read by `value`. -/
def Hit.ofHitInfo (value : Float → ℚ) (hi : HitInfo) : Hit where
  instanceID := hi.instanceID
  inputTokens := hi.inputTokens.toInt
  bestHitTokens := hi.bestHitTokens.toInt
  hitRatio := value hi.hitRatio
  gpuTokens := hi.gpuTokens.toInt
  cpuTokens := hi.cpuTokens.toInt
  diskTokens := hi.diskTokens.toInt
  effectiveCachedTokens := hi.effectiveCachedTokens.toInt

section Judgment

-- the number a float of the configuration stands for
variable (value : Float → ℚ)

def bestHit (order : InstanceOrder ν) (input : Input ν) : Hit :=
  match input.hitOverride with
  | some hi =>
      .ofHitInfo value
        (if hi.inputTokens = 0 then { hi with inputTokens := input.inputTokens } else hi)
  | none =>
      match input.query with
      | none => { inputTokens := input.inputTokens.toInt }
      | some query => bestHitOf input.inputTokens.toInt (order query.instances).entries

/-- The decision of `Evaluate`; the conditions read `seen` of the hit. -/
def decision (platform : Platform) (order : InstanceOrder ν) (input : Input ν)
    (seen : HitInfo) : Decision :=
  decisionOf platform input.toRequest input.rules seen fun action =>
    decide ((bestHit value order input).hitRatio < value action.minHitRatioOrDefault)

end Judgment

/-! ### Monotonicity -/

theorem truncate_nonneg {q : ℚ} (above : -1 < q) : 0 ≤ truncate q := by
  unfold truncate
  split
  · exact Int.floor_nonneg.mpr ‹_›
  · have : -1 < ⌈q⌉ := Int.lt_ceil.mpr (by exact_mod_cast above)
    omega

theorem truncate_mono {p q : ℚ} (le : p ≤ q) : truncate p ≤ truncate q := by
  unfold truncate
  split
  · rename_i nonneg
    rw [if_pos (nonneg.trans le)]
    exact Int.floor_le_floor le
  · rename_i negative
    split
    · rename_i nonneg
      have below : ⌈p⌉ ≤ 0 := Int.ceil_le.mpr (by exact_mod_cast (not_le.mp negative).le)
      exact below.trans (Int.floor_nonneg.mpr nonneg)
    · exact Int.ceil_le_ceil le

/-- With cumulative counts, a block in a faster tier counts for the slower ones too. -/
theorem effectiveTokens_cumulative {inst : InstanceHit ν} (nonneg : 0 ≤ toInt inst.gpu)
    (gpuCPU : toInt inst.gpu ≤ toInt inst.cpu) (cpuDisk : toInt inst.cpu ≤ toInt inst.disk) :
    effectiveTokens inst =
      (toInt inst.gpu : ℚ) / 4 + (toInt inst.cpu : ℚ) / 2 + (toInt inst.disk : ℚ) / 4 := by
  unfold effectiveTokens gpuHitWeight cpuHitWeight diskHitWeight
  dsimp only
  rw [toInt_sub nonneg gpuCPU, toInt_sub (nonneg.trans gpuCPU) cpuDisk, if_neg (by omega),
    if_neg (by omega)]
  push_cast
  ring

/-- The best hit of a list, before its ratio is taken. -/
theorem foldl_bestHitStep (inputTokens : Int) (insts : List (Instance ν)) :
    (insts.foldl bestHitStep (bestEffStart, { inputTokens := inputTokens })).2 =
      (FirstBest.scan (· < ·) score bestEffStart insts).2.elim { inputTokens := inputTokens }
        (Hit.ofInstance { inputTokens := inputTokens }) :=
  congrArg Prod.snd
    (FirstBest.foldl_write (· < ·) score Hit.ofInstance (fun _ _ _ => rfl)
      { inputTokens := inputTokens } insts (bestEffStart, none))

theorem scan_chosen (insts : List (Instance ν)) :
    FirstBest.Chosen (· < ·) score bestEffStart insts
      (FirstBest.scan (· < ·) score bestEffStart insts) :=
  FirstBest.scan_chosen lt_irrefl (fun _ _ _ => lt_trans)
    (fun s t _ _ less => (lt_or_ge s t).imp_right fun notBelow => notBelow.trans_lt less) insts

/-- The integer credit of the chosen instance. -/
def credit (insts : List (Instance ν)) : Int :=
  (FirstBest.scan (· < ·) score bestEffStart insts).2.elim 0 fun inst => truncate (score inst)

theorem credit_nonneg (insts : List (Instance ν)) : 0 ≤ credit insts := by
  have chosen := scan_chosen insts
  unfold credit
  generalize FirstBest.scan (· < ·) score bestEffStart insts = best at chosen
  cases chosen with
  | nothing => exact Int.le_refl 0
  | first split leads earlier => exact truncate_nonneg leads.1

/-- Instances that are all matched or outscored leave a credit at least as high. -/
theorem credit_mono {insts insts' : List (Instance ν)}
    (outscored : ∀ inst ∈ insts, ∃ inst' ∈ insts', score inst ≤ score inst') :
    credit insts ≤ credit insts' := by
  have chosen := scan_chosen insts
  have chosen' := scan_chosen insts'
  have nonneg := credit_nonneg insts'
  unfold credit at nonneg ⊢
  generalize FirstBest.scan (· < ·) score bestEffStart insts = best at chosen
  generalize FirstBest.scan (· < ·) score bestEffStart insts' = best' at chosen' nonneg ⊢
  cases chosen with
  | nothing => exact nonneg
  | @first pre b post split leads earlier =>
      obtain ⟨inst', member', le⟩ := outscored b (split ▸ by simp)
      have above : bestEffStart < score inst' := leads.1.trans_le le
      cases chosen' with
      | nothing low => exact absurd above (low inst' member')
      | first split' leads' earlier' =>
          exact truncate_mono (le.trans (not_lt.mp (leads'.2 inst' member')))

/-- The ratio that a hit is given, which had none. -/
theorem hitRatio_withRatio (inputTokens : Int) {hi : Hit} (unset : hi.hitRatio = 0) :
    (hi.withRatio inputTokens).hitRatio =
      if inputTokens > 0 then ((min hi.effectiveCachedTokens inputTokens : Int) : ℚ) / inputTokens
      else 0 := by
  unfold Hit.withRatio
  split
  · dsimp only
    congr 2
    split
    · rename_i more
      exact (min_eq_right more.le).symm
    · rename_i within
      exact (min_eq_left (not_lt.mp within)).symm
  · exact unset

/-- The hit of a list, from the instance the scan ends in. -/
theorem bestHitOf_eq (inputTokens : Int) (insts : List (Instance ν)) :
    bestHitOf inputTokens insts =
      ((FirstBest.scan (· < ·) score bestEffStart insts).2.elim { inputTokens := inputTokens }
        (Hit.ofInstance { inputTokens := inputTokens })).withRatio inputTokens := by
  rw [← foldl_bestHitStep]
  rfl

/-- The ratio of a list, from its credit. -/
theorem hitRatio_bestHitOf (inputTokens : Int) (insts : List (Instance ν)) :
    (bestHitOf inputTokens insts).hitRatio =
      if inputTokens > 0 then ((min (credit insts) inputTokens : Int) : ℚ) / inputTokens
      else 0 := by
  rw [bestHitOf_eq, credit]
  cases (FirstBest.scan (· < ·) score bestEffStart insts).2 with
  | none => exact hitRatio_withRatio inputTokens rfl
  | some inst => exact hitRatio_withRatio inputTokens rfl

theorem hitRatio_mono (inputTokens : Int) {insts insts' : List (Instance ν)}
    (outscored : ∀ inst ∈ insts, ∃ inst' ∈ insts', score inst ≤ score inst') :
    (bestHitOf inputTokens insts).hitRatio ≤ (bestHitOf inputTokens insts').hitRatio := by
  rw [hitRatio_bestHitOf, hitRatio_bestHitOf]
  split
  · rename_i positive
    have covered : min (credit insts) inputTokens ≤ min (credit insts') inputTokens :=
      min_le_min_right inputTokens (credit_mono outscored)
    have denominator : (0 : ℚ) ≤ inputTokens := by exact_mod_cast positive.le
    exact div_le_div_of_nonneg_right (by exact_mod_cast covered) denominator
  · exact le_refl 0

/-- Every instance of an answer is matched or outscored in the answer of an index with
more. -/
theorem outscored_query {ix ix' : Index} (more : ix.HeldBy ix') (requestKeys : List RequestKey)
    {blockSize : ν} (nonneg : 0 ≤ toInt blockSize)
    (fits : Fits ν (toInt blockSize * requestKeys.length)) (order order' : InstanceOrder ν) :
    ∀ inst ∈ (order (ix.query requestKeys blockSize).instances).entries,
      ∃ inst' ∈ (order' (ix'.query requestKeys blockSize).instances).entries,
        score inst ≤ score inst' := by
  intro inst member
  have found := (order (ix.query requestKeys blockSize).instances).mem_entries.mp member
  obtain ⟨hit', found', -, gpu, cpu, disk⟩ :=
    Index.query_mono more requestKeys nonneg fits found
  obtain ⟨gpuCPU, cpuDisk⟩ := Index.tiers_cumulative ix requestKeys nonneg fits inst.1 found
  obtain ⟨gpuCPU', cpuDisk'⟩ := Index.tiers_cumulative ix' requestKeys nonneg fits inst.1 found'
  have onGPU := Index.toInt_gpu_nonneg ix requestKeys nonneg fits inst.1 found
  refine ⟨⟨inst.1, hit'⟩, (order' _).mem_entries.mpr found', ?_⟩
  rw [score, score, effectiveTokens_cumulative onGPU gpuCPU cpuDisk,
    effectiveTokens_cumulative (onGPU.trans gpu) gpuCPU' cpuDisk']
  have gpu : (toInt inst.2.gpu : ℚ) ≤ toInt hit'.gpu := by exact_mod_cast gpu
  have cpu : (toInt inst.2.cpu : ℚ) ≤ toInt hit'.cpu := by exact_mod_cast cpu
  have disk : (toInt inst.2.disk : ℚ) ≤ toInt hit'.disk := by exact_mod_cast disk
  linarith

/-- With more residency the best hit covers at least as much of the input. -/
theorem hitRatio_bestHit_mono (value : Float → ℚ) (order order' : InstanceOrder ν)
    (input : Input ν) {ix ix' : Index} (more : ix.HeldBy ix') (requestKeys : List RequestKey)
    {blockSize : ν} (nonneg : 0 ≤ toInt blockSize)
    (fits : Fits ν (toInt blockSize * requestKeys.length)) :
    (bestHit value order { input with query := some (ix.query requestKeys blockSize) }).hitRatio ≤
      (bestHit value order'
        { input with query := some (ix'.query requestKeys blockSize) }).hitRatio := by
  unfold bestHit
  cases input.hitOverride with
  | some hi => exact le_refl _
  | none =>
      exact hitRatio_mono input.inputTokens.toInt
        (outscored_query more requestKeys nonneg fits order order')

end Hits

/-- More cache never hurts: a store lowers no hit ratio, and under rules that read no hit
field it turns no accept into a rejection. -/
theorem moreCache (value : Float → ℚ) (platform : Platform) (order order' : InstanceOrder Int)
    (input : Input Int) (ix : Index) (e : String) (dp : Int) (tier : String) (eks : List EngineKey)
    (rks : List RequestKey) (ts : Int) (requestKeys : List RequestKey) {blockSize : Int}
    (positive : 0 < blockSize) :
    let before := { input with query := some (ix.query requestKeys blockSize) }
    let after := { input with
      query := some ((ix.storeEvent e dp tier eks rks ts).query requestKeys blockSize) }
    (bestHit value order before).hitRatio ≤ (bestHit value order' after).hitRatio ∧
      (Blind input.rules → ∀ seen seen',
        decision value platform order before seen = .accept →
          decision value platform order' after seen' = .accept) := by
  intro before after
  have ratio : (bestHit value order before).hitRatio ≤ (bestHit value order' after).hitRatio :=
    hitRatio_bestHit_mono value order order' input (Index.heldBy_storeEvent ix e dp tier eks rks ts)
      requestKeys (le_of_lt positive) trivial
  refine ⟨ratio, fun blind seen seen' accepted => ?_⟩
  refine decisionOf_mono blind (fun action low => ?_) accepted
  exact decide_eq_true (ratio.trans_lt (of_decide_eq_true low))

/-- A prompt of two blocks under a rule that accepts everything. -/
def openInput (ν : Type) : Input ν where
  inputTokens := 32
  rules := [{ ruleID := "open" }]

/-- The first of the two blocks becomes resident. -/
theorem moreCache_firstBlock :
    let stored := newIndex.storeEvent "a" 0 tierGPU [1] [7] 1
    let before := { openInput Int with query := some (newIndex.query [7, 8] (16 : Int)) }
    let after := { openInput Int with query := some (stored.query [7, 8] (16 : Int)) }
    (bestHit (fun _ => 0) default before).hitRatio ≤
        (bestHit (fun _ => 0) default after).hitRatio ∧
      decision (fun _ => 0) .plain default after {} = .accept := by
  obtain ⟨ratio, accepts⟩ := moreCache (fun _ => 0) .plain default default (openInput Int) newIndex
    "a" 0 tierGPU [1] [7] 1 [7, 8] (show (0 : Int) < 16 by decide)
  refine ⟨ratio, accepts ?_ {} {} (by decide +kernel)⟩
  intro rule member cond inRule
  obtain rfl := List.mem_singleton.mp member
  cases inRule

end Exact

end KvIndexer.Admission
