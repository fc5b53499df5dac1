import KvIndexer.Admission.FirstMatch
import KvIndexer.HttpApi.Route
import KvIndexer.Residency.Prefix

/-!
Whether the hit of an accepted request can be used.

An index remembers every engine that ever published under its namespace; the target is picked
from the engines that serve the model now, and where the engine of the hit is not among them it
is the first of these. The hit is that of a holder of the prompt's first block with the greatest
credit for what it holds (`topInstance_query_iff`). So accepted hits are usable where all such
holders serve the model and, without any, no rule is content with an empty hit; and where some
such holder does not, there are rules under which an accepted hit is not (`usable_of_served`).
-/

namespace KvIndexer.HttpApi

open Residency KvEvents Config Admission

/-- A hit requirement that is met names an eligible engine, and the target is that engine. -/
def Usable (env : RouteEnv) (s : RouteState) (rr : RouteRequest) : Prop :=
  (s.evaluate env rr).decision = .accept → (s.evaluate env rr).reason = .cacheHitRequirement →
    ∃ e ∈ routeEngines env s rr, e.engineID = (s.evaluate env rr).cache.instanceID ∧
      (s.evaluate env rr).target = some (Target.ofEngine e)

/-! ### The holders of the prompt -/

/-- What an engine holds of the keys, counted as a query counts; the ranks are left out. -/
def heldHit (ix : Index) (requestKeys : List RequestKey) (blockSize : Int64) (e : String) :
    InstanceHit :=
  let run := ix.heldRun e requestKeys
  { longestMatched := run.length • blockSize
    gpu := ix.countInTiers e [tierGPU] run • blockSize
    cpu := ix.countInTiers e [tierGPU, tierCPU] run • blockSize
    disk := run.length • blockSize
    dp := ∅ }

/-- The engine holds the first block. -/
def HoldsFirst (ix : Index) (requestKeys : List RequestKey) (e : String) : Prop :=
  ∃ rk, requestKeys.head? = some rk ∧ ix.EngineHolds e rk

/-- The engine holds the first block, and no engine that does has more credit for what it holds.
Unless the counts wrap, every credit is above the threshold. -/
structure TopHolder (ix : Index) (requestKeys : List RequestKey) (blockSize : Int64) (e : String) :
    Prop where
  holds : HoldsFirst ix requestKeys e
  above : bestEffStart < effectiveTokens (heldHit ix requestKeys blockSize e)
  top : ∀ e', HoldsFirst ix requestKeys e' →
    ¬ effectiveTokens (heldHit ix requestKeys blockSize e) <
      effectiveTokens (heldHit ix requestKeys blockSize e')

section Holders

variable {ix : Index} {requestKeys : List RequestKey} {blockSize : Int64} {e : String}

theorem lookup_query_iff_holdsFirst :
    (∃ inst, (ix.query requestKeys blockSize).instances.lookup e = some inst) ↔
      HoldsFirst ix requestKeys e := by
  rw [← Option.isSome_iff_exists]
  cases requestKeys with
  | nil => simp [Index.lookup_query, hitFrom, HoldsFirst]
  | cons rk requestKeys =>
      rw [Index.lookup_query_isSome]
      simp [HoldsFirst]

theorem effectiveTokens_heldHit {inst : InstanceHit}
    (found : (ix.query requestKeys blockSize).instances.lookup e = some inst) :
    effectiveTokens inst = effectiveTokens (heldHit ix requestKeys blockSize e) := by
  obtain ⟨-, gpu, cpu, disk⟩ := Index.lookup_query_heldRun ix requestKeys blockSize e found
  unfold effectiveTokens
  rw [gpu, cpu, disk]
  rfl

/-- The instances on top of a query are the top holders of its keys. -/
theorem topInstance_query_iff :
    TopInstance (ix.query requestKeys blockSize).instances e ↔
      TopHolder ix requestKeys blockSize e := by
  constructor
  · rintro ⟨inst, found, above, top⟩
    rw [effectiveTokens_heldHit found] at above top
    refine ⟨lookup_query_iff_holdsFirst.mp ⟨inst, found⟩, above, fun e' holds => ?_⟩
    obtain ⟨inst', found'⟩ := lookup_query_iff_holdsFirst.mpr holds
    rw [← effectiveTokens_heldHit found']
    exact top e' inst' found'
  · rintro ⟨holds, above, top⟩
    obtain ⟨inst, found⟩ := lookup_query_iff_holdsFirst.mpr holds
    rw [← effectiveTokens_heldHit found] at above top
    refine ⟨inst, found, above, fun e' inst' found' => ?_⟩
    rw [effectiveTokens_heldHit found']
    exact top e' (lookup_query_iff_holdsFirst.mp ⟨inst', found'⟩)

end Holders

/-! ### The condition -/

/-- The cache signal of the request is certain: the model has the profile, its tokenizer
answered, the hash profile supports the request and a serving engine's stream is fresh. -/
structure CertainSignal (env : RouteEnv) (s : RouteState) (rr : RouteRequest) (prof : ModelProfile)
    (res : TokenizeResult) : Prop where
  profile : routeProfile env s rr = some prof
  tokens : requestTokens env prof (routeEngines env s rr) rr = some res
  supported : (prof.supportsMultimodal || !rr.hasMultimodalContent) = true
  fresh : streamFreshForEngines s.listeners (routeEngines env s rr) = true

/-- The top holders of the prompt under its profile. -/
def PromptHolder (s : RouteState) (prof : ModelProfile) (res : TokenizeResult) (e : String) :
    Prop :=
  TopHolder (s.index.index prof.namespace) (routeKeys prof res.tokens) (blockSizeOrDefault prof) e

/-- The hit of an engine for what it holds of the prompt. -/
def holderHit (platform : Platform) (s : RouteState) (prof : ModelProfile) (res : TokenizeResult)
    (e : String) : HitInfo :=
  (HitInfo.ofInstance platform { inputTokens := res.count }
    ⟨e, heldHit (s.index.index prof.namespace) (routeKeys prof res.tokens)
      (blockSizeOrDefault prof) e⟩).withRatio res.count

/-- The hit where nothing is cached; it names no engine. -/
def emptyHit (inputTokens : Int64) : HitInfo :=
  ({ inputTokens := inputTokens } : HitInfo).withRatio inputTokens

/-- Some enabled rule requires a hit and is content with this one. -/
def Contents (rules : List Policy) (hit : HitInfo) : Prop :=
  ∃ rule ∈ rules, rule.isEnabled = true ∧ rule.action.typeOrDefault = ActionRequireCacheHit ∧
    ¬ hit.hitRatio < rule.action.minHitRatioOrDefault

/-- An engine of this id can serve the request now. -/
def Serving (env : RouteEnv) (s : RouteState) (rr : RouteRequest) (e : String) : Prop :=
  ∃ e' ∈ routeEngines env s rr, e'.engineID = e

/-- Of a prompt with a certain signal every top holder serves whose hit some requirement in
force is content with; without a top holder none is content with the empty hit. -/
structure HoldersServe (env : RouteEnv) (s : RouteState) (rr : RouteRequest)
    (prof : ModelProfile) (res : TokenizeResult) : Prop where
  holder : ∀ e, PromptHolder s prof res e →
    Contents (s.store.listPolicies env.orders) (holderHit env.platform s prof res e) →
      Serving env s rr e
  nobody : (∀ e, ¬ PromptHolder s prof res e) →
    Contents (s.store.listPolicies env.orders) (emptyHit res.count) → Serving env s rr ""

/-- The target of an instance among the engines is the engine itself. -/
theorem pickTarget_of_mem {instanceID : String} {engines : List Engine}
    (among : ∃ e ∈ engines, e.engineID = instanceID) :
    ∃ e ∈ engines, e.engineID = instanceID ∧
      pickTarget instanceID engines = some (Target.ofEngine e) := by
  obtain ⟨e, member, same⟩ := among
  have listed : (engines.find? fun e => decide (e.engineID = instanceID)).isSome :=
    List.find?_isSome.mpr ⟨e, member, decide_eq_true same⟩
  obtain ⟨e', first⟩ := Option.isSome_iff_exists.mp listed
  have here : e'.engineID = instanceID := by simpa using List.find?_some first
  refine ⟨e', List.mem_of_find?_eq_some first, here, ?_⟩
  unfold pickTarget
  cases engines with
  | nil => cases first
  | cons head rest =>
      dsimp only
      rw [first, Option.getD_some]

section Usable

variable {env : RouteEnv} {s : RouteState} {rr : RouteRequest} {prof : ModelProfile}
  {res : TokenizeResult}

theorem uncertaintyReason_eq_none_iff {r : Request} :
    uncertaintyReason r = none ↔
      r.tokenized = true ∧ r.hashSupported = true ∧ r.hasCandidates = true ∧ r.fresh = true := by
  unfold uncertaintyReason
  cases r.tokenized <;> cases r.hashSupported <;> cases r.hasCandidates <;> cases r.fresh <;> simp

/-- With a certain signal admission judges the query for the tokens. -/
theorem CertainSignal.asked (signal : CertainSignal env s rr prof res) :
    uncertaintyReason (routeInput env s rr).toRequest = none ∧
      (routeInput env s rr).query = some (queryTokens s prof res.tokens) ∧
      (routeInput env s rr).inputTokens = res.count := by
  have served : routeEngines env s rr ≠ [] := by
    intro none_
    have isFresh := signal.fresh
    rw [none_] at isFresh
    cases isFresh
  unfold routeInput
  rw [signal.profile]
  unfold admissionInput
  dsimp only
  rw [signal.tokens, signal.fresh, signal.supported, uncertaintyReason_eq_none_iff]
  exact ⟨⟨rfl, rfl, decide_eq_true (List.length_pos_iff.mpr served), rfl⟩, rfl, rfl⟩

theorem exists_certainSignal
    (certain : uncertaintyReason (routeInput env s rr).toRequest = none) :
    ∃ prof res, CertainSignal env s rr prof res := by
  rw [uncertaintyReason_eq_none_iff] at certain
  obtain ⟨tokenized, supported, -, isFresh⟩ := certain
  unfold routeInput at tokenized supported isFresh
  cases profile : routeProfile env s rr with
  | none =>
      rw [profile] at tokenized
      cases tokenized
  | some prof =>
      rw [profile] at tokenized supported isFresh
      obtain ⟨res, tokens⟩ := Option.isSome_iff_exists.mp tokenized
      exact ⟨prof, res, profile, tokens, supported, isFresh⟩

/-- The reason says that the hit meets the requirement of the deciding rule. -/
theorem reason_evaluate :
    (s.evaluate env rr).reason = .cacheHitRequirement ↔
      RequirementMet env.platform (routeInput env s rr).toRequest (routeInput env s rr).rules
        (bestHit env.platform env.instances (routeInput env s rr)) :=
  judge_requirement _ _ _ _

/-- The counts of ranks have no part in a hit. -/
theorem ofInstance_heldHit {ix : Index} {requestKeys : List RequestKey} {blockSize : Int64}
    {e : String} {inst : InstanceHit} (platform : Platform) (hi : HitInfo)
    (found : (ix.query requestKeys blockSize).instances.lookup e = some inst) :
    hi.ofInstance platform ⟨e, inst⟩ =
      hi.ofInstance platform ⟨e, heldHit ix requestKeys blockSize e⟩ := by
  have credit : Instance.score ⟨e, inst⟩ =
      Instance.score ⟨e, heldHit ix requestKeys blockSize e⟩ := effectiveTokens_heldHit found
  obtain ⟨longest, gpu, cpu, disk⟩ := Index.lookup_query_heldRun ix requestKeys blockSize e found
  simp only [HitInfo.ofInstance]
  rw [credit, longest, gpu, cpu, disk]
  rfl

/-- The best hit is that of the instance the range chooses, or the empty one. -/
theorem CertainSignal.bestHit_eq (signal : CertainSignal env s rr prof res) :
    bestHit env.platform env.instances (routeInput env s rr) =
      (leadingInstance env.instances (queryTokens s prof res.tokens).instances).elim
        (emptyHit res.count) fun inst => holderHit env.platform s prof res inst.1 := by
  obtain ⟨-, asked, count⟩ := signal.asked
  rw [Admission.bestHit_eq env.platform env.instances (hitOverride_routeInput env s rr) asked,
    count]
  cases leading : leadingInstance env.instances (queryTokens s prof res.tokens).instances with
  | none => rfl
  | some inst =>
      rw [Option.elim_some, Option.elim_some, holderHit,
        ← ofInstance_heldHit env.platform _ (leadingInstance_top leading).1]

theorem instanceID_withRatio (inputTokens : Int64) (hi : HitInfo) :
    (hi.withRatio inputTokens).instanceID = hi.instanceID := by
  unfold HitInfo.withRatio
  split <;> rfl

theorem instanceID_holderHit (platform : Platform) (e : String) :
    (holderHit platform s prof res e).instanceID = e := by
  rw [holderHit, instanceID_withRatio]
  rfl

theorem instanceID_emptyHit (inputTokens : Int64) : (emptyHit inputTokens).instanceID = "" := by
  rw [emptyHit, instanceID_withRatio]

/-- The instance of a hit that meets a requirement serves. -/
theorem HoldersServe.serving (serve : HoldersServe env s rr prof res)
    (signal : CertainSignal env s rr prof res)
    (met : RequirementMet env.platform (routeInput env s rr).toRequest (routeInput env s rr).rules
      (bestHit env.platform env.instances (routeInput env s rr))) :
    Serving env s rr (bestHit env.platform env.instances (routeInput env s rr)).instanceID := by
  obtain ⟨-, rule, decides, requires, high⟩ := met
  have first := decides_of_decidingRule decides
  have member := first.member
  rw [rules_routeInput] at member
  have content : Contents (s.store.listPolicies env.orders)
      (bestHit env.platform env.instances (routeInput env s rr)) :=
    ⟨rule, member, first.qualifies.enabled, requires, high⟩
  rw [signal.bestHit_eq] at content ⊢
  cases leading : leadingInstance env.instances (queryTokens s prof res.tokens).instances with
  | some inst =>
      rw [leading, Option.elim_some] at content
      rw [Option.elim_some, instanceID_holderHit]
      exact serve.holder inst.1 (topInstance_query_iff.mp (leadingInstance_top leading).2) content
  | none =>
      rw [leading, Option.elim_none] at content
      rw [Option.elim_none, instanceID_emptyHit]
      exact serve.nobody
        (fun e holder => leadingInstance_eq_none leading e (topInstance_query_iff.mpr holder))
        content

theorem usable_of_holdersServe
    (serve : ∀ prof res, CertainSignal env s rr prof res → HoldersServe env s rr prof res) :
    Usable env s rr := by
  intro accepted met
  have required := reason_evaluate.mp met
  obtain ⟨prof, res, signal⟩ := exists_certainSignal required.1
  rw [target_evaluate env s rr accepted, cache_evaluate]
  exact pickTarget_of_mem ((serve prof res signal).serving signal required)

/-! ### The rule that makes the difference -/

/-- An unconditional rule with the action. -/
def warmPolicy (action : RuleAction) : Policy := { ruleID := "warm", action := action }

theorem warm_ne : "warm" ≠ "" := by decide

/-- The state with one rule. -/
def RouteState.under (s : RouteState) (rule : Policy) : RouteState :=
  { s with store := { s.store with policies := Finmap.singleton rule.ruleID rule } }

/-- Under one unconditional rule every hit it is content with is accepted for the requirement. -/
theorem requirementMet_warmPolicy {platform : Platform} {r : Request} {hit : HitInfo}
    {action : RuleAction} (certain : uncertaintyReason r = none)
    (requires : action.typeOrDefault = ActionRequireCacheHit)
    (high : ¬ hit.hitRatio < action.minHitRatioOrDefault) :
    RequirementMet platform r [warmPolicy action] hit := by
  refine ⟨certain, warmPolicy action, ?_, requires, high⟩
  rw [platform.sortRules.sort_singleton]
  rfl

/-- A hit that some rule is content with must be of a serving instance, or it is accepted in
vain under that rule alone. -/
theorem serving_of_usable {order : InstanceOrder} {hit : HitInfo} {rules : List Policy}
    (usable : ∀ rule, Usable { env with instances := order } (s.under rule) rr)
    (signal : CertainSignal env s rr prof res) (content : Contents rules hit)
    (best : ∀ rule, bestHit env.platform order
      (routeInput { env with instances := order } (s.under rule) rr) = hit) :
    Serving env s rr hit.instanceID := by
  obtain ⟨rule, -, -, requires, high⟩ := content
  let env' : RouteEnv := { env with instances := order }
  let s' := s.under (warmPolicy rule.action)
  have signal' : CertainSignal env' s' rr prof res :=
    ⟨signal.profile, signal.tokens, signal.supported, signal.fresh⟩
  have only : (routeInput env' s' rr).rules = [warmPolicy rule.action] := by
    rw [rules_routeInput]
    exact FullStore.listPolicies_singleton env.orders rfl warm_ne
  have required : RequirementMet env'.platform (routeInput env' s' rr).toRequest
      (routeInput env' s' rr).rules (bestHit env'.platform order (routeInput env' s' rr)) := by
    rw [only, best]
    exact requirementMet_warmPolicy signal'.asked.1 requires high
  obtain ⟨e, served, same, -⟩ := usable (warmPolicy rule.action)
    (decision_of_requirement required) (reason_evaluate.mpr required)
  rw [cache_evaluate, best] at same
  exact ⟨e, served, same⟩

end Usable

def servedProfile : ModelProfile :=
  { modelID := "m", version := 1, hashProfile := "text", blockSize := 1, tokenizerEndpoint := "t" }

def newEngine : Engine := { engineID := "new", servedModels := ["m"], enabled := true }

def promptKeys : List RequestKey :=
  requestKeysFromTokens (seedNamespace ("|" ++ servedProfile.namespace)) [7] 1

def heldState (holder : String) : RouteState where
  store :=
    { profiles := Finmap.singleton "m" servedProfile
      engines := Finmap.singleton "new" newEngine
      policies := Finmap.singleton "warm" warmRule }
  index := Finmap.singleton servedProfile.namespace
    (newIndex.storeEvent holder 0 tierGPU [] promptKeys 1)
  listeners := Finmap.singleton "new"
    { engineID := "new", model := "m", replayEndpoint := "", connected := true }

def promptHit : InstanceHit := ⟨1, 1, 1, 1, Finmap.singleton "0" 1⟩

def heldInput (holder : String) : Input where
  modelID := "m"
  tenantID := "default"
  inputTokens := 1
  fresh := true
  tokenized := true
  hashSupported := true
  hasCandidates := true
  rules := [warmRule]
  query := some ⟨Finmap.singleton holder promptHit, 1⟩

section Held

variable (orders : MapOrders) (instances : InstanceOrder) {holder : String}

theorem routeEngines_held (holder : String) :
    routeEngines (oneTokenEnv orders instances) (heldState holder) { model := "m" } =
      [newEngine] :=
  @FullStore.enginesForModel_singleton orders (heldState holder).store "new" "m" newEngine rfl

theorem query_held (either : holder = "old" ∨ holder = "new") :
    queryTokens (heldState holder) servedProfile [7] =
      ⟨Finmap.singleton holder promptHit, 1⟩ := by
  obtain rfl | rfl := either
  · decide +kernel
  · decide +kernel

theorem routeInput_held (either : holder = "old" ∨ holder = "new") :
    routeInput (oneTokenEnv orders instances) (heldState holder) { model := "m" } =
      heldInput holder := by
  have rules : (heldState holder).store.listPolicies orders = [warmRule] :=
    FullStore.listPolicies_singleton orders rfl (by decide)
  have profile : routeProfile (oneTokenEnv orders instances) (heldState holder)
      { model := "m" } = some servedProfile := rfl
  have tokens : requestTokens (oneTokenEnv orders instances) servedProfile [newEngine]
      { model := "m" } = some ⟨[7], 1⟩ := rfl
  have fresh : streamFreshForEngines (heldState holder).listeners [newEngine] = true := by
    change streamFreshForEngines (heldState "").listeners [newEngine] = true
    decide +kernel
  unfold routeInput
  rw [routeEngines_held, profile]
  unfold admissionInput
  rw [show (oneTokenEnv orders instances).orders = orders from rfl, rules]
  simp only [tokens, fresh, Option.map_some, query_held either]
  rfl

/-- The request is accepted for its hit. -/
theorem required_held (either : holder = "old" ∨ holder = "new") :
    ((heldState holder).evaluate (oneTokenEnv orders instances) { model := "m" }).decision =
        .accept ∧
      ((heldState holder).evaluate (oneTokenEnv orders instances) { model := "m" }).reason =
        .cacheHitRequirement ∧
      ((heldState holder).evaluate (oneTokenEnv orders instances)
        { model := "m" }).cache.instanceID = holder := by
  have entries : (instances (Finmap.singleton holder promptHit)).entries =
      [⟨holder, promptHit⟩] :=
    GoMap.entries_singleton (instances (Finmap.singleton holder promptHit))
  have hit : bestHit .plain instances (heldInput holder) =
      bestHitOf .plain 1 [⟨holder, promptHit⟩] := by
    rw [← entries]
    rfl
  have judged : (heldState holder).evaluate (oneTokenEnv orders instances) { model := "m" } =
      finish { model := "m" }
        { configVersion := 0, modelProfileVersion := 1, ns := servedProfile.namespace }
        (judge .plain (heldInput holder).toRequest (heldInput holder).rules
          (bestHitOf .plain 1 [⟨holder, promptHit⟩]))
        [newEngine] := by
    rw [← hit, ← routeInput_held orders instances either,
      ← routeEngines_held orders instances holder]
    rfl
  rw [judged]
  obtain rfl | rfl := either
  · decide +kernel
  · decide +kernel

end Held

end KvIndexer.HttpApi
