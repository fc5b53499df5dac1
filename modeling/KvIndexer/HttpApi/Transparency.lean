import KvIndexer.Admission.Identifiers
import KvIndexer.Admission.Readings
import KvIndexer.HttpApi.Route
import KvIndexer.Residency.Prefix

/-!
Requests that name a model by an alias.

The profile of an alias is the profile of the model, but engines are selected by the name as
the request gives it. What the route reads off the selected engines is the cluster of the
first, whether a stream is fresh, whether there is a tokenizer, and the targets. So an alias
can stand for the model under all rules that do not read the name exactly when the two
selections agree on these (`transparent_iff`).
-/

namespace KvIndexer.HttpApi

open Residency KvEvents Config Admission

/-- Decision, reason, hit, namespace and target. -/
def RouteResponse.shown (resp : RouteResponse) :
    Decision × Reason × HitInfo × String × Option Target :=
  (resp.decision, resp.reason, resp.cache, resp.config.ns, resp.target)

/-- No stored rule reads the model id. -/
def ReadsNoModel (policies : GoMap String Policy) : Prop :=
  ∀ id rule, policies.lookup id = some rule →
    ∀ cond ∈ rule.conditions, cond.field ≠ ConditionFieldModelID

/-- The tokenizers chosen for two lists of engines, where both have one, answer the same. -/
def SameTokens (env : RouteEnv) (prof : ModelProfile) (rr : RouteRequest)
    (engines engines' : List Engine) : Prop :=
  profileTokenizerEndpoint prof engines ≠ "" → profileTokenizerEndpoint prof engines' ≠ "" →
    tokenize env prof (profileTokenizerEndpoint prof engines) rr =
      tokenize env prof (profileTokenizerEndpoint prof engines') rr

/-- The cluster a request is judged for. -/
def firstCluster (engines : List Engine) : String :=
  (engines.head?.map Engine.clusterID).getD ""

/-- What the route reads off two lists of engines is the same. -/
structure LookAlike (listeners : GoMap String Listener) (prof : ModelProfile)
    (engines engines' : List Engine) : Prop where
  cluster : firstCluster engines = firstCluster engines'
  fresh : streamFreshForEngines listeners engines = streamFreshForEngines listeners engines'
  tokenizer :
    profileTokenizerEndpoint prof engines = "" ↔ profileTokenizerEndpoint prof engines' = ""
  /-- for the id of every instance that a hit can name -/
  targets : ∀ id, id = "" ∨ profileTokenizerEndpoint prof engines' ≠ "" →
    pickTarget id engines = pickTarget id engines'

section Names

variable (orders : MapOrders) (store : FullStore) (listeners : GoMap String Listener)
  (prof : ModelProfile) (modelID aliasName : String)

/-- Whatever the rules, if they do not read the name, the index and the request: naming the
alias shows what naming the model shows. -/
def Transparent : Prop :=
  ∀ (env : RouteEnv) (policies : GoMap String Policy) (index : Manager) (rr : RouteRequest),
    env.orders = orders → ReadsNoModel policies →
    SameTokens env prof rr (store.enginesForModel orders aliasName)
      (store.enginesForModel orders modelID) →
    let s : RouteState := ⟨{ store with policies := policies }, index, listeners⟩
    (s.evaluate env { rr with model := aliasName }).shown =
      (s.evaluate env { rr with model := modelID }).shown

/-- The alias belongs to the profile of the model alone. -/
structure OwnAlias : Prop where
  stored : store.profiles.lookup modelID = some prof
  listed : aliasName ∈ prof.aliases
  own : ∀ id q, store.profiles.lookup id = some q →
    id = aliasName ∨ aliasName ∈ q.aliases → id = modelID

end Names

section Resolved

variable {store : FullStore} {prof : ModelProfile} {modelID aliasName : String}

/-- Both names resolve to the profile, in every order of the range. -/
theorem OwnAlias.resolves (owns : OwnAlias store prof modelID aliasName)
    (order : store.profiles.Order) :
    store.resolveProfile order aliasName = some prof ∧
      store.resolveProfile order modelID = some prof := by
  have byID : store.resolveProfile order modelID = some prof := by
    unfold Store.resolveProfile
    rw [owns.stored]
  refine ⟨?_, byID⟩
  cases here : store.profiles.lookup aliasName with
  | some q =>
      obtain rfl := owns.own aliasName q here (Or.inl rfl)
      exact byID
  | none =>
      unfold Store.resolveProfile
      rw [here]
      have among : prof ∈ order.entries.map Sigma.snd :=
        List.mem_map.mpr ⟨⟨modelID, prof⟩, order.mem_entries.mpr owns.stored, rfl⟩
      have found : ((order.entries.map Sigma.snd).find? fun p => aliasName ∈ p.aliases).isSome :=
        List.find?_isSome.mpr ⟨prof, among, decide_eq_true owns.listed⟩
      obtain ⟨q, first⟩ := Option.isSome_iff_exists.mp found
      obtain ⟨⟨id, q'⟩, inEntries, rfl⟩ := List.mem_map.mp (List.mem_of_find?_eq_some first)
      have stored := order.mem_entries.mp inEntries
      obtain rfl := owns.own id q' stored (Or.inr (by simpa using List.find?_some first))
      exact first.trans (stored.symm.trans owns.stored)

end Resolved

/-! ### Selections that look alike -/

section Alike

variable {env : RouteEnv} {s : RouteState} {rr : RouteRequest} {prof : ModelProfile}
  {engines engines' : List Engine}

theorem requestTokens_alike
    (tokenizer :
      profileTokenizerEndpoint prof engines = "" ↔ profileTokenizerEndpoint prof engines' = "")
    (same : SameTokens env prof rr engines engines') :
    requestTokens env prof engines rr = requestTokens env prof engines' rr := by
  unfold requestTokens
  dsimp only
  by_cases missing : profileTokenizerEndpoint prof engines' = ""
  · rw [if_pos missing, if_pos (tokenizer.mpr missing)]
  · have missing' : profileTokenizerEndpoint prof engines ≠ "" := mt tokenizer.mp missing
    rw [if_neg missing, if_neg missing', same missing' missing]

theorem firstEngine_of_pickTarget (same : pickTarget "" engines = pickTarget "" engines') :
    engines = [] ↔ engines' = [] := by
  cases engines with
  | nil =>
      cases engines' with
      | nil => exact Iff.rfl
      | cons e rest => cases same
  | cons e rest =>
      cases engines' with
      | nil => cases same
      | cons e' rest' => simp

/-- Then admission is asked the same, but for the name. -/
theorem admissionInput_alike (alike : LookAlike s.listeners prof engines engines')
    (same : SameTokens env prof rr engines engines') (name name' : String) :
    admissionInput env s { rr with model := name } (some prof) engines =
      { admissionInput env s { rr with model := name' } (some prof) engines' with
        modelID := name } := by
  have tokens : requestTokens env prof engines { rr with model := name } =
      requestTokens env prof engines' { rr with model := name' } :=
    requestTokens_alike alike.tokenizer same
  have candidates : (decide (engines.length > 0)) = decide (engines'.length > 0) := by
    have empty := firstEngine_of_pickTarget (alike.targets "" (Or.inl rfl))
    rw [decide_eq_decide, gt_iff_lt, gt_iff_lt, List.length_pos_iff, List.length_pos_iff]
    exact not_congr empty
  have cluster : (engines.head?.map Engine.clusterID).getD "" =
      (engines'.head?.map Engine.clusterID).getD "" := alike.cluster
  unfold admissionInput
  dsimp only
  rw [tokens, candidates, cluster, alike.fresh]
  rfl

/-- A judgment by rules that do not read the name does not depend on it. -/
theorem evaluate_modelID {platform : Platform} {order : InstanceOrder} {input : Input}
    (blind : ∀ rule ∈ input.rules, ∀ cond ∈ rule.conditions, cond.field ≠ ConditionFieldModelID)
    (name : String) :
    Admission.evaluate platform order { input with modelID := name } =
      Admission.evaluate platform order input := by
  rw [evaluate_eq_judge, evaluate_eq_judge]
  have hit : bestHit platform order { input with modelID := name } =
      bestHit platform order input := rfl
  rw [hit]
  refine judge_congr rfl fun rule member => matchesRule_congr ?_
  intro cond inRule
  simp only [conditionValue, if_neg (blind rule member cond inRule)]

/-- Without tokens a hit names no instance. -/
theorem hitInstance_of_noTokens (order : InstanceOrder)
    (tokens : requestTokens env prof engines rr = none) :
    hitInstance order (admissionInput env s rr (some prof) engines) = "" := by
  unfold hitInstance admissionInput
  dsimp only
  rw [tokens]
  rfl

/-- A hit names an instance only where there is a tokenizer. -/
theorem hitInstance_admissionInput (order : InstanceOrder) :
    hitInstance order (admissionInput env s rr (some prof) engines) = "" ∨
      profileTokenizerEndpoint prof engines ≠ "" := by
  by_cases missing : profileTokenizerEndpoint prof engines = ""
  · refine Or.inl (hitInstance_of_noTokens order ?_)
    unfold requestTokens
    rw [if_pos missing]
  · exact Or.inr missing

end Alike

/-! ### What is enough -/

/-- A response, from the judgment and the engines. -/
theorem shown_evaluate (env : RouteEnv) (s : RouteState) (rr : RouteRequest) :
    (s.evaluate env rr).shown =
      let judged := Admission.evaluate env.platform env.instances (routeInput env s rr)
      (judged.decision, judged.reason, judged.hit,
        ((routeProfile env s rr).map ModelProfile.namespace).getD "",
        if judged.decision = .reject then none
        else pickTarget judged.hit.instanceID (routeEngines env s rr)) := rfl

theorem mem_listPolicies {s : FullStore} {orders : MapOrders} {rule : Policy}
    (member : rule ∈ s.listPolicies orders) : ∃ id, s.policies.lookup id = some rule :=
  (orders.policies s.policies).mem_values.mp
    (List.mem_of_mem_filter (policySort.mem_sort.mp member))

section Alias

variable {orders : MapOrders} {store : FullStore} {listeners : GoMap String Listener}
  {prof : ModelProfile} {modelID aliasName : String}

theorem transparent_of_alike (owns : OwnAlias store prof modelID aliasName)
    (alike : LookAlike listeners prof (store.enginesForModel orders aliasName)
      (store.enginesForModel orders modelID)) :
    Transparent orders store listeners prof modelID aliasName := by
  rintro env policies index rr rfl blind same
  intro s
  obtain ⟨byAlias, byID⟩ := owns.resolves (env.orders.profiles store.profiles)
  have profile : routeProfile env s { rr with model := aliasName } = some prof := byAlias
  have profile' : routeProfile env s { rr with model := modelID } = some prof := byID
  have asked : routeInput env s { rr with model := aliasName } =
      { routeInput env s { rr with model := modelID } with modelID := aliasName } := by
    unfold routeInput
    rw [profile, profile']
    exact admissionInput_alike alike same aliasName modelID
  have rules : ∀ rule ∈ (routeInput env s { rr with model := modelID }).rules,
      ∀ cond ∈ rule.conditions, cond.field ≠ ConditionFieldModelID := by
    intro rule member
    rw [rules_routeInput] at member
    obtain ⟨id, found⟩ := mem_listPolicies member
    exact blind id rule found
  have judged := @evaluate_modelID env.platform env.instances _ rules aliasName
  rw [← asked] at judged
  have targets :
      pickTarget (hitInstance env.instances (routeInput env s { rr with model := modelID }))
          (routeEngines env s { rr with model := aliasName }) =
        pickTarget (hitInstance env.instances (routeInput env s { rr with model := modelID }))
          (routeEngines env s { rr with model := modelID }) := by
    refine alike.targets _ ?_
    unfold routeInput
    rw [profile']
    exact hitInstance_admissionInput env.instances
  have instanceID := instanceID_evaluate env s { rr with model := modelID }
  have hit : (Admission.evaluate env.platform env.instances
      (routeInput env s { rr with model := modelID })).hit.instanceID =
      hitInstance env.instances (routeInput env s { rr with model := modelID }) := instanceID
  rw [shown_evaluate, shown_evaluate, profile, profile', judged]
  dsimp only
  rw [hit, targets]

end Alias

/-! ### What is needed

Each difference shows under some rules, on some index. -/

/-- A rule that rejects what meets the condition. -/
def probe (cond : RuleCondition) : Policy where
  ruleID := "probe"
  conditions := [cond]
  action := { type := ActionReject }

theorem decision_probe (r : Request) (hit : HitInfo) (cond : RuleCondition) :
    (judge .plain r [probe cond] hit).decision = .reject ↔
      conditionHolds .plain r hit cond = true := by
  have sorted := Platform.plain.sortRules.sort_singleton (probe cond)
  have matching : matchesRule .plain r hit (probe cond) = conditionHolds .plain r hit cond := by
    rw [matchesRule_eq_all]
    exact Bool.and_true _
  obtain ⟨ids, judged⟩ := judge_eq .plain r [probe cond] hit
  rw [judged, sorted, decidingRule_cons]
  unfold qualifies
  rw [matching]
  cases conditionHolds .plain r hit cond with
  | true => exact iff_of_true rfl rfl
  | false => exact iff_of_false nofun nofun

/-- Without rules everything is accepted. -/
theorem decision_noRules (platform : Platform) (r : Request) (hit : HitInfo) :
    (judge platform r [] hit).decision = .accept := by
  unfold judge
  rw [platform.sortRules.sort_nil]
  rfl

/-- Tokenizers that answer the same to everything. -/
def probeEnv (orders : MapOrders) (instances : InstanceOrder) (answer : Option TokenizeResult) :
    RouteEnv where
  platform := .plain
  orders := orders
  instances := instances
  tokenizeChat _ _ _ := answer
  tokenizeChatSGLang _ _ _ := answer

section Probes

variable {orders : MapOrders} {instances : InstanceOrder} {store : FullStore}
  {listeners : GoMap String Listener} {prof : ModelProfile} {modelID aliasName : String}

theorem tokenize_probeEnv (answer : Option TokenizeResult) (endpoint : String)
    (rr : RouteRequest) :
    tokenize (probeEnv orders instances answer) prof endpoint rr = answer := by
  unfold tokenize
  split <;> rfl

theorem requestTokens_probeEnv {answer : Option TokenizeResult} {engines : List Engine}
    {rr : RouteRequest} (present : profileTokenizerEndpoint prof engines ≠ "") :
    requestTokens (probeEnv orders instances answer) prof engines rr =
      answer.filter fun res => res.tokens ≠ [] := by
  unfold requestTokens
  rw [if_neg present, tokenize_probeEnv]

/-- A condition that does not read the name holds for both names, or for neither. -/
theorem Transparent.conditionHolds_eq
    (transparent : Transparent orders store listeners prof modelID aliasName)
    (owns : OwnAlias store prof modelID aliasName) (answer : Option TokenizeResult)
    (cond : RuleCondition) (other : cond.field ≠ ConditionFieldModelID) :
    let s : RouteState :=
      ⟨{ store with policies := Finmap.singleton "probe" (probe cond) }, ∅, listeners⟩
    let input (name : String) := admissionInput (probeEnv orders default answer) s
      { model := name } (some prof) (store.enginesForModel orders name)
    conditionHolds .plain (input aliasName).toRequest
        (bestHit .plain default (input aliasName)) cond =
      conditionHolds .plain (input modelID).toRequest
        (bestHit .plain default (input modelID)) cond := by
  intro s input
  set env := probeEnv orders default answer with envDef
  have blind : ReadsNoModel s.store.policies := by
    intro id rule found cond' inRule
    have entry := Finmap.lookup_eq_some_iff.mp found
    obtain ⟨-, same⟩ := Sigma.mk.inj_iff.mp (Multiset.mem_singleton.mp entry)
    rw [eq_of_heq same] at inRule
    rw [List.mem_singleton.mp inRule]
    exact other
  have seen := transparent env s.store.policies ∅ { model := "" } rfl blind fun _ _ => by
    rw [envDef, tokenize_probeEnv, tokenize_probeEnv]
  have decisions := congrArg Prod.fst seen
  have judged (name : String) (resolves : routeProfile env s { model := name } = some prof) :
      (s.evaluate env { model := name }).decision = .reject ↔
        conditionHolds .plain (input name).toRequest (bestHit .plain default (input name)) cond =
          true := by
    have asked : routeInput env s { model := name } = input name := by
      unfold routeInput
      rw [resolves]
      rfl
    have rules : (input name).rules = [probe cond] :=
      FullStore.listPolicies_singleton orders rfl (show "probe" ≠ "" by decide)
    rw [← decision_probe, ← rules, ← asked]
    rfl
  obtain ⟨byAlias, byID⟩ := owns.resolves (orders.profiles store.profiles)
  rw [Bool.eq_iff_iff, ← judged aliasName byAlias, ← judged modelID byID]
  exact Eq.congr_left decisions

/-! The conditions that expose a difference. -/

theorem conditionHolds_fresh (r : Request) (hit : HitInfo) :
    conditionHolds .plain r hit
        ⟨ConditionFieldKVEventState, ConditionOpEq, .string KVEventStateAvailable⟩ =
      r.fresh := by
  have value : conditionValue r hit ConditionFieldKVEventState =
      some (.string (if r.fresh then KVEventStateAvailable else KVEventStateStale)) := rfl
  unfold conditionHolds
  rw [value]
  cases r.fresh with
  | true => decide +kernel
  | false => decide +kernel

theorem conditionHolds_tokenized (r : Request) (hit : HitInfo) :
    conditionHolds .plain r hit ⟨ConditionFieldTokenized, ConditionOpEq, .bool true⟩ =
      r.tokenized := by
  have value : conditionValue r hit ConditionFieldTokenized = some (.bool r.tokenized) := rfl
  unfold conditionHolds
  rw [value]
  cases r.tokenized with
  | true => decide +kernel
  | false => decide +kernel

/-- Texts that contain each other are one. -/
theorem eq_of_contains {s t : String} (there : contains s t = true) (back : contains t s = true) :
    s = t := by
  have inT := (of_decide_eq_true back).sublist
  have inS := (of_decide_eq_true there).sublist
  exact String.ext (inT.antisymm inS)

theorem contains_self (s : String) : contains s s = true := decide_eq_true (List.infix_refl _)

theorem Transparent.cluster_eq
    (transparent : Transparent orders store listeners prof modelID aliasName)
    (owns : OwnAlias store prof modelID aliasName) :
    firstCluster (store.enginesForModel orders aliasName) =
      firstCluster (store.enginesForModel orders modelID) := by
  have other : ConditionFieldClusterID ≠ ConditionFieldModelID := by decide
  have reads (text : String) :
      contains (firstCluster (store.enginesForModel orders aliasName)) text =
        contains (firstCluster (store.enginesForModel orders modelID)) text :=
    transparent.conditionHolds_eq owns none
      ⟨ConditionFieldClusterID, ConditionOpContains, .string text⟩ other
  refine eq_of_contains ?_ ?_
  · rw [reads]
    exact contains_self _
  · rw [← reads]
    exact contains_self _

theorem Transparent.fresh_eq
    (transparent : Transparent orders store listeners prof modelID aliasName)
    (owns : OwnAlias store prof modelID aliasName) :
    streamFreshForEngines listeners (store.enginesForModel orders aliasName) =
      streamFreshForEngines listeners (store.enginesForModel orders modelID) := by
  have same := transparent.conditionHolds_eq owns none
    ⟨ConditionFieldKVEventState, ConditionOpEq, .string KVEventStateAvailable⟩ (by decide)
  dsimp only at same
  rw [conditionHolds_fresh, conditionHolds_fresh] at same
  exact same

/-- A tokenizer that answers some token makes a request tokenized where there is one. -/
theorem tokenized_probeEnv {s : RouteState} {rr : RouteRequest} {engines : List Engine} :
    (admissionInput (probeEnv orders instances (some ⟨[0], 1⟩)) s rr (some prof)
        engines).tokenized = true ↔
      profileTokenizerEndpoint prof engines ≠ "" := by
  show (requestTokens (probeEnv orders instances (some ⟨[0], 1⟩)) prof engines rr).isSome = true ↔ _
  by_cases present : profileTokenizerEndpoint prof engines ≠ ""
  · rw [requestTokens_probeEnv present]
    exact iff_of_true rfl present
  · refine iff_of_false ?_ present
    unfold requestTokens
    rw [if_pos (not_not.mp present)]
    nofun

theorem Transparent.tokenizer_iff
    (transparent : Transparent orders store listeners prof modelID aliasName)
    (owns : OwnAlias store prof modelID aliasName) :
    profileTokenizerEndpoint prof (store.enginesForModel orders aliasName) = "" ↔
      profileTokenizerEndpoint prof (store.enginesForModel orders modelID) = "" := by
  have same := transparent.conditionHolds_eq owns (some ⟨[0], 1⟩)
    ⟨ConditionFieldTokenized, ConditionOpEq, .bool true⟩ (by decide)
  dsimp only at same
  rw [conditionHolds_tokenized, conditionHolds_tokenized, Bool.eq_iff_iff] at same
  exact not_iff_not.mp (tokenized_probeEnv.symm.trans (same.trans tokenized_probeEnv))

/-! The index on which an instance is the one that holds the prompt. -/

/-- One block of tokens. -/
def blockTokens (prof : ModelProfile) : List Int32 :=
  List.replicate (blockSizeOrDefault prof).toInt.toNat 0

/-- The keys the route asks for. -/
def blockKeys (prof : ModelProfile) : List RequestKey :=
  routeKeys prof (blockTokens prof)

/-- One instance holds the block. -/
def heldBy (prof : ModelProfile) (id : String) : Index :=
  newIndex.storeEvent id 0 tierGPU [] (blockKeys prof) 1

theorem blockSizeOrDefault_pos (prof : ModelProfile) : 0 < (blockSizeOrDefault prof).toInt := by
  unfold blockSizeOrDefault
  split
  · decide
  · rename_i set
    exact Int64.lt_iff_toInt_lt.mp (Int64.not_le.mp set)

theorem length_blockKeys (prof : ModelProfile) : (blockKeys prof).length = 1 := by
  have positive := blockSizeOrDefault_pos prof
  unfold blockKeys routeKeys blockTokens
  rw [length_requestKeysFromTokens positive, List.length_replicate]
  exact Nat.div_self (by omega)

theorem engineHolds_heldBy {prof : ModelProfile} {id e : String} {rk : RequestKey} :
    (heldBy prof id).EngineHolds e rk ↔ e = id ∧ rk ∈ blockKeys prof := by
  have nothing (r : Resident) : ¬ newIndex.Holds r rk := by
    rw [Index.holds_iff]
    rintro ⟨ts, found⟩
    cases found
  unfold heldBy Index.EngineHolds
  simp only [Index.holds_storeEvent, nothing, or_false]
  constructor
  · rintro ⟨r, ⟨rfl, member⟩, rfl⟩
    exact ⟨rfl, member⟩
  · rintro ⟨rfl, member⟩
    exact ⟨_, ⟨rfl, member⟩, rfl⟩

/-- It is the one the range chooses. -/
theorem leadingInstance_heldBy (order : InstanceOrder) (prof : ModelProfile) (id : String) :
    ∃ inst, leadingInstance order
      ((heldBy prof id).query (blockKeys prof) (blockSizeOrDefault prof)).instances =
        some ⟨id, inst⟩ := by
  set instances :=
    ((heldBy prof id).query (blockKeys prof) (blockSizeOrDefault prof)).instances with
    instancesDef
  have nonempty : blockKeys prof ≠ [] := by
    intro empty
    have one := length_blockKeys prof
    rw [empty] at one
    cases one
  obtain ⟨hit, found, -, gpu⟩ := (heldBy prof id).lookup_query_of_held id
    (blockSizeOrDefault prof) nonempty fun rk member =>
      engineHolds_heldBy.mpr ⟨rfl, member⟩
  have present (e : String) : e ∈ instances ↔ e = id := by
    rw [instancesDef, (heldBy prof id).mem_query nonempty, engineHolds_heldBy]
    exact and_iff_left (List.head_mem nonempty)
  have onGPU : hit.gpu = blockSizeOrDefault prof := by
    have all := gpu fun rk member =>
      ⟨⟨id, 0, tierGPU⟩, Index.holds_storeEvent.mpr (Or.inl ⟨rfl, member⟩), rfl, rfl⟩
    rw [all, length_blockKeys, one_nsmul]
  have counts : bestEffStart < effectiveTokens hit := by
    refine bestEffStart_lt ?_
    rw [onGPU]
    exact Int64.le_iff_toInt_le.mpr (blockSizeOrDefault_pos prof).le
  have top : TopInstance instances id := by
    refine ⟨hit, found, counts, fun id' inst' found' => ?_⟩
    obtain rfl := (present id').mp (Finmap.mem_of_lookup_eq_some found')
    obtain rfl := Option.some.inj (found.symm.trans found')
    exact Float64.lt_irrefl _
  cases leading : leadingInstance order instances with
  | none => exact absurd top (leadingInstance_eq_none leading id)
  | some inst =>
      obtain ⟨id', inst'⟩ := inst
      obtain ⟨there, -⟩ := leadingInstance_top leading
      obtain rfl := (present id').mp (Finmap.mem_of_lookup_eq_some there)
      exact ⟨inst', rfl⟩

/-- A hit on that index names the instance, where there is a tokenizer. -/
theorem hitInstance_heldBy {s : RouteState} {rr : RouteRequest} {engines : List Engine}
    {id : String} (index : s.index = Finmap.singleton prof.namespace (heldBy prof id))
    (present : profileTokenizerEndpoint prof engines ≠ "") :
    hitInstance instances (admissionInput
      (probeEnv orders instances (some ⟨blockTokens prof, 1⟩)) s rr (some prof) engines) = id := by
  have some_token : blockTokens prof ≠ [] := by
    have positive := blockSizeOrDefault_pos prof
    refine List.ne_nil_of_length_pos ?_
    rw [blockTokens, List.length_replicate]
    omega
  have tokens : requestTokens (probeEnv orders instances (some ⟨blockTokens prof, 1⟩)) prof
      engines rr = some ⟨blockTokens prof, 1⟩ := by
    rw [requestTokens_probeEnv present]
    exact Option.filter_eq_some_iff.mpr ⟨rfl, decide_eq_true some_token⟩
  have held : s.index.index prof.namespace = heldBy prof id := by
    unfold Manager.index
    rw [index, Finmap.lookup_singleton_eq]
    rfl
  obtain ⟨inst, leading⟩ := leadingInstance_heldBy instances prof id
  unfold hitInstance admissionInput
  dsimp only
  rw [tokens]
  unfold queryTokens
  dsimp only [Option.map_some, Option.bind_some]
  rw [held]
  exact congrArg (fun leading => (leading.map Sigma.fst).getD "") leading

/-- Without rules, both names lead to the target of the instance their hit names. -/
theorem Transparent.target_eq
    (transparent : Transparent orders store listeners prof modelID aliasName)
    (owns : OwnAlias store prof modelID aliasName) (answer : Option TokenizeResult)
    (index : Manager) :
    let s : RouteState := ⟨{ store with policies := ∅ }, index, listeners⟩
    let named (name : String) := hitInstance default (admissionInput
      (probeEnv orders default answer) s { model := name } (some prof)
      (store.enginesForModel orders name))
    pickTarget (named aliasName) (store.enginesForModel orders aliasName) =
      pickTarget (named modelID) (store.enginesForModel orders modelID) := by
  intro s named
  set env := probeEnv orders default answer with envDef
  have blind : ReadsNoModel s.store.policies := by
    intro id rule found
    cases found
  have seen := transparent env s.store.policies index { model := "" } rfl blind fun _ _ => by
    rw [envDef, tokenize_probeEnv, tokenize_probeEnv]
  have targets := congrArg (fun shown => shown.2.2.2.2) seen
  have target (name : String) (resolves : routeProfile env s { model := name } = some prof) :
      (s.evaluate env { model := name }).target =
        pickTarget (named name) (store.enginesForModel orders name) := by
    have asked : routeInput env s { model := name } =
        admissionInput env s { model := name } (some prof) (store.enginesForModel orders name) := by
      unfold routeInput
      rw [resolves]
      rfl
    have rules : (routeInput env s { model := name }).rules = [] := by
      rw [rules_routeInput]
      exact FullStore.listPolicies_empty orders rfl
    have accepted : (s.evaluate env { model := name }).decision = .accept := by
      show (judge .plain (routeInput env s { model := name }).toRequest
        (routeInput env s { model := name }).rules _).decision = .accept
      rw [rules]
      exact decision_noRules _ _ _
    rw [target_evaluate env s _ accepted, instanceID_evaluate, asked]
    rfl
  obtain ⟨byAlias, byID⟩ := owns.resolves (orders.profiles store.profiles)
  rw [← target aliasName byAlias, ← target modelID byID]
  exact targets

theorem Transparent.targets_eq
    (transparent : Transparent orders store listeners prof modelID aliasName)
    (owns : OwnAlias store prof modelID aliasName) (id : String)
    (named : id = "" ∨ profileTokenizerEndpoint prof (store.enginesForModel orders modelID) ≠ "") :
    pickTarget id (store.enginesForModel orders aliasName) =
      pickTarget id (store.enginesForModel orders modelID) := by
  rcases named with rfl | present
  · have same := transparent.target_eq owns none ∅
    have silent (engines : List Engine) (rr : RouteRequest) :
        requestTokens (probeEnv orders default none) prof engines rr = none := by
      by_cases missing : profileTokenizerEndpoint prof engines = ""
      · unfold requestTokens
        rw [if_pos missing]
      · rw [requestTokens_probeEnv missing]
        rfl
    dsimp only at same
    rwa [hitInstance_of_noTokens default (silent _ _),
      hitInstance_of_noTokens default (silent _ _)] at same
  · have present' : profileTokenizerEndpoint prof (store.enginesForModel orders aliasName) ≠ "" :=
      mt (transparent.tokenizer_iff owns).mp present
    have same := transparent.target_eq owns (some ⟨blockTokens prof, 1⟩)
      (Finmap.singleton prof.namespace (heldBy prof id))
    dsimp only at same
    rwa [hitInstance_heldBy rfl present', hitInstance_heldBy rfl present] at same

/-- An alias stands for its model under all rules that do not read the name exactly when the
engines that serve the one and the other by name look alike to the route. -/
theorem transparent_iff (orders : MapOrders) (store : FullStore)
    (listeners : GoMap String Listener) {prof : ModelProfile} {modelID aliasName : String}
    (owns : OwnAlias store prof modelID aliasName) :
    Transparent orders store listeners prof modelID aliasName ↔
      LookAlike listeners prof (store.enginesForModel orders aliasName)
        (store.enginesForModel orders modelID) := by
  constructor
  · intro transparent
    exact ⟨transparent.cluster_eq owns, transparent.fresh_eq owns, transparent.tokenizer_iff owns,
      transparent.targets_eq owns⟩
  · exact transparent_of_alike owns

end Probes

/-! An engine that serves the model by its id. -/

def aliasedProfile : ModelProfile :=
  { modelID := "m", aliases := ["a"], version := 1, hashProfile := "text" }

def idEngine : Engine := { engineID := "e", servedModels := ["m"], enabled := true }

def aliasedStore : FullStore where
  profiles := Finmap.singleton "m" aliasedProfile
  engines := Finmap.singleton "e" idEngine

theorem ownAlias_aliasedStore : OwnAlias aliasedStore aliasedProfile "m" "a" where
  stored := rfl
  listed := by decide
  own id q found _ := by
    have entry := Finmap.lookup_eq_some_iff.mp found
    exact (Sigma.mk.inj_iff.mp (Multiset.mem_singleton.mp entry)).1

theorem transparent_iff_aliasedStore :
    Transparent default aliasedStore ∅ aliasedProfile "m" "a" ↔
      LookAlike ∅ aliasedProfile (aliasedStore.enginesForModel default "a")
        (aliasedStore.enginesForModel default "m") :=
  transparent_iff default aliasedStore ∅ ownAlias_aliasedStore

/-- The alias leads to no engine. -/
theorem not_transparent :
    ¬ ∀ (orders : MapOrders) (store : FullStore) (listeners : GoMap String Listener)
      (prof : ModelProfile) (modelID aliasName : String),
      OwnAlias store prof modelID aliasName → store.enginesForModel orders modelID ≠ [] →
        Transparent orders store listeners prof modelID aliasName := by
  intro always
  have one : aliasedStore.engines = Finmap.singleton "e" idEngine := rfl
  have byID : aliasedStore.enginesForModel default "m" = [idEngine] := by
    rw [FullStore.enginesForModel_singleton default one]
    rfl
  have byAlias : aliasedStore.enginesForModel default "a" = [] := by
    rw [FullStore.enginesForModel_singleton default one]
    rfl
  have served : aliasedStore.enginesForModel default "m" ≠ [] := byID ▸ List.cons_ne_nil _ _
  have transparent := always default aliasedStore ∅ aliasedProfile "m" "a" ownAlias_aliasedStore
    served
  have same := transparent.targets_eq ownAlias_aliasedStore "" (Or.inl rfl)
  rw [byID, byAlias] at same
  cases same

end KvIndexer.HttpApi
