import KvIndexer.Admission.Evaluate
import KvIndexer.Admission.Uncertainty
import KvIndexer.Config.Tables
import KvIndexer.HttpApi.Service

/-!
The admission endpoint (`internal/httpapi/route.go`).

`evaluate` resolves the model, tokenizes the request through the engine, queries the
index of the profile's namespace and judges. The query answers for every engine that
ever published under the namespace; the target is picked from the engines eligible now.
-/

namespace KvIndexer.HttpApi

open Residency KvEvents Config Admission

/-- A chat message. Content is text or a list of parts; what only the tokenizer reads is
left out. -/
structure ChatMessage where
  role : String
  content : Value := .nil

/-- The normalized form of a request. -/
structure RouteRequest where
  protocol : String := ""
  tenantID : String := ""
  model : String
  messages : List ChatMessage := []

/-- A content part other than text. -/
def isMultimodalPart : Value → Bool
  | .map entries =>
      match entries.lookup "type" with
      | some (.string t) => t ∉ ["", "text", "input_text", "output_text"]
      | _ => false
  | _ => false

def isMultimodalContent : Value → Bool
  | .list parts => parts.any isMultimodalPart
  | _ => false

def RouteRequest.hasMultimodalContent (rr : RouteRequest) : Bool :=
  rr.messages.any fun m => isMultimodalContent m.content

structure TokenizeResult where
  tokens : List Int32
  count : Int64

/-- The engines' tokenizers (endpoint, model id, messages; none on an error), the platform,
and the orders of the ranges. -/
structure RouteEnv where
  platform : Platform
  orders : MapOrders
  instances : InstanceOrder
  tokenizeChat : String → String → List ChatMessage → Option TokenizeResult
  tokenizeChatSGLang : String → String → List ChatMessage → Option TokenizeResult

/-- The shared state a request reads. -/
structure RouteState where
  store : FullStore := {}
  index : Manager := ∅
  listeners : GoMap String Listener := ∅

/-! ### The response -/

structure Target where
  clusterID : String := ""
  engineID : String
  endpoint : String := ""
  dpRank : Int64 := 0
deriving DecidableEq

structure ConfigInfo where
  modelProfileVersion : Int64 := 0
  ns : String := ""
  evaluatedRuleIDs : List String := []
  matchedRuleID : String := ""
  matchedRuleName : String := ""
  matchedRulePriority : Int64 := 0
  configVersion : Int64 := 0
deriving DecidableEq

structure RejectError where
  type : Reason
  inputTokens : Int64
  bestHitTokens : Int64
  hitRatio : Float
  minRequiredHitRatio : Float
deriving DecidableEq

structure RouteResponse where
  decision : Decision
  reason : Reason
  httpStatus : Int64
  target : Option Target
  config : ConfigInfo
  cache : HitInfo
  fallback : Bool
  protocol : String
  error : Option RejectError
deriving DecidableEq

/-- The target an engine stands for. -/
def Target.ofEngine (e : Engine) : Target :=
  { clusterID := e.clusterID, engineID := e.engineID, endpoint := e.apiEndpoint }

/-- The engine matching the instance, or the first eligible one. -/
def pickTarget (instanceID : String) (engines : List Engine) : Option Target :=
  match engines with
  | [] => none
  | first :: _ =>
      some (Target.ofEngine ((engines.find? fun e => e.engineID = instanceID).getD first))

/-- The response to a judgment. The record for the decisions page is left out. -/
def finish (rr : RouteRequest) (config : ConfigInfo) (ar : Result) (engines : List Engine) :
    RouteResponse where
  decision := ar.decision
  reason := ar.reason
  httpStatus := ar.httpStatus
  cache := ar.hit
  fallback := ar.fallback
  protocol := rr.protocol
  config :=
    { config with
      evaluatedRuleIDs := ar.evaluatedRuleIDs
      matchedRuleID := ar.matchedRuleID
      matchedRuleName := ar.matchedRuleName
      matchedRulePriority := ar.matchedRulePriority }
  error :=
    if ar.decision = .reject then
      some
        { type := ar.reason
          inputTokens := ar.hit.inputTokens
          bestHitTokens := ar.hit.bestHitTokens
          hitRatio := ar.hit.hitRatio
          minRequiredHitRatio := ar.minRequiredHitRatio }
    else none
  target := if ar.decision = .reject then none else pickTarget ar.hit.instanceID engines

/-! ### The pipeline -/

/-- The tokenizer endpoint of the profile or of the first eligible engine with one. -/
def profileTokenizerEndpoint (prof : ModelProfile) (engines : List Engine) : String :=
  if prof.tokenizerEndpoint ≠ "" then prof.tokenizerEndpoint
  else
    match engines.find? fun e => e.tokenizerEndpoint ≠ "" with
    | some e => e.tokenizerEndpoint
    | none => ""

def tokenize (env : RouteEnv) (prof : ModelProfile) (endpoint : String) (rr : RouteRequest) :
    Option TokenizeResult :=
  if prof.framework = FrameworkSGLang then
    env.tokenizeChatSGLang endpoint prof.modelID rr.messages
  else env.tokenizeChat endpoint prof.modelID rr.messages

/-- The trusted tokens of a request: a tokenizer answered with some. -/
def requestTokens (env : RouteEnv) (prof : ModelProfile) (engines : List Engine)
    (rr : RouteRequest) : Option TokenizeResult :=
  let tokEndpoint := profileTokenizerEndpoint prof engines
  if tokEndpoint = "" then none
  else (tokenize env prof tokEndpoint rr).filter fun res => res.tokens ≠ []

/-- The block size of a profile, 16 unless it is positive. -/
def blockSizeOrDefault (prof : ModelProfile) : Int64 :=
  if prof.blockSize ≤ 0 then 16 else prof.blockSize

/-- The chain seed of a profile. -/
def profileSeed (prof : ModelProfile) : UInt64 :=
  seedNamespace (prof.hashSeed ++ "|" ++ prof.namespace)

/-- The keys admission looks up. -/
def routeKeys (prof : ModelProfile) (tokens : List Int32) : List RequestKey :=
  requestKeysFromTokens (profileSeed prof) tokens (blockSizeOrDefault prof).toInt

/-- The query for the tokens in the index of the profile's namespace. -/
def queryTokens (s : RouteState) (prof : ModelProfile) (tokens : List Int32) : QueryResult :=
  (s.index.index prof.namespace).query (routeKeys prof tokens) (blockSizeOrDefault prof)

/-- What admission is asked, given the profile (none if none is configured) and the eligible
engines. -/
def admissionInput (env : RouteEnv) (s : RouteState) (rr : RouteRequest)
    (prof : Option ModelProfile) (engines : List Engine) : Input :=
  let base : Input :=
    { clusterID := (engines.head?.map Engine.clusterID).getD ""
      modelID := rr.model
      tenantID := if rr.tenantID = "" then "default" else rr.tenantID
      rules := s.store.listPolicies env.orders
      hasCandidates := engines.length > 0 }
  match prof with
  | none => { base with hashSupported := true }
  | some prof =>
      let tokens := requestTokens env prof engines rr
      { base with
        inputTokens := (tokens.map TokenizeResult.count).getD 0
        query := tokens.map fun res => queryTokens s prof res.tokens
        fresh := streamFreshForEngines s.listeners engines
        tokenized := tokens.isSome
        hashSupported := prof.supportsMultimodal || !rr.hasMultimodalContent }

/-- The profile of the requested model. -/
def routeProfile (env : RouteEnv) (s : RouteState) (rr : RouteRequest) : Option ModelProfile :=
  s.store.resolveProfile (env.orders.profiles s.store.profiles) rr.model

/-- The engines that can serve the requested model now. -/
def routeEngines (env : RouteEnv) (s : RouteState) (rr : RouteRequest) : List Engine :=
  s.store.enginesForModel env.orders rr.model

/-- The full pipeline. -/
def RouteState.evaluate (env : RouteEnv) (s : RouteState) (rr : RouteRequest) : RouteResponse :=
  let prof := routeProfile env s rr
  let engines := routeEngines env s rr
  let config : ConfigInfo :=
    { configVersion := s.store.version
      modelProfileVersion := (prof.map ModelProfile.version).getD 0
      ns := (prof.map ModelProfile.namespace).getD "" }
  finish rr config
    (Admission.evaluate env.platform env.instances (admissionInput env s rr prof engines)) engines

/-! ### The hit and the target -/

/-- The instance the hit of an input names, "" when no instance is chosen. -/
def hitInstance (order : InstanceOrder) (input : Input) : String :=
  ((input.query.bind fun query => leadingInstance order query.instances).map Sigma.fst).getD ""

theorem instanceID_bestHit_eq (platform : Platform) (order : InstanceOrder) {input : Input}
    (live : input.hitOverride = none) :
    (bestHit platform order input).instanceID = hitInstance order input := by
  unfold hitInstance
  cases asked : input.query with
  | none =>
      unfold bestHit
      rw [live, asked]
      rfl
  | some query =>
      rw [instanceID_bestHit platform live asked]
      rfl

section Asked

variable (env : RouteEnv) (s : RouteState) (rr : RouteRequest)

/-- What admission is asked about a request. -/
def routeInput : Input := admissionInput env s rr (routeProfile env s rr) (routeEngines env s rr)

theorem rules_routeInput : (routeInput env s rr).rules = s.store.listPolicies env.orders := by
  unfold routeInput admissionInput
  cases routeProfile env s rr with
  | none => rfl
  | some prof => rfl

theorem hitOverride_routeInput : (routeInput env s rr).hitOverride = none := by
  unfold routeInput admissionInput
  cases routeProfile env s rr with
  | none => rfl
  | some prof => rfl

theorem cache_evaluate :
    (s.evaluate env rr).cache = bestHit env.platform env.instances (routeInput env s rr) :=
  hit_judge _ _ _ _

theorem instanceID_evaluate :
    (s.evaluate env rr).cache.instanceID = hitInstance env.instances (routeInput env s rr) := by
  rw [cache_evaluate, instanceID_bestHit_eq _ _ (hitOverride_routeInput env s rr)]

/-- An accepted request gets the target of its hit. -/
theorem target_evaluate (accepted : (s.evaluate env rr).decision = .accept) :
    (s.evaluate env rr).target =
      pickTarget (s.evaluate env rr).cache.instanceID (routeEngines env s rr) := by
  have unrejected : ¬ (s.evaluate env rr).decision = .reject := by
    rw [accepted]
    decide
  exact if_neg unrejected

end Asked

/-! A tokenizer that makes one token of everything, and a rule that asks for half a hit. -/

def oneTokenEnv (orders : MapOrders) (instances : InstanceOrder) : RouteEnv where
  platform := .plain
  orders := orders
  instances := instances
  tokenizeChat _ _ _ := some ⟨[7], 1⟩
  tokenizeChatSGLang _ _ _ := none

def warmRule : Policy :=
  { ruleID := "warm", action := { type := ActionRequireCacheHit, minHitRatio := some 0.5 } }

end KvIndexer.HttpApi
