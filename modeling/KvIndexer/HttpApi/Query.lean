import KvIndexer.Config.Namespaces
import KvIndexer.HttpApi.Route

/-!
The prefix query and the two previews (`internal/httpapi/query.go`), and the request keys of a
prompt wherever they are derived.

Seed and namespace come from the profile in the same way everywhere. The block size does not:
admission and the tokenize preview take 16 where the profile's is not positive, while the prefix
query and ingest take the profile's as it is and then cut no block at all. And a profile with a
local tokenizer has no keys in the prefix query and the preview, which refuse it.
`oneDerivation_iff` says for which profiles and prompts none of this makes a difference.
-/

namespace KvIndexer.HttpApi

open Residency KvEvents Config Admission

/-- What `writeErr` answers. -/
structure ApiError where
  status : Int64
  message : String
deriving DecidableEq

/-- The tokenizer and the adapters as the query handlers use them, with the texts of their
errors. -/
structure QueryEnv extends RouteEnv where
  /-- endpoint, model id, prompt -/
  tokenizeCompletion : String → String → String → Except String TokenizeResult
  /-- the error of a chat tokenizer that answers none -/
  tokenizeError : String → String → List ChatMessage → String
  /-- framework, protocol, body -/
  normalizeByProtocol : String → String → List UInt8 → Except String RouteRequest

/-- Queries take their seed from the seed key of the profile. -/
theorem profileSeed_eq (prof : ModelProfile) : profileSeed prof = seedNamespace prof.seedKey := rfl

/-- So does ingest, and its index from the namespace. -/
theorem resolveIngest_eq (s : Service) (order : RangeOrder) (model engineID : String) :
    resolveIngest s order model engineID =
      (s.store.resolveProfile (order s.store.profiles) model).map fun prof =>
        ⟨prof.namespace, seedNamespace prof.seedKey, prof.blockSize.toInt⟩ := rfl

/-! ### `/query-prefix` -/

structure QueryPrefixRequest where
  model : String
  tokenIDs : List Int32 := []
  prompt : String := ""
  blockSize : Int64 := 0

structure QueryPrefixResponse where
  modelName : String
  blockSize : Int64
  ns : String
  hashProfile : String
  fresh : Bool
  instances : GoMap String InstanceHit

/-- The block size a query asks for, or the profile's when it asks for none. -/
def queryPrefixBlockSize (prof : ModelProfile) (req : QueryPrefixRequest) : Int64 :=
  if req.blockSize ≤ 0 then prof.blockSize else req.blockSize

/-- What a prefix query looks up. -/
structure PrefixLookup where
  prof : ModelProfile
  blockSize : Int64
  requestKeys : List RequestKey

section Handlers

variable (env : QueryEnv) (s : RouteState)

/-- The tokens a query names, or those of its prompt. -/
def queryPrefixTokens (prof : ModelProfile) (req : QueryPrefixRequest) :
    Except ApiError (List Int32) :=
  if req.tokenIDs = [] ∧ req.prompt ≠ "" then
    let ep := profileTokenizerEndpoint prof (s.store.enginesForModel env.orders req.model)
    if ep = "" then .error ⟨400, "no tokenizer endpoint and no token_ids provided"⟩
    else
      match env.tokenizeCompletion ep prof.modelID req.prompt with
      | .error err => .error ⟨502, "tokenize: " ++ err⟩
      | .ok res => .ok res.tokens
  else .ok req.tokenIDs

/-- The handler up to the request keys, or its error. -/
def queryPrefixLookup (req : QueryPrefixRequest) : Except ApiError PrefixLookup :=
  match s.store.resolveProfile (env.orders.profiles s.store.profiles) req.model with
  | none => .error ⟨404, "no model profile for " ++ req.model⟩
  | some prof =>
      if prof.tokenizerMode = TokenizerModeLocal then
        .error ⟨400, "tokenizer_mode=local is handled by gateway and does not query " ++
          "KV-cache prefix residency"⟩
      else
        match queryPrefixTokens env s prof req with
        | .error err => .error err
        | .ok tokens =>
            let blockSize := queryPrefixBlockSize prof req
            .ok ⟨prof, blockSize,
              requestKeysFromTokens (profileSeed prof) tokens blockSize.toInt⟩

/-- The body is what the decoder makes of it, or the decoder's error. -/
def handleQueryPrefix (body : Except String QueryPrefixRequest) :
    Except ApiError QueryPrefixResponse :=
  match body with
  | .error err => .error ⟨400, err⟩
  | .ok req =>
      match queryPrefixLookup env s req with
      | .error err => .error err
      | .ok ⟨prof, blockSize, requestKeys⟩ =>
          let ix := s.index.index prof.namespace
          let engines := s.store.enginesForModel env.orders req.model
          .ok
            { modelName := prof.modelID
              blockSize
              ns := prof.namespace
              hashProfile := prof.hashProfile
              fresh := streamFreshForEngines s.listeners engines
              instances := (ix.query requestKeys blockSize).instances }

/-! ### `/tokenize/preview` -/

structure TokenizePreviewRequest where
  model : String
  protocol : String := ""
  raw : List UInt8 := []

structure TokenizePreviewResponse where
  model : String
  ns : String
  blockSize : Int64
  count : Int64
  tokens : List Int32
  requestKeys : List RequestKey

def handleTokenizePreview (body : Except String TokenizePreviewRequest) :
    Except ApiError TokenizePreviewResponse :=
  match body with
  | .error err => .error ⟨400, err⟩
  | .ok req =>
      match s.store.resolveProfile (env.orders.profiles s.store.profiles) req.model with
      | none => .error ⟨404, "no model profile for " ++ req.model⟩
      | some prof =>
          let ep := profileTokenizerEndpoint prof (s.store.enginesForModel env.orders req.model)
          if prof.tokenizerMode = TokenizerModeLocal then
            .error ⟨400, "tokenizer_mode=local preview is handled by gateway"⟩
          else if ep = "" then .error ⟨400, "no tokenizer endpoint configured"⟩
          else
            match env.normalizeByProtocol prof.framework req.protocol req.raw with
            | .error err => .error ⟨400, err⟩
            | .ok rr =>
                match tokenize env.toRouteEnv prof ep rr with
                | none =>
                    .error ⟨502, "tokenize: " ++ env.tokenizeError ep prof.modelID rr.messages⟩
                | some res =>
                    let blockSize := blockSizeOrDefault prof
                    .ok
                      { model := prof.modelID
                        ns := prof.namespace
                        blockSize
                        count := res.count
                        tokens := res.tokens
                        requestKeys :=
                          requestKeysFromTokens (profileSeed prof) res.tokens blockSize.toInt }

/-! ### `/config/effective-policy/preview` -/

/-- What a policy preview says of a request. What it leaves out reads as a healthy signal and
an empty cache. -/
structure EffectivePolicyPreviewRequest where
  clusterID : String := ""
  modelID : String := ""
  tenantID : String := ""
  inputTokens : Int64 := 0
  hitRatio : Option Float := none
  fresh : Option Bool := none
  tokenized : Option Bool := none
  hashSupported : Option Bool := none
  hasCandidates : Option Bool := none

structure EffectivePolicyPreviewResponse where
  rules : List Policy
  result : Result

/-- The ratio, cut to the range from 0 to 1. -/
def clampRatio (ratio : Float) : Float :=
  let ratio := if ratio < 0 then 0 else ratio
  if ratio > 1 then 1 else ratio

/-- What admission is asked for a preview. -/
def previewInput (platform : Platform) (req : EffectivePolicyPreviewRequest)
    (rules : List Policy) : Input where
  clusterID := req.clusterID
  modelID := req.modelID
  tenantID := req.tenantID
  inputTokens := req.inputTokens
  rules := rules
  hitOverride := req.hitRatio.map fun hitRatio =>
    let ratio := clampRatio hitRatio
    let eff := platform.int (float64 req.inputTokens * ratio)
    { inputTokens := req.inputTokens
      bestHitTokens := eff
      hitRatio := ratio
      effectiveCachedTokens := eff }
  fresh := req.fresh.getD true
  tokenized := req.tokenized.getD true
  hashSupported := req.hashSupported.getD true
  hasCandidates := req.hasCandidates.getD true

def handleEffectivePolicyPreview (body : Except String EffectivePolicyPreviewRequest) :
    Except ApiError EffectivePolicyPreviewResponse :=
  match body with
  | .error err => .error ⟨400, err⟩
  | .ok req =>
      let rules := s.store.listPolicies env.orders
      .ok ⟨rules,
        Admission.evaluate env.platform env.instances (previewInput env.platform req rules)⟩

end Handlers

/-! ### What the handlers ask -/

section Asked

variable {env : QueryEnv} {s : RouteState} {prof : ModelProfile}

/-- Admission judges the answer of the profile's index to the route's keys. -/
theorem query_admissionInput {rr : RouteRequest} {engines : List Engine} {res : TokenizeResult}
    (found : requestTokens env.toRouteEnv prof engines rr = some res) :
    (admissionInput env.toRouteEnv s rr (some prof) engines).query =
      some ((s.index.index prof.namespace).query (routeKeys prof res.tokens)
        (blockSizeOrDefault prof)) := by
  show (requestTokens env.toRouteEnv prof engines rr).map _ = _
  rw [found]
  rfl

/-- A prefix query answers with what the profile's index answers to its keys. -/
theorem instances_handleQueryPrefix {req : QueryPrefixRequest} {lookup : PrefixLookup}
    (found : queryPrefixLookup env s req = .ok lookup) :
    (handleQueryPrefix env s (.ok req)).map QueryPrefixResponse.instances =
      .ok ((s.index.index lookup.prof.namespace).query lookup.requestKeys
        lookup.blockSize).instances := by
  unfold handleQueryPrefix
  simp only [found]
  rfl

end Asked

/-! ### One derivation -/

/-- The keys for the block size of a profile as it is. -/
def rawKeys (prof : ModelProfile) (tokens : List Int32) : List RequestKey :=
  requestKeysFromTokens (profileSeed prof) tokens prof.blockSize.toInt

/-- The service of a state, as ingest reads it. -/
def RouteState.service (s : RouteState) : Service where
  store := s.store.toStore
  index := s.index
  listeners := s.listeners

/-- The tokens of a model with the profile `prof` turn into `keys` wherever they come from:
admission looks these up, the prefix query without a block size looks them up, the preview
shows them, and the ingest of the tokens as a first event stores them. -/
structure Derives (env : QueryEnv) (s : RouteState) (model : String) (prof : ModelProfile)
    (tokens : List Int32) (keys : List RequestKey) : Prop where
  route : routeKeys prof tokens = keys
  admission : ∀ (rr : RouteRequest) (engines : List Engine) (res : TokenizeResult),
    requestTokens env.toRouteEnv prof engines rr = some res → res.tokens = tokens →
      (admissionInput env.toRouteEnv s rr (some prof) engines).query =
        some ((s.index.index prof.namespace).query keys (blockSizeOrDefault prof))
  lookup : ∀ req : QueryPrefixRequest, req.model = model → req.blockSize ≤ 0 →
    queryPrefixTokens env s prof req = .ok tokens →
      (queryPrefixLookup env s req).map PrefixLookup.requestKeys = .ok keys
  queryPrefix : ∀ req : QueryPrefixRequest, req.model = model → req.blockSize ≤ 0 →
    queryPrefixTokens env s prof req = .ok tokens →
      (handleQueryPrefix env s (.ok req)).map QueryPrefixResponse.instances =
        .ok ((s.index.index prof.namespace).query keys prof.blockSize).instances
  preview : ∀ (req : TokenizePreviewRequest) (rr : RouteRequest) (res : TokenizeResult),
    let ep := profileTokenizerEndpoint prof (s.store.enginesForModel env.orders model)
    req.model = model → ep ≠ "" →
      env.normalizeByProtocol prof.framework req.protocol req.raw = .ok rr →
      tokenize env.toRouteEnv prof ep rr = some res → res.tokens = tokens →
        (handleTokenizePreview env s (.ok req)).map TokenizePreviewResponse.requestKeys = .ok keys
  ingest : ∀ (order : RangeOrder) (engineID : String) (res : Resolved),
    s.store.resolveProfile (order s.store.profiles) model = some prof →
      resolveIngest s.service order model engineID = some res →
      ∀ (ix : Index) (ev : Event), ev.hasParent = false → ev.blockSize = 0 →
        ev.tokenIDs = tokens →
          requestKeysForEvent ix engineID res.seed (ev.effectiveBlockSize res) ev = some keys

/-- All paths turn the tokens into the same keys. -/
def OneDerivation (env : QueryEnv) (s : RouteState) (model : String) (prof : ModelProfile)
    (tokens : List Int32) : Prop :=
  ∃ keys, Derives env s model prof tokens keys

section Derived

variable {env : QueryEnv} {s : RouteState} {model : String} {prof : ModelProfile}
  {tokens : List Int32}

/-- The lookup of a prefix query, when the profile and the tokens are found. -/
theorem queryPrefixLookup_eq {req : QueryPrefixRequest}
    (found : s.store.resolveProfile (env.orders.profiles s.store.profiles) req.model = some prof)
    (plain : req.blockSize ≤ 0) (asked : queryPrefixTokens env s prof req = .ok tokens) :
    queryPrefixLookup env s req =
      if prof.tokenizerMode = TokenizerModeLocal then
        .error ⟨400, "tokenizer_mode=local is handled by gateway and does not query " ++
          "KV-cache prefix residency"⟩
      else .ok ⟨prof, prof.blockSize, rawKeys prof tokens⟩ := by
  have size : queryPrefixBlockSize prof req = prof.blockSize := if_pos plain
  unfold queryPrefixLookup
  rw [found]
  dsimp only
  rw [asked]
  dsimp only
  rw [size]
  rfl

/-- The preview of a model whose tokens are not local shows admission's keys. -/
theorem requestKeys_handleTokenizePreview (remote : prof.tokenizerMode ≠ TokenizerModeLocal)
    {req : TokenizePreviewRequest} {rr : RouteRequest} {res : TokenizeResult}
    (found : s.store.resolveProfile (env.orders.profiles s.store.profiles) req.model = some prof)
    (endpoint : profileTokenizerEndpoint prof (s.store.enginesForModel env.orders req.model) ≠ "")
    (normalized : env.normalizeByProtocol prof.framework req.protocol req.raw = .ok rr)
    (tokenized : tokenize env.toRouteEnv prof
      (profileTokenizerEndpoint prof (s.store.enginesForModel env.orders req.model)) rr =
        some res) :
    (handleTokenizePreview env s (.ok req)).map TokenizePreviewResponse.requestKeys =
      .ok (routeKeys prof res.tokens) := by
  unfold handleTokenizePreview
  simp only [found, if_neg remote, if_neg endpoint, normalized, tokenized]
  rfl

/-- A first event without a block size is ingested under the profile's. -/
theorem requestKeysForEvent_eq {order : RangeOrder}
    (found : s.store.resolveProfile (order s.store.profiles) model = some prof)
    {engineID : String} {res : Resolved}
    (resolved : resolveIngest s.service order model engineID = some res) (ix : Index) {ev : Event}
    (first : ev.hasParent = false) (plain : ev.blockSize = 0)
    (carries : ev.tokenIDs = tokens) :
    requestKeysForEvent ix engineID res.seed (ev.effectiveBlockSize res) ev =
      some (rawKeys prof tokens) := by
  unfold resolveIngest at resolved
  rw [show s.service.store = s.store.toStore from rfl, found, Option.map_some] at resolved
  obtain rfl := Option.some.inj resolved
  unfold requestKeysForEvent Event.effectiveBlockSize
  rw [first, if_neg Bool.false_ne_true, plain, if_pos le_rfl, carries]
  rfl

/-- The paths derive the same keys exactly when none refuses and the profile's block size gives
the keys admission looks up. -/
theorem oneDerivation_iff_rawKeys
    (found : s.store.resolveProfile (env.orders.profiles s.store.profiles) model = some prof) :
    OneDerivation env s model prof tokens ↔
      prof.tokenizerMode ≠ TokenizerModeLocal ∧ rawKeys prof tokens = routeKeys prof tokens := by
  constructor
  · rintro ⟨keys, derives⟩
    -- a prefix query with these token ids
    have asked := derives.lookup { model, tokenIDs := tokens } rfl (Int64.le_refl 0)
      (if_neg fun hasPrompt => hasPrompt.2 rfl)
    rw [@queryPrefixLookup_eq env s prof tokens { model, tokenIDs := tokens } found
      (Int64.le_refl 0) (if_neg fun hasPrompt => hasPrompt.2 rfl)] at asked
    split at asked
    · cases asked
    · rename_i remote
      exact ⟨remote, (Except.ok.inj asked).trans derives.route.symm⟩
  · rintro ⟨remote, same⟩
    refine ⟨routeKeys prof tokens, rfl, ?_, ?_, ?_, ?_, ?_⟩
    · rintro rr engines res tokenized rfl
      exact query_admissionInput tokenized
    · rintro req rfl plain asked
      rw [queryPrefixLookup_eq found plain asked, if_neg remote, ← same]
      rfl
    · rintro req rfl plain asked
      have looked : queryPrefixLookup env s req = .ok ⟨prof, prof.blockSize, rawKeys prof tokens⟩ :=
        (queryPrefixLookup_eq found plain asked).trans (if_neg remote)
      rw [instances_handleQueryPrefix looked, same]
    · rintro req rr res ep rfl endpoint normalized tokenized rfl
      exact requestKeys_handleTokenizePreview remote found endpoint normalized tokenized
    · intro order engineID res foundIngest resolved ix ev first plain carries
      rw [requestKeysForEvent_eq foundIngest resolved ix first plain carries, same]

end Derived

theorem rawKeys_eq_nil {prof : ModelProfile} (unset : prof.blockSize ≤ 0) (tokens : List Int32) :
    rawKeys prof tokens = [] := by
  have cut : prof.blockSize.toInt ≤ 0 := Int64.le_iff_toInt_le.mp unset
  unfold rawKeys requestKeysFromTokens chunkTokens
  rw [if_pos cut]
  rfl

/-- The block size of a profile as it is cuts as admission does when it is positive, or when
there is nothing to cut. -/
theorem rawKeys_eq_routeKeys_iff (prof : ModelProfile) (tokens : List Int32) :
    rawKeys prof tokens = routeKeys prof tokens ↔ 0 < prof.blockSize ∨ tokens.length < 16 := by
  by_cases unset : prof.blockSize ≤ 0
  · have default : (blockSizeOrDefault prof).toInt = 16 := by
      unfold blockSizeOrDefault
      rw [if_pos unset]
      rfl
    have blocks : (routeKeys prof tokens).length = tokens.length / 16 := by
      unfold routeKeys
      rw [default]
      exact length_requestKeysFromTokens (by decide) _ _
    rw [rawKeys_eq_nil unset]
    constructor
    · intro same
      rw [← same, List.length_nil] at blocks
      exact Or.inr (by omega)
    · rintro (positive | short)
      · exact absurd positive (Int64.not_lt.mpr unset)
      · refine (List.length_eq_zero_iff.mp ?_).symm
        rw [blocks]
        omega
  · have same : rawKeys prof tokens = routeKeys prof tokens := by
      unfold rawKeys routeKeys blockSizeOrDefault
      rw [if_neg unset]
    exact iff_of_true same (Or.inl (Int64.not_le.mp unset))

/-- All ways to derive the keys of a prompt agree exactly when the model's tokenizer is not
local, and its profile has a block size or the prompt is shorter than the default one. -/
theorem oneDerivation_iff {env : QueryEnv} {s : RouteState} {model : String} {prof : ModelProfile}
    (found : s.store.resolveProfile (env.orders.profiles s.store.profiles) model = some prof)
    (tokens : List Int32) :
    OneDerivation env s model prof tokens ↔
      prof.tokenizerMode ≠ TokenizerModeLocal ∧ (0 < prof.blockSize ∨ tokens.length < 16) := by
  rw [oneDerivation_iff_rawKeys found, rawKeys_eq_routeKeys_iff]

/-! A profile stored without a block size, and a prompt of one default block. -/

def sizelessState : RouteState where
  store := { profiles := Finmap.singleton "m" { modelID := "m", hashProfile := "text" } }

/-- A tokenizer that answers nothing. -/
def silentEnv (orders : MapOrders) (instances : InstanceOrder) : QueryEnv where
  platform := .plain
  orders := orders
  instances := instances
  tokenizeChat _ _ _ := none
  tokenizeChatSGLang _ _ _ := none
  tokenizeCompletion _ _ _ := .error ""
  tokenizeError _ _ _ := ""
  normalizeByProtocol _ _ _ := .error ""

theorem resolveProfile_sizeless (env : QueryEnv) :
    sizelessState.store.resolveProfile (env.orders.profiles sizelessState.store.profiles) "m" =
      some { modelID := "m", hashProfile := "text" } := rfl

theorem oneDerivation_iff_sizeless :
    let prof : ModelProfile := { modelID := "m", hashProfile := "text" }
    OneDerivation (silentEnv default default) sizelessState "m" prof [1, 2, 3] ↔
      prof.tokenizerMode ≠ TokenizerModeLocal ∧
        (0 < prof.blockSize ∨ ([1, 2, 3] : List Int32).length < 16) :=
  oneDerivation_iff (resolveProfile_sizeless (silentEnv default default)) [1, 2, 3]

/-- Admission looks for one key; no event is ingested under it. -/
theorem not_oneDerivation :
    ¬ ∀ (env : QueryEnv) (s : RouteState) (model : String) (prof : ModelProfile)
      (tokens : List Int32),
      s.store.resolveProfile (env.orders.profiles s.store.profiles) model = some prof →
        OneDerivation env s model prof tokens := by
  intro always
  have found := resolveProfile_sizeless (silentEnv default default)
  have one := always (silentEnv default default) sizelessState "m" _ (List.replicate 16 0) found
  have same := ((oneDerivation_iff_rawKeys found).mp one).2
  revert same
  decide +kernel

end KvIndexer.HttpApi
