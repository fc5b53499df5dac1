import KvIndexer.Admission.Readings
import KvIndexer.Config.Durability
import KvIndexer.Gateway.TokenOnly
import KvIndexer.HttpApi.Query

/-!
What the policy previews say of live requests.

Both binaries preview a policy decision from a descriptor of the request
(`internal/httpapi/query.go`, `internal/gateway/gateway.go`), each with the code of the other.
A preview and the live judgment of a request that it describes see the same but for one field:
a live request without a tenant is judged as one of the tenant "default", while the preview
judges it as one of the tenant "". A preview of a real backend is the backend's, with all its
rules; the requests of a model with a local tokenizer are judged by the gateway, with those
that read no cache data and as they come out of a JSON document. `preview_iff` says when
either shows.
-/

namespace KvIndexer.Gateway

open Config Admission HttpApi

/-- `evaluateEffectivePolicyPreview`, for a virtual cluster. -/
def evaluateEffectivePolicyPreview (platform : Platform) (order : InstanceOrder)
    (req : EffectivePolicyPreviewRequest) (rules : List Policy) : Result :=
  Admission.evaluate platform order (previewInput platform req rules)

/-- What a response announces. -/
def announced (resp : RouteResponse) : Decision × Reason × (String × String × Int64) :=
  (resp.decision, resp.reason, resp.config.matchedRuleID, resp.config.matchedRuleName,
    resp.config.matchedRulePriority)

/-- The preview describes the live request that `live` asks admission about: the tenant is as
the request gives it, and the ratio is the one of the hit. -/
structure Describes (platform : Platform) (order : InstanceOrder)
    (req : EffectivePolicyPreviewRequest) (rr : RouteRequest) (live : Input) : Prop where
  clusterID : req.clusterID = live.clusterID
  modelID : req.modelID = live.modelID
  tenantID : req.tenantID = rr.tenantID
  inputTokens : req.inputTokens = live.inputTokens
  hitRatio : clampRatio (req.hitRatio.getD 0) = (bestHit platform order live).hitRatio
  fresh : req.fresh.getD true = live.fresh
  tokenized : req.tokenized.getD true = live.tokenized
  hashSupported : req.hashSupported.getD true = live.hashSupported
  hasCandidates : req.hasCandidates.getD true = live.hasCandidates

/-! ### The two readings of a descriptor -/

/-- The described request, as one of a tenant. -/
def reading (req : EffectivePolicyPreviewRequest) (tenantID : String) : Admission.Request where
  clusterID := req.clusterID
  modelID := req.modelID
  tenantID := tenantID
  inputTokens := req.inputTokens
  fresh := req.fresh.getD true
  tokenized := req.tokenized.getD true
  hashSupported := req.hashSupported.getD true
  hasCandidates := req.hasCandidates.getD true

/-- A hit with the described ratio. -/
def describedHit (req : EffectivePolicyPreviewRequest) : HitInfo where
  hitRatio := clampRatio (req.hitRatio.getD 0)

/-- The rule matches the described request, as one of a tenant. -/
def Shows (platform : Platform) (req : EffectivePolicyPreviewRequest) (tenantID : String)
    (rule : Policy) : Prop :=
  Qualifies platform (reading req tenantID) (describedHit req) rule

/-- The first rule that matches the request of the tenant "" or of the tenant "default"
matches both. -/
def TenantIndifferent (platform : Platform) (req : EffectivePolicyPreviewRequest)
    (rules : List Policy) : Prop :=
  OneFirst rules (Shows platform req "") (Shows platform req "default")

/-- The tenant a live request is judged as. -/
def liveTenant (tenantID : String) : String := if tenantID = "" then "default" else tenantID

/-- The rules of a backend, as the gateway decodes them. -/
def fetchPolicies (rules : List Policy) : List Policy := rules.map Policy.reread

/-- The first rule that matches the preview, or reads no cache data and matches the live
request as it is decoded, does both. -/
def TokenOnlyFirst (platform : Platform) (req : EffectivePolicyPreviewRequest)
    (rules : List Policy) : Prop :=
  OneFirst rules (Shows platform req req.tenantID) fun rule =>
    isTokenOnly rule = true ∧ Shows platform req (liveTenant req.tenantID) rule.reread

/-! ### The rules the gateway judges with -/

/-- How the gateway sees the rules of a backend. -/
def localSight : Sight := ⟨isTokenOnly, Policy.reread, fun _ => rfl⟩

theorem isTokenOnly_reread (p : Policy) : isTokenOnly p.reread = isTokenOnly p := by
  unfold isTokenOnly Policy.reread
  rw [List.all_map]
  rfl

theorem tokenOnlyPolicies_fetchPolicies (rules : List Policy) :
    tokenOnlyPolicies (fetchPolicies rules) = localSight.see rules := by
  have kept : isTokenOnly ∘ Policy.reread = isTokenOnly := funext isTokenOnly_reread
  rw [tokenOnlyPolicies, fetchPolicies, List.filter_map, kept]
  rfl

theorem countsNoTokens_fetchPolicies {rules : List Policy} (blind : CountsNoTokens rules) :
    CountsNoTokens (fetchPolicies rules) := by
  intro rule member cond inRule
  obtain ⟨p, inRules, rfl⟩ := List.mem_map.mp member
  obtain ⟨c, own, rfl⟩ := List.mem_map.mp inRule
  exact blind p inRules c own

section Described

variable {platform : Platform} {order : InstanceOrder} {req : EffectivePolicyPreviewRequest}
  {rr : RouteRequest} {live : Input}

theorem clampRatio_zero : clampRatio 0 = 0 := by decide +kernel

/-- The preview is judged on a hit with the described ratio. -/
theorem hitRatio_previewInput (rules : List Policy) :
    (bestHit platform order (previewInput platform req rules)).hitRatio =
      (describedHit req).hitRatio := by
  unfold bestHit previewInput describedHit
  cases req.hitRatio with
  | none => exact clampRatio_zero.symm
  | some ratio =>
      dsimp only [Option.map_some, Option.getD_some]
      split <;> rfl

/-- A live request is a reading of its descriptor. -/
theorem Describes.toRequest (describes : Describes platform order req rr live) :
    live.toRequest = reading req live.tenantID := by
  obtain ⟨cluster, model, -, tokens, -, fresh, tokenized, supported, candidates⟩ := describes
  unfold reading
  rw [cluster, model, tokens, fresh, tokenized, supported, candidates]

/-- The preview announces what the live judgment does exactly when the first rule that matches
one of them matches both. -/
theorem announced_previewInput_iff {rules : List Policy} (sight : Sight)
    (distinct : (rules.map Policy.ruleID).Nodup) (blind : CountsNoTokens rules)
    (blind' : CountsNoTokens (rules.map sight.rewrite)) (seen : live.rules = sight.see rules)
    (describes : Describes platform order req rr live) :
    (Admission.evaluate platform order (previewInput platform req rules)).announced =
        (Admission.evaluate platform order live).announced ↔
      OneFirst rules (Shows platform req req.tenantID)
        (Matches platform sight (reading req live.tenantID) (describedHit req)) := by
  have asked : (previewInput platform req rules).toRequest = reading req req.tenantID := rfl
  have certain : uncertaintyReason (reading req req.tenantID) =
      uncertaintyReason (reading req live.tenantID) := rfl
  have plain : (previewInput platform req rules).rules = Sight.plain.see rules :=
    (Sight.see_plain rules).symm
  have unchanged : CountsNoTokens (rules.map Sight.plain.rewrite) := by
    rwa [Sight.plain, List.map_id]
  rw [evaluate_eq_judge, evaluate_eq_judge, asked, describes.toRequest, plain, seen]
  refine (announced_judge_iff_of_ratio distinct unchanged blind' certain
    (hitRatio_previewInput rules) describes.hitRatio.symm).trans ?_
  exact OneFirst.congr (fun _ _ => matches_plain_iff) fun _ _ => Iff.rfl

/-- Under the same rules they agree when the tenant is given, or the rules are indifferent to
it. -/
theorem announced_previewInput_iff_tenant (distinct : (live.rules.map Policy.ruleID).Nodup)
    (blind : CountsNoTokens live.rules) (tenant : live.tenantID = liveTenant rr.tenantID)
    (describes : Describes platform order req rr live) :
    (Admission.evaluate platform order (previewInput platform req live.rules)).announced =
        (Admission.evaluate platform order live).announced ↔
      req.tenantID ≠ "" ∨ TenantIndifferent platform req live.rules := by
  have unchanged : CountsNoTokens (live.rules.map Sight.plain.rewrite) := by
    rwa [Sight.plain, List.map_id]
  refine (announced_previewInput_iff .plain distinct blind unchanged
    (Sight.see_plain _).symm describes).trans ?_
  rw [OneFirst.congr (fun _ _ => Iff.rfl) (fun _ _ => matches_plain_iff), tenant,
    ← describes.tenantID, liveTenant]
  by_cases given : req.tenantID = ""
  · rw [if_pos given, given]
    exact (or_iff_right (not_not_intro rfl)).symm
  · rw [if_neg given]
    refine iff_of_true (fun rule first => ?_) (Or.inl given)
    exact ⟨or_self_iff.mp first.matching, or_self_iff.mp first.matching⟩

end Described

/-! ### The live requests -/

theorem announced_evaluate (env : RouteEnv) (s : RouteState) (rr : RouteRequest) :
    announced (s.evaluate env rr) =
      (Admission.evaluate env.platform env.instances (routeInput env s rr)).announced := rfl

theorem tenantID_routeInput (env : RouteEnv) (s : RouteState) (rr : RouteRequest) :
    (routeInput env s rr).tenantID = if rr.tenantID = "" then "default" else rr.tenantID := by
  unfold routeInput admissionInput
  cases routeProfile env s rr with
  | none => rfl
  | some prof => rfl

/-- A preview of the indexer announces what the route announces of a request it describes, and
a preview of a virtual cluster what the gateway's judgment does, exactly when the tenant is
given or the rules are indifferent to it; a preview of a backend announces what the gateway's
judgment of a model with a local tokenizer does exactly when both have one first rule. -/
theorem preview_iff (req : EffectivePolicyPreviewRequest) (rr : RouteRequest) :
    (∀ (env : QueryEnv) (s : RouteState),
      s.store.policies.Keyed Policy.ruleID → CountsNoTokens (s.store.listPolicies env.orders) →
      Describes env.platform env.instances req rr (routeInput env.toRouteEnv s rr) →
        ∃ resp, HttpApi.handleEffectivePolicyPreview env s (.ok req) = .ok resp ∧
          (resp.result.announced = announced (s.evaluate env.toRouteEnv rr) ↔
            req.tenantID ≠ "" ∨
              TenantIndifferent env.platform req (s.store.listPolicies env.orders))) ∧
    (∀ (platform : Platform) (order : InstanceOrder) (prof : ModelProfile)
      (rules : List Policy) (engines : List Engine) (inputTokens configVersion : Int64)
      (fallbackCluster : String),
      (rules.map Policy.ruleID).Nodup → CountsNoTokens rules →
      Describes platform order req rr (localInput rr rules engines inputTokens fallbackCluster) →
        ((evaluateEffectivePolicyPreview platform order req rules).announced =
            announced (evaluateLocal platform order rr prof rules engines inputTokens configVersion
              fallbackCluster) ↔
          req.tenantID ≠ "" ∨ TenantIndifferent platform req rules)) ∧
    ∀ (env : QueryEnv) (s : RouteState) (prof : ModelProfile) (engines : List Engine)
      (inputTokens configVersion : Int64) (fallbackCluster : String),
      s.store.policies.Keyed Policy.ruleID → CountsNoTokens (s.store.listPolicies env.orders) →
      Describes env.platform env.instances req rr
        (localInput rr (tokenOnlyPolicies (fetchPolicies (s.store.listPolicies env.orders)))
          engines inputTokens fallbackCluster) →
        ∃ resp, HttpApi.handleEffectivePolicyPreview env s (.ok req) = .ok resp ∧
          (resp.result.announced =
              announced (evaluateLocal env.platform env.instances rr prof
                (tokenOnlyPolicies (fetchPolicies (s.store.listPolicies env.orders)))
                engines inputTokens configVersion fallbackCluster) ↔
            TokenOnlyFirst env.platform req (s.store.listPolicies env.orders)) := by
  refine ⟨fun env s keyed blind describes => ⟨_, rfl, ?_⟩,
    fun platform order prof rules engines inputTokens configVersion fallbackCluster distinct blind
      describes => ?_,
    fun env s prof engines inputTokens configVersion fallbackCluster keyed blind describes =>
      ⟨_, rfl, ?_⟩⟩
  · have rules := rules_routeInput env.toRouteEnv s rr
    have distinct : ((routeInput env.toRouteEnv s rr).rules.map Policy.ruleID).Nodup := by
      rw [rules]
      exact s.store.distinct_listPolicies env.orders keyed
    have exactly := announced_previewInput_iff_tenant distinct (rules ▸ blind)
      (tenantID_routeInput env.toRouteEnv s rr) describes
    rw [rules] at exactly
    exact exactly
  · have rules' : (localInput rr rules engines inputTokens fallbackCluster).rules = rules := rfl
    exact announced_previewInput_iff_tenant (rules'.symm ▸ distinct) (rules'.symm ▸ blind) rfl
      describes
  · refine (announced_previewInput_iff localSight (s.store.distinct_listPolicies env.orders keyed)
      blind (countsNoTokens_fetchPolicies blind) (tokenOnlyPolicies_fetchPolicies _)
      describes).trans ?_
    refine OneFirst.congr (fun _ _ => Iff.rfl) fun rule _ => ?_
    have tenant : (localInput rr (tokenOnlyPolicies (fetchPolicies
        (s.store.listPolicies env.orders))) engines inputTokens fallbackCluster).tenantID =
        liveTenant req.tenantID := by
      rw [describes.tenantID]
      rfl
    rw [tenant]
    exact ⟨fun matching => ⟨matching.seen, matching.qualifies⟩,
      fun both => ⟨both.1, both.2⟩⟩

/-! A rule for the tenant "default", and a request that names none. -/

def tenantRule : Policy where
  ruleID := "own"
  conditions := [⟨ConditionFieldTenantID, ConditionOpEq, .string "default"⟩]
  action := { type := ActionReject }

noncomputable def tenantEnv : QueryEnv where
  toRouteEnv := oneTokenEnv default default
  tokenizeCompletion _ _ _ := .error ""
  tokenizeError _ _ _ := ""
  normalizeByProtocol _ _ _ := .error ""

def tenantState : RouteState where
  store := { policies := Finmap.singleton "own" tenantRule }

theorem keyed_tenantState : tenantState.store.policies.Keyed Policy.ruleID :=
  GoMap.Keyed.empty.insert rfl

theorem listPolicies_tenantState :
    tenantState.store.listPolicies tenantEnv.orders = [tenantRule] :=
  FullStore.listPolicies_singleton tenantEnv.orders rfl (by decide)

/-- What a request for a model without a profile and without engines leads to. -/
def unservedInput (tenantID : String) : Input where
  modelID := "m"
  tenantID := tenantID
  hashSupported := true
  rules := [tenantRule]

/-- Its description. -/
def unservedRequest (tenantID : String) : EffectivePolicyPreviewRequest where
  modelID := "m"
  tenantID := tenantID
  fresh := some false
  tokenized := some false
  hasCandidates := some false

theorem routeEngines_tenantState (rr : RouteRequest) :
    routeEngines tenantEnv.toRouteEnv tenantState rr = [] :=
  FullStore.enginesForModel_empty tenantEnv.orders rfl rr.model

theorem routeProfile_tenantState (rr : RouteRequest) :
    routeProfile tenantEnv.toRouteEnv tenantState rr = none := by
  unfold routeProfile Store.resolveProfile
  rw [GoMap.entries_empty (tenantEnv.orders.profiles tenantState.store.profiles)]
  rfl

theorem routeInput_tenantState (tenantID : String) :
    routeInput tenantEnv.toRouteEnv tenantState { model := "m", tenantID := tenantID } =
      unservedInput (if tenantID = "" then "default" else tenantID) := by
  unfold routeInput
  rw [routeEngines_tenantState, routeProfile_tenantState]
  unfold admissionInput
  rw [listPolicies_tenantState]
  rfl

theorem describes_tenantState (tenantID : String) :
    Describes tenantEnv.platform tenantEnv.instances (unservedRequest tenantID)
      { model := "m", tenantID := tenantID }
      (routeInput tenantEnv.toRouteEnv tenantState { model := "m", tenantID := tenantID }) := by
  rw [routeInput_tenantState]
  exact ⟨rfl, rfl, rfl, rfl, clampRatio_zero, rfl, rfl, rfl, rfl⟩

theorem countsNoTokens_tenantRule : CountsNoTokens [tenantRule] := by
  intro rule member cond inRule
  obtain rfl := List.mem_singleton.mp member
  obtain rfl := List.mem_singleton.mp inRule
  decide

/-- The description of a request that the gateway tokenized. -/
def tokenizedRequest : EffectivePolicyPreviewRequest where
  modelID := "m"
  tenantID := "t"
  hasCandidates := some false

/-- With a tenant, and rules that read no cache data, the previews announce the live decision. -/
theorem preview_iff_tenant :
    (∃ resp, HttpApi.handleEffectivePolicyPreview tenantEnv tenantState
        (.ok (unservedRequest "t")) = .ok resp ∧
      (resp.result.announced = announced (tenantState.evaluate tenantEnv.toRouteEnv
          { model := "m", tenantID := "t" }) ↔
        "t" ≠ "" ∨ TenantIndifferent tenantEnv.platform (unservedRequest "t")
          (tenantState.store.listPolicies tenantEnv.orders))) ∧
    ((evaluateEffectivePolicyPreview .plain default tokenizedRequest [tenantRule]).announced =
        announced (evaluateLocal .plain default { model := "m", tenantID := "t" }
          { modelID := "m" } [tenantRule] [] 0 0 "") ↔
      "t" ≠ "" ∨ TenantIndifferent .plain tokenizedRequest [tenantRule]) ∧
    ∃ resp, HttpApi.handleEffectivePolicyPreview tenantEnv tenantState
        (.ok tokenizedRequest) = .ok resp ∧
      (resp.result.announced = announced (evaluateLocal .plain default
          { model := "m", tenantID := "t" } { modelID := "m" }
          (tokenOnlyPolicies (fetchPolicies (tenantState.store.listPolicies tenantEnv.orders)))
          [] 0 0 "") ↔
        TokenOnlyFirst .plain tokenizedRequest
          (tenantState.store.listPolicies tenantEnv.orders)) :=
  have blind : CountsNoTokens (tenantState.store.listPolicies tenantEnv.orders) :=
    listPolicies_tenantState ▸ countsNoTokens_tenantRule
  ⟨(preview_iff (unservedRequest "t") { model := "m", tenantID := "t" }).1 tenantEnv tenantState
      keyed_tenantState blind (describes_tenantState "t"),
    (preview_iff tokenizedRequest { model := "m", tenantID := "t" }).2.1 .plain default
      { modelID := "m" } [tenantRule] [] 0 0 "" (by decide) countsNoTokens_tenantRule
      ⟨rfl, rfl, rfl, rfl, clampRatio_zero, rfl, rfl, rfl, rfl⟩,
    (preview_iff tokenizedRequest { model := "m", tenantID := "t" }).2.2 tenantEnv tenantState
      { modelID := "m" } [] 0 0 "" keyed_tenantState blind
      ⟨rfl, rfl, rfl, rfl, clampRatio_zero, rfl, rfl, rfl, rfl⟩⟩

/-- Without a tenant the live request is rejected, and the preview shows it accepted. -/
theorem not_preview :
    ¬ ∀ (env : QueryEnv) (s : RouteState) (rr : RouteRequest)
      (req : EffectivePolicyPreviewRequest),
      s.store.policies.Keyed Policy.ruleID → CountsNoTokens (s.store.listPolicies env.orders) →
      Describes env.platform env.instances req rr (routeInput env.toRouteEnv s rr) →
        ∃ resp, HttpApi.handleEffectivePolicyPreview env s (.ok req) = .ok resp ∧
          resp.result.announced = announced (s.evaluate env.toRouteEnv rr) := by
  intro always
  obtain ⟨resp, answered, same⟩ := always tenantEnv tenantState { model := "m" }
    (unservedRequest "") keyed_tenantState (listPolicies_tenantState ▸ countsNoTokens_tenantRule)
    (describes_tenantState "")
  obtain rfl := Except.ok.inj answered
  rw [announced_evaluate, routeInput_tenantState] at same
  dsimp only at same
  rw [listPolicies_tenantState] at same
  have rejected : (Admission.evaluate .plain default (unservedInput "default")).decision =
      .reject := by
    decide +kernel
  have shown : (Admission.evaluate .plain default
      (previewInput .plain (unservedRequest "") [tenantRule])).decision = .accept := by
    decide +kernel
  have decisions := congrArg Prod.fst same
  exact absurd (shown.symm.trans (decisions.trans rejected)) (by decide)

end KvIndexer.Gateway
