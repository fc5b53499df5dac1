import KvIndexer.Gateway.Registry

/-!
Handlers of the gateway that act on one target (`internal/gateway/gateway.go` and
`internal/gateway/local_tokenizer.go`).

A handler resolves the one target that a request's selector matches: a backend or a virtual
connection. It looks at the request and at the target and then answers by itself, changes
the virtual config or leaves the request to `proxyOneBody`, which selects a backend from the
registry once more. Edits of the registry come in between. Answers that need no other target
(the local evaluation of an admission, its errors) are left out.
-/

namespace KvIndexer.Gateway

open Config

/-! ### Targets -/

inductive Target
  | real (b : Backend)
  | virtual (c : Connection)

namespace Target

def id : Target → String
  | real b => b.id
  | virtual c => c.id

def cluster : Target → String
  | real b => b.cluster
  | virtual c => c.cluster

end Target

/-- An error with its status. -/
structure Failure where
  status : Nat
  error : String
deriving DecidableEq

/-- The one that matches, of what the selector matches. -/
def selectOne {α : Type} (id : α → String) (matching : List α) : Except Failure α :=
  match matching with
  | [] => .error ⟨404, "no backend matches cluster/backend selector; pass ?cluster= or ?backend="⟩
  | [one] => .ok one
  | _ =>
      .error ⟨400, "ambiguous target (" ++ toString matching.length ++ " backends: [" ++
        " ".intercalate (matching.map id) ++ "]); pass ?backend= to disambiguate"⟩

theorem selectOne_eq_ok {α : Type} {id : α → String} {matching : List α} {one : α} :
    selectOne id matching = .ok one ↔ matching = [one] := by
  unfold selectOne
  split
  · simp
  · simp
  · rename_i _ several
    constructor
    · nofun
    · intro single
      exact absurd single (several one)

/-! ### Handlers -/

/-- What a handler does with the target it resolved. -/
inductive Treatment
  /-- answer without another target -/
  | answer
  | fail (f : Failure)
  /-- forward the request, with this profile as its body if there is one -/
  | proxyOneBody (body : Option ModelProfile)
  /-- register a tokenizer and store it as the asset of the target's cluster -/
  | upload (prof : ModelProfile)
  | change (m : VirtualMutation)

/-- The others that take part, as they answer the request. -/
structure GatewayEnv extends RegistryEnv where
  localTokenizerURL : String
  /-- `GET /model-profiles` -/
  fetchProfiles : Backend → Except String (List ModelProfile)
  /-- registration and `PutTokenizerAsset`; the answer is the template hash -/
  putTokenizer : Target → ModelProfile → Except Failure String

def ErrVirtualConfigNotFound : String := "virtual config not found"

def resolveProfile (profiles : List ModelProfile) (model : String) : Option ModelProfile :=
  (profiles.find? fun p => p.modelID = model).or (profiles.find? fun p => model ∈ p.aliases)

section Handlers

variable (env : GatewayEnv) (configs : VirtualConfigs)

/-- `fetchProfile`: the error, or the profile if the backend has one. -/
def fetchProfile (b : Backend) (model : String) : Except Failure (Option ModelProfile) :=
  match env.fetchProfiles b with
  | .ok profiles => .ok (resolveProfile profiles model)
  | .error e => .error ⟨502, "backend " ++ b.id ++ " (" ++ b.cluster ++ "): profiles: " ++ e⟩

def missingLocalTokenizer : Failure := ⟨500, "gateway local tokenizer url is not configured"⟩

def virtualNeedsLocal : Failure := ⟨400, "virtual model profiles require tokenizer_mode=local"⟩

def handleEffectivePolicyPreview (decoded : Except String Unit) : Target → Treatment
  | .real _ => .proxyOneBody none
  | .virtual c =>
      match decoded with
      | .error e => .fail ⟨400, e⟩
      | .ok _ =>
          match getVirtualConfig configs c.id with
          | none => .fail ⟨502, "virtual config: " ++ ErrVirtualConfigNotFound⟩
          | some _ => .answer

def handleModelProfileDelete (modelID : String) : Target → Treatment
  | .real _ => .proxyOneBody none
  | .virtual c => .change (.removeVirtualModelProfile c.id modelID)

def handlePolicyUpsert (decoded : Except String Policy) : Target → Treatment
  | .real _ => .proxyOneBody none
  | .virtual c =>
      match decoded with
      | .error e => .fail ⟨400, e⟩
      | .ok policy =>
          if policy.ruleID = "" then .fail ⟨400, "rule_id required"⟩
          else .change (.upsertVirtualPolicy c.id policy)

def handlePolicyPatch (ruleID : String) (decoded : Except String Policy) : Target → Treatment
  | .real _ => .proxyOneBody none
  | .virtual c =>
      match decoded with
      | .error e => .fail ⟨400, e⟩
      | .ok patch => .change (.patchVirtualPolicy c.id ruleID patch)

def handlePolicyDelete (ruleID : String) : Target → Treatment
  | .real _ => .proxyOneBody none
  | .virtual c => .change (.removeVirtualPolicy c.id ruleID)

/-- The end of `handleModelProfileUpsert`: the profile goes to the target. -/
def storeProfile (prof : ModelProfile) : Target → Treatment
  | .real _ => .proxyOneBody (some prof)
  | .virtual c => .change (.upsertVirtualModelProfile c.id prof)

def handleModelProfileUpsert (decoded : Except String ModelProfile) (target : Target) :
    Treatment :=
  match decoded with
  | .error e => .fail ⟨400, e⟩
  | .ok prof =>
      if prof.modelID = "" then .fail ⟨400, "model_id required"⟩
      else if prof.tokenizerMode = TokenizerModeLocal then
        if env.localTokenizerURL = "" then .fail missingLocalTokenizer else .upload prof
      else
        match target with
        | .virtual _ => .fail virtualNeedsLocal
        | .real _ =>
            let prof := { prof with tokenizerMode := TokenizerModeRemote, chatTemplateSHA256 := "" }
            storeProfile prof target

/-- The profile that an upload leaves to be stored. -/
def uploadedProfile (prof : ModelProfile) (chatTemplateSHA256 : String) : ModelProfile :=
  { prof with
    tokenizerEndpoint := ""
    tokenizerMode := TokenizerModeLocal
    chatTemplateSHA256 := chatTemplateSHA256 }

/-- The steps that `handleVirtualAdmissionTarget` and `handleVirtualTokenizePreview` share. -/
def handleVirtualLocal (required : String) (c : Connection) (model : String) : Treatment :=
  if model = "" then .fail ⟨400, required⟩
  else
    match getVirtualConfig configs c.id with
    | none => .fail ⟨502, "virtual config: " ++ ErrVirtualConfigNotFound⟩
    | some vc =>
        match resolveProfile vc.snapshot.profiles model with
        | none => .fail ⟨404, "virtual profile not found for model " ++ model⟩
        | some prof =>
            if prof.tokenizerMode ≠ TokenizerModeLocal then .fail virtualNeedsLocal
            else if env.localTokenizerURL = "" then .fail missingLocalTokenizer
            else .answer

def handleVirtualAdmissionTarget : Connection → String → Treatment :=
  handleVirtualLocal env configs "model required for virtual cluster admission"

def handleVirtualTokenizePreview : Connection → String → Treatment :=
  handleVirtualLocal env configs "model required for virtual tokenizer preview"

/-- A request for a model that the gateway tokenizes itself is answered, any other goes to
the backend. -/
def handleRealLocal (b : Backend) (model : String) : Treatment :=
  match fetchProfile env b model with
  | .error f => .fail f
  | .ok none => .proxyOneBody none
  | .ok (some prof) =>
      if prof.tokenizerMode ≠ TokenizerModeLocal then .proxyOneBody none
      else if env.localTokenizerURL = "" then .fail missingLocalTokenizer
      else .answer

def handleAdmission (model : String) : Target → Treatment
  | .virtual c => handleVirtualAdmissionTarget env configs c model
  | .real b => if model = "" then .proxyOneBody none else handleRealLocal env b model

def handleTokenizePreview (decoded : Except String String) (target : Target) : Treatment :=
  match decoded with
  | .error e => .fail ⟨400, e⟩
  | .ok model =>
      match target with
      | .virtual c => handleVirtualTokenizePreview env configs c model
      | .real b => handleRealLocal env b model

/-- A body that does not decode is forwarded. -/
def handleQueryPrefix (decoded : Except String String) : Target → Treatment
  | .virtual _ => .fail ⟨400, "virtual clusters do not support KV-cache prefix residency"⟩
  | .real b =>
      match decoded with
      | .error _ => .proxyOneBody none
      | .ok model =>
          if model = "" then .proxyOneBody none
          else
            match fetchProfile env b model with
            | .error f => .fail f
            | .ok none => .proxyOneBody none
            | .ok (some prof) =>
                if prof.tokenizerMode = TokenizerModeLocal then
                  .fail ⟨400, "tokenizer_mode=local uses gateway token-count admission and " ++
                    "does not query KV-cache prefix residency"⟩
                else .proxyOneBody none

end Handlers

/-! ### One request -/

/-- The routes with one target, with what they decode of the request. -/
inductive Call
  /-- the routes that only forward -/
  | proxyOne
  | effectivePolicyPreview (decoded : Except String Unit)
  | modelProfileUpsert (decoded : Except String ModelProfile)
  | modelProfileDelete (modelID : String)
  | policyUpsert (decoded : Except String Policy)
  | policyPatch (ruleID : String) (decoded : Except String Policy)
  | policyDelete (ruleID : String)
  | admission (model : String)
  | queryPrefix (decoded : Except String String)
  | tokenizePreview (decoded : Except String String)

def Call.treat (env : GatewayEnv) (configs : VirtualConfigs) (target : Target) : Call → Treatment
  | proxyOne => .proxyOneBody none
  | effectivePolicyPreview decoded => handleEffectivePolicyPreview configs decoded target
  | modelProfileUpsert decoded => handleModelProfileUpsert env decoded target
  | modelProfileDelete modelID => handleModelProfileDelete modelID target
  | policyUpsert decoded => handlePolicyUpsert decoded target
  | policyPatch ruleID decoded => handlePolicyPatch ruleID decoded target
  | policyDelete ruleID => handlePolicyDelete ruleID target
  | admission model => handleAdmission env configs model target
  | queryPrefix decoded => handleQueryPrefix env decoded target
  | tokenizePreview decoded => handleTokenizePreview env configs decoded target

end KvIndexer.Gateway
