import KvIndexer.Gateway.Target

/-!
One request of the gateway among edits of the registry.

`selectedOneTarget` reads the registry twice, once for the backends and once for the virtual
connections, and `proxyOneBody` reads it again. A change of a virtual config reads the config
and writes it. Between any two of these steps the registry may be edited.
-/

namespace KvIndexer.Gateway

open Config

/-- What a request did to its target. -/
inductive Action
  | forwarded (b : Backend) (body : Option ModelProfile)
  /-- a virtual config was written; `registered` is its connection then -/
  | changed (backendID : String) (registered : Option Connection)

inductive Phase
  | received
  | listed (backends : List Backend)
  | resolved (target : Target)
  | uploaded (target : Target) (prof : ModelProfile)
  | changing (target : Target) (m : VirtualMutation) (found : Option VirtualConfig)
  | answered
  | failed (f : Failure)
  | acted (target : Target) (action : Action)

structure Request where
  sel : Selector
  call : Call

/-- The registry and the request. -/
structure Session where
  registry : Registry := {}
  phase : Phase := .received
  /-- the cluster for which the request stored a tokenizer asset -/
  assetCluster : Option String := none

/-- The error of a change that found no config, or not the entry it needs. -/
def changeFailure (m : VirtualMutation) (found : Option VirtualConfig) : Failure :=
  let (action, missing) :=
    match m with
    | .upsertVirtualModelProfile _ _ =>
        ("store virtual model profile: ", "model profile not found")
    | .removeVirtualModelProfile _ _ =>
        ("delete virtual model profile: ", "model profile not found")
    | .upsertVirtualPolicy _ _ => ("store virtual policy: ", "policy not found")
    | .patchVirtualPolicy _ _ _ => ("patch virtual policy: ", "policy not found")
    | .removeVirtualPolicy _ _ => ("delete virtual policy: ", "policy not found")
    | .ensureVirtualConfig _ => ("", "")
  match found with
  | none => ⟨502, action ++ ErrVirtualConfigNotFound⟩
  | some _ => ⟨404, missing⟩

namespace Session

variable (env : GatewayEnv) (req : Request) (s : Session)

/-- Forward to the one backend that is selected now. -/
def proxyOneBody (target : Target) (body : Option ModelProfile) : Phase :=
  match selectOne Backend.id (s.registry.selected env.toRegistryEnv req.sel) with
  | .error f => .failed f
  | .ok b => .acted target (.forwarded b body)

/-- `selectedOneTarget`, after its read of the backends -/
def selectedOneTarget (backends : List Backend) : Except Failure Target :=
  selectOne Target.id (backends.map .real ++
    (s.registry.selectedVirtual env.toRegistryEnv req.sel).map .virtual)

/-- The handler goes on as it decided. -/
def follow (target : Target) : Treatment → Session
  | .answer => { s with phase := .answered }
  | .fail f => { s with phase := .failed f }
  | .proxyOneBody body => { s with phase := s.proxyOneBody env req target body }
  | .change m =>
      { s with
        phase := .changing target m (getVirtualConfig s.registry.virtualConfigs m.backendID) }
  | .upload prof =>
      match env.putTokenizer target prof with
      | .error f => { s with phase := .failed f }
      | .ok hash =>
          { s with
            phase := .uploaded target (uploadedProfile prof hash)
            assetCluster := some target.cluster }

/-- The next step of the request. A request on a route that only forwards resolves its
backend as it forwards. -/
def advance (now : Moment) : Session :=
  match s.phase with
  | .received =>
      let backends := s.registry.selected env.toRegistryEnv req.sel
      match req.call with
      | .proxyOne =>
          match selectOne Backend.id backends with
          | .error f => { s with phase := .failed f }
          | .ok b => { s with phase := .acted (.real b) (.forwarded b none) }
      | _ => { s with phase := .listed backends }
  | .listed backends =>
      match s.selectedOneTarget env req backends with
      | .error f => { s with phase := .failed f }
      | .ok target => { s with phase := .resolved target }
  | .resolved target =>
      s.follow env req target (req.call.treat env s.registry.virtualConfigs target)
  | .uploaded target prof => s.follow env req target (storeProfile prof target)
  | .changing target m found =>
      match m.written now found with
      | none => { s with phase := .failed (changeFailure m found) }
      | some vc =>
          { s with
            registry :=
              { s.registry with virtualConfigs := putVirtualConfig s.registry.virtualConfigs vc }
            phase := .acted target
              (.changed vc.backendID (s.registry.conns.lookup vc.backendID)) }
  | .answered => s
  | .failed _ => s
  | .acted _ _ => s

/-- A step of an edit, or of the request. -/
inductive Step
  | edit (e : Edit)
  | advance (now : Moment)

def step (s : Session) : Step → Session
  | .edit e => { s with registry := s.registry.edit env.toRegistryEnv e }
  | .advance now => s.advance env req now

end Session

end KvIndexer.Gateway
