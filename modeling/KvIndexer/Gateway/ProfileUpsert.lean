import KvIndexer.Gateway.MemoryStore
import KvIndexer.Gateway.SingleTarget
import KvIndexer.Gateway.TokenizerIsolation

/-!
One upsert of a model profile through its four stores
(`internal/gateway/local_tokenizer.go`).

The tokenizer is registered with the sidecar and stored as an asset before the profile is
written, to a virtual config or to a backend. Nothing is taken back when a later step fails:
`spared_iff` says after which requests that end in an error the tokenizers are as before.
-/

namespace KvIndexer.Gateway.ProfileUpsert

open Config

/-! ### Calls of others -/

/-- How a call ends. -/
inductive Outcome
  | done
  | failed (e : String)
  /-- it was carried out and its answer is lost -/
  | lost (e : String)

/-- The state and the answer after a call, which by itself may refuse. -/
def Outcome.run {σ α : Type} (o : Outcome) (before : σ) (call : Except String (σ × α)) :
    σ × Except String α :=
  match o, call with
  | .failed e, _ => (before, .error e)
  | .done, .error e => (before, .error e)
  | .done, .ok (after, a) => (after, .ok a)
  | .lost e, .error _ => (before, .error e)
  | .lost e, .ok (after, _) => (after, .error e)

/-- The reads of the asset store, in their order. -/
inductive AssetRead
  | asset
  | zip
  | sourceAsset
  | sourceZip

/-- What `parseProfilePayload` reads. The name of the zip is left out. -/
structure ProfilePayload where
  prof : ModelProfile
  tokenizerZip : Bytes := []
  chatTemplate : String := ""

/-- A request, with what the others answer to it. -/
structure UpsertRequest where
  sel : Selector := {}
  /-- the error of `readRawBody` -/
  readBody : Option String := none
  payload : Except String ProfilePayload
  /-- the parameter `source_backend`, trimmed -/
  sourceBackend : String := ""
  now : Moment
  fileID : FileID := 0
  /-- the errors of the asset store -/
  readFails : AssetRead → Option String := fun _ => none
  registers : Outcome := .done
  stores : Outcome := .done
  writes : Outcome := .done
  /-- status and body of a backend's answer -/
  exchange : Backend → ModelProfile → Except String (Nat × String)

structure UpsertEnv extends RegistryEnv, SidecarEnv where
  localTokenizerURL : String
  /-- status and detail with which the sidecar refuses a tokenizer -/
  refusal : Tokenizer → String

/-- The registry, the asset store, the cache and the sidecar. -/
structure State where
  registry : Registry := {}
  tokenizers : LocalTokenizers := {}

inductive Response
  | failed (f : Failure)
  /-- the profile as it is stored -/
  | stored
  | proxied (b : Backend) (status : Nat) (body : String)

def Response.status : Response → Nat
  | failed f => f.status
  | stored => 200
  | proxied _ status _ => status

def Response.IsError (r : Response) : Prop := 400 ≤ r.status

def ErrTokenizerAssetNotFound : String := "tokenizer asset not found"

/-! ### The material -/

section Material

variable (env : UpsertEnv) (req : UpsertRequest) (s : State)

/-- `GetTokenizerAsset`, none if there is no asset. -/
def getTokenizerAsset (read : AssetRead) (cluster modelID : String) :
    Except String (Option StoredAsset) :=
  match req.readFails read with
  | some e => .error e
  | none => .ok (s.tokenizers.getTokenizerAsset cluster modelID)

def readTokenizerZip (read : AssetRead) (asset : StoredAsset) : Except String Bytes :=
  match req.readFails read with
  | some e => .error e
  | none => if asset.zipBytes = [] then .error ErrTokenizerAssetNotFound else .ok asset.zipBytes

def badGateway (action e : String) : Failure := ⟨502, action ++ e⟩

/-- The zip and template of the upload, each else the stored one. -/
def ownMaterial (cluster : String) (payload : ProfilePayload) : Except Failure Tokenizer :=
  match getTokenizerAsset req s .asset cluster payload.prof.modelID with
  | .error e => .error (badGateway "get tokenizer asset: " e)
  | .ok none => .ok ⟨payload.tokenizerZip, payload.chatTemplate⟩
  | .ok (some existing) =>
      let chatTemplate :=
        if payload.chatTemplate = "" then existing.chatTemplate else payload.chatTemplate
      if payload.tokenizerZip = [] ∧ existing.zipFileID ≠ none then
        match readTokenizerZip req .zip existing with
        | .error e => .error (badGateway "read tokenizer asset: " e)
        | .ok zip => .ok ⟨zip, chatTemplate⟩
      else .ok ⟨payload.tokenizerZip, chatTemplate⟩

def targetByBackendID (id : String) : Option Target :=
  (((s.registry.backends env.toRegistryEnv).find? fun b => b.id = id).map Target.real).or
    (((s.registry.virtualConnections env.toRegistryEnv).find? fun c => c.id = id).map
      Target.virtual)

/-- What is missing of the material, from the cluster of `source_backend`. -/
def sourceMaterial (cluster modelID : String) (own : Tokenizer) : Except Failure Tokenizer :=
  match targetByBackendID env s req.sourceBackend with
  | none => .error ⟨400, "source_backend " ++ env.quote req.sourceBackend ++ " not found"⟩
  | some source =>
      if source.cluster = cluster then .ok own
      else
        match getTokenizerAsset req s .sourceAsset source.cluster modelID with
        | .error e => .error (badGateway "get source tokenizer asset: " e)
        | .ok none => .ok own
        | .ok (some asset) =>
            let chatTemplate :=
              if own.chatTemplate = "" then asset.chatTemplate else own.chatTemplate
            if asset.zipFileID = none then .ok ⟨own.zip, chatTemplate⟩
            else
              match readTokenizerZip req .sourceZip asset with
              | .error e => .error (badGateway "read source tokenizer asset: " e)
              | .ok zip => .ok ⟨zip, chatTemplate⟩

/-- The tokenizer to be registered. -/
def material (cluster : String) (payload : ProfilePayload) : Except Failure Tokenizer :=
  match ownMaterial req s cluster payload with
  | .error f => .error f
  | .ok own =>
      if own.zip = [] ∧ req.sourceBackend ≠ "" then
        sourceMaterial env req s cluster payload.prof.modelID own
      else .ok own

/-! ### The handler -/

/-- What is to be done once a request is checked. -/
inductive Plan
  | remote (target : Target) (prof : ModelProfile)
  | upload (target : Target) (prof : ModelProfile) (t : Tokenizer)

def zipRequired : Failure :=
  ⟨400, "local tokenizer profile requires tokenizer_zip on first upload"⟩

/-- The checks up to the registration, which change nothing. -/
def plan : Except Failure Plan :=
  match req.readBody with
  | some e => .error ⟨400, e⟩
  | none =>
      match selectOne Target.id (s.registry.selectedTargets env.toRegistryEnv req.sel) with
      | .error f => .error f
      | .ok target =>
          match req.payload with
          | .error e => .error ⟨400, e⟩
          | .ok payload =>
              if payload.prof.modelID = "" then .error ⟨400, "model_id required"⟩
              else if payload.prof.tokenizerMode = TokenizerModeLocal then
                if env.localTokenizerURL = "" then .error missingLocalTokenizer
                else
                  match material env req s target.cluster payload with
                  | .error f => .error f
                  | .ok t =>
                      if t.zip = [] then .error zipRequired else .ok (.upload target payload.prof t)
              else
                match target with
                | .virtual _ => .error virtualNeedsLocal
                | .real _ => .ok (.remote target payload.prof)

/-- `registerLocalTokenizer`, which answers the template hash. -/
def registerLocalTokenizer (modelID : String) (t : Tokenizer) : Sidecar × Except String String :=
  req.registers.run s.tokenizers.sidecar
    (match s.tokenizers.sidecar.register env.toSidecarEnv modelID t with
    | none => .error (env.refusal t)
    | some registered => .ok registered)

/-- `PutTokenizerAsset` -/
def putTokenizerAsset (input : TokenizerAssetInput) (tokenizers : LocalTokenizers) :
    LocalTokenizers × Except String StoredAsset :=
  req.stores.run tokenizers
    (if input.cluster = "" ∨ input.modelID = "" then
      .error "tokenizer asset requires cluster and model_id"
    else
      let asset := tokenizers.updatedStoredAsset env.toSidecarEnv input req.now.updatedAt req.fileID
      .ok ({ tokenizers with
              assets := tokenizers.assets.insert (localKey input.cluster input.modelID)
                asset.readBack },
        asset))

def markLocalTokenizerLoaded (cluster modelID : String) (state : LocalTokenizerState)
    (tokenizers : LocalTokenizers) : LocalTokenizers :=
  { tokenizers with
    localModels := tokenizers.localModels.insert (localKey cluster modelID) state }

/-- `UpsertVirtualModelProfile` -/
def upsertVirtualModelProfile (backendID : String) (prof : ModelProfile) :
    Registry × Except String Unit :=
  req.writes.run s.registry
    (match getVirtualConfig s.registry.virtualConfigs backendID with
    | none => .error ErrVirtualConfigNotFound
    | some _ =>
        .ok (s.registry.mutateVirtual req.now (.upsertVirtualModelProfile backendID prof), ()))

/-- The backend is selected once more. -/
def proxyOneBody (prof : ModelProfile) : Response :=
  match selectOne Backend.id (s.registry.selected env.toRegistryEnv req.sel) with
  | .error f => .failed f
  | .ok b =>
      match req.exchange b prof with
      | .error e => .failed ⟨502, "backend " ++ b.id ++ " (" ++ b.cluster ++ "): " ++ e⟩
      | .ok (status, body) => .proxied b status body

/-- The end of the handler: the profile goes to the target. -/
def writeProfile (target : Target) (prof : ModelProfile) : State × Response :=
  match target with
  | .virtual c =>
      match upsertVirtualModelProfile req s c.id prof with
      | (registry, .error e) =>
          ({ s with registry }, .failed (badGateway "store virtual model profile: " e))
      | (registry, .ok _) => ({ s with registry }, .stored)
  | .real _ => (s, proxyOneBody env req s prof)

/-- The steps after the registration, which left these tokenizers. -/
def storeUpload (tokenizers : LocalTokenizers) (target : Target) (prof : ModelProfile)
    (t : Tokenizer) (hash : String) : State × Response :=
  let input : TokenizerAssetInput := ⟨target.cluster, prof.modelID, t.zip, t.chatTemplate, hash⟩
  match putTokenizerAsset env req input tokenizers with
  | (tokenizers, .error e) =>
      ({ s with tokenizers }, .failed (badGateway "store tokenizer asset: " e))
  | (tokenizers, .ok asset) =>
      let loaded := markLocalTokenizerLoaded target.cluster prof.modelID
        (localStateFromAsset asset) tokenizers
      writeProfile env req { s with tokenizers := loaded } target (uploadedProfile prof hash)

def handleModelProfileUpsert : State × Response :=
  match plan env req s with
  | .error f => (s, .failed f)
  | .ok (.remote target prof) =>
      writeProfile env req s target
        { prof with tokenizerMode := TokenizerModeRemote, chatTemplateSHA256 := "" }
  | .ok (.upload target prof t) =>
      match registerLocalTokenizer env req s prof.modelID t with
      | (sidecar, .error e) =>
          ({ s with tokenizers := { s.tokenizers with sidecar } },
            .failed (badGateway "local tokenizer register: " e))
      | (sidecar, .ok hash) =>
          storeUpload env req s { s.tokenizers with sidecar } target prof t hash

end Material

/-! ### What an error leaves -/

/-- Assets, registered models and cache are as before. -/
structure Unchanged (before after : LocalTokenizers) : Prop where
  assets : after.assets = before.assets
  registered : ∀ id, id ∈ after.sidecar.tokenizers ↔ id ∈ before.sidecar.tokenizers
  loaded : after.localModels = before.localModels

section Spared

variable (env : UpsertEnv) (req : UpsertRequest) (s : State)

/-- If the request ends in an error, the tokenizers are as before. -/
def Spared : Prop :=
  (handleModelProfileUpsert env req s).2.IsError →
    Unchanged s.tokenizers (handleModelProfileUpsert env req s).1.tokenizers

/-- The request passes all checks, is for a local tokenizer, and there is a zip for it. -/
structure Uploads (target : Target) (prof : ModelProfile) (t : Tokenizer) : Prop where
  read : req.readBody = none
  selected : s.registry.selectedTargets env.toRegistryEnv req.sel = [target]
  payload : ∃ payload, req.payload = .ok payload ∧ payload.prof = prof ∧
    material env req s target.cluster payload = .ok t
  named : prof.modelID ≠ ""
  isLocal : prof.tokenizerMode = TokenizerModeLocal
  url : env.localTokenizerURL ≠ ""
  zip : t.zip ≠ []

/-- The target takes the profile. -/
def Takes (prof : ModelProfile) : Target → Prop
  | .real b => ∃ status body, req.exchange b prof = .ok (status, body) ∧ status < 400
  | .virtual c => req.writes = .done ∧ getVirtualConfig s.registry.virtualConfigs c.id ≠ none

/-- No step of an upload fails after one that changed the tokenizers. -/
def Clean (target : Target) (prof : ModelProfile) (t : Tokenizer) : Prop :=
  match req.registers with
  | .failed _ => True
  | .lost _ => prof.modelID ∈ s.tokenizers.sidecar.tokenizers
  | .done =>
      if target.cluster = "" then prof.modelID ∈ s.tokenizers.sidecar.tokenizers
      else
        match req.stores with
        | .failed _ => prof.modelID ∈ s.tokenizers.sidecar.tokenizers
        | .lost _ => False
        | .done =>
            Takes req s
              (uploadedProfile prof (s.tokenizers.reported env.toSidecarEnv prof.modelID t)) target

/-- If the sidecar accepts the tokenizer of an upload, the later steps are carried out. -/
def FailsEarly : Prop :=
  ∀ target prof t, Uploads env req s target prof t →
    s.tokenizers.Accepts env.toSidecarEnv prof.modelID t → Clean env req s target prof t

/-- No asset has the id that a new zip gets. -/
def Fresh : Prop :=
  ∀ key asset, s.tokenizers.assets.lookup key = some asset → asset.zipFileID ≠ some req.fileID

end Spared

/-! ### The steps -/

section Steps

variable {env : UpsertEnv} {req : UpsertRequest} {s : State} {target : Target}
  {prof : ModelProfile} {t : Tokenizer}

theorem Unchanged.refl (tokenizers : LocalTokenizers) : Unchanged tokenizers tokenizers :=
  ⟨rfl, fun _ => Iff.rfl, rfl⟩

theorem plan_eq_upload :
    plan env req s = .ok (.upload target prof t) ↔ Uploads env req s target prof t := by
  unfold plan
  constructor
  · intro planned
    split at planned
    · cases planned
    · rename_i read
      split at planned
      · cases planned
      · rename_i target' selection
        split at planned
        · cases planned
        · rename_i payload decoded
          split at planned
          · cases planned
          · rename_i named
            split at planned
            · rename_i isLocal
              split at planned
              · cases planned
              · rename_i url
                split at planned
                · cases planned
                · rename_i t' found
                  split at planned
                  · cases planned
                  · rename_i zip
                    obtain ⟨rfl, rfl, rfl⟩ := Plan.upload.inj (Except.ok.inj planned)
                    exact ⟨read, selectOne_eq_ok.mp selection, ⟨payload, decoded, rfl, found⟩,
                      named, isLocal, url, zip⟩
            · split at planned
              · cases planned
              · cases planned
  · rintro ⟨read, selected, ⟨payload, decoded, rfl, found⟩, named, isLocal, url, zip⟩
    simp only [read, selectOne_eq_ok.mpr selected, decoded, if_neg named, if_pos isLocal,
      if_neg url, found, if_neg zip]

theorem Uploads.complete (uploads : Uploads env req s target prof t)
    (located : target.cluster ≠ "") : ¬ (target.cluster = "" ∨ prof.modelID = "") := by
  rintro (none | none)
  · exact located none
  · exact uploads.named none

theorem selected_of_selectedTargets {sel : Selector} {b : Backend}
    (single : s.registry.selectedTargets env.toRegistryEnv sel = [.real b]) :
    s.registry.selected env.toRegistryEnv sel = [b] := by
  rcases List.append_eq_singleton_iff.mp single with ⟨-, one⟩ | ⟨one, -⟩
  · obtain ⟨c, -, same⟩ := List.map_eq_singleton_iff.mp one
    cases same
  · obtain ⟨b', only, same⟩ := List.map_eq_singleton_iff.mp one
    cases same
    exact only

/-- The profile is written without the tokenizers. -/
theorem tokenizers_writeProfile :
    (writeProfile env req s target prof).1.tokenizers = s.tokenizers := by
  unfold writeProfile
  split
  · split
    · rfl
    · rfl
  · rfl

/-- Nor does it depend on them whether it succeeds. -/
theorem isError_writeProfile (tokenizers : LocalTokenizers)
    (selected : s.registry.selectedTargets env.toRegistryEnv req.sel = [target]) :
    (writeProfile env req { s with tokenizers } target prof).2.IsError ↔
      ¬ Takes req s prof target := by
  cases target with
  | real b =>
      have backend := @selectOne_eq_ok _ Backend.id _ _ |>.mpr
        (selected_of_selectedTargets selected)
      simp only [writeProfile, proxyOneBody, backend, Takes]
      cases req.exchange b prof with
      | error e => simp [Response.IsError, Response.status]
      | ok answer =>
          obtain ⟨status, body⟩ := answer
          simp [Response.IsError, Response.status]
  | virtual c =>
      simp only [writeProfile, upsertVirtualModelProfile, Takes]
      cases req.writes with
      | failed e => simp [Outcome.run, Response.IsError, Response.status, badGateway]
      | done =>
          cases getVirtualConfig s.registry.virtualConfigs c.id with
          | none => simp [Outcome.run, Response.IsError, Response.status, badGateway]
          | some vc => simp [Outcome.run, Response.IsError, Response.status]
      | lost e =>
          cases getVirtualConfig s.registry.virtualConfigs c.id with
          | none => simp [Outcome.run, Response.IsError, Response.status, badGateway]
          | some vc => simp [Outcome.run, Response.IsError, Response.status, badGateway]

/-- A sidecar that was asked to register a model has the models it had, and this one. -/
theorem registered_iff {sidecar : Sidecar} {hash modelID : String}
    (registered : s.tokenizers.sidecar.register env.toSidecarEnv modelID t = some (sidecar, hash))
    (id : String) :
    id ∈ sidecar.tokenizers ↔ id ∈ s.tokenizers.sidecar.tokenizers ∨ id = modelID := by
  obtain ⟨accepts, -, lookups⟩ := LocalTokenizers.register_eq_some registered
  rw [← Finmap.lookup_isSome, ← Finmap.lookup_isSome, lookups id]
  by_cases same : id = modelID
  · subst same
    cases keeps : s.tokenizers.sidecar.keeps env.toSidecarEnv id t.chatTemplate with
    | false => simp
    | true =>
        have present := (Bool.and_eq_true_iff.mp keeps).1
        simp [present]
  · simp [same]

/-- The sidecar after a registration that the request does not survive. -/
theorem unchanged_sidecar_iff {sidecar : Sidecar} {hash modelID : String}
    (registered : s.tokenizers.sidecar.register env.toSidecarEnv modelID t = some (sidecar, hash)) :
    Unchanged s.tokenizers { s.tokenizers with sidecar } ↔
      modelID ∈ s.tokenizers.sidecar.tokenizers := by
  constructor
  · intro unchanged
    exact (unchanged.registered modelID).mp ((registered_iff registered modelID).mpr (Or.inr rfl))
  · intro present
    refine ⟨rfl, fun id => ?_, rfl⟩
    rw [registered_iff registered id, or_iff_left_of_imp]
    rintro rfl
    exact present

/-- A stored asset is a change. -/
theorem changed_of_stored (fresh : Fresh req s) {key : String} {asset : StoredAsset}
    (file : asset.zipFileID = some req.fileID) {tokenizers : LocalTokenizers}
    (stored : tokenizers.assets = s.tokenizers.assets.insert key asset.readBack) :
    ¬ Unchanged s.tokenizers tokenizers := by
  intro unchanged
  have found : tokenizers.assets.lookup key = some asset.readBack := by
    rw [stored, Finmap.lookup_insert]
  rw [unchanged.assets] at found
  exact fresh key asset.readBack found file

theorem zipFileID_updatedStoredAsset {tokenizers : LocalTokenizers} {cluster modelID hash : String}
    (zip : t.zip ≠ []) (now : Int) (fileID : FileID) :
    (tokenizers.updatedStoredAsset env.toSidecarEnv ⟨cluster, modelID, t.zip, t.chatTemplate, hash⟩
      now fileID).zipFileID = some fileID := by
  simp [LocalTokenizers.updatedStoredAsset, updatedAsset, zip]

theorem Outcome.run_error {σ α : Type} (o : Outcome) (before : σ) (e : String) :
    ∃ e', o.run before (.error e : Except String (σ × α)) = (before, .error e') := by
  cases o with
  | done => exact ⟨e, rfl⟩
  | failed e' => exact ⟨e', rfl⟩
  | lost e' => exact ⟨e', rfl⟩

theorem spared_of_failed {after : State} {action e : String}
    (handled : handleModelProfileUpsert env req s = (after, .failed (badGateway action e))) :
    Spared env req s ↔ Unchanged s.tokenizers after.tokenizers := by
  unfold Spared
  rw [handled]
  exact ⟨fun spared => spared (by decide : 400 ≤ 502), fun unchanged _ => unchanged⟩

/-- A tokenizer that the sidecar refuses changes nothing. -/
theorem spared_of_refused (uploads : Uploads env req s target prof t)
    (refused : ¬ s.tokenizers.Accepts env.toSidecarEnv prof.modelID t) : Spared env req s := by
  have none := LocalTokenizers.register_eq_none.mpr refused
  obtain ⟨e, answer⟩ := @Outcome.run_error _ String req.registers s.tokenizers.sidecar
    (env.refusal t)
  have handled : handleModelProfileUpsert env req s =
      (s, .failed (badGateway "local tokenizer register: " e)) := by
    simp only [handleModelProfileUpsert, plan_eq_upload.mpr uploads, registerLocalTokenizer, none,
      answer]
  exact (spared_of_failed handled).mpr (Unchanged.refl _)

/-- The answer to an upload whose tokenizer was registered. -/
theorem spared_of_registered (fresh : Fresh req s) (uploads : Uploads env req s target prof t)
    {sidecar : Sidecar} {hash : String}
    (registered :
      s.tokenizers.sidecar.register env.toSidecarEnv prof.modelID t = some (sidecar, hash))
    (handled : handleModelProfileUpsert env req s =
      storeUpload env req s { s.tokenizers with sidecar } target prof t hash) :
    Spared env req s ↔
      if target.cluster = "" then prof.modelID ∈ s.tokenizers.sidecar.tokenizers
      else
        match req.stores with
        | .failed _ => prof.modelID ∈ s.tokenizers.sidecar.tokenizers
        | .lost _ => False
        | .done => Takes req s (uploadedProfile prof hash) target := by
  have unstored : ∀ e, storeUpload env req s { s.tokenizers with sidecar } target prof t hash =
      ({ s with tokenizers := { s.tokenizers with sidecar } },
        .failed (badGateway "store tokenizer asset: " e)) →
      (Spared env req s ↔ prof.modelID ∈ s.tokenizers.sidecar.tokenizers) := fun e stored =>
    (spared_of_failed (handled.trans stored)).trans (unchanged_sidecar_iff registered)
  have file := @zipFileID_updatedStoredAsset env t { s.tokenizers with sidecar } target.cluster
    prof.modelID hash uploads.zip req.now.updatedAt req.fileID
  by_cases located : target.cluster = ""
  · rw [if_pos located]
    obtain ⟨e, answer⟩ := @Outcome.run_error _ StoredAsset req.stores
      { s.tokenizers with sidecar } "tokenizer asset requires cluster and model_id"
    exact unstored e (by
      simp only [storeUpload, putTokenizerAsset, located, true_or, if_true, answer])
  · rw [if_neg located]
    have complete := uploads.complete located
    cases stores : req.stores with
    | failed e =>
        exact unstored e (by
          simp only [storeUpload, putTokenizerAsset, if_neg complete, stores, Outcome.run])
    | lost e =>
        simp only [storeUpload, putTokenizerAsset, if_neg complete, stores, Outcome.run] at handled
        exact iff_false_intro fun spared =>
          changed_of_stored fresh file rfl ((spared_of_failed handled).mp spared)
    | done =>
        simp only [storeUpload, putTokenizerAsset, if_neg complete, stores, Outcome.run] at handled
        unfold Spared
        rw [handled, isError_writeProfile _ uploads.selected, tokenizers_writeProfile]
        refine ⟨fun spared => ?_, fun takes refuses => absurd takes refuses⟩
        by_contra refuses
        exact changed_of_stored fresh file rfl (spared refuses)

/-- An upload whose tokenizer the sidecar accepts. -/
theorem spared_iff_clean (fresh : Fresh req s) (uploads : Uploads env req s target prof t)
    (accepts : s.tokenizers.Accepts env.toSidecarEnv prof.modelID t) :
    Spared env req s ↔ Clean env req s target prof t := by
  have planned := plan_eq_upload.mpr uploads
  obtain ⟨⟨sidecar, hash⟩, registered⟩ := Option.ne_none_iff_exists'.mp
    fun none => LocalTokenizers.register_eq_none.mp none accepts
  obtain ⟨-, reported, -⟩ := LocalTokenizers.register_eq_some registered
  unfold Clean
  cases registers : req.registers with
  | failed e =>
      have handled : handleModelProfileUpsert env req s =
          (s, .failed (badGateway "local tokenizer register: " e)) := by
        simp only [handleModelProfileUpsert, planned, registerLocalTokenizer, registers,
          Outcome.run]
      exact iff_true_intro ((spared_of_failed handled).mpr (Unchanged.refl _))
  | lost e =>
      have handled : handleModelProfileUpsert env req s =
          ({ s with tokenizers := { s.tokenizers with sidecar } },
            .failed (badGateway "local tokenizer register: " e)) := by
        simp only [handleModelProfileUpsert, planned, registerLocalTokenizer, registered, registers,
          Outcome.run]
      exact (spared_of_failed handled).trans (unchanged_sidecar_iff registered)
  | done =>
      have handled : handleModelProfileUpsert env req s =
          storeUpload env req s { s.tokenizers with sidecar } target prof t hash := by
        simp only [handleModelProfileUpsert, planned, registerLocalTokenizer, registered, registers,
          Outcome.run]
      rw [← reported]
      exact spared_of_registered fresh uploads registered handled

/-- Where the calls are carried out, the tokenizers are those of the upload as one step. -/
theorem tokenizers_of_done (uploads : Uploads env req s target prof t)
    (registers : req.registers = .done) (stores : req.stores = .done)
    (located : target.cluster ≠ "") {u : Upload} (own : s.tokenizers.material u = t)
    (cluster : u.cluster = target.cluster) (modelID : u.modelID = prof.modelID)
    (now : u.now = req.now.updatedAt) (file : u.fileID = req.fileID)
    (succeeds : u.storeFails = false) :
    (handleModelProfileUpsert env req s).1.tokenizers =
      s.tokenizers.upload env.toSidecarEnv u := by
  have planned := plan_eq_upload.mpr uploads
  have complete := uploads.complete located
  simp only [LocalTokenizers.upload, own, if_neg uploads.zip, cluster, modelID, now, file, succeeds]
  cases registered : s.tokenizers.sidecar.register env.toSidecarEnv prof.modelID t with
  | none =>
      simp only [handleModelProfileUpsert, planned, registerLocalTokenizer, registered, registers,
        Outcome.run]
  | some answer =>
      simp only [handleModelProfileUpsert, planned, registerLocalTokenizer, registered, registers,
        Outcome.run, storeUpload, putTokenizerAsset, if_neg complete, stores,
        tokenizers_writeProfile]
      rfl

/-- A request that uploads nothing leaves the tokenizers alone. -/
theorem spared_of_no_upload (none : ∀ target prof t, ¬ Uploads env req s target prof t) :
    Spared env req s := by
  have same : (handleModelProfileUpsert env req s).1.tokenizers = s.tokenizers := by
    unfold handleModelProfileUpsert
    split
    · rfl
    · exact tokenizers_writeProfile
    · rename_i target prof t planned
      exact absurd (plan_eq_upload.mp planned) (none target prof t)
  intro _
  rw [same]
  exact Unchanged.refl _

theorem uploads_unique {target' : Target} {prof' : ModelProfile} {t' : Tokenizer}
    (uploads : Uploads env req s target prof t) (uploads' : Uploads env req s target' prof' t') :
    target' = target ∧ prof' = prof ∧ t' = t := by
  have same := (plan_eq_upload.mpr uploads').symm.trans (plan_eq_upload.mpr uploads)
  exact Plan.upload.inj (Except.ok.inj same)

end Steps

/-- A request that ends in an error leaves the tokenizers as they were exactly when no step
of it fails after one that changed them. -/
theorem spared_iff (env : UpsertEnv) (req : UpsertRequest) (s : State) (fresh : Fresh req s) :
    Spared env req s ↔ FailsEarly env req s := by
  by_cases some : ∃ target prof t, Uploads env req s target prof t
  · obtain ⟨target, prof, t, uploads⟩ := some
    by_cases accepts : s.tokenizers.Accepts env.toSidecarEnv prof.modelID t
    · rw [spared_iff_clean fresh uploads accepts]
      constructor
      · intro clean target' prof' t' uploads' _
        obtain ⟨rfl, rfl, rfl⟩ := uploads_unique uploads uploads'
        exact clean
      · intro early
        exact early target prof t uploads accepts
    · refine iff_of_true (spared_of_refused uploads accepts) ?_
      intro target' prof' t' uploads' accepts'
      obtain ⟨rfl, rfl, rfl⟩ := uploads_unique uploads uploads'
      exact absurd accepts' accepts
  · have none : ∀ target prof t, ¬ Uploads env req s target prof t := fun target prof t uploads =>
      some ⟨target, prof, t, uploads⟩
    refine iff_of_true (spared_of_no_upload none) fun target prof t uploads => ?_
    exact absurd uploads (none target prof t)

/-! The backend of a first upload cannot be reached. -/

def onlyBackend : Connection where
  id := "b"
  cluster := "c"
  kind := ConnectionKindBackend
  url := "http://b"
  enabled := true

def firstState : State where
  registry := { conns := Finmap.insert "b" onlyBackend ∅ }

noncomputable def anyUpload : UpsertEnv where
  toRegistryEnv := anyURL
  sha256Bytes _ := ""
  extracts _ := true
  loads _ := true
  localTokenizerURL := "http://tokenizer"
  refusal _ := ""

def firstProfile : ModelProfile := { modelID := "m", tokenizerMode := TokenizerModeLocal }

noncomputable def unreachable : UpsertRequest where
  payload := .ok { prof := firstProfile, tokenizerZip := [1] }
  now := ⟨0, 0, default⟩
  exchange _ _ := .error "connection refused"

theorem fresh_firstState : Fresh unreachable firstState := fun _ _ found => nomatch found

theorem uploads_unreachable :
    Uploads anyUpload unreachable firstState (.real onlyBackend.backend) firstProfile
      ⟨[1], ""⟩ := by
  have keyed : firstState.registry.Keyed := GoMap.Keyed.insert GoMap.Keyed.empty rfl
  obtain ⟨real, virtual⟩ := @Registry.selected_single anyUpload.toRegistryEnv firstState.registry
    keyed onlyBackend (fun id => GoMap.lookup_insert_eq _ _ _ _) {} rfl rfl rfl
  constructor
  case read => rfl
  case selected =>
    show _ ++ _ = _
    rw [show unreachable.sel = {} from rfl, real, virtual]
    rfl
  case payload => exact ⟨_, rfl, rfl, rfl⟩
  case named => decide
  case isLocal => rfl
  case url => decide
  case zip => decide

theorem spared_iff_unreachable :
    Spared anyUpload unreachable firstState ↔ FailsEarly anyUpload unreachable firstState :=
  spared_iff anyUpload unreachable firstState fresh_firstState

/-- The answer is an error, and the tokenizer stays registered, stored and marked as loaded. -/
theorem not_spared : ¬ ∀ env req s, Fresh req s → Spared env req s := by
  intro always
  have spared := always anyUpload unreachable firstState fresh_firstState
  obtain ⟨status, body, answer, -⟩ :=
    (spared_iff_clean fresh_firstState uploads_unreachable ⟨rfl, Or.inr rfl⟩).mp spared
  cases answer

end KvIndexer.Gateway.ProfileUpsert
