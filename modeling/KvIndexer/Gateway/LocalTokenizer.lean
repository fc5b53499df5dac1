import KvIndexer.Gateway.TokenizerAsset

/-!
Gateway-local tokenization (`internal/gateway/local_tokenizer.go` and the tokenizer sidecar,
`sidecars/tokenizer/server.py`).

Three tables take part. The asset store keeps a zip and a template for each cluster and
model. The sidecar keeps one tokenizer for each model id, whatever the cluster; asked to
register a model that it has with the template that it has, or with none, it keeps the
tokenizer it has. The gateway caches for each cluster and model the state of the asset that
it registered last. Calls come one after the other. The asset store is MongoDB, whose dates have
milliseconds: a time that is read back is not the one an upload noted, so an uploaded tokenizer
does not count as loaded until a request has registered it again.
-/

namespace KvIndexer.Gateway

/-! ### The sidecar -/

/-- What a tokenizer is loaded from. With an empty template it is the template of the
zip. -/
structure Tokenizer where
  zip : Bytes
  chatTemplate : String
deriving DecidableEq

/-- Hashing, and the libraries of the sidecar. -/
structure SidecarEnv where
  sha256Bytes : Sha256
  /-- the zip can be unpacked -/
  extracts : Bytes → Bool
  /-- `from_pretrained` accepts the files -/
  loads : Tokenizer → Bool

/-- The hash the sidecar notes for a template, "" for none. -/
def SidecarEnv.templateHash (env : SidecarEnv) (chatTemplate : String) : String :=
  if chatTemplate = "" then "" else sha256String env.sha256Bytes chatTemplate

/-- `TOKENIZERS` and `MODEL_TEMPLATE_HASHES`, keyed by model id. The uploads of a model all
go to one directory, so `MODEL_DIRS` is left out. -/
structure Sidecar where
  tokenizers : GoMap String Tokenizer := ∅
  templateHashes : GoMap String String := ∅

namespace Sidecar

variable (env : SidecarEnv) (sc : Sidecar) (modelID : String)

/-- The sidecar answers a registration from its tables. -/
def keeps (chatTemplate : String) : Bool :=
  (sc.tokenizers.lookup modelID).isSome &&
    (chatTemplate = "" ||
      (sc.templateHashes.lookup modelID).getD "" = env.templateHash chatTemplate)

/-- `POST /models` with a zip; the answer is the template hash. -/
def register (t : Tokenizer) : Option (Sidecar × String) :=
  if !env.extracts t.zip then none
  else if sc.keeps env modelID t.chatTemplate then
    some (sc, (sc.templateHashes.lookup modelID).getD "")
  else if env.loads t then
    let hash := env.templateHash t.chatTemplate
    some ({ tokenizers := sc.tokenizers.insert modelID t
            templateHashes := sc.templateHashes.insert modelID hash }, hash)
  else none

end Sidecar

/-! ### The gateway -/

/-- An asset with the bytes of its zip. -/
structure StoredAsset extends TokenizerAsset where
  zipBytes : Bytes := []
deriving DecidableEq

/-- The tokenizer an asset is for. -/
def StoredAsset.tokenizer (asset : StoredAsset) : Tokenizer := ⟨asset.zipBytes, asset.chatTemplate⟩

/-- A BSON date has milliseconds; times are in nanoseconds. -/
def bsonTime (t : Int) : Int := t / 1000000 * 1000000

/-- The asset as it is read back from the store. -/
def StoredAsset.readBack (asset : StoredAsset) : StoredAsset :=
  { asset with updatedAt := bsonTime asset.updatedAt }

@[simp]
theorem StoredAsset.tokenizer_readBack (asset : StoredAsset) :
    asset.readBack.tokenizer = asset.tokenizer := rfl

structure LocalTokenizerState where
  zipSHA256 : String
  chatTemplateSHA256 : String
  updatedAt : Int
deriving DecidableEq

def localStateFromAsset (asset : StoredAsset) : LocalTokenizerState :=
  ⟨asset.zipSHA256, asset.chatTemplateSHA256, asset.updatedAt⟩

/-- The key of the cache. The asset store's is a hash of it. -/
def localKey (cluster modelID : String) : String := cluster ++ "\x00" ++ modelID

/-- The asset store, the gateway's cache and the sidecar. -/
structure LocalTokenizers where
  assets : GoMap String StoredAsset := ∅
  localModels : GoMap String LocalTokenizerState := ∅
  sidecar : Sidecar := {}
  /-- the cluster and model that were found ready last: a request for them goes out next -/
  ensured : Option (String × String) := none

/-- The tokenizer part of a model profile upsert. -/
structure Upload where
  cluster : String
  modelID : String
  tokenizerZip : Bytes := []
  chatTemplate : String := ""
  /-- the cluster of `source_backend` -/
  sourceCluster : Option String := none
  now : Int := 0
  /-- the id a new zip gets -/
  fileID : FileID := 0
  /-- the asset store fails -/
  storeFails : Bool := false

namespace LocalTokenizers

variable (env : SidecarEnv) (s : LocalTokenizers)

def getTokenizerAsset (cluster modelID : String) : Option StoredAsset :=
  s.assets.lookup (localKey cluster modelID)

/-- The bytes of an asset that names a zip. -/
def zipOf (asset : Option StoredAsset) : Bytes :=
  match asset with
  | some asset => if asset.zipFileID.isSome then asset.zipBytes else []
  | none => []

def templateOf (asset : Option StoredAsset) : String := (asset.map fun a => a.chatTemplate).getD ""

/-- Zip and template of an upload: its own, else those stored, else those of the source. -/
def material (u : Upload) : Tokenizer :=
  let existing := s.getTokenizerAsset u.cluster u.modelID
  let template := if u.chatTemplate = "" then templateOf existing else u.chatTemplate
  let zip := if u.tokenizerZip = [] then zipOf existing else u.tokenizerZip
  if zip ≠ [] then ⟨zip, template⟩
  else
    match u.sourceCluster with
    | none => ⟨[], template⟩
    | some source =>
        if source = u.cluster then ⟨[], template⟩
        else
          let asset := s.getTokenizerAsset source u.modelID
          ⟨zipOf asset, if template = "" then templateOf asset else template⟩

/-- The asset that `PutTokenizerAsset` writes and returns. -/
def updatedStoredAsset (input : TokenizerAssetInput) (now : Int) (fileID : FileID) : StoredAsset :=
  let existing := (s.getTokenizerAsset input.cluster input.modelID).getD {}
  let uploaded := if input.tokenizerZip ≠ [] then some fileID else none
  { updatedAsset env.sha256Bytes now existing.toTokenizerAsset input uploaded with
    zipBytes := if input.tokenizerZip ≠ [] then input.tokenizerZip else existing.zipBytes }

/-- The part of `handleModelProfileUpsert` about a local tokenizer. An upload without a zip,
one that the sidecar refuses and one whose asset is not stored end in an error. -/
def upload (u : Upload) : LocalTokenizers :=
  let t := s.material u
  if t.zip = [] then s
  else
    match s.sidecar.register env u.modelID t with
    | none => s
    | some (sidecar, hash) =>
        if u.storeFails then { s with sidecar := sidecar }
        else
          let asset := s.updatedStoredAsset env
            ⟨u.cluster, u.modelID, t.zip, t.chatTemplate, hash⟩ u.now u.fileID
          let key := localKey u.cluster u.modelID
          { s with
            sidecar := sidecar
            assets := s.assets.insert key asset.readBack
            localModels := s.localModels.insert key (localStateFromAsset asset) }

def localTokenizerLoaded (cluster modelID : String) (want : LocalTokenizerState) : Bool :=
  s.localModels.lookup (localKey cluster modelID) = some want

def clearLocalTokenizerLoaded (cluster modelID : String) : LocalTokenizers :=
  { s with localModels := s.localModels.erase (localKey cluster modelID) }

/-- Make the tokenizer of a cluster and model ready; false on an error. -/
def ensureLocalTokenizer (cluster modelID : String) : LocalTokenizers × Bool :=
  match s.getTokenizerAsset cluster modelID with
  | none => (s, false)
  | some asset =>
      if asset.zipFileID = none then (s, false)
      else
        let state := localStateFromAsset asset
        if s.localTokenizerLoaded cluster modelID state then (s, true)
        else if asset.zipBytes = [] then (s, false)
        else
          match s.sidecar.register env modelID asset.tokenizer with
          | none => (s, false)
          | some (sidecar, hash) =>
              let state := if hash ≠ "" then { state with chatTemplateSHA256 := hash } else state
              ({ s with
                 sidecar := sidecar
                 localModels := s.localModels.insert (localKey cluster modelID) state }, true)

/-! ### Steps -/

/-- What the gateway does, one call at a time. -/
inductive Step
  | upload (u : Upload)
  | ensure (cluster modelID : String)
  | clear (cluster modelID : String)

def step (env : SidecarEnv) (s : LocalTokenizers) : Step → LocalTokenizers
  | .upload u => { s.upload env u with ensured := none }
  | .ensure cluster modelID =>
      let (s, ok) := s.ensureLocalTokenizer env cluster modelID
      { s with ensured := if ok then some (cluster, modelID) else none }
  | .clear cluster modelID => { s.clearLocalTokenizerLoaded cluster modelID with ensured := none }

/-- `TokenizeLocalChat`: the tokenizer of the model id answers or fails. -/
def ask {α : Type} (answer : Tokenizer → Option α) (modelID : String) : Option α :=
  (s.sidecar.tokenizers.lookup modelID).bind answer

/-- Tokenize; after a failure once more, with the tokenizer registered again. -/
def tokenizeLocalChat {α : Type} (answer : Tokenizer → Option α) (cluster modelID : String) :
    LocalTokenizers × Option α :=
  let s₁ := s.step env (.ensure cluster modelID)
  if s₁.ensured = none then (s₁, none)
  else
    match s₁.ask answer modelID with
    | some result => (s₁, some result)
    | none =>
        let s₂ := (s₁.step env (.clear cluster modelID)).step env (.ensure cluster modelID)
        if s₂.ensured = none then (s₂, none) else (s₂, s₂.ask answer modelID)

end LocalTokenizers

end KvIndexer.Gateway
