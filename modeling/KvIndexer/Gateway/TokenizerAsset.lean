import KvIndexer.Lib.GoMap
import KvIndexer.Lib.Run

/-!
Tokenizer assets on MongoDB (`internal/gateway/store.go`).

The record of a cluster and model names a zip file in a GridFS bucket. A put finds the
record, uploads its own zip if it has one, replaces the record and deletes the file the
record named before. The four are separate steps, so puts of one record interleave, and a
put that stops just takes no further steps.
-/

namespace KvIndexer.Gateway

abbrev Bytes := List UInt8

/-- An ObjectID of the bucket. -/
abbrev FileID := Nat

/-- A hash in hex. -/
abbrev Sha256 := Bytes → String

def sha256String (sha256Bytes : Sha256) (s : String) : String := sha256Bytes s.toUTF8.data.toList

def tokenizerAssetID (sha256Bytes : Sha256) (cluster modelID : String) : String :=
  sha256String sha256Bytes (cluster ++ "\x00" ++ modelID)

/-- The tokenizer material of one cluster and model. -/
structure TokenizerAsset where
  id : String := ""
  cluster : String := ""
  modelID : String := ""
  /-- none is the zero id -/
  zipFileID : Option FileID := none
  zipSHA256 : String := ""
  chatTemplate : String := ""
  chatTemplateSHA256 : String := ""
  updatedAt : Int := 0
deriving DecidableEq

/-- An upsert. Without a zip or a template the ones stored are kept. -/
structure TokenizerAssetInput where
  cluster : String
  modelID : String
  tokenizerZip : Bytes := []
  chatTemplate : String := ""
  chatTemplateSHA256 : String := ""

/-- The record a put writes over the one it found, with the file it uploaded, if any. -/
def updatedAsset (sha256Bytes : Sha256) (now : Int) (existing : TokenizerAsset)
    (input : TokenizerAssetInput) (uploaded : Option FileID) : TokenizerAsset where
  id := tokenizerAssetID sha256Bytes input.cluster input.modelID
  cluster := input.cluster
  modelID := input.modelID
  chatTemplate := if input.chatTemplate ≠ "" then input.chatTemplate else existing.chatTemplate
  chatTemplateSHA256 :=
    if input.chatTemplateSHA256 ≠ "" then input.chatTemplateSHA256
    else if input.chatTemplate ≠ "" then sha256String sha256Bytes input.chatTemplate
    else existing.chatTemplateSHA256
  zipFileID := uploaded.or existing.zipFileID
  zipSHA256 :=
    match uploaded with
    | some _ => sha256Bytes input.tokenizerZip
    | none => existing.zipSHA256
  updatedAt := now

/-! ### The steps of a put -/

inductive PutPhase
  | found
  | uploaded (id : FileID)
  | replaced (asset : TokenizerAsset)
  | finished

/-- A call of `PutTokenizerAsset` that has found its record. -/
structure PutCall where
  input : TokenizerAssetInput
  /-- the zero value if there was none -/
  existing : TokenizerAsset
  phase : PutPhase := .found

/-- The collection `tokenizer_assets`, the bucket, and the calls under way. -/
structure AssetStore where
  assets : GoMap String TokenizerAsset := ∅
  bucket : GoMap FileID Bytes := ∅
  /-- ids from here on have never been used -/
  nextFileID : FileID := 0
  calls : GoMap Nat PutCall := ∅

inductive PutStep
  /-- a new call finds its record -/
  | find (call : Nat) (input : TokenizerAssetInput)
  /-- a call takes its next step -/
  | turn (call : Nat) (now : Int)

namespace AssetStore

variable (sha256Bytes : Sha256) (s : AssetStore)

def find (call : Nat) (input : TokenizerAssetInput) : AssetStore :=
  match s.calls.lookup call with
  | some _ => s
  | none =>
      if input.cluster = "" ∨ input.modelID = "" then s
      else
        let key := tokenizerAssetID sha256Bytes input.cluster input.modelID
        let c : PutCall := { input := input, existing := (s.assets.lookup key).getD {} }
        { s with calls := s.calls.insert call c }

/-- `UploadFromStream` -/
def upload (call : Nat) (c : PutCall) : AssetStore :=
  { s with
    bucket := s.bucket.insert s.nextFileID c.input.tokenizerZip
    nextFileID := s.nextFileID + 1
    calls := s.calls.insert call { c with phase := .uploaded s.nextFileID } }

/-- `ReplaceOne` -/
def replace (call : Nat) (c : PutCall) (now : Int) (uploaded : Option FileID) : AssetStore :=
  let asset := updatedAsset sha256Bytes now c.existing c.input uploaded
  { s with
    assets := s.assets.insert asset.id asset
    calls := s.calls.insert call { c with phase := .replaced asset } }

/-- The file a put is to delete after it wrote `asset`. -/
def oldZip (c : PutCall) (asset : TokenizerAsset) : Option FileID :=
  c.existing.zipFileID.filter fun old => asset.zipFileID ≠ some old

/-- `bucket.Delete` of the old file. It does not matter whether the file exists. -/
def deleteOld (call : Nat) (c : PutCall) (asset : TokenizerAsset) : AssetStore :=
  { s with
    bucket :=
      match oldZip c asset with
      | some old => s.bucket.erase old
      | none => s.bucket
    calls := s.calls.insert call { c with phase := .finished } }

def turn (call : Nat) (now : Int) : AssetStore :=
  match s.calls.lookup call with
  | none => s
  | some c =>
      match c.phase with
      | .found =>
          if c.input.tokenizerZip ≠ [] then s.upload call c
          else s.replace sha256Bytes call c now none
      | .uploaded id => s.replace sha256Bytes call c now (some id)
      | .replaced asset => s.deleteOld call c asset
      | .finished => s

def step : PutStep → AssetStore
  | .find call input => s.find sha256Bytes call input
  | .turn call now => s.turn sha256Bytes call now

/-- Every record has no zip, or names a file of the bucket with its hash. -/
def Intact : Prop :=
  ∀ key asset, s.assets.lookup key = some asset → ∀ id, asset.zipFileID = some id →
    ∃ zip, s.bucket.lookup id = some zip ∧ asset.zipSHA256 = sha256Bytes zip

end AssetStore

end KvIndexer.Gateway
