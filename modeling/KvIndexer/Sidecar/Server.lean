import KvIndexer.Sidecar.Storage
import KvIndexer.Lib.GoMap
import KvIndexer.Lib.Run
import Mathlib.Data.Finset.Sort
import Mathlib.Data.String.Basic

/-!
The tokenizer sidecar's requests (`server.py`).

The sidecar holds the disk and three tables by model id: the loaded tokenizers,
the directory each was registered with, and the digest of its chat template. One
process answers one request at a time: `POST /models` reads its body before it
touches anything, and does not wait again.
-/

namespace KvIndexer.Sidecar

open Posix

/-! ### Values of bodies and forms -/

namespace Value

/-- `bool(value)`. -/
def truth : Value → Bool
  | .none => false
  | .bool b => b
  | .int i => i ≠ 0
  | .float shown => shown ≠ "0.0" && shown ≠ "-0.0"
  | .str s => s ≠ ""
  | .list items => !items.isEmpty
  | .dict entries => !entries.isEmpty

def isStr (text : String) : Value → Bool
  | .str s => s == text
  | _ => false

end Value

/-- A field of a multipart form: a text, or an uploaded file with its `repr`. -/
inductive FormValue where
  | text (s : String)
  | upload (shown : String) (filename : String) (content : Bytes)

/-- `str(value or "")`. -/
def FormValue.orEmpty : Option FormValue → String
  | none => ""
  | some (.text s) => s
  | some (.upload shown _ _) => shown

/-- The fields in the order they came. -/
abbrev Form := List (String × FormValue)

/-- `form.get(key)`: the last field of that name. -/
def Form.get (form : Form) (key : String) : Option FormValue := form.reverse.lookup key

/-- The fields of the names `tokenizer_file` and `tokenizer_files` that are files, in order. -/
def Form.tokenizerFiles (form : Form) : List (String × Bytes) := form.filterMap fun field =>
  if field.1 ∈ ["tokenizer_file", "tokenizer_files"] then
    match field.2 with
    | .upload _ filename content => some (filename, content)
    | .text _ => none
  else none

/-- The file of `tokenizer_zip`, if the field is a file. -/
def Form.tokenizerZip (form : Form) : Option Bytes :=
  match form.get "tokenizer_zip" with
  | some (.upload _ _ content) => some content
  | _ => none

structure ModelResp where
  modelId : String
  tokenizerDir : String
  chatTemplateSha256 : String
  deriving DecidableEq

/-- A `POST /tokenize`; what only the tokenizer looks at is kept as it came. -/
structure TokenizeReq where
  model : String
  messages : Option (List Dict)
  prompt : Option String
  options : Dict

/-- A `POST /models`: the JSON body, if it is JSON, or the fields of a multipart form. -/
inductive Registration where
  | json (body : Option Value)
  | form (fields : Form)

inductive Request where
  | healthz
  | models
  | register (request : Registration)
  | tokenize (req : TokenizeReq)

inductive Response where
  | health (models : List String)
  | models (data : List ModelResp)
  | model (resp : ModelResp)
  | tokens (ids : List Int)
  | failed (status : Nat) (detail : String)
  deriving DecidableEq

/-- What the sidecar has from the libraries it imports, beside what its storage uses. -/
structure ServerEnv (T : Type) extends Env T where
  /-- `str` of a value that is not a string. -/
  strValue : Value → String
  /-- Rendering by the chat template, or encoding of the prompt. `none` is an exception. -/
  tokenIds : T → TokenizeReq → Option (List Int)

/-- What the sidecar holds between two requests. -/
structure State (T : Type) where
  disk : Disk
  /-- `TOKENIZERS` -/
  tokenizers : GoMap String T
  /-- `MODEL_DIRS` -/
  modelDirs : GoMap String String
  /-- `MODEL_TEMPLATE_HASHES` -/
  templateHashes : GoMap String String

variable {T : Type} (env : ServerEnv T)

/-- `str(value)`. -/
def str : Value → String
  | .str s => s
  | value => env.strValue value

/-- `str(payload.get(key) or "")`. -/
def strOrEmpty (payload : Dict) (key : String) : String :=
  match payload.get key with
  | some value => if value.truth then str env value else ""
  | none => ""

/-! ### Loading -/

def readTokenizerConfig : Option Node → Except Failure Dict
  | none => .ok []
  | some .directory => .error .os
  | some (.file raw) =>
    match readText raw with
    | none => .error .raised
    | some text =>
      match env.loads text with
      | .ok (.dict cfg) => .ok cfg
      | .ok _ => .error (.http "invalid tokenizer_config.json: expected object")
      | .error (.decode message) =>
        .error (.http ("invalid tokenizer_config.json: " ++ message))
      | .error .other => .error .raised

/-- The words of a text with one blank between them: `" ".join(text.split())`. -/
def squeeze (text : List Char) : List Char :=
  [' '].intercalate ((text.splitOnP isSpace).filter (!·.isEmpty))

def previewBytes (raw : Bytes) : String :=
  String.ofList (squeeze (env.decodeReplace (raw.take 96)).toList)

def startsWithHtml (preview : String) : Bool :=
  let lower := preview.toList.map Char.toLower
  "<!doctype html".toList.isPrefixOf lower || "<html".toList.isPrefixOf lower

def sizeAndStart (raw : Bytes) : String :=
  "; size=" ++ toString raw.length ++ "; starts_with=" ++ env.reprText (previewBytes env raw)

/-- The check of `tokenizer.json` when the configuration names `TokenizersBackend`. -/
def validateTokenizerJson : Option Node → Except Failure Unit
  | none => .error (.http "tokenizer.json required for TokenizersBackend but was not found")
  | some .directory => .error .os
  | some (.file raw) =>
    if raw.length = 0 then .error (.http "invalid tokenizer.json: file is empty")
    else if startsWithHtml (previewBytes env raw) then
      .error
        (.http ("invalid tokenizer.json: file contains HTML, not JSON" ++ sizeAndStart env raw))
    else
      match readText raw with
      | none => .error .raised
      | some text =>
        match env.loads text with
        | .ok (.dict _) => .ok ()
        | .ok _ =>
          .error (.http ("invalid tokenizer.json: expected object" ++ sizeAndStart env raw))
        | .error (.decode message) =>
          .error (.http ("invalid tokenizer.json: " ++ message ++ sizeAndStart env raw))
        | .error .other => .error .raised

def isTokenizersBackend (cfg : Dict) : Bool :=
  (cfg.get "tokenizer_class").any (Value.isStr "TokenizersBackend")

def validateTokenizerFiles (tokenizerJson : Option Node) (cfg : Dict) : Except Failure Unit :=
  if isTokenizersBackend cfg then validateTokenizerJson env tokenizerJson else .ok ()

def loadFailureDetail (exc : String) (cfg : Dict) : String :=
  let tokenizerClass := cfg.get "tokenizer_class"
  let autoMap := cfg.get "auto_map"
  let detail := "load tokenizer failed: " ++ exc ++ "; transformers=" ++ env.transformersVersion ++
    "; tokenizer_class=" ++ env.reprValue tokenizerClass ++ "; auto_map=" ++ env.reprValue autoMap
  if isTokenizersBackend cfg then
    detail ++ ("; GLM-5.1 uses transformers' TokenizersBackend. " ++
      "Rebuild the tokenizer sidecar with transformers>=5.11,<6 and upload " ++
      "tokenizer.json plus tokenizer_config.json from the model repository.")
  else if tokenizerClass.any Value.truth && !autoMap.any Value.truth then
    detail ++ ("; tokenizer_config.json names a custom tokenizer class without auto_map. " ++
      "Upload the complete tokenizer repository files or use a transformers build " ++
      "that provides this class.")
  else detail

/-- What the loading of a directory looks at: its files, and the two that are opened by
path. -/
structure Files where
  config : Option Node
  tokenizerJson : Option Node
  below : Location → Option Node

def filesAt (disk : Disk) (mdir : PurePath) : Files where
  config := disk.node (env.resolve (configPath mdir))
  tokenizerJson := disk.node (env.resolve (mdir.join (.parse "tokenizer.json")))
  below rel := disk.node (env.resolve mdir ++ rel)

/-- `_read_tokenizer_config`, `_validate_tokenizer_files` and the call of the library, in
`_register_model`. The template is that of a request which has one. -/
def loadTokenizer (dir : String) (files : Files) (chatTemplate : Option String) :
    Except Failure T := do
  let cfg ← readTokenizerConfig env files.config
  validateTokenizerFiles env files.tokenizerJson cfg
  match env.fromPretrained dir files.below with
  | .error exc => .error (.http (loadFailureDetail env exc cfg))
  | .ok tokenizer =>
    match chatTemplate with
    | none => .ok tokenizer
    | some template => .ok (env.setChatTemplate tokenizer template)

/-! ### `POST /models` -/

/-- A computation over the sidecar's state. -/
abbrev Handler (T : Type) := EStateM Failure (State T)

def onDisk {α : Type} (effect : Effect α) : Handler T α := fun s =>
  match effect s.disk with
  | .ok a disk => .ok a { s with disk }
  | .error failure disk => .error failure { s with disk }

/-- `try:` with an `except OSError:` that has another value. -/
def exceptOs {α : Type} (effect : Effect α) (otherwise : α) : Effect α := fun disk =>
  match effect disk with
  | .ok a left => .ok a left
  | .error .os left => .ok otherwise left
  | .error failure left => .error failure left

/-- The writing of the template in `_register_model`. -/
def attachTemplate (mdir : PurePath) : Option String → Effect String
  | none => pure ""
  | some template =>
    exceptOs (writeChatTemplate env.toEnv mdir template) (sha256Text env.toEnv template)

/-- The template of a request, if it sends one. -/
def templateOf (payload : Dict) : Option String :=
  match payload.get "chat_template" with
  | some value => if value.truth then some (str env value) else none
  | none => none

/-- The model is registered with this directory, and the request brings no other template. -/
def Registered (s : State T) (modelId dir : String) (chatTemplate : Option String)
    (templateHash : String) : Prop :=
  modelId ∈ s.tokenizers ∧ s.modelDirs.lookup modelId = some dir ∧
    (chatTemplate = none ∨ (s.templateHashes.lookup modelId).getD "" = templateHash)

instance (s : State T) (modelId dir : String) (chatTemplate : Option String)
    (templateHash : String) : Decidable (Registered s modelId dir chatTemplate templateHash) :=
  inferInstanceAs (Decidable (_ ∧ _ ∧ _))

/-- The end of `_register_model`: a directory is there and the template is written. -/
def finishRegistration (modelId : String) (mdir : PurePath) (chatTemplate : Option String)
    (templateHash : String) : Handler T ModelResp := do
  let s ← get
  if Registered s modelId mdir.toString chatTemplate templateHash then
    return ⟨modelId, mdir.toString, (s.templateHashes.lookup modelId).getD ""⟩
  match loadTokenizer env mdir.toString (filesAt env s.disk mdir) chatTemplate with
  | .error failure => throw failure
  | .ok tokenizer =>
    set { s with
      tokenizers := s.tokenizers.insert modelId tokenizer
      modelDirs := s.modelDirs.insert modelId mdir.toString
      templateHashes := s.templateHashes.insert modelId templateHash }
    return ⟨modelId, mdir.toString, templateHash⟩

def registerModel (payload : Dict) : Handler T ModelResp := do
  let modelId := strOrEmpty env payload "model_id"
  let tokenizerDir := strOrEmpty env payload "tokenizer_dir"
  if modelId = "" then throw (.http "model_id required")
  if tokenizerDir = "" then throw (.http "tokenizer_dir or tokenizer upload required")
  let mdir := PurePath.parse tokenizerDir
  let s ← get
  if s.disk.node (env.resolve mdir) ≠ some .directory then
    throw (.http ("tokenizer_dir not found: " ++ tokenizerDir))
  let templateHash ← onDisk (attachTemplate env mdir (templateOf env payload))
  finishRegistration env modelId mdir (templateOf env payload) templateHash

/-- The template of a form: the text field, unless a template file is sent. -/
def Form.chatTemplate (form : Form) : Except Failure String :=
  match form.get "chat_template_file" with
  | some (.upload _ _ raw) =>
    match decode raw with
    | some text => .ok text
    | none => .error .raised
  | _ => .ok (FormValue.orEmpty (form.get "chat_template"))

def Form.modelId (form : Form) : String := FormValue.orEmpty (form.get "model_id")

/-- The form uploads something: an archive, or a file. -/
def Form.Uploads (form : Form) : Prop := form.tokenizerZip.isSome ∨ form.tokenizerFiles ≠ []

instance (form : Form) : Decidable form.Uploads := inferInstanceAs (Decidable (_ ∨ _))

def unpackZip (dst : PurePath) : Option Bytes → Effect Unit
  | some archive => extractZipSafely env.toEnv archive dst
  | none => pure ()

/-- The archive is unpacked first, then the files are written in the order of the form. -/
def unpack (dst : PurePath) (form : Form) : Effect Unit := do
  unpackZip env dst form.tokenizerZip
  form.tokenizerFiles.forM fun file => writeUploadedFile env.toEnv dst file.1 file.2

/-- The directory is emptied before the first of the uploads. -/
def storeUploads (dst : PurePath) (form : Form) : Effect Unit := do
  resetDir env.toEnv dst
  unpack env dst form

def uploadDir (form : Form) : PurePath := safeModelDir env.toEnv env.tokenizerRoot form.modelId

def readMultipartModel (form : Form) : Effect Dict := do
  if form.modelId = "" then throw (.http "model_id required")
  match form.chatTemplate with
  | .error failure => throw failure
  | .ok chatTemplate =>
    if form.Uploads then storeUploads env (uploadDir env form) form
    let tokenizerDir := if form.Uploads then (uploadDir env form).toString
      else FormValue.orEmpty (form.get "tokenizer_dir")
    return [("model_id", .str form.modelId), ("tokenizer_dir", .str tokenizerDir),
      ("chat_template", .str chatTemplate)]

/-! ### The sidecar -/

/-- An `HTTPException` is answered with its status; any other exception with 500. -/
def Failure.response : Failure → Response
  | .http detail => .failed 400 detail
  | .os => .failed 500 "Internal Server Error"
  | .raised => .failed 500 "Internal Server Error"

def answer (handler : Handler T ModelResp) (s : State T) : Response × State T :=
  match handler s with
  | .ok resp s' => (.model resp, s')
  | .error failure s' => (failure.response, s')

def tokenize (s : State T) (req : TokenizeReq) : Response :=
  match s.tokenizers.lookup req.model with
  | none => .failed 404 ("unknown model: " ++ req.model)
  | some tokenizer =>
    if req.messages.isNone ∧ req.prompt.isNone then
      .failed 400 "either messages or prompt required"
    else
      match env.tokenIds tokenizer req with
      | some ids => .tokens ids
      | none => .failed 500 "Internal Server Error"

/-- `sorted(TOKENIZERS)`. -/
def sortedModels (s : State T) : List String := s.tokenizers.keys.sort (· ≤ ·)

def models (s : State T) : List ModelResp := (sortedModels s).map fun modelId =>
  ⟨modelId, (s.modelDirs.lookup modelId).getD "", (s.templateHashes.lookup modelId).getD ""⟩

/-- A body that is no object has no `get`. -/
def register : Registration → Handler T ModelResp
  | .json (some (.dict payload)) => registerModel env payload
  | .json _ => throw .raised
  | .form form => onDisk (readMultipartModel env form) >>= registerModel env

def respond (s : State T) : Request → Response × State T
  | .healthz => (.health (sortedModels s), s)
  | .models => (.models (models s), s)
  | .register request => answer (register env request) s
  | .tokenize req => (tokenize env s req, s)

/-- The state after a request. -/
def step (s : State T) (request : Request) : State T := (respond env s request).2

end KvIndexer.Sidecar
