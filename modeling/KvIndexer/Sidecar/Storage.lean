import KvIndexer.Lib.FileTree
import KvIndexer.Lib.Pathlib

/-!
The tokenizer sidecar's storage of uploads (`storage.py`).

Each function runs over the disk and may fail; what it did before it failed stays
done. What the sidecar has from elsewhere is gathered in `Env`: where the
operating system finds a path and what it refuses there, the digest, the JSON
reader and printer, the reader of archives, and the tokenizer library.

A string of the source is a sequence of Unicode characters here: a lone
surrogate, which no UTF-8 file can hold, is left out.
-/

namespace KvIndexer.Sidecar

open Posix

/-! ### What the source has from elsewhere -/

/-- A value that `json.loads` returns. A float is known by its `repr`. -/
inductive Value where
  | none
  | bool (b : Bool)
  | int (i : Int)
  | float (shown : String)
  | str (s : String)
  | list (items : List Value)
  | dict (entries : List (String × Value))

abbrev Dict := List (String × Value)

/-- `data.get(key)`. -/
def Dict.get (data : Dict) (key : String) : Option Value := data.lookup key

/-- `data[key] = value`: a key that is there keeps its place. -/
def Dict.set (data : Dict) (key : String) (value : Value) : Dict :=
  if data.any (·.1 == key) then data.map fun entry => if entry.1 == key then (key, value) else entry
  else data ++ [(key, value)]

/-- What `json.loads` raises: a `JSONDecodeError` with its text, or something else (too many
digits in a number, too deep a nesting). -/
inductive LoadsError where
  | decode (message : String)
  | other

/-- What comes out of an archive member or an upload when it is copied: it may not open at
all, or break after some bytes. -/
inductive Source where
  | unreadable
  | bytes (content : Bytes) (complete : Bool)

/-- `zipfile.ZipInfo`. -/
structure ZipInfo where
  filename : String
  source : Source

/-- `info.is_dir()`. -/
def ZipInfo.isDir (info : ZipInfo) : Bool := info.filename.toList.getLast? == some '/'

structure Env (T : Type) where
  /-- `TOKENIZER_ROOT` -/
  tokenizerRoot : PurePath
  /-- `path.resolve()`, which is also where the operating system finds the path. -/
  resolve : PurePath → Location
  refuses : Location → Bool
  /-- `hashlib.sha256(...).hexdigest()` -/
  sha256 : Bytes → String
  /-- `raw.decode("utf-8", errors="replace")` -/
  decodeReplace : Bytes → String
  loads : String → Except LoadsError Value
  /-- `json.dumps(data, ensure_ascii=False, indent=2)` -/
  dumps : Dict → String
  /-- `zipfile.ZipFile(src).infolist()`; `none` is a file that is no archive. -/
  infolist : Bytes → Option (List ZipInfo)
  /-- `AutoTokenizer.from_pretrained(dir, trust_remote_code=True)` over the files below `dir`,
  or the text of what it raises. -/
  fromPretrained : String → (Location → Option Node) → Except String T
  /-- `tokenizer.chat_template = template` -/
  setChatTemplate : T → String → T
  /-- `repr` of a string, and of what `cfg.get` returns. -/
  reprText : String → String
  reprValue : Option Value → String
  transformersVersion : String

/-- `text.encode("utf-8")`. -/
def encode (text : String) : Bytes := text.toUTF8.data.toList

/-- `raw.decode("utf-8")`. -/
def decode (raw : Bytes) : Option String := String.fromUTF8? ⟨raw.toArray⟩

/-- A text file is read with every kind of line end as a newline. -/
def universalNewlines : List Char → List Char
  | '\r' :: '\n' :: rest => '\n' :: universalNewlines rest
  | '\r' :: rest => '\n' :: universalNewlines rest
  | c :: rest => c :: universalNewlines rest
  | [] => []

/-- `path.read_text(encoding="utf-8")`. -/
def readText (raw : Bytes) : Option String :=
  (decode raw).map fun text => String.ofList (universalNewlines text.toList)

/-- `str.isspace` of one character. -/
def isSpace (c : Char) : Bool :=
  (9 ≤ c.toNat && c.toNat ≤ 13) || (28 ≤ c.toNat && c.toNat ≤ 32) || c.toNat == 0x85 ||
    c.toNat == 0xa0 || c.toNat == 0x1680 || (0x2000 ≤ c.toNat && c.toNat ≤ 0x200a) ||
    c.toNat == 0x2028 || c.toNat == 0x2029 || c.toNat == 0x202f || c.toNat == 0x205f ||
    c.toNat == 0x3000

/-- `text.strip()`, with the characters to drop. -/
def strip (drops : Char → Bool) (text : List Char) : List Char :=
  ((text.dropWhile drops).reverse.dropWhile drops).reverse

/-! ### Failures and effects -/

/-- What ends a request early: an `HTTPException` of status 400, an `OSError`, or any other
exception. -/
inductive Failure where
  | http (detail : String)
  | os
  | raised
  deriving DecidableEq

/-- A computation over the disk. A failure keeps what was done before it. -/
abbrev Effect := EStateM Failure Disk

section Calls

variable (refuses : Location → Bool)

/-- `path.mkdir(parents=True, exist_ok=True)`. -/
def mkdir (loc : Location) : Effect Unit := fun disk =>
  if disk.Reachable refuses loc then .ok () (disk.mkdirs refuses loc)
  else .error .os (disk.mkdirs refuses loc)

/-- `shutil.rmtree(path)`. -/
def rmtree (loc : Location) : Effect Unit := fun disk =>
  match disk.rmtree refuses loc with
  | some left => .ok () left
  | none => .error .os disk

/-- A file opened for writing, and the bytes written. -/
def writeBytes (loc : Location) (content : Bytes) : Effect Unit := fun disk =>
  match disk.write refuses loc content with
  | some written => .ok () written
  | none => .error .os disk

end Calls

variable {T : Type} (env : Env T)

/-! ### `storage.py` -/

def sha256Text (text : String) : String := env.sha256 (encode text)

/-- The characters of `[A-Za-z0-9_.-]`. -/
def isSlugChar (c : Char) : Bool := c.isAlphanum || c == '_' || c == '.' || c == '-'

/-- `re.sub(r"[^A-Za-z0-9_.-]+", "-", text)`; the flag says that a run of other characters
has its dash already. -/
def dashed : Bool → List Char → List Char
  | _, [] => []
  | inRun, c :: rest =>
    if isSlugChar c then c :: dashed false rest
    else if inRun then dashed true rest
    else '-' :: dashed true rest

def slugOf (modelId : String) : List Char :=
  match strip (· == '-') (dashed false (strip isSpace modelId.toList)) with
  | [] => "model".toList
  | slug => slug

def safeModelDir (root : PurePath) (modelId : String) : PurePath :=
  root.join (.parse (String.ofList
    ((slugOf modelId).take 80 ++ '-' :: (sha256Text env modelId).toList.take 16)))

def resetDir (path : PurePath) : Effect Unit := do
  let disk ← get
  if disk.node (env.resolve path) ≠ none then
    rmtree env.refuses (env.resolve path)
  mkdir env.refuses (env.resolve path)

/-- The location stands for `out`, the resolved path. -/
def safeJoin (root : PurePath) (name : String) : Effect Location :=
  let rel := PurePath.parse name
  if rel.isAbsolute ∨ ∃ part ∈ rel.parts, part ∈ ["", ".", ".."] then throw .raised
  else
    let out := env.resolve (root.join rel)
    if env.resolve root <+: out then pure out else throw .raised

/-- The bytes go to the file as they come; a source that breaks leaves what it gave. -/
def copyTo (target : Location) : Source → Effect Unit
  | .unreadable => throw .raised
  | .bytes content complete => do
    writeBytes env.refuses target content
    unless complete do throw .raised

def extractMember (dst : PurePath) (info : ZipInfo) : Effect Unit := do
  let target ← safeJoin env dst info.filename
  if info.isDir then mkdir env.refuses target
  else
    mkdir env.refuses target.dropLast
    copyTo env target info.source

def extractZipSafely (src : Bytes) (dst : PurePath) : Effect Unit := do
  mkdir env.refuses (env.resolve dst)
  match env.infolist src with
  | none => throw .raised
  | some infos => infos.forM (extractMember env dst)

def writeUploadedFile (dstRoot : PurePath) (filename : String) (content : Bytes) : Effect Unit := do
  let target ← safeJoin env dstRoot filename
  mkdir env.refuses target.dropLast
  copyTo env target (.bytes content true)

/-- The entries the template is added to: those of the file, if it holds an object. -/
def configEntries : Option Node → Except Failure Dict
  | none => .ok []
  | some .directory => .error .os
  | some (.file raw) =>
    match readText raw with
    | none => .error .raised
    | some text =>
      match strip isSpace text.toList with
      | [] => .ok []
      | trimmed =>
        match env.loads (String.ofList trimmed) with
        | .ok (.dict entries) => .ok entries
        | .ok _ => .ok []
        | .error (.decode _) => .ok []
        | .error .other => .error .raised

/-- The path of `tokenizer_config.json` in a directory. -/
def configPath (dir : PurePath) : PurePath := dir.join (.parse "tokenizer_config.json")

def readEntries (config : Location) : Effect Dict := fun disk =>
  match configEntries env (disk.node config) with
  | .ok entries => .ok entries disk
  | .error failure => .error failure disk

def withTemplate (entries : Dict) (chatTemplate : String) : Bytes :=
  encode (env.dumps (entries.set "chat_template" (.str chatTemplate)) ++ "\n")

def writeChatTemplate (tokenizerDir : PurePath) (chatTemplate : String) : Effect String :=
  if chatTemplate = "" then pure ""
  else do
    mkdir env.refuses (env.resolve tokenizerDir)
    let data ← readEntries env (env.resolve (configPath tokenizerDir))
    writeBytes env.refuses (env.resolve (configPath tokenizerDir))
      (withTemplate env data chatTemplate)
    return sha256Text env chatTemplate

end KvIndexer.Sidecar
