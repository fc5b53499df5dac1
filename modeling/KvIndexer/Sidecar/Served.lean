import KvIndexer.Sidecar.Registration

/-!
Which tokenizer a model is served with after an upload (`_read_multipart_model`,
`_register_model`, `server.py`).

An upload goes to a directory named after the model id, so a second upload for the
model replaces the files behind the path the first was registered with. The shortcut
of `_register_model` compares that path and the template, not the files, and then
answers without loading. `upload_served_iff` says when the tokenizer in service is the
one of the uploaded files.
-/

namespace KvIndexer.Sidecar

open Posix Posix.Disk Effects

variable {T : Type} (env : ServerEnv T)

/-- The request registers the model. -/
def Registers (s : State T) (request : Request) (modelId : String) : Prop :=
  ∃ resp, (respond env s request).1 = .model resp ∧ resp.modelId = modelId

/-! ### Until the next registration -/

/-- A request that does not register the model leaves its tokenizer. -/
theorem lookup_step {s : State T} {request : Request} {modelId : String}
    (other : ¬ Registers env s request modelId) :
    (step env s request).tokenizers.lookup modelId = s.tokenizers.lookup modelId := by
  cases request with
  | healthz => rfl
  | models => rfl
  | tokenize req => rfl
  | register request =>
      have ends := register_ends env s request
      have answered : respond env s (.register request) =
        answer (register env request) s := rfl
      unfold Registers at other
      unfold step
      rw [answered] at other ⊢
      unfold answer at other ⊢
      generalize register env request s = result at ends other ⊢
      cases ends with
      | refused failure disk => rfl
      | registered resp disk => rfl
      | loaded resp tokenizer disk =>
          have elsewhere : modelId ≠ resp.modelId := fun same => other ⟨resp, rfl, same.symm⟩
          exact Finmap.lookup_insert_of_ne _ elsewhere

theorem lookup_run {s : State T} {modelId : String} {later : List Request}
    (others :
      Run.EachStep (step env) (fun s request => ¬ Registers env s request modelId) s later) :
    (Run.run (step env) s later).tokenizers.lookup modelId = s.tokenizers.lookup modelId :=
  @Run.run_invariant _ _ (step env) (fun s request => ¬ Registers env s request modelId)
    (fun s' => s'.tokenizers.lookup modelId = s.tokenizers.lookup modelId)
    (fun _ _ other same => (lookup_step env other).trans same) s later rfl others

/-! ### A successful upload -/

/-- The digest `_register_model` has for a template. -/
def templateHash (template : Option String) : String := template.elim "" (sha256Text env.toEnv)

/-- The uploaded files as the loading of their directory sees them. -/
def uploadedFiles (form : Form) : Files :=
  filesAt (env.chroot (env.resolve (uploadDir env form))) (leaves env form) here

section Upload

variable {env} {s : State T} {form : Form} {resp : ModelResp}

theorem template_ne_empty {template : String} (sent : form.template = some template) :
    template ≠ "" := by
  unfold Form.template at sent
  cases read : form.chatTemplate with
  | error failure => rw [read] at sent; cases sent
  | ok text =>
      rw [read] at sent
      simp only [Option.ite_none_left_eq_some, Option.some.injEq] at sent
      exact sent.2 ▸ sent.1

/-- When the template is attached, or only the disk refuses it, the digest is that of the
template. -/
theorem attachTemplate_returns (mdir : PurePath) :
    Returns (· = templateHash env form.template) (attachTemplate env mdir form.template) := by
  cases sent : form.template with
  | none => exact .pure rfl
  | some template =>
      have returns : Returns (· = sha256Text env.toEnv template)
          (writeChatTemplate env.toEnv mdir template) := by
        unfold writeChatTemplate
        rw [if_neg (template_ne_empty sent)]
        exact .bind fun _ => .bind fun _ => .bind fun _ => .pure rfl
      intro disk hash written attached
      simp only [attachTemplate, exceptOs] at attached
      split at attached
      · rename_i value left wrote
        obtain ⟨rfl, -⟩ := EStateM.Result.ok.inj attached
        exact returns _ _ _ wrote
      · exact (EStateM.Result.ok.inj attached).1.symm
      · cases attached

/-- The two files that are opened by path, and all below, are those of the upload. -/
theorem filesAt_grafted (links : LinkFree env.resolve (uploadDir env form)) {base disk : Disk}
    (graft : Grafted base (env.resolve (uploadDir env form)) (leaves env form) disk) :
    filesAt env disk (uploadDir env form) = uploadedFiles env form := by
  have config : disk.node (env.resolve (configPath (uploadDir env form))) =
      (leaves env form).node (PurePath.parts (configPath here)) := by
    rw [resolve_configPath env links, graft.inside]
    rfl
  have tokenizerJson : disk.node
      (env.resolve ((uploadDir env form).join (.parse "tokenizer.json"))) =
      (leaves env form).node (PurePath.parts (here.join (.parse "tokenizer.json"))) := by
    rw [resolve_tokenizerJson env links, graft.inside]
    rfl
  unfold uploadedFiles filesAt
  rw [config, tokenizerJson]
  congr 1
  funext rel
  rw [graft.inside]
  rfl

/-- A form that is answered was read, and its directory could be emptied. -/
theorem readable_of_answered (uploads : form.Uploads)
    (answered : (respond env s (.register (.form form))).1 = .model resp) :
    form.modelId ≠ "" ∧ (∃ template, form.chatTemplate = .ok template) ∧
      Resettable env.toEnv (uploadDir env form) s.disk := by
  have ended : (answer (register env (.form form)) s).1 = .model resp := answered
  have notFailed : ∀ failure left, register env (.form form) s ≠ .error failure left := by
    intro failure left failed
    rw [answer, failed] at ended
    cases failure <;> cases ended
  have named : form.modelId ≠ "" := by
    intro unnamed
    obtain ⟨failure, failed⟩ :=
      @register_form_refused T env s form .raised (Or.inl unnamed)
    exact notFailed _ _ failed
  cases read : form.chatTemplate with
  | error failure =>
      obtain ⟨failure, failed⟩ := register_form_refused env (s := s) (Or.inr read)
      exact absurd failed (notFailed _ _)
  | ok template =>
      refine ⟨named, ⟨template, rfl⟩, ?_⟩
      by_contra stuck
      obtain ⟨disk, failed, -⟩ := register_upload_stuck env named read uploads stuck
      exact notFailed _ _ failed

/-- An upload that succeeds left its files, and came to the end of the registration. -/
theorem upload_finishes (links : LinkFree env.resolve (uploadDir env form)) (uploads : form.Uploads)
    (answered : (respond env s (.register (.form form))).1 = .model resp) :
    ∃ disk, filesAt env disk (uploadDir env form) = uploadedFiles env form ∧
      finishRegistration env form.modelId (uploadDir env form) form.template
        (templateHash env form.template) { s with disk } =
          .ok resp (step env s (.register (.form form))) := by
  obtain ⟨named, ⟨template, read⟩, resettable⟩ := readable_of_answered uploads answered
  obtain ⟨left, reset, graft, -⟩ := resetDir_ok env.toEnv resettable
  have registers := register_upload env links named read uploads reset graft
  have installs := install_simulates env links form form.template .empty left graft
  have ended : respond env s (.register (.form form)) = answer (register env (.form form)) s := rfl
  unfold step
  rw [ended, answer, registers] at answered ⊢
  cases installed : install env (uploadDir env form) form form.template left with
  | error failure stopped =>
      rw [@onDisk_error T String ModelResp _ _ { s with disk := left } _ _ installed] at answered
      cases failure <;> cases answered
  | ok hash full =>
      rw [@onDisk_ok T String ModelResp _ _ { s with disk := left } _ _ installed] at answered ⊢
      rw [installed] at installs
      have value : Returns (· = templateHash env form.template)
          (install env (uploadDir env form) form form.template) :=
        .bind fun _ => attachTemplate_returns _
      obtain rfl : hash = templateHash env form.template := value _ _ _ installed
      refine ⟨full, filesAt_grafted links installs.related, ?_⟩
      cases finished : finishRegistration env form.modelId (uploadDir env form) form.template
          (templateHash env form.template) { s with disk := full } with
      | error failure stopped =>
          rw [finished] at answered
          cases failure <;> cases answered
      | ok answer' after =>
          rw [finished] at answered
          cases answered
          rfl

/-- When the shortcut is taken the tables are those from before. -/
theorem upload_registered (links : LinkFree env.resolve (uploadDir env form))
    (uploads : form.Uploads)
    (answered : (respond env s (.register (.form form))).1 = .model resp)
    (registered : Registered s form.modelId (uploadDir env form).toString form.template
      (templateHash env form.template)) :
    (step env s (.register (.form form))).tokenizers = s.tokenizers ∧
      filesAt env (step env s (.register (.form form))).disk (uploadDir env form) =
        uploadedFiles env form := by
  obtain ⟨disk, files, finished⟩ := upload_finishes links uploads answered
  rw [finishRegistration_registered env (s := { s with disk }) registered] at finished
  obtain ⟨-, after⟩ := EStateM.Result.ok.inj finished
  rw [← after]
  exact ⟨rfl, files⟩

/-- Otherwise the uploaded files are loaded and served. -/
theorem upload_loads (links : LinkFree env.resolve (uploadDir env form)) (uploads : form.Uploads)
    (answered : (respond env s (.register (.form form))).1 = .model resp)
    (fresh : ¬ Registered s form.modelId (uploadDir env form).toString form.template
      (templateHash env form.template)) :
    ∃ tokenizer,
      loadTokenizer env (uploadDir env form).toString (uploadedFiles env form) form.template =
        .ok tokenizer ∧
      (step env s (.register (.form form))).tokenizers =
        s.tokenizers.insert form.modelId tokenizer ∧
      filesAt env (step env s (.register (.form form))).disk (uploadDir env form) =
        uploadedFiles env form := by
  obtain ⟨disk, files, finished⟩ := upload_finishes links uploads answered
  cases loads : loadTokenizer env (uploadDir env form).toString (uploadedFiles env form)
      form.template with
  | error failure =>
      rw [← files] at loads
      rw [finishRegistration_fails env (s := { s with disk }) fresh loads] at finished
      cases finished
  | ok tokenizer =>
      rw [← files] at loads
      rw [finishRegistration_loads env (s := { s with disk }) fresh loads] at finished
      obtain ⟨-, after⟩ := EStateM.Result.ok.inj finished
      refine ⟨tokenizer, rfl, ?_, ?_⟩
      · rw [← after]
      · rw [← after]
        exact files

end Upload

/-! ### Which tokenizer is served -/

/-- The upload's files load, and the model is served with what they load to until a later
request registers it. -/
def ServesUpload (s : State T) (form : Form) : Prop :=
  ∃ tokenizer,
    loadTokenizer env (uploadDir env form).toString
        (filesAt env (step env s (.register (.form form))).disk (uploadDir env form))
        form.template = .ok tokenizer ∧
      ∀ later,
        Run.EachStep (step env) (fun s request => ¬ Registers env s request form.modelId)
            (step env s (.register (.form form))) later →
          (Run.run (step env) (step env s (.register (.form form))) later).tokenizers.lookup
            form.modelId = some tokenizer

/-- The uploaded tokenizer is served unless the model is registered with its upload
directory already and the form brings no other template. Then it is served only if the
files load to the tokenizer that is in service. -/
theorem upload_served_iff {s : State T} {form : Form} {resp : ModelResp}
    (links : LinkFree env.resolve (uploadDir env form)) (uploads : form.Uploads)
    (answered : (respond env s (.register (.form form))).1 = .model resp) :
    ServesUpload env s form ↔
      ¬ Registered s form.modelId (uploadDir env form).toString form.template
          (templateHash env form.template) ∨
        ∃ tokenizer,
          loadTokenizer env (uploadDir env form).toString (uploadedFiles env form) form.template =
              .ok tokenizer ∧
            s.tokenizers.lookup form.modelId = some tokenizer := by
  by_cases registered : Registered s form.modelId (uploadDir env form).toString form.template
      (templateHash env form.template)
  · obtain ⟨tables, files⟩ := upload_registered links uploads answered registered
    unfold ServesUpload
    rw [files]
    constructor
    · rintro ⟨tokenizer, loads, served⟩
      have now := served [] trivial
      rw [Run.run_nil, tables] at now
      exact Or.inr ⟨tokenizer, loads, now⟩
    · rintro (fresh | ⟨tokenizer, loads, now⟩)
      · exact absurd registered fresh
      · refine ⟨tokenizer, loads, fun later others => ?_⟩
        rw [lookup_run env others, tables, now]
  · refine iff_of_true ?_ (Or.inl registered)
    obtain ⟨tokenizer, loads, tables, files⟩ := upload_loads links uploads answered registered
    unfold ServesUpload
    rw [files]
    refine ⟨tokenizer, loads, fun later others => ?_⟩
    rw [lookup_run env others, tables, Finmap.lookup_insert]

/-! ### A second upload -/

section SecondUpload

/-- A `tokenizer_config.json` that names a class. -/
def configText (tokenizerClass : String) : String :=
  "\x7b\"tokenizer_class\": \"" ++ tokenizerClass ++ "\"\x7d"

/-- A `tokenizer.json` of one word. -/
def oneWord (word : String) : Bytes :=
  encode ("\x7b\"model\": \x7b\"type\": \"WordLevel\", \"vocab\": \x7b\"" ++ word ++
    "\": 0\x7d, \"unk_token\": \"" ++ word ++ "\"\x7d\x7d")

/-- A sidecar whose tokenizers are the bytes of their `tokenizer.json`. -/
def byteTokenizers : ServerEnv Bytes where
  tokenizerRoot := .parse "/data/tokenizers"
  resolve := PurePath.lexical
  refuses _ := false
  sha256 raw :=
    if raw = encode "m" then "62c66a7a5dd70c3146618063c344e531e6d4b59e379808443ce962b3abd63c5a"
    else ""
  decodeReplace _ := ""
  loads text :=
    match ["PreTrainedTokenizerFast", "TokenizersBackend"].find? (configText · = text) with
    | some tokenizerClass => .ok (.dict [("tokenizer_class", .str tokenizerClass)])
    | none => .error (.decode "Expecting value: line 1 column 1 (char 0)")
  dumps _ := ""
  infolist _ := none
  fromPretrained _ files :=
    match files ["tokenizer.json"] with
    | some (.file raw) => .ok raw
    | _ => .error "Can't load tokenizer"
  setChatTemplate tokenizer _ := tokenizer
  reprText text := text
  reprValue _ := ""
  transformersVersion := "5.11.0"
  strValue _ := ""
  tokenIds _ _ := none

/-- An upload for the model `m`. -/
def uploadOf (files : List (String × Bytes)) : Form :=
  ("model_id", .text "m") :: files.map fun file => ("tokenizer_file", .upload "" file.1 file.2)

def wordUpload (word : String) : Form :=
  uploadOf [("tokenizer_config.json", encode (configText "PreTrainedTokenizerFast")),
    ("tokenizer.json", oneWord word)]

/-- A sidecar as it starts, without models. -/
def noModels : State Bytes := ⟨.empty, ∅, ∅, ∅⟩

/-- The sidecar after it was given a tokenizer for `m`. -/
def afterFirst : State Bytes := step byteTokenizers noModels (.register (.form (wordUpload "a")))

theorem byteTokenizers_linkFree (dir : PurePath) : LinkFree byteTokenizers.resolve dir :=
  fun _ relative stays => dir.lexical_join relative stays

/-- The tokenizer of a second upload is answered for, and not served. -/
theorem second_upload_not_served :
    (respond byteTokenizers afterFirst (.register (.form (wordUpload "b")))).1 =
        .model ⟨"m", "/data/tokenizers/m-62c66a7a5dd70c31", ""⟩ ∧
      ¬ ServesUpload byteTokenizers afterFirst (wordUpload "b") := by
  obtain ⟨answered, read, kept⟩ :
      (respond byteTokenizers afterFirst (.register (.form (wordUpload "b")))).1 =
          .model ⟨"m", "/data/tokenizers/m-62c66a7a5dd70c31", ""⟩ ∧
        loadTokenizer byteTokenizers (uploadDir byteTokenizers (wordUpload "b")).toString
            (filesAt byteTokenizers
              (step byteTokenizers afterFirst (.register (.form (wordUpload "b")))).disk
              (uploadDir byteTokenizers (wordUpload "b")))
            (wordUpload "b").template = .ok (oneWord "b") ∧
          (step byteTokenizers afterFirst
            (.register (.form (wordUpload "b")))).tokenizers.lookup (wordUpload "b").modelId =
              some (oneWord "a") := by
    decide +kernel
  refine ⟨answered, ?_⟩
  rintro ⟨tokenizer, loads, served⟩
  have now := served [] trivial
  rw [Run.run_nil] at now
  have loaded : oneWord "b" = tokenizer := Except.ok.inj (read.symm.trans loads)
  have same : tokenizer = oneWord "a" := Option.some.inj (now.symm.trans kept)
  exact absurd (loaded.trans same) (by decide +kernel)

/-- The tokenizer of the first upload is served. -/
theorem first_upload_served : ServesUpload byteTokenizers noModels (wordUpload "a") :=
  (@upload_served_iff Bytes byteTokenizers noModels (wordUpload "a")
    ⟨"m", "/data/tokenizers/m-62c66a7a5dd70c31", ""⟩ (byteTokenizers_linkFree _)
    (by decide +kernel) (by decide +kernel)).mpr (Or.inl (by decide +kernel))

end SecondUpload

end KvIndexer.Sidecar
