import KvIndexer.Sidecar.UploadDir

/-!
What a `POST /models` comes down to (`_read_multipart_model`, `_register_model`,
`server.py`).

A registration is refused before it touches the disk, or it writes the template into
a directory and then either finds the model registered with that directory or loads
it (`registerModel_of_directory`, `finishRegistration_loads`). An upload empties its
directory first; from there on what it does is known from the form
(`register_upload`).
-/

namespace KvIndexer.Sidecar

open Posix Posix.Disk Effects

variable {T : Type} (env : ServerEnv T)

/-! ### Effects of the disk alone -/

section OnDisk

variable {α β : Type} {m : Effect α} {next : α → Handler T β} {s : State T} {disk : Disk}

theorem onDisk_ok {a : α} (done : m s.disk = .ok a disk) :
    (onDisk m >>= next) s = next a { s with disk } := by
  show EStateM.bind (onDisk m) next s = _
  unfold EStateM.bind onDisk
  rw [done]

theorem onDisk_error {failure : Failure} (failed : m s.disk = .error failure disk) :
    (onDisk m >>= next) s = .error failure { s with disk } := by
  show EStateM.bind (onDisk m) next s = _
  unfold EStateM.bind onDisk
  rw [failed]

end OnDisk

/-! ### The end of a registration -/

section Finish

variable {s : State T} {modelId : String} {mdir : PurePath} {template : Option String}
  {templateHash : String}

theorem finishRegistration_registered
    (registered : Registered s modelId mdir.toString template templateHash) :
    finishRegistration env modelId mdir template templateHash s =
      .ok ⟨modelId, mdir.toString, (s.templateHashes.lookup modelId).getD ""⟩ s := by
  show (if _ then _ else _ : Handler T ModelResp) s = _
  rw [if_pos registered]
  rfl

theorem finishRegistration_loads {tokenizer : T}
    (fresh : ¬ Registered s modelId mdir.toString template templateHash)
    (loads : loadTokenizer env mdir.toString (filesAt env s.disk mdir) template = .ok tokenizer) :
    finishRegistration env modelId mdir template templateHash s =
      .ok ⟨modelId, mdir.toString, templateHash⟩ { s with
        tokenizers := s.tokenizers.insert modelId tokenizer
        modelDirs := s.modelDirs.insert modelId mdir.toString
        templateHashes := s.templateHashes.insert modelId templateHash } := by
  show (if _ then _ else _ : Handler T ModelResp) s = _
  rw [if_neg fresh, loads]
  rfl

theorem finishRegistration_fails {failure : Failure}
    (fresh : ¬ Registered s modelId mdir.toString template templateHash)
    (fails : loadTokenizer env mdir.toString (filesAt env s.disk mdir) template =
      .error failure) :
    finishRegistration env modelId mdir template templateHash s = .error failure s := by
  show (if _ then _ else _ : Handler T ModelResp) s = _
  rw [if_neg fresh, fails]
  rfl

end Finish

section Register

variable {s : State T} {payload : Dict}

theorem registerModel_of_directory (named : strOrEmpty env payload "model_id" ≠ "")
    (given : strOrEmpty env payload "tokenizer_dir" ≠ "")
    (stands : s.disk.node (env.resolve (.parse (strOrEmpty env payload "tokenizer_dir"))) =
      some .directory) :
    registerModel env payload s =
      (onDisk (attachTemplate env (.parse (strOrEmpty env payload "tokenizer_dir"))
          (templateOf env payload)) >>= fun templateHash =>
        finishRegistration env (strOrEmpty env payload "model_id")
          (.parse (strOrEmpty env payload "tokenizer_dir")) (templateOf env payload)
          templateHash) s := by
  have there : ¬ s.disk.node (env.resolve (.parse (strOrEmpty env payload "tokenizer_dir"))) ≠
      some .directory := not_not.mpr stands
  simp only [registerModel, if_neg named, if_neg given]
  show (if _ then _ else _ : Handler T ModelResp) s = _
  rw [if_neg there]

/-- Without an id or a directory nothing is done. -/
theorem registerModel_refused (missing : strOrEmpty env payload "model_id" = "" ∨
      strOrEmpty env payload "tokenizer_dir" = "" ∨
      s.disk.node (env.resolve (.parse (strOrEmpty env payload "tokenizer_dir"))) ≠
        some .directory) :
    ∃ detail, registerModel env payload s = .error (.http detail) s := by
  unfold registerModel
  by_cases named : strOrEmpty env payload "model_id" = ""
  · exact ⟨_, by simp only [if_pos named]; rfl⟩
  · by_cases given : strOrEmpty env payload "tokenizer_dir" = ""
    · exact ⟨_, by simp only [if_neg named, if_pos given]; rfl⟩
    · have notThere := (missing.resolve_left named).resolve_left given
      refine ⟨"tokenizer_dir not found: " ++ strOrEmpty env payload "tokenizer_dir", ?_⟩
      simp only [if_neg named, if_neg given]
      show (if _ then _ else _ : Handler T ModelResp) s = _
      rw [if_pos notThere]
      rfl

end Register

/-! ### What the tables can become -/

/-- Beside the disk, a registration changes nothing or enters one loaded tokenizer under the
id it answers with. -/
inductive Ends (s : State T) : EStateM.Result Failure (State T) ModelResp → Prop where
  | refused (failure : Failure) (disk : Disk) : Ends s (.error failure { s with disk })
  | registered (resp : ModelResp) (disk : Disk) : Ends s (.ok resp { s with disk })
  | loaded (resp : ModelResp) (tokenizer : T) (disk : Disk) :
      Ends s (.ok resp
        { disk
          tokenizers := s.tokenizers.insert resp.modelId tokenizer
          modelDirs := s.modelDirs.insert resp.modelId resp.tokenizerDir
          templateHashes := s.templateHashes.insert resp.modelId resp.chatTemplateSha256 })

section Tables

variable (s : State T)

theorem finishRegistration_ends (disk : Disk) (modelId : String) (mdir : PurePath)
    (template : Option String) (templateHash : String) :
    Ends s (finishRegistration env modelId mdir template templateHash { s with disk }) := by
  by_cases registered : Registered { s with disk } modelId mdir.toString template templateHash
  · rw [finishRegistration_registered env registered]
    exact .registered _ disk
  · cases loads : loadTokenizer env mdir.toString (filesAt env disk mdir) template with
    | error failure =>
        rw [finishRegistration_fails env registered loads]
        exact .refused failure disk
    | ok tokenizer =>
        rw [finishRegistration_loads env registered loads]
        exact .loaded ⟨modelId, mdir.toString, templateHash⟩ tokenizer disk

theorem registerModel_ends (disk : Disk) (payload : Dict) :
    Ends s (registerModel env payload { s with disk }) := by
  by_cases missing : strOrEmpty env payload "model_id" = "" ∨
      strOrEmpty env payload "tokenizer_dir" = "" ∨
      disk.node (env.resolve (.parse (strOrEmpty env payload "tokenizer_dir"))) ≠ some .directory
  · obtain ⟨detail, refused⟩ := @registerModel_refused T env { s with disk } payload missing
    rw [refused]
    exact .refused _ disk
  · obtain ⟨named, given, stands⟩ : strOrEmpty env payload "model_id" ≠ "" ∧
        strOrEmpty env payload "tokenizer_dir" ≠ "" ∧
        disk.node (env.resolve (.parse (strOrEmpty env payload "tokenizer_dir"))) =
          some .directory := by
      simpa [not_or] using missing
    rw [@registerModel_of_directory T env { s with disk } payload named given stands]
    cases attached : attachTemplate env (.parse (strOrEmpty env payload "tokenizer_dir"))
        (templateOf env payload) disk with
    | ok templateHash written =>
        rw [@onDisk_ok T String ModelResp _ _ { s with disk } _ _ attached]
        exact finishRegistration_ends env s written _ _ _ _
    | error failure written =>
        rw [@onDisk_error T String ModelResp _ _ { s with disk } _ _ attached]
        exact .refused failure written

theorem register_ends (request : Registration) : Ends s (register env request s) := by
  cases request with
  | json body =>
      cases body with
      | none => exact .refused .raised s.disk
      | some body =>
          cases body with
          | dict payload => exact registerModel_ends env s s.disk payload
          | _ => exact .refused .raised s.disk
  | form form =>
      show Ends s ((onDisk (readMultipartModel env form) >>= registerModel env) s)
      cases read : readMultipartModel env form s.disk with
      | ok payload written =>
          rw [onDisk_ok read]
          exact registerModel_ends env s written payload
      | error failure written =>
          rw [onDisk_error read]
          exact .refused failure written

end Tables

/-! ### Reading a form -/

/-- The template of a form, if it sends one that is not empty. -/
def Form.template (form : Form) : Option String :=
  match form.chatTemplate with
  | .ok template => if template = "" then none else some template
  | .error _ => none

section Form

variable {s : State T} {form : Form} {template : String}

theorem template_of_chatTemplate (read : form.chatTemplate = .ok template) :
    form.template = if template = "" then none else some template := by
  rw [Form.template, read]

/-- The payload of a form whose files are in `tokenizerDir`. -/
def formPayload (form : Form) (tokenizerDir template : String) : Dict :=
  [("model_id", .str form.modelId), ("tokenizer_dir", .str tokenizerDir),
    ("chat_template", .str template)]

theorem modelId_formPayload (dir : String) :
    strOrEmpty env (formPayload form dir template) "model_id" = form.modelId := by
  by_cases nothing : form.modelId = ""
  · simp [strOrEmpty, formPayload, Dict.get, Value.truth, nothing]
  · simp [strOrEmpty, formPayload, Dict.get, Value.truth, nothing, str]

theorem tokenizerDir_formPayload (dir : String) :
    strOrEmpty env (formPayload form dir template) "tokenizer_dir" = dir := by
  have skip : ("tokenizer_dir" == "model_id") = false := by decide
  by_cases nothing : dir = ""
  · simp [strOrEmpty, formPayload, Dict.get, Value.truth, List.lookup_cons, skip, nothing]
  · simp [strOrEmpty, formPayload, Dict.get, Value.truth, List.lookup_cons, skip, nothing, str]

theorem templateOf_formPayload (read : form.chatTemplate = .ok template) (dir : String) :
    templateOf env (formPayload form dir template) = form.template := by
  have skip : ("chat_template" == "model_id") = false := by decide
  have skip' : ("chat_template" == "tokenizer_dir") = false := by decide
  rw [template_of_chatTemplate read]
  by_cases nothing : template = ""
  · simp [templateOf, formPayload, Dict.get, Value.truth, List.lookup_cons, skip, skip', nothing]
  · simp [templateOf, formPayload, Dict.get, Value.truth, List.lookup_cons, skip, skip', nothing,
      str]

theorem readMultipartModel_refused {failure : Failure}
    (refused : form.modelId = "" ∨ form.chatTemplate = .error failure) (disk : Disk) :
    ∃ failure, readMultipartModel env form disk = .error failure disk := by
  unfold readMultipartModel
  by_cases unnamed : form.modelId = ""
  · exact ⟨_, by simp only [if_pos unnamed]; rfl⟩
  · have unread := refused.resolve_left unnamed
    exact ⟨failure, by simp only [if_neg unnamed, unread]; rfl⟩

theorem readMultipartModel_plain (named : form.modelId ≠ "")
    (read : form.chatTemplate = .ok template) (plain : ¬ form.Uploads) (disk : Disk) :
    readMultipartModel env form disk =
      .ok (formPayload form (FormValue.orEmpty (form.get "tokenizer_dir")) template) disk := by
  unfold readMultipartModel
  simp only [if_neg named, read, if_neg plain]
  rfl

theorem readMultipartModel_upload (named : form.modelId ≠ "")
    (read : form.chatTemplate = .ok template) (uploads : form.Uploads) :
    readMultipartModel env form = (do
      storeUploads env (uploadDir env form) form
      pure (formPayload form (uploadDir env form).toString template)) := by
  unfold readMultipartModel
  simp only [if_neg named, read, if_pos uploads]
  rfl

end Form

/-! ### Uploads -/

section Upload

/-- What the form puts into an empty directory, as far as its upload gets: the archive, the
files, and the template in the configuration. -/
def leaves (form : Form) : Disk :=
  endState (install (env.chroot (env.resolve (uploadDir env form))) here form form.template .empty)

variable {s : State T} {form : Form} {template : String} {left : Disk}

/-- The path of no name is printed as the dot. -/
theorem toString_ne_empty (p : PurePath) : p.toString ≠ "" := by
  intro empty
  have read : PurePath.parse "" = p := by rw [← empty, PurePath.parse_toString]
  rw [← read] at empty
  revert empty
  decide

theorem readMultipartModel_left (named : form.modelId ≠ "")
    (read : form.chatTemplate = .ok template) (uploads : form.Uploads)
    (reset : resetDir env.toEnv (uploadDir env form) s.disk = .ok () left) :
    readMultipartModel env form s.disk = (do
      unpack env (uploadDir env form) form
      pure (formPayload form (uploadDir env form).toString template) : Effect Dict) left := by
  rw [readMultipartModel_upload env named read uploads]
  show EStateM.bind (EStateM.bind (resetDir env.toEnv (uploadDir env form)) _) _ s.disk = _
  unfold EStateM.bind
  rw [reset]
  rfl

/-- A form without an id, or with a template file that is no text, does nothing. -/
theorem register_form_refused {failure : Failure}
    (refused : form.modelId = "" ∨ form.chatTemplate = .error failure) :
    ∃ failure, register env (.form form) s = .error failure s := by
  obtain ⟨failure, unread⟩ := readMultipartModel_refused env refused s.disk
  exact ⟨failure, onDisk_error unread⟩

/-- An upload whose directory cannot be emptied loses no file. -/
theorem register_upload_stuck (named : form.modelId ≠ "") (read : form.chatTemplate = .ok template)
    (uploads : form.Uploads) (stuck : ¬ Resettable env.toEnv (uploadDir env form) s.disk) :
    ∃ disk, register env (.form form) s = .error .os { s with disk } ∧
      ∀ at_, disk.file at_ = s.disk.file at_ := by
  obtain ⟨disk, reset, same⟩ := resetDir_error env.toEnv stuck
  have unread : readMultipartModel env form s.disk = .error .os disk := by
    rw [readMultipartModel_upload env named read uploads]
    show EStateM.bind (EStateM.bind (resetDir env.toEnv (uploadDir env form)) _) _ s.disk = _
    unfold EStateM.bind
    rw [reset]
  exact ⟨disk, onDisk_error unread, same⟩

/-- Once the directory is empty the upload is installed in it, and the registration ends as
any other. -/
theorem register_upload (links : LinkFree env.resolve (uploadDir env form))
    (named : form.modelId ≠ "") (read : form.chatTemplate = .ok template) (uploads : form.Uploads)
    (reset : resetDir env.toEnv (uploadDir env form) s.disk = .ok () left)
    (graft : Grafted left (env.resolve (uploadDir env form)) .empty left) :
    register env (.form form) s =
      (onDisk (install env (uploadDir env form) form form.template) >>=
        finishRegistration env form.modelId (uploadDir env form) form.template)
      { s with disk := left } := by
  have body := readMultipartModel_left env named read uploads reset
  have alike := unpack_simulates env links form .empty left graft
  show (onDisk (readMultipartModel env form) >>= registerModel env) s = _
  cases unpacked : unpack env (uploadDir env form) form left with
  | error failure stopped =>
      have failed : readMultipartModel env form s.disk = .error failure stopped := by
        rw [body]
        show EStateM.bind _ _ left = _
        unfold EStateM.bind
        rw [unpacked]
      have failed' : install env (uploadDir env form) form form.template left =
          .error failure stopped := by
        show EStateM.bind _ _ left = _
        unfold EStateM.bind
        rw [unpacked]
      rw [onDisk_error failed]
      exact (@onDisk_error T String ModelResp _ _ { s with disk := left } _ _ failed').symm
  | ok _ full =>
      have done : readMultipartModel env form s.disk =
          .ok (formPayload form (uploadDir env form).toString template) full := by
        rw [body]
        show EStateM.bind _ _ left = _
        unfold EStateM.bind
        rw [unpacked]
        rfl
      have installs : install env (uploadDir env form) form form.template left =
          attachTemplate env (uploadDir env form) form.template full := by
        show EStateM.bind _ _ left = _
        unfold EStateM.bind
        rw [unpacked]
      have stands : full.node (env.resolve (uploadDir env form)) = some .directory := by
        rw [unpacked] at alike
        exact alike.related.directory
      rw [onDisk_ok done, registerModel_of_directory, modelId_formPayload,
        tokenizerDir_formPayload, templateOf_formPayload env read, PurePath.parse_toString]
      · cases attached : attachTemplate env (uploadDir env form) form.template full with
        | ok templateHash written =>
            rw [attached] at installs
            exact (@onDisk_ok T String ModelResp _ _ { s with disk := full } _ _ attached).trans
              (@onDisk_ok T String ModelResp _ _ { s with disk := left } _ _ installs).symm
        | error failure written =>
            rw [attached] at installs
            exact (@onDisk_error T String ModelResp _ _ { s with disk := full } _ _ attached).trans
              (@onDisk_error T String ModelResp _ _ { s with disk := left } _ _ installs).symm
      · rw [modelId_formPayload]
        exact named
      · rw [tokenizerDir_formPayload]
        exact toString_ne_empty _
      · rw [tokenizerDir_formPayload, PurePath.parse_toString]
        exact stands

end Upload

end KvIndexer.Sidecar
