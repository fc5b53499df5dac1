import KvIndexer.Sidecar.Served

/-!
What a `POST /models` that fails leaves behind (`_read_multipart_model`,
`_register_model`, `server.py`; `reset_dir`, `write_chat_template`, `storage.py`).

The tables are written last, so a failure leaves the tokenizers. The disk is written
first: an upload empties its directory before the new files are looked at, and a
template goes into the configuration before it is loaded. `register_files_iff` says of
every request when the files are those from before, and `changesNothing_iff` that for a
failing request nothing else matters.
-/

namespace KvIndexer.Sidecar

open Posix Posix.Disk Effects

variable {T : Type} (env : ServerEnv T)

/-! ### What a template does to the files -/

/-- The configuration holds what the writing of the template would put there, or the
template is not written. -/
def KeepsConfig (disk : Disk) (mdir : PurePath) (template : Option String) : Prop :=
  ∀ text, template = some text → text ≠ "" →
    ∀ entries, configEntries env.toEnv (disk.node (env.resolve (configPath mdir))) = .ok entries →
      disk.Writable env.refuses (env.resolve (configPath mdir)) →
        disk.file (env.resolve (configPath mdir)) = some (withTemplate env.toEnv entries text)

section Template

variable {disk : Disk} {mdir : PurePath}

theorem endState_exceptOs {α : Type} (effect : Effect α) (otherwise : α) :
    endState (exceptOs effect otherwise disk) = endState (effect disk) := by
  unfold exceptOs
  cases effect disk with
  | ok a left => rfl
  | error failure left => cases failure <;> rfl

theorem writeBytes_file (refuses : Location → Bool) (loc : Location) (content : Bytes)
    (at_ : Location) : (endState (writeBytes refuses loc content disk)).file at_ =
      if disk.Writable refuses loc ∧ at_ = loc then some content else disk.file at_ := by
  unfold writeBytes
  cases wrote : disk.write refuses loc content with
  | none =>
      rw [if_neg (fun both => write_eq_none.mp wrote both.1)]
      rfl
  | some written =>
      show written.file at_ = _
      simp only [(write_eq_some wrote).1, true_and, write_file wrote]

/-- Into a directory that stands, the template goes with the entries that are read there. -/
theorem writeChatTemplate_of_directory {text : String} (nonempty : text ≠ "")
    (stands : disk.node (env.resolve mdir) = some .directory) :
    writeChatTemplate env.toEnv mdir text disk = (do
      let entries ← readEntries env.toEnv (env.resolve (configPath mdir))
      writeBytes env.refuses (env.resolve (configPath mdir)) (withTemplate env.toEnv entries text)
      return sha256Text env.toEnv text : Effect String) disk := by
  unfold writeChatTemplate
  rw [if_neg nonempty]
  exact bind_of_ok (mkdir_of_directory stands)

/-- Attaching a template keeps the files exactly when the configuration is kept. -/
theorem attachTemplate_files_iff (stands : disk.node (env.resolve mdir) = some .directory)
    (template : Option String) :
    (∀ at_, (endState (attachTemplate env mdir template disk)).file at_ = disk.file at_) ↔
      KeepsConfig env disk mdir template := by
  cases template with
  | none => exact iff_of_true (fun _ => rfl) fun text sent => by cases sent
  | some text =>
      rw [show endState (attachTemplate env mdir (some text) disk) =
        endState (writeChatTemplate env.toEnv mdir text disk) from endState_exceptOs _ _]
      by_cases nothing : text = ""
      · have nothing_ : writeChatTemplate env.toEnv mdir text = pure "" := if_pos nothing
        rw [nothing_]
        refine iff_of_true (fun _ => rfl) fun text' sent nonempty => ?_
        exact absurd ((Option.some.inj sent).symm.trans nothing) nonempty
      · rw [writeChatTemplate_of_directory env nothing stands]
        cases read : configEntries env.toEnv (disk.node (env.resolve (configPath mdir))) with
        | error failure =>
            have unread : readEntries env.toEnv (env.resolve (configPath mdir)) disk =
                .error failure disk := by
              rw [readEntries, read]
            rw [bind_of_error unread]
            refine iff_of_true (fun _ => rfl) fun _ _ _ entries ok => ?_
            rw [read] at ok
            cases ok
        | ok entries =>
            have done : readEntries env.toEnv (env.resolve (configPath mdir)) disk =
                .ok entries disk := by
              rw [readEntries, read]
            have left : endState ((writeBytes env.refuses (env.resolve (configPath mdir))
                (withTemplate env.toEnv entries text) >>= fun _ =>
                  (pure (sha256Text env.toEnv text) : Effect String)) disk) =
                endState (writeBytes env.refuses (env.resolve (configPath mdir))
                  (withTemplate env.toEnv entries text) disk) :=
              endState_bind id fun _ _ => rfl
            rw [bind_of_ok done, left]
            simp only [writeBytes_file]
            constructor
            · intro same text' sent _ entries' read' writable
              obtain rfl := Option.some.inj sent
              obtain rfl := Except.ok.inj (read.symm.trans read')
              rw [← same, if_pos ⟨writable, rfl⟩]
            · intro kept at_
              split
              · rename_i written
                rw [written.2, kept text rfl nothing entries read written.1]
              · rfl

end Template

/-! ### What a request does to the files -/

/-- The directory of a request is refused, or its configuration is kept. -/
def SparesDirectory (disk : Disk) (dir : String) (template : Option String) : Prop :=
  dir = "" ∨ disk.node (env.resolve (.parse dir)) ≠ some .directory ∨
    KeepsConfig env disk (.parse dir) template

/-- The request is refused before it touches a file, or what it writes stands there already. -/
def Spared (s : State T) : Registration → Prop
  | .json (some (.dict payload)) =>
    strOrEmpty env payload "model_id" = "" ∨
      SparesDirectory env s.disk (strOrEmpty env payload "tokenizer_dir") (templateOf env payload)
  | .json _ => True
  | .form form =>
    form.modelId = "" ∨ (∃ failure, form.chatTemplate = .error failure) ∨
      if form.Uploads then
        ¬ Resettable env.toEnv (uploadDir env form) s.disk ∨
          ∀ rel, s.disk.file (env.resolve (uploadDir env form) ++ rel) = (leaves env form).file rel
      else SparesDirectory env s.disk (FormValue.orEmpty (form.get "tokenizer_dir")) form.template

section Files

variable {s : State T}

/-- The files of the disk are those from before. -/
def KeepsFiles (result : EStateM.Result Failure (State T) ModelResp) (s : State T) : Prop :=
  ∀ at_, (endState result).disk.file at_ = s.disk.file at_

theorem endState_onDisk {α : Type} {m : Effect α} :
    (endState (onDisk m s)).disk = endState (m s.disk) := by
  unfold onDisk
  cases m s.disk <;> rfl

theorem finishRegistration_disk (modelId : String) (mdir : PurePath) (template : Option String)
    (templateHash : String) :
    (endState (finishRegistration env modelId mdir template templateHash s)).disk = s.disk := by
  by_cases registered : Registered s modelId mdir.toString template templateHash
  · rw [finishRegistration_registered env registered]
    rfl
  · cases loads : loadTokenizer env mdir.toString (filesAt env s.disk mdir) template with
    | error failure =>
        rw [finishRegistration_fails env registered loads]
        rfl
    | ok tokenizer =>
        rw [finishRegistration_loads env registered loads]
        rfl

/-- What an effect and the end of the registration do to the disk is what the effect does. -/
theorem endState_finish (m : Effect String) (modelId : String) (mdir : PurePath)
    (template : Option String) :
    (endState ((onDisk m >>= finishRegistration env modelId mdir template) s)).disk =
      endState (m s.disk) := by
  rw [endState_bind State.disk fun hash t =>
    finishRegistration_disk env (s := t) modelId mdir template hash]
  exact endState_onDisk

theorem registerModel_files_iff (payload : Dict) :
    KeepsFiles (registerModel env payload s) s ↔
      strOrEmpty env payload "model_id" = "" ∨
        SparesDirectory env s.disk (strOrEmpty env payload "tokenizer_dir")
          (templateOf env payload) := by
  by_cases missing : strOrEmpty env payload "model_id" = "" ∨
      strOrEmpty env payload "tokenizer_dir" = "" ∨
      s.disk.node (env.resolve (.parse (strOrEmpty env payload "tokenizer_dir"))) ≠ some .directory
  · obtain ⟨detail, refused⟩ := registerModel_refused env missing
    refine iff_of_true ?_ ?_
    · rw [refused]
      exact fun _ => rfl
    · exact missing.imp_right fun missing => missing.imp_right Or.inl
  · obtain ⟨named, given, stands⟩ : strOrEmpty env payload "model_id" ≠ "" ∧
        strOrEmpty env payload "tokenizer_dir" ≠ "" ∧
        s.disk.node (env.resolve (.parse (strOrEmpty env payload "tokenizer_dir"))) =
          some .directory := by
      simpa [not_or] using missing
    rw [registerModel_of_directory env named given stands]
    unfold KeepsFiles
    rw [endState_finish env, attachTemplate_files_iff env stands]
    simp only [SparesDirectory, named, given, stands, ne_eq, not_true, false_or]

/-- An upload whose directory can be emptied keeps the files exactly when they are those it
leaves. -/
theorem upload_files_iff {form : Form} {template : String}
    (links : LinkFree env.resolve (uploadDir env form)) (named : form.modelId ≠ "")
    (read : form.chatTemplate = .ok template) (uploads : form.Uploads)
    (resettable : Resettable env.toEnv (uploadDir env form) s.disk) :
    KeepsFiles (register env (.form form) s) s ↔
      ∀ rel,
        s.disk.file (env.resolve (uploadDir env form) ++ rel) = (leaves env form).file rel := by
  obtain ⟨left, reset, graft, outside⟩ := resetDir_ok env.toEnv resettable
  have installs := (install_simulates env links form form.template .empty left graft).related
  change Grafted left _ (leaves env form) _ at installs
  unfold KeepsFiles
  rw [register_upload env links named read uploads reset graft, endState_finish env]
  constructor
  · intro same rel
    rw [← same]
    exact installs.file rel
  · intro holds at_
    by_cases inside : env.resolve (uploadDir env form) <+: at_
    · obtain ⟨rel, rfl⟩ := inside
      exact (installs.file rel).trans (holds rel).symm
    · exact (file_congr (installs.outside at_ inside)).trans (outside at_ inside)

theorem register_files_iff (request : Registration)
    (links : ∀ form, request = .form form → LinkFree env.resolve (uploadDir env form)) :
    KeepsFiles (register env request s) s ↔ Spared env s request := by
  cases request with
  | json body =>
      cases body with
      | none => exact iff_of_true (fun _ => rfl) trivial
      | some body =>
          cases body with
          | dict payload => exact registerModel_files_iff env payload
          | _ => exact iff_of_true (fun _ => rfl) trivial
  | form form =>
      by_cases unnamed : form.modelId = ""
      · obtain ⟨failure, refused⟩ :=
          @register_form_refused T env s form .raised (Or.inl unnamed)
        rw [refused]
        exact iff_of_true (fun _ => rfl) (Or.inl unnamed)
      cases read : form.chatTemplate with
      | error failure =>
          obtain ⟨_, refused⟩ := register_form_refused env (s := s) (Or.inr read)
          rw [refused]
          exact iff_of_true (fun _ => rfl) (Or.inr (Or.inl ⟨failure, read⟩))
      | ok template =>
          have readable : ¬ ∃ failure, form.chatTemplate = .error failure := by
            rintro ⟨failure, unread⟩
            rw [read] at unread
            cases unread
          simp only [Spared, unnamed, readable, false_or]
          by_cases uploads : form.Uploads
          · rw [if_pos uploads]
            by_cases resettable : Resettable env.toEnv (uploadDir env form) s.disk
            · rw [upload_files_iff env (links form rfl) unnamed read uploads resettable]
              simp only [resettable, not_true, false_or]
            · obtain ⟨disk, failed, same⟩ :=
                register_upload_stuck env unnamed read uploads resettable
              rw [failed]
              exact iff_of_true same (Or.inl resettable)
          · rw [if_neg uploads]
            have body := readMultipartModel_plain env unnamed read uploads s.disk
            have registers : register env (.form form) s = registerModel env
                (formPayload form (FormValue.orEmpty (form.get "tokenizer_dir")) template) s :=
              onDisk_ok body
            rw [registers, registerModel_files_iff, modelId_formPayload, tokenizerDir_formPayload,
              templateOf_formPayload env read]
            simp only [unnamed, false_or]

end Files

/-! ### A failure that changes nothing -/

/-- The response names the model with its directory as registered. -/
def Reports (resp : ModelResp) : Response → Prop
  | .model answer => answer = resp
  | .models data => resp ∈ data
  | _ => False

/-- Two disks have the same files at and below a location. -/
def SameFiles (loc : Location) (d e : Disk) : Prop :=
  ∀ rel, d.file (loc ++ rel) = e.file (loc ++ rel)

/-- The request leaves the files and the tokenizers, and the files it puts in the place of
others are under no model that a later request reports. -/
structure ChangesNothing (s : State T) (request : Registration) : Prop where
  files : ∀ at_, (step env s (.register request)).disk.file at_ = s.disk.file at_
  tokenizers : (step env s (.register request)).tokenizers = s.tokenizers
  unreported : ∀ later next resp,
    Reports resp
        (respond env (Run.run (step env) (step env s (.register request)) later) next).1 →
      SameFiles (env.resolve (.parse resp.tokenizerDir))
          (Run.run (step env) (step env s (.register request)) (later ++ [next])).disk
          (step env s (.register request)).disk →
        SameFiles (env.resolve (.parse resp.tokenizerDir)) (step env s (.register request)).disk
          s.disk

/-- The state after a request is the one its handler ends in. -/
theorem step_register (s : State T) (request : Registration) :
    step env s (.register request) = endState (register env request s) := by
  show (answer (register env request) s).2 = _
  unfold answer
  cases register env request s <;> rfl

/-- A request that fails enters no tokenizer. -/
theorem tokenizers_of_failed {s : State T} {request : Registration} {status : Nat}
    {detail : String}
    (failed : (respond env s (.register request)).1 = .failed status detail) :
    (step env s (.register request)).tokenizers = s.tokenizers := by
  have ended : (answer (register env request) s).1 = .failed status detail := failed
  have ends := register_ends env s request
  rw [step_register]
  unfold answer at ended
  generalize register env request s = result at ends ended ⊢
  cases ends with
  | refused failure disk => rfl
  | registered resp disk => cases ended
  | loaded resp tokenizer disk => cases ended

/-- A failing request changes nothing exactly when it is refused before it touches a file,
or when what it writes stands there already. -/
theorem changesNothing_iff {s : State T} {request : Registration} {status : Nat} {detail : String}
    (links : ∀ form, request = .form form → LinkFree env.resolve (uploadDir env form))
    (failed : (respond env s (.register request)).1 = .failed status detail) :
    ChangesNothing env s request ↔ Spared env s request := by
  have spared := @register_files_iff T env s request links
  unfold KeepsFiles at spared
  rw [← step_register] at spared
  constructor
  · exact fun nothing => spared.mp nothing.files
  · intro kept
    have files := spared.mpr kept
    exact ⟨files, tokenizers_of_failed env failed, fun _ _ _ _ _ _ => files _⟩

section Example

/-- An upload whose second file has a name that climbs out of the directory. -/
def climbingUpload : Form :=
  uploadOf [("tokenizer.json", oneWord "b"), ("../tokenizer_config.json", [])]

/-- A `POST /models` that names the upload directory of `m`. -/
def namesUploadDir : Request :=
  .register (.json (some (.dict [("model_id", .str "m"),
    ("tokenizer_dir", .str "/data/tokenizers/m-62c66a7a5dd70c31")])))

/-- The refused upload has taken the place of the registered files: the model is then
reported with its directory, which holds the one file that was written. -/
theorem climbing_upload_changes :
    (respond byteTokenizers afterFirst (.register (.form climbingUpload))).1 =
        .failed 500 "Internal Server Error" ∧
      (respond byteTokenizers
          (step byteTokenizers afterFirst (.register (.form climbingUpload))) namesUploadDir).1 =
        .model ⟨"m", "/data/tokenizers/m-62c66a7a5dd70c31", ""⟩ ∧
      ¬ ChangesNothing byteTokenizers afterFirst (.form climbingUpload) := by
  obtain ⟨refused, reported, written, before⟩ :
      (respond byteTokenizers afterFirst (.register (.form climbingUpload))).1 =
          .failed 500 "Internal Server Error" ∧
        (respond byteTokenizers
            (step byteTokenizers afterFirst (.register (.form climbingUpload))) namesUploadDir).1 =
          .model ⟨"m", "/data/tokenizers/m-62c66a7a5dd70c31", ""⟩ ∧
        (step byteTokenizers afterFirst (.register (.form climbingUpload))).disk.file
          ["data", "tokenizers", "m-62c66a7a5dd70c31", "tokenizer.json"] = some (oneWord "b") ∧
        afterFirst.disk.file
          ["data", "tokenizers", "m-62c66a7a5dd70c31", "tokenizer.json"] = some (oneWord "a") := by
    decide +kernel
  refine ⟨refused, reported, fun nothing => ?_⟩
  have kept := nothing.files ["data", "tokenizers", "m-62c66a7a5dd70c31", "tokenizer.json"]
  rw [written, before] at kept
  exact absurd kept (by decide +kernel)

/-- An upload with a template file that is no text. -/
def unreadableTemplate : Form :=
  ("chat_template_file", .upload "" "chat_template.jinja" [255]) :: wordUpload "b"

theorem unreadable_template_changesNothing :
    ChangesNothing byteTokenizers afterFirst (.form unreadableTemplate) :=
  (@changesNothing_iff Bytes byteTokenizers afterFirst (.form unreadableTemplate) 500
    "Internal Server Error" (fun _ _ => byteTokenizers_linkFree _) (by decide +kernel)).mpr
    (Or.inr (Or.inl ⟨.raised, by decide +kernel⟩))

end Example

end KvIndexer.Sidecar
