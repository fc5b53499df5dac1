import KvIndexer.Lib.Effects
import KvIndexer.Sidecar.Server

/-!
An upload, seen from the directory it goes to.

`chroot` is the environment of a process that sees only that directory. When no
links lead out of it, storing an upload does to the directory what the same
functions do, under `chroot`, to a disk that holds nothing else
(`unpack_simulates`, `attachTemplate_simulates`). So what an upload leaves there is
known from the request alone, and the directory's earlier contents play no part
(`install_simulates`).
-/

namespace KvIndexer.Sidecar

open Posix Posix.Disk Effects

variable {T : Type}

/-- The environment of a process whose root directory is `loc`. -/
def Env.chroot (env : Env T) (loc : Location) : Env T :=
  { env with resolve := PurePath.parts, refuses := Grafted.below env.refuses loc }

def ServerEnv.chroot (env : ServerEnv T) (loc : Location) : ServerEnv T :=
  { env with toEnv := env.toEnv.chroot loc }

/-- The directory a process stands in, to itself. -/
def here : PurePath := ⟨.relative, [], fun _ mem => absurd mem List.not_mem_nil⟩

/-- No links: a path below `dir` that does not climb is found below where `dir` is found. -/
def LinkFree (resolve : PurePath → Location) (dir : PurePath) : Prop :=
  ∀ rel : PurePath, rel.anchor = .relative → ".." ∉ rel.parts →
    resolve (dir.join rel) = resolve dir ++ rel.parts

theorem here_linkFree : LinkFree PurePath.parts here := by
  intro rel relative _
  rw [PurePath.join, if_pos relative]

/-! ### The calls -/

section Calls

variable {refuses : Location → Bool} {base : Disk} {loc : Location}

theorem mkdir_simulates (rel : Location) :
    Simulates (Grafted base loc) (mkdir (Grafted.below refuses loc) rel)
      (mkdir refuses (loc ++ rel)) := by
  intro sub disk graft
  have made : Grafted base loc (sub.mkdirs (Grafted.below refuses loc) rel)
      (disk.mkdirs refuses (loc ++ rel)) := graft.mkdirs rel
  unfold mkdir
  by_cases reachable : disk.Reachable refuses (loc ++ rel)
  · rw [if_pos reachable, if_pos ((graft.reachable_iff rel).mp reachable)]
    exact .ok () made
  · rw [if_neg reachable, if_neg (mt (graft.reachable_iff rel).mpr reachable)]
    exact .error Failure.os made

theorem mkdir_of_directory {disk : Disk} (node : disk.node loc = some .directory) :
    mkdir refuses loc disk = .ok () disk := by
  rw [mkdir, if_pos (reachable_of_directory node), mkdirs_of_directory node]

/-- The directory a file goes to. For the root of the upload that is the directory above
it, which stands already. -/
theorem mkdir_parent_simulates (rel : Location) :
    Simulates (Grafted base loc) (mkdir (Grafted.below refuses loc) rel.dropLast)
      (mkdir refuses (loc ++ rel).dropLast) := by
  by_cases root : rel = []
  · subst root
    intro sub disk graft
    have above : disk.node loc.dropLast = some .directory := by
      rcases List.eq_nil_or_concat' loc with rfl | ⟨dir, name, rfl⟩
      · exact disk.root
      · rw [List.dropLast_concat]
        refine disk.nested dir name ?_
        rw [graft.directory]
        exact Option.some_ne_none _
    rw [List.append_nil, List.dropLast_nil, mkdir_of_directory above, mkdir_of_directory sub.root]
    exact .ok () graft
  · rw [List.dropLast_append_of_ne_nil root]
    exact mkdir_simulates rel.dropLast

theorem writeBytes_simulates (rel : Location) (content : Bytes) :
    Simulates (Grafted base loc) (writeBytes (Grafted.below refuses loc) rel content)
      (writeBytes refuses (loc ++ rel) content) := by
  intro sub disk graft
  have written : Option.Rel (Grafted base loc) (sub.write (Grafted.below refuses loc) rel content)
      (disk.write refuses (loc ++ rel) content) := graft.write rel content
  unfold writeBytes
  generalize sub.write (Grafted.below refuses loc) rel content = inner at written ⊢
  generalize disk.write refuses (loc ++ rel) content = outer at written ⊢
  cases written with
  | some graft => exact .ok () graft
  | none => exact .error Failure.os graft

end Calls

theorem exceptOs_simulates {α : Type} {R : Disk → Disk → Prop} {m n : Effect α}
    (simulates : Simulates R m n) (otherwise : α) :
    Simulates R (exceptOs m otherwise) (exceptOs n otherwise) := by
  intro s t related
  have ended := simulates s t related
  unfold exceptOs
  generalize m s = x at ended ⊢
  generalize n t = y at ended ⊢
  cases ended with
  | ok a related => exact .ok a related
  | error failure related =>
      cases failure with
      | os => exact .ok otherwise related
      | http detail => exact .error _ related
      | raised => exact .error _ related

/-! ### Storing -/

section Storing

variable (env : ServerEnv T) {base : Disk} {dst : PurePath} (links : LinkFree env.resolve dst)

/-- A name is joined below the directory as it is below its own root. -/
theorem safeJoin_bind {α : Type} (links : LinkFree env.resolve dst) (name : String)
    {f g : Location → Effect α} {R : Disk → Disk → Prop}
    (each : ∀ rel, Simulates R (f rel) (g (env.resolve dst ++ rel))) :
    Simulates R (safeJoin (env.chroot (env.resolve dst)).toEnv here name >>= f)
      (safeJoin env.toEnv dst name >>= g) := by
  unfold safeJoin
  by_cases bad : (PurePath.parse name).isAbsolute = true ∨
      ∃ part ∈ (PurePath.parse name).parts, part ∈ ["", ".", ".."]
  · rw [if_pos bad, if_pos bad]
    exact fun _ _ related => .error Failure.raised related
  · rw [if_neg bad, if_neg bad]
    obtain ⟨relative, plain⟩ := not_or.mp bad
    have anchor : (PurePath.parse name).anchor = .relative := by
      simpa [PurePath.isAbsolute] using relative
    have stays : ".." ∉ (PurePath.parse name).parts := fun mem => plain ⟨"..", mem, by simp⟩
    have found := links _ anchor stays
    have seen : PurePath.parts (here.join (.parse name)) = (PurePath.parse name).parts :=
      here_linkFree _ anchor stays
    simp only [ServerEnv.chroot, Env.chroot, seen, found, List.prefix_append, if_true,
      show PurePath.parts here = [] from rfl, List.nil_prefix]
    exact each _

theorem copyTo_simulates (rel : Location) (source : Source) :
    Simulates (Grafted base (env.resolve dst))
      (copyTo (env.chroot (env.resolve dst)).toEnv rel source)
      (copyTo env.toEnv (env.resolve dst ++ rel) source) := by
  cases source with
  | unreadable => exact Simulates.throw _
  | bytes content complete =>
      refine (writeBytes_simulates rel content).bind fun _ => ?_
      cases complete
      · exact Simulates.throw _
      · exact Simulates.pure _

theorem extractMember_simulates (links : LinkFree env.resolve dst) (info : ZipInfo) :
    Simulates (Grafted base (env.resolve dst))
      (extractMember (env.chroot (env.resolve dst)).toEnv here info)
      (extractMember env.toEnv dst info) := by
  refine safeJoin_bind env links _ fun rel => ?_
  by_cases dir : info.isDir = true
  · rw [if_pos dir, if_pos dir]
    exact mkdir_simulates rel
  · rw [if_neg dir, if_neg dir]
    exact (mkdir_parent_simulates rel).bind fun _ => copyTo_simulates env rel info.source

theorem extractZipSafely_simulates (links : LinkFree env.resolve dst) (src : Bytes) :
    Simulates (Grafted base (env.resolve dst))
      (extractZipSafely (env.chroot (env.resolve dst)).toEnv src here)
      (extractZipSafely env.toEnv src dst) := by
  have top : Simulates (Grafted base (env.resolve dst))
      (mkdir (Grafted.below env.refuses (env.resolve dst)) [])
      (mkdir env.refuses (env.resolve dst)) := by
    simpa using mkdir_simulates []
  have same : (env.chroot (env.resolve dst)).infolist src = env.infolist src := rfl
  refine top.bind fun _ => ?_
  rw [same]
  cases env.infolist src with
  | none => exact Simulates.throw _
  | some infos => exact Simulates.forM (fun info => extractMember_simulates env links info) infos

theorem writeUploadedFile_simulates (links : LinkFree env.resolve dst) (filename : String)
    (content : Bytes) :
    Simulates (Grafted base (env.resolve dst))
      (writeUploadedFile (env.chroot (env.resolve dst)).toEnv here filename content)
      (writeUploadedFile env.toEnv dst filename content) :=
  safeJoin_bind env links _ fun rel =>
    (mkdir_parent_simulates rel).bind fun _ => copyTo_simulates env rel _

theorem unpack_simulates (links : LinkFree env.resolve dst) (form : Form) :
    Simulates (Grafted base (env.resolve dst))
      (unpack (env.chroot (env.resolve dst)) here form) (unpack env dst form) := by
  have each : ∀ file : String × Bytes, Simulates (Grafted base (env.resolve dst))
      (writeUploadedFile (env.chroot (env.resolve dst)).toEnv here file.1 file.2)
      (writeUploadedFile env.toEnv dst file.1 file.2) := fun file =>
    writeUploadedFile_simulates env links file.1 file.2
  unfold unpack
  refine Simulates.bind ?_ fun _ => Simulates.forM each form.tokenizerFiles
  cases form.tokenizerZip with
  | none => exact Simulates.pure ()
  | some archive => exact extractZipSafely_simulates env links archive

/-- The two files that are opened by path are found in the directory. -/
theorem resolve_configPath (links : LinkFree env.resolve dst) :
    env.resolve (configPath dst) = env.resolve dst ++ ["tokenizer_config.json"] := by
  have parts : PurePath.parts (.parse "tokenizer_config.json") = ["tokenizer_config.json"] := by
    decide
  rw [configPath, links _ (by decide) (by rw [parts]; decide), parts]

theorem resolve_tokenizerJson (links : LinkFree env.resolve dst) :
    env.resolve (dst.join (.parse "tokenizer.json")) = env.resolve dst ++ ["tokenizer.json"] := by
  have parts : PurePath.parts (.parse "tokenizer.json") = ["tokenizer.json"] := by
    decide
  rw [links _ (by decide) (by rw [parts]; decide), parts]

theorem readEntries_simulates (rel : Location) :
    Simulates (Grafted base (env.resolve dst))
      (readEntries (env.chroot (env.resolve dst)).toEnv rel)
      (readEntries env.toEnv (env.resolve dst ++ rel)) := by
  intro sub disk graft
  have same : configEntries (env.chroot (env.resolve dst)).toEnv (sub.node rel) =
    configEntries env.toEnv (sub.node rel) := rfl
  unfold readEntries
  rw [graft.inside, same]
  cases configEntries env.toEnv (sub.node rel) with
  | ok entries => exact .ok entries graft
  | error failure => exact .error failure graft

theorem writeChatTemplate_simulates (links : LinkFree env.resolve dst) (template : String) :
    Simulates (Grafted base (env.resolve dst))
      (writeChatTemplate (env.chroot (env.resolve dst)).toEnv here template)
      (writeChatTemplate env.toEnv dst template) := by
  unfold writeChatTemplate
  by_cases nothing : template = ""
  · rw [if_pos nothing, if_pos nothing]
    exact Simulates.pure ""
  · rw [if_neg nothing, if_neg nothing, resolve_configPath env links]
    have top : Simulates (Grafted base (env.resolve dst))
        (mkdir (Grafted.below env.refuses (env.resolve dst)) [])
        (mkdir env.refuses (env.resolve dst)) := by
      simpa using mkdir_simulates []
    refine top.bind fun _ => (readEntries_simulates env _).bind fun data => ?_
    exact (writeBytes_simulates _ _).bind fun _ => Simulates.pure _

theorem attachTemplate_simulates (links : LinkFree env.resolve dst) (template : Option String) :
    Simulates (Grafted base (env.resolve dst))
      (attachTemplate (env.chroot (env.resolve dst)) here template)
      (attachTemplate env dst template) := by
  cases template with
  | none => exact Simulates.pure ""
  | some template => exact exceptOs_simulates (writeChatTemplate_simulates env links template) _

/-- What an upload does to its directory once that is empty. -/
def install (dst : PurePath) (form : Form) (template : Option String) : Effect String := do
  unpack env dst form
  attachTemplate env dst template

theorem install_simulates (links : LinkFree env.resolve dst) (form : Form)
    (template : Option String) :
    Simulates (Grafted base (env.resolve dst))
      (install (env.chroot (env.resolve dst)) here form template)
      (install env dst form template) :=
  (unpack_simulates env links form).bind fun _ => attachTemplate_simulates env links template

end Storing

/-! ### Emptying the directory -/

section Reset

variable (env : Env T) {path : PurePath} {disk : Disk}

/-- The directory can be made, or emptied. -/
def Resettable (path : PurePath) (disk : Disk) : Prop :=
  if disk.node (env.resolve path) = none then disk.Reachable env.refuses (env.resolve path)
  else disk.Removable env.refuses (env.resolve path)

theorem resetDir_of_none (missing : disk.node (env.resolve path) = none) :
    resetDir env path disk = mkdir env.refuses (env.resolve path) disk := by
  show (if _ then _ else _ : Effect Unit) disk = _
  rw [if_neg (not_not.mpr missing)]

theorem resetDir_of_some (present : ¬ disk.node (env.resolve path) = none) :
    resetDir env path disk = EStateM.bind (rmtree env.refuses (env.resolve path))
      (fun _ => mkdir env.refuses (env.resolve path)) disk := by
  show (if _ then _ else _ : Effect Unit) disk = _
  rw [if_pos present]
  rfl

theorem resetDir_ok (resettable : Resettable env path disk) :
    ∃ left, resetDir env path disk = .ok () left ∧
      Grafted left (env.resolve path) .empty left ∧ ∀ at_, ¬ env.resolve path <+: at_ →
        left.file at_ = disk.file at_ := by
  unfold Resettable at resettable
  by_cases missing : disk.node (env.resolve path) = none
  · rw [if_pos missing] at resettable
    refine ⟨disk.mkdirs env.refuses (env.resolve path), ?_, grafted_mkdirs missing resettable,
      fun at_ _ => mkdirs_file at_⟩
    rw [resetDir_of_none env missing, mkdir, if_pos resettable]
  · rw [if_neg missing] at resettable
    cases removed : disk.rmtree env.refuses (env.resolve path) with
    | none => exact absurd resettable (rmtree_eq_none.mp removed)
    | some left =>
        obtain ⟨⟨-, stood, allowed⟩, nodes⟩ := rmtree_eq_some removed
        have gone : left.node (env.resolve path) = none := by
          rw [nodes, if_pos (List.prefix_refl _)]
        have reachable : left.Reachable env.refuses (env.resolve path) := by
          intro dir mem
          obtain ⟨rel, split⟩ := (List.mem_inits _ _).mp mem
          by_cases here : rel = []
          · rw [here, List.append_nil] at split
            exact Or.inr ⟨split ▸ gone, split ▸ allowed⟩
          · have outside : ¬ env.resolve path <+: dir := by
              intro below
              have longer := below.length_le
              rw [← split, List.length_append] at longer
              have some_ := List.length_pos_of_ne_nil here
              omega
            left
            rw [nodes, if_neg outside]
            refine disk.directory_above here ?_
            rw [split, stood]
            exact Option.some_ne_none _
        refine ⟨left.mkdirs env.refuses (env.resolve path), ?_, grafted_mkdirs gone reachable,
          fun at_ out => ?_⟩
        · rw [resetDir_of_some env missing]
          unfold EStateM.bind rmtree
          rw [removed]
          show mkdir env.refuses (env.resolve path) left = _
          rw [mkdir, if_pos reachable]
        · rw [mkdirs_file]
          exact file_congr (by rw [nodes, if_neg out])

theorem resetDir_error (stuck : ¬ Resettable env path disk) :
    ∃ left, resetDir env path disk = .error .os left ∧ ∀ at_, left.file at_ = disk.file at_ := by
  unfold Resettable at stuck
  by_cases missing : disk.node (env.resolve path) = none
  · rw [if_pos missing] at stuck
    refine ⟨disk.mkdirs env.refuses (env.resolve path), ?_, mkdirs_file⟩
    rw [resetDir_of_none env missing, mkdir, if_neg stuck]
  · rw [if_neg missing] at stuck
    refine ⟨disk, ?_, fun _ => rfl⟩
    rw [resetDir_of_some env missing]
    unfold EStateM.bind rmtree
    rw [rmtree_eq_none.mpr stuck]

end Reset

end KvIndexer.Sidecar
