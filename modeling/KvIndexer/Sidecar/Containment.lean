import KvIndexer.Sidecar.Server
import KvIndexer.Lib.Effects

/-!
Uploads stay inside their directory (`_safe_join`, `extract_zip_safely`,
`write_uploaded_file`, `storage.py`).

A name is joined to the root, resolved, and refused unless the result is the root or
below it. The check looks at the resolved path, so it holds whatever the name is and
wherever the operating system finds paths. What is written afterwards goes to that
location; the only other thing that can be made is the root's own missing directories
(`Confined`).
-/

namespace KvIndexer.Sidecar

open Posix Posix.Disk Effects

/-- What stands outside `root` is as it was, but for directories above it that were missing. -/
structure Confined (root : Location) (before after : Disk) : Prop where
  nodes : ∀ at_, ¬ root <+: at_ → after.node at_ = before.node at_ ∨
    at_ <+: root ∧ before.node at_ = none ∧ after.node at_ = some .directory

namespace Confined

variable {root : Location} {before mid after : Disk}

/-- No file outside is written, made or removed. -/
theorem file_eq (confined : Confined root before after) {at_ : Location} (out : ¬ root <+: at_) :
    after.file at_ = before.file at_ := by
  rcases confined.nodes at_ out with same | ⟨-, missing, made⟩
  · exact file_congr same
  · rw [file_of_directory made, file_of_none missing]

/-- Nothing outside changes if the root is there. -/
theorem node_eq (confined : Confined root before after)
    (stands : before.node root = some .directory)
    {at_ : Location} (out : ¬ root <+: at_) : after.node at_ = before.node at_ := by
  rcases confined.nodes at_ out with same | ⟨⟨rel, rfl⟩, missing, -⟩
  · exact same
  · rw [before.none_below missing rel] at stands
    cases stands

instance : Std.Refl (Confined root) := ⟨fun _ => ⟨fun _ _ => Or.inl rfl⟩⟩

instance : IsTrans Disk (Confined root) where
  trans before mid after first second := by
    refine ⟨fun at_ out => ?_⟩
    rcases first.nodes at_ out with same | ⟨above, missing, made⟩
    · rw [← same]
      exact second.nodes at_ out
    · rcases second.nodes at_ out with same' | ⟨-, missing', -⟩
      · exact Or.inr ⟨above, missing, same'.trans made⟩
      · rw [made] at missing'
        cases missing'

end Confined

section Calls

variable {refuses : Location → Bool} {root target : Location}

/-- Directories made on the way to a location inside are inside or above. -/
theorem mkdir_confined {loc : Location} (toward : loc <+: target) (inside : root <+: target) :
    Keeps (Confined root) (fun _ => True) (mkdir refuses loc) := by
  intro disk
  have confined : Confined root disk (disk.mkdirs refuses loc) := by
    refine ⟨fun at_ out => ?_⟩
    rw [mkdirs_node]
    split
    · rename_i made
      have above : at_ <+: root :=
        (List.prefix_or_prefix_of_prefix (made.1.trans toward) inside).resolve_right out
      rcases made.2.node with already | ⟨missing, -⟩
      · exact Or.inl already.symm
      · exact Or.inr ⟨above, missing, rfl⟩
    · exact Or.inl rfl
  unfold mkdir
  split
  · exact .ok trivial confined
  · exact .error _ confined

theorem writeBytes_confined (inside : root <+: target) (content : Bytes) :
    Keeps (Confined root) (fun _ => True) (writeBytes refuses target content) := by
  intro disk
  unfold writeBytes
  cases written : disk.write refuses target content with
  | none => exact .error _ (Std.Refl.refl disk)
  | some left =>
      refine .ok trivial ⟨fun at_ out => Or.inl ?_⟩
      have elsewhere : at_ ≠ target := by
        rintro rfl
        exact out inside
      rw [(write_eq_some written).2, if_neg elsewhere]

end Calls

section Storage

variable {T : Type} (env : Env T) (root : PurePath)

/-- The location is inside, or the name is refused before anything is done. -/
theorem safeJoin_cases (name : String) (disk : Disk) :
    (∃ out, safeJoin env root name disk = .ok out disk ∧ env.resolve root <+: out) ∨
      safeJoin env root name disk = .error .raised disk := by
  unfold safeJoin
  split
  · exact Or.inr rfl
  · by_cases inside : env.resolve root <+: env.resolve (root.join (.parse name))
    · exact Or.inl ⟨_, by rw [if_pos inside]; rfl, inside⟩
    · exact Or.inr (by rw [if_neg inside]; rfl)

theorem safeJoin_confined (name : String) :
    Keeps (Confined (env.resolve root)) (env.resolve root <+: ·) (safeJoin env root name) := by
  intro disk
  rcases safeJoin_cases env root name disk with ⟨out, joined, inside⟩ | refused
  · rw [joined]
    exact .ok inside (Std.Refl.refl disk)
  · rw [refused]
    exact .error _ (Std.Refl.refl disk)

theorem copyTo_confined {target : Location} (inside : env.resolve root <+: target)
    (source : Source) :
    Keeps (Confined (env.resolve root)) (fun _ => True) (copyTo env target source) := by
  cases source with
  | unreadable => exact Keeps.throw _
  | bytes content complete =>
      refine (writeBytes_confined inside content).bind fun _ _ => ?_
      cases complete
      · exact Keeps.throw _
      · exact Keeps.pure trivial

theorem extractMember_confined (info : ZipInfo) :
    Keeps (Confined (env.resolve root)) (fun _ => True) (extractMember env root info) := by
  refine (safeJoin_confined env root _).bind fun target inside => ?_
  split
  · exact mkdir_confined (List.prefix_refl target) inside
  · refine (mkdir_confined (List.dropLast_prefix target) inside).bind fun _ _ => ?_
    exact copyTo_confined env root inside info.source

theorem extractZipSafely_confined (src : Bytes) :
    Keeps (Confined (env.resolve root)) (fun _ => True) (extractZipSafely env src root) := by
  refine (mkdir_confined (List.prefix_refl _) (List.prefix_refl _)).bind fun _ _ => ?_
  cases env.infolist src with
  | none => exact Keeps.throw _
  | some infos => exact Keeps.forM (extractMember_confined env root) infos

theorem writeUploadedFile_confined (filename : String) (content : Bytes) :
    Keeps (Confined (env.resolve root)) (fun _ => True)
      (writeUploadedFile env root filename content) := by
  refine (safeJoin_confined env root _).bind fun target inside => ?_
  refine (mkdir_confined (List.dropLast_prefix target) inside).bind fun _ _ => ?_
  exact copyTo_confined env root inside _

/-- Whatever a member or an upload is called, its location is inside or it is refused, and
whatever an archive lists, nothing outside is written, also when the extraction fails. -/
theorem uploads_confined :
    (∀ (name : String) (disk : Disk),
        (∃ out, safeJoin env root name disk = .ok out disk ∧ env.resolve root <+: out) ∨
          safeJoin env root name disk = .error .raised disk) ∧
      (∀ (src : Bytes) (disk : Disk),
        Confined (env.resolve root) disk (endState (extractZipSafely env src root disk))) ∧
      ∀ (filename : String) (content : Bytes) (disk : Disk),
        Confined (env.resolve root) disk
          (endState (writeUploadedFile env root filename content disk)) :=
  ⟨safeJoin_cases env root, fun src disk => (extractZipSafely_confined env root src disk).state,
    fun filename content disk => (writeUploadedFile_confined env root filename content disk).state⟩

end Storage

end KvIndexer.Sidecar
