import Mathlib.Data.List.Infix

/-!
A disk of directories and files, and the calls that change it.

A location is the list of names from the root. A disk gives a node to some
locations, and whatever has a node stands in a directory. Which entries the
operating system refuses to create, overwrite or remove (a read-only mount, a
name it cannot hold) is a parameter `refuses` of the calls.

`Grafted base loc sub disk` says that `disk` is `base` with the small disk `sub`
in place of what stood at and below `loc`. Each call below `loc` does to `disk`
what the call at the relative location does to `sub`, so what a program puts
under a directory can be computed on a disk that holds nothing else.
-/

namespace KvIndexer.Posix

/-- The names on the way from the root. -/
abbrev Location := List String

abbrev Bytes := List UInt8

inductive Node where
  | directory
  | file (bytes : Bytes)
  deriving DecidableEq, Repr

structure Disk where
  node : Location → Option Node
  root : node [] = some .directory
  nested : ∀ dir name, node (dir ++ [name]) ≠ none → node dir = some .directory

namespace Disk

theorem ext {d e : Disk} (same : ∀ loc, d.node loc = e.node loc) : d = e := by
  cases d
  cases e
  obtain rfl := funext same
  rfl

/-- The disk of an empty root directory. -/
def empty : Disk where
  node loc := if loc = [] then some .directory else none
  root := rfl
  nested dir name present := by simp at present

/-- What stands above something is a directory. -/
theorem directory_above (d : Disk) {dir : Location} :
    ∀ {rel : Location}, rel ≠ [] → d.node (dir ++ rel) ≠ none → d.node dir = some .directory := by
  intro rel
  induction rel using List.reverseRecOn with
  | nil => exact fun nonempty => absurd rfl nonempty
  | append_singleton front name ih =>
      intro _ present
      rw [← List.append_assoc] at present
      have parent := d.nested _ _ present
      by_cases top : front = []
      · rwa [top, List.append_nil] at parent
      · exact ih top (by rw [parent]; exact Option.some_ne_none _)

/-- Below a location where nothing stands, nothing stands. -/
theorem none_below (d : Disk) {loc : Location} (missing : d.node loc = none) (rel : Location) :
    d.node (loc ++ rel) = none := by
  by_contra present
  by_cases here : rel = []
  · rw [here, List.append_nil] at present
    exact present missing
  · rw [d.directory_above here present] at missing
    cases missing

/-- The bytes of the file at a location, if a file stands there. -/
def file (d : Disk) (loc : Location) : Option Bytes :=
  match d.node loc with
  | some (.file bytes) => some bytes
  | _ => none

theorem file_congr {d e : Disk} {loc loc' : Location} (same : d.node loc = e.node loc') :
    d.file loc = e.file loc' := by
  rw [file, file, same]

theorem file_of_node {d : Disk} {loc : Location} {bytes : Bytes}
    (node : d.node loc = some (.file bytes)) : d.file loc = some bytes := by
  rw [file, node]

theorem file_of_directory {d : Disk} {loc : Location} (node : d.node loc = some .directory) :
    d.file loc = none := by
  rw [file, node]

theorem file_of_none {d : Disk} {loc : Location} (node : d.node loc = none) :
    d.file loc = none := by
  rw [file, node]

/-! ### The calls -/

section Calls

variable (refuses : Location → Bool)

/-- Every entry on the way to `loc`, and `loc` itself, is a directory or can be made one. -/
def Reachable (d : Disk) (loc : Location) : Prop :=
  ∀ dir ∈ loc.inits, d.node dir = some .directory ∨ d.node dir = none ∧ refuses dir = false

instance (d : Disk) (loc : Location) : Decidable (d.Reachable refuses loc) :=
  inferInstanceAs (Decidable (∀ dir ∈ loc.inits, _))

variable {refuses}

theorem Reachable.above {d : Disk} {dir loc : Location} (reachable : d.Reachable refuses loc)
    (above : dir <+: loc) : d.Reachable refuses dir := fun dir' mem =>
  reachable dir' ((List.mem_inits _ _).mpr (((List.mem_inits _ _).mp mem).trans above))

theorem Reachable.node {d : Disk} {loc : Location} (reachable : d.Reachable refuses loc) :
    d.node loc = some .directory ∨ d.node loc = none ∧ refuses loc = false :=
  reachable loc ((List.mem_inits _ _).mpr (List.prefix_refl loc))

/-- A directory is reachable: so is everything above it. -/
theorem reachable_of_directory {d : Disk} {loc : Location} (node : d.node loc = some .directory) :
    d.Reachable refuses loc := by
  intro dir mem
  obtain ⟨rel, rfl⟩ := (List.mem_inits _ _).mp mem
  by_cases here : rel = []
  · rw [here, List.append_nil] at node
    exact Or.inl node
  · exact Or.inl (d.directory_above here (by rw [node]; exact Option.some_ne_none _))

variable (refuses)

/-- `path.mkdir(parents=True, exist_ok=True)`: the missing directories are made from the
top down, up to the first that is refused. It succeeds when `loc` is reachable. -/
def mkdirs (d : Disk) (loc : Location) : Disk where
  node at_ := if at_ <+: loc ∧ d.Reachable refuses at_ then some .directory else d.node at_
  root := by rw [if_pos ⟨List.nil_prefix, reachable_of_directory d.root⟩]
  nested dir name present := by
    have above : dir <+: dir ++ [name] := List.prefix_append dir [name]
    split at present
    · rename_i made
      rw [if_pos ⟨above.trans made.1, made.2.above above⟩]
    · split
      · rfl
      · exact d.nested dir name present

/-- A file can be put at `loc`: it stands in a directory, is not one, and is not refused. -/
def Writable (d : Disk) (loc : Location) : Prop :=
  loc ≠ [] ∧ d.node loc.dropLast = some .directory ∧ d.node loc ≠ some .directory ∧
    refuses loc = false

instance (d : Disk) (loc : Location) : Decidable (d.Writable refuses loc) :=
  inferInstanceAs (Decidable (_ ∧ _ ∧ _ ∧ _))

/-- `open(path, "wb")`, then the bytes. -/
def write (d : Disk) (loc : Location) (bytes : Bytes) : Option Disk :=
  if writable : d.Writable refuses loc then some
    { node := fun at_ => if at_ = loc then some (.file bytes) else d.node at_
      root := by rw [if_neg (Ne.symm writable.1), d.root]
      nested := by
        intro dir name present
        obtain ⟨-, parent, notDirectory, -⟩ := writable
        by_cases here : dir ++ [name] = loc
        · have other : dir ≠ loc := by
            rintro rfl
            simpa using congrArg List.length here
          rw [if_neg other, ← parent, ← here, List.dropLast_concat]
        · rw [if_neg here] at present
          have above := d.nested dir name present
          have other : dir ≠ loc := by
            rintro rfl
            exact notDirectory above
          rw [if_neg other, above] }
  else none

/-- The directory at `loc` can be removed with all that is in it. -/
def Removable (d : Disk) (loc : Location) : Prop :=
  loc ≠ [] ∧ d.node loc = some .directory ∧ refuses loc = false

instance (d : Disk) (loc : Location) : Decidable (d.Removable refuses loc) :=
  inferInstanceAs (Decidable (_ ∧ _ ∧ _))

/-- `shutil.rmtree(path)`, of which only the directory itself can be refused. A refusal of
something in it, which would end the call with a part removed, is left out. -/
def rmtree (d : Disk) (loc : Location) : Option Disk :=
  if removable : d.Removable refuses loc then some
    { node := fun at_ => if loc <+: at_ then none else d.node at_
      root := by rw [if_neg (fun below => removable.1 (List.prefix_nil.mp below)), d.root]
      nested := by
        intro dir name present
        split at present
        · exact absurd rfl present
        · rename_i outside
          rw [if_neg (fun below => outside (below.trans (List.prefix_append dir [name])))]
          exact d.nested dir name present }
  else none

end Calls

/-! ### What the calls leave alone -/

section Frame

variable {refuses : Location → Bool} {d e : Disk} {loc : Location}

theorem mkdirs_node (at_ : Location) : (d.mkdirs refuses loc).node at_ =
    if at_ <+: loc ∧ d.Reachable refuses at_ then some .directory else d.node at_ := rfl

theorem mkdirs_directory (reachable : d.Reachable refuses loc) :
    (d.mkdirs refuses loc).node loc = some .directory :=
  if_pos ⟨List.prefix_refl loc, reachable⟩

/-- Making directories makes and loses no file. -/
theorem mkdirs_file (at_ : Location) : (d.mkdirs refuses loc).file at_ = d.file at_ := by
  by_cases made : at_ <+: loc ∧ d.Reachable refuses at_
  · have after : (d.mkdirs refuses loc).node at_ = some .directory := if_pos made
    rw [file_of_directory after]
    rcases made.2.node with already | ⟨missing, -⟩
    · rw [file_of_directory already]
    · rw [file_of_none missing]
  · exact file_congr (if_neg made)

/-- A directory that stands is made by doing nothing. -/
theorem mkdirs_of_directory (node : d.node loc = some .directory) : d.mkdirs refuses loc = d := by
  refine ext fun at_ => ?_
  rw [mkdirs_node]
  split
  · rename_i made
    obtain ⟨rel, rfl⟩ := made.1
    by_cases here : rel = []
    · rw [here, List.append_nil] at node
      exact node.symm
    · exact (d.directory_above here (by rw [node]; exact Option.some_ne_none _)).symm
  · rfl

theorem write_eq_some {bytes : Bytes} (written : d.write refuses loc bytes = some e) :
    d.Writable refuses loc ∧
      ∀ at_, e.node at_ = if at_ = loc then some (.file bytes) else d.node at_ := by
  unfold write at written
  split at written
  · rename_i writable
    obtain rfl := Option.some.inj written
    exact ⟨writable, fun _ => rfl⟩
  · cases written

theorem write_eq_none {bytes : Bytes} :
    d.write refuses loc bytes = none ↔ ¬ d.Writable refuses loc := by
  unfold write
  split <;> simp [*]

/-- Writing the bytes that stand there already changes nothing. -/
theorem write_file {bytes : Bytes} (written : d.write refuses loc bytes = some e) (at_ : Location) :
    e.file at_ = if at_ = loc then some bytes else d.file at_ := by
  obtain ⟨-, nodes⟩ := write_eq_some written
  split
  · rename_i here
    exact file_of_node (by rw [nodes, if_pos here])
  · rename_i elsewhere
    exact file_congr (by rw [nodes, if_neg elsewhere])

theorem rmtree_eq_some (removed : d.rmtree refuses loc = some e) :
    d.Removable refuses loc ∧
      ∀ at_, e.node at_ = if loc <+: at_ then none else d.node at_ := by
  unfold rmtree at removed
  split at removed
  · rename_i removable
    obtain rfl := Option.some.inj removed
    exact ⟨removable, fun _ => rfl⟩
  · cases removed

theorem rmtree_eq_none : d.rmtree refuses loc = none ↔ ¬ d.Removable refuses loc := by
  unfold rmtree
  split <;> simp [*]

end Frame

/-! ### A disk inside a disk -/

/-- `disk` is `base`, except that at and below `loc` it holds what `sub` holds from its
root. -/
structure Grafted (base : Disk) (loc : Location) (sub disk : Disk) : Prop where
  inside : ∀ rel, disk.node (loc ++ rel) = sub.node rel
  outside : ∀ at_, ¬ loc <+: at_ → disk.node at_ = base.node at_

namespace Grafted

variable {refuses : Location → Bool} {base sub disk : Disk} {loc : Location}

/-- What is refused below `loc`, told by relative location. -/
abbrev below (refuses : Location → Bool) (loc : Location) : Location → Bool :=
  fun rel => refuses (loc ++ rel)

theorem directory (graft : Grafted base loc sub disk) : disk.node loc = some .directory := by
  have root := graft.inside []
  rwa [List.append_nil, sub.root] at root

theorem file (graft : Grafted base loc sub disk) (rel : Location) :
    disk.file (loc ++ rel) = sub.file rel :=
  file_congr (graft.inside rel)

theorem reachable_iff (graft : Grafted base loc sub disk) (rel : Location) :
    disk.Reachable refuses (loc ++ rel) ↔ sub.Reachable (below refuses loc) rel := by
  constructor
  · intro reachable dir mem
    have above := (List.mem_inits _ _).mp mem
    rw [← graft.inside]
    exact reachable (loc ++ dir)
      ((List.mem_inits _ _).mpr ((List.prefix_append_right_inj loc).mpr above))
  · intro reachable dir mem
    have above := (List.mem_inits _ _).mp mem
    rcases List.prefix_or_prefix_of_prefix above (List.prefix_append loc rel) with up | ⟨dir, rfl⟩
    · exact reachable_of_directory graft.directory dir ((List.mem_inits _ _).mpr up)
    · rw [graft.inside]
      exact reachable dir
        ((List.mem_inits _ _).mpr ((List.prefix_append_right_inj loc).mp above))

theorem mkdirs (graft : Grafted base loc sub disk) (rel : Location) :
    Grafted base loc (sub.mkdirs (below refuses loc) rel) (disk.mkdirs refuses (loc ++ rel)) where
  inside at_ := by
    simp only [mkdirs_node, graft.reachable_iff, graft.inside, List.prefix_append_right_inj]
  outside at_ away := by
    rw [mkdirs_node]
    split
    · rename_i made
      rcases List.prefix_or_prefix_of_prefix made.1 (List.prefix_append loc rel) with up | down
      · obtain ⟨rest, rfl⟩ := up
        have notHere : rest ≠ [] := by
          rintro rfl
          rw [List.append_nil] at away
          exact away (List.prefix_refl at_)
        rw [← graft.outside at_ away]
        refine (disk.directory_above notHere ?_).symm
        rw [graft.directory]
        exact Option.some_ne_none _
      · exact absurd down away
    · exact graft.outside at_ away

theorem writable_iff (graft : Grafted base loc sub disk) {rel : Location} (nonempty : rel ≠ []) :
    disk.Writable refuses (loc ++ rel) ↔ sub.Writable (below refuses loc) rel := by
  have parent : (loc ++ rel).dropLast = loc ++ rel.dropLast :=
    List.dropLast_append_of_ne_nil nonempty
  simp only [Writable, parent, graft.inside, ne_eq, List.append_eq_nil_iff, nonempty, and_false,
    not_false_eq_true, true_and]

/-- The root of `sub` is a directory, so no file is put there in either disk. -/
theorem not_writable_root (graft : Grafted base loc sub disk) :
    ¬ disk.Writable refuses (loc ++ []) ∧ ¬ sub.Writable (below refuses loc) [] := by
  refine ⟨fun writable => ?_, fun writable => writable.1 rfl⟩
  rw [List.append_nil] at writable
  exact writable.2.2.1 graft.directory

theorem write (graft : Grafted base loc sub disk) (rel : Location) (bytes : Bytes) :
    Option.Rel (Grafted base loc) (sub.write (below refuses loc) rel bytes)
      (disk.write refuses (loc ++ rel) bytes) := by
  have both : disk.Writable refuses (loc ++ rel) ↔ sub.Writable (below refuses loc) rel := by
    by_cases root : rel = []
    · subst root
      exact iff_of_false graft.not_writable_root.1 graft.not_writable_root.2
    · exact graft.writable_iff root
  cases inner : sub.write (below refuses loc) rel bytes with
  | none =>
      rw [write_eq_none.mpr (mt both.mp (write_eq_none.mp inner))]
      exact .none
  | some sub' =>
      obtain ⟨writable, nodes⟩ := write_eq_some inner
      cases outer : disk.write refuses (loc ++ rel) bytes with
      | none => exact absurd (both.mpr writable) (write_eq_none.mp outer)
      | some disk' =>
          obtain ⟨-, nodes'⟩ := write_eq_some outer
          refine .some ⟨fun at_ => ?_, fun at_ away => ?_⟩
          · simp only [nodes', nodes, graft.inside, List.append_cancel_left_eq]
          · have elsewhere : at_ ≠ loc ++ rel := by
              rintro rfl
              exact away (List.prefix_append loc rel)
            rw [nodes', if_neg elsewhere, graft.outside at_ away]

end Grafted

/-- A directory that can be made where nothing stands is empty. -/
theorem grafted_mkdirs {refuses : Location → Bool} {d : Disk} {loc : Location}
    (missing : d.node loc = none) (reachable : d.Reachable refuses loc) :
    Grafted (d.mkdirs refuses loc) loc .empty (d.mkdirs refuses loc) := by
  refine ⟨fun rel => ?_, fun _ _ => rfl⟩
  by_cases top : rel = []
  · subst top
    rw [List.append_nil, mkdirs_directory reachable]
    rfl
  · have deeper : ¬ loc ++ rel <+: loc := by
      intro above
      have shorter := above.length_le
      rw [List.length_append] at shorter
      have some_ := List.length_pos_of_ne_nil top
      omega
    have nothing : Disk.empty.node rel = none := if_neg top
    rw [mkdirs_node, if_neg (fun made => deeper made.1), d.none_below missing, nothing]

end Disk

end KvIndexer.Posix
