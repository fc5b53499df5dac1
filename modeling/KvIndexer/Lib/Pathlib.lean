import Mathlib.Data.List.Infix

/-!
Pure POSIX paths, as Python's `pathlib` reads, prints and joins them.

A path is an anchor and its parts. Reading a string drops empty parts and `.`
but keeps `..`: without looking at a disk, `a/../b` cannot be shortened. A part
is therefore nonempty, is not `.` and has no slash in it, and the structure
carries that. Printing a path and reading it back gives the path
(`parse_toString`).
-/

namespace KvIndexer.Posix

/-- What a path starts from: where the process stands, `/`, or the `//` that POSIX sets
apart. -/
inductive Anchor where
  | relative
  | root
  | doubleRoot
  deriving DecidableEq, Repr

/-- What a part of a path can be. -/
def IsPart (part : String) : Prop := part ≠ "" ∧ part ≠ "." ∧ '/' ∉ part.toList

instance (part : String) : Decidable (IsPart part) :=
  inferInstanceAs (Decidable (_ ∧ _ ∧ _))

/-- `PurePosixPath`. -/
structure PurePath where
  anchor : Anchor
  parts : List String
  clean : ∀ part ∈ parts, IsPart part
  deriving DecidableEq

namespace PurePath

theorem ext {p q : PurePath} (anchor : p.anchor = q.anchor) (parts : p.parts = q.parts) :
    p = q := by
  cases p
  cases q
  cases anchor
  cases parts
  rfl

/-! ### Reading -/

/-- The anchor of a text and what follows it. Three slashes are one. -/
def splitRoot : List Char → Anchor × List Char
  | '/' :: '/' :: '/' :: rest => (.root, '/' :: '/' :: rest)
  | '/' :: '/' :: rest => (.doubleRoot, rest)
  | '/' :: rest => (.root, rest)
  | rest => (.relative, rest)

/-- The pieces between slashes, without the empty ones and the dots. -/
def pieces (text : List Char) : List String :=
  ((text.splitOn '/').map String.ofList).filter fun piece => piece ≠ "" && piece ≠ "."

theorem notMem_of_mem_splitOn {α : Type} [BEq α] [LawfulBEq α] {a : α} {xs piece : List α}
    (mem : piece ∈ xs.splitOn a) : a ∉ piece := by
  induction xs generalizing piece with
  | nil =>
      obtain rfl : piece = [] := by simpa using mem
      exact List.not_mem_nil
  | cons x xs ih =>
      rw [List.splitOn_cons_eq_if_modifyHead] at mem
      split at mem
      · rcases List.mem_cons.mp mem with rfl | later
        · exact List.not_mem_nil
        · exact ih later
      · rename_i differs
        cases split : xs.splitOn a with
        | nil => exact absurd split (List.splitOn_ne_nil a xs)
        | cons head rest =>
            rw [split, List.modifyHead_cons] at mem
            rcases List.mem_cons.mp mem with rfl | later
            · rintro (_ | ⟨_, inHead⟩)
              · exact differs (beq_self_eq_true a)
              · exact ih (split ▸ List.mem_cons_self) inHead
            · exact ih (split ▸ List.mem_cons_of_mem head later)

theorem isPart_of_mem_pieces {text : List Char} {piece : String} (mem : piece ∈ pieces text) :
    IsPart piece := by
  obtain ⟨listed, kept⟩ := List.mem_filter.mp mem
  obtain ⟨chars, split, rfl⟩ := List.mem_map.mp listed
  obtain ⟨nonempty, notDot⟩ : String.ofList chars ≠ "" ∧ String.ofList chars ≠ "." := by
    simpa using kept
  refine ⟨nonempty, notDot, ?_⟩
  rw [String.toList_ofList]
  exact notMem_of_mem_splitOn split

/-- `Path(text)`. -/
def parse (text : String) : PurePath where
  anchor := (splitRoot text.toList).1
  parts := pieces (splitRoot text.toList).2
  clean _ mem := isPart_of_mem_pieces mem

/-! ### Printing -/

def anchorText : Anchor → List Char
  | .relative => []
  | .root => ['/']
  | .doubleRoot => ['/', '/']

def joined (parts : List String) : List Char := ['/'].intercalate (parts.map String.toList)

/-- `str(path)`. The path of nothing is the dot. -/
def toString (p : PurePath) : String :=
  if p.anchor = .relative ∧ p.parts = [] then "."
  else String.ofList (anchorText p.anchor ++ joined p.parts)

theorem pieces_joined {parts : List String} (clean : ∀ part ∈ parts, IsPart part) :
    pieces (joined parts) = parts := by
  by_cases none : parts = []
  · subst none
    decide
  · have split : (joined parts).splitOn '/' = parts.map String.toList := by
      refine List.splitOn_intercalate '/' ?_ (by simpa using none)
      intro chars mem
      obtain ⟨part, listed, rfl⟩ := List.mem_map.mp mem
      exact (clean part listed).2.2
    have back : (parts.map String.toList).map String.ofList = parts := by
      rw [List.map_map]
      exact List.map_id'' (fun _ => String.ofList_toList) parts
    rw [pieces, split, back, List.filter_eq_self]
    intro part listed
    obtain ⟨nonempty, notDot, -⟩ := clean part listed
    simp [nonempty, notDot]

/-- Text that comes from parts does not start with a slash. -/
theorem joined_head {parts : List String} (clean : ∀ part ∈ parts, IsPart part) (rest : List Char) :
    joined parts ≠ '/' :: rest := by
  intro slash
  cases parts with
  | nil => cases slash
  | cons part parts =>
      obtain ⟨nonempty, -, noSlash⟩ := clean part List.mem_cons_self
      cases chars : part.toList with
      | nil => exact nonempty (String.toList_eq_nil_iff.mp chars)
      | cons c cs =>
          have first : c = '/' := by
            cases parts with
            | nil =>
                rw [joined, List.map_cons, chars] at slash
                exact (List.cons.inj slash).1
            | cons next parts =>
                rw [joined, List.map_cons, List.map_cons, chars] at slash
                exact (List.cons.inj slash).1
          exact noSlash (chars ▸ first ▸ List.mem_cons_self)

theorem splitRoot_anchorText (anchor : Anchor) {rest : List Char}
    (noSlash : ∀ later, rest ≠ '/' :: later) :
    splitRoot (anchorText anchor ++ rest) = (anchor, rest) := by
  cases rest with
  | nil => cases anchor <;> rfl
  | cons c cs =>
      have other : c ≠ '/' := fun slash => noSlash cs (congrArg (· :: cs) slash)
      cases anchor <;> simp [anchorText, splitRoot, other]

/-- A printed path reads back as itself. -/
theorem parse_toString (p : PurePath) : parse p.toString = p := by
  obtain ⟨anchor, parts, clean⟩ := p
  by_cases nothing : anchor = .relative ∧ parts = []
  · obtain ⟨rfl, rfl⟩ := nothing
    have dot : parse "." = ⟨.relative, [], clean⟩ := by
      refine ext rfl ?_
      show pieces ".".toList = []
      decide
    simpa [toString] using dot
  · have split : splitRoot (anchorText anchor ++ joined parts) = (anchor, joined parts) :=
      splitRoot_anchorText anchor (joined_head clean)
    refine ext ?_ ?_
    · simp [parse, toString, nothing, split]
    · simp [parse, toString, nothing, split, pieces_joined clean]

/-! ### Joining -/

/-- `p / q`. An anchored right side replaces the left. -/
def join (p q : PurePath) : PurePath :=
  if q.anchor = .relative then
    { anchor := p.anchor
      parts := p.parts ++ q.parts
      clean := fun part mem => (List.mem_append.mp mem).elim (p.clean part) (q.clean part) }
  else q

/-- `path.is_absolute()`. -/
def isAbsolute (p : PurePath) : Bool := p.anchor ≠ .relative

/-! ### Without links -/

/-- One part further: `..` goes up, and stays at the root. -/
def follow (loc : List String) (part : String) : List String :=
  if part = ".." then loc.dropLast else loc ++ [part]

/-- The names a path leads to where there are no links, for a process that stands in the
root. -/
def lexical (p : PurePath) : List String := p.parts.foldl follow []

theorem foldl_follow {parts : List String} (stays : ".." ∉ parts) (loc : List String) :
    parts.foldl follow loc = loc ++ parts := by
  induction parts generalizing loc with
  | nil => exact (List.append_nil loc).symm
  | cons part parts ih =>
      have down : part ≠ ".." := fun up => stays (up ▸ List.mem_cons_self)
      have rest : ".." ∉ parts := fun mem => stays (List.mem_cons_of_mem part mem)
      rw [List.foldl_cons, ih rest, follow, if_neg down, List.append_assoc]
      rfl

theorem lexical_join (p : PurePath) {rel : PurePath} (relative : rel.anchor = .relative)
    (stays : ".." ∉ rel.parts) : (p.join rel).lexical = p.lexical ++ rel.parts := by
  rw [join, if_pos relative]
  show (p.parts ++ rel.parts).foldl follow [] = _
  rw [List.foldl_append, foldl_follow stays]
  rfl

end PurePath

end KvIndexer.Posix
