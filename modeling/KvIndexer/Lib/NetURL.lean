import Mathlib.Data.List.Basic

/-!
URLs as bytes: percent-encoding, what a URL is cut into, and the request target it is sent
as.

Escaped text reads back as it was, whichever bytes are left as they are (`unescape_escape`).
Text is unescaped to itself only if no byte of it starts an escape (`unescape_eq_self_iff`),
since every escape makes it shorter. A URL is sent with a path that reads back as the path it
was parsed to (`readTarget_requestURI`); what it was parsed to need not be what was written.
-/

namespace KvIndexer.NetURL

abbrev Octets := List UInt8

/-- The byte of an ASCII character. -/
def byte (c : Char) : UInt8 := UInt8.ofNat c.toNat

/-- The bytes of an ASCII text. -/
def bytes (s : String) : Octets := s.toList.map byte

/-! ### Percent-encoding -/

/-- The value of a hexadecimal digit. -/
def unhex (c : UInt8) : Option Nat :=
  if byte '0' ≤ c ∧ c ≤ byte '9' then some (c.toNat - 48)
  else if byte 'a' ≤ c ∧ c ≤ byte 'f' then some (c.toNat - 87)
  else if byte 'A' ≤ c ∧ c ≤ byte 'F' then some (c.toNat - 55)
  else none

def upperhex (n : Nat) : UInt8 := UInt8.ofNat (if n < 10 then n + 48 else n + 55)

/-- `keeps` are the bytes left as they are. -/
def escape (keeps : UInt8 → Bool) (s : Octets) : Octets :=
  s.flatMap fun c =>
    if keeps c then [c] else [byte '%', upperhex (c.toNat / 16), upperhex (c.toNat % 16)]

def unescape : Octets → Option Octets
  | [] => some []
  | c :: s =>
      if c = byte '%' then
        match s with
        | high :: low :: rest => do
            let h ← unhex high
            let l ← unhex low
            let s ← unescape rest
            return UInt8.ofNat (h * 16 + l) :: s
        | _ => none
      else (unescape s).map (c :: ·)

@[simp] theorem unescape_cons {c : UInt8} (plain : c ≠ byte '%') (s : Octets) :
    unescape (c :: s) = (unescape s).map (c :: ·) := by
  conv_lhs => unfold unescape
  exact if_neg plain

theorem unescape_percent (high low : UInt8) (rest : Octets) :
    unescape (byte '%' :: high :: low :: rest) =
      (unhex high).bind fun h => (unhex low).bind fun l =>
        (unescape rest).map (UInt8.ofNat (h * 16 + l) :: ·) := by
  rw [unescape, if_pos rfl]
  cases unhex high with
  | none => rfl
  | some h =>
      cases unhex low with
      | none => rfl
      | some l => cases unescape rest <;> rfl

theorem unhex_upperhex : ∀ {n : Nat}, n < 16 → unhex (upperhex n) = some n
  | 0, _ | 1, _ | 2, _ | 3, _ | 4, _ | 5, _ | 6, _ | 7, _ => by decide
  | 8, _ | 9, _ | 10, _ | 11, _ | 12, _ | 13, _ | 14, _ | 15, _ => by decide
  | n + 16, small => absurd small (by omega)

theorem unescape_escape {keeps : UInt8 → Bool} (percent : keeps (byte '%') = false) (s : Octets) :
    unescape (escape keeps s) = some s := by
  unfold escape
  induction s with
  | nil => rfl
  | cons c s ih =>
      rw [List.flatMap_cons]
      split
      · rename_i kept
        have plain : c ≠ byte '%' := by
          rintro rfl
          rw [percent] at kept
          cases kept
        rw [List.singleton_append, unescape_cons plain, ih]
        rfl
      · have size := c.toNat_lt
        have high : unhex (upperhex (c.toNat / 16)) = some (c.toNat / 16) :=
          unhex_upperhex (by omega)
        have low : unhex (upperhex (c.toNat % 16)) = some (c.toNat % 16) :=
          unhex_upperhex (by omega)
        refine (unescape_percent _ _ _).trans ?_
        rw [high, low]
        show (unescape (List.flatMap _ s)).map _ = _
        rw [ih, Nat.div_add_mod', UInt8.ofNat_toNat]
        rfl

theorem unescape_append {s : Octets} (plain : byte '%' ∉ s) (t : Octets) :
    unescape (s ++ t) = (unescape t).map (s ++ ·) := by
  induction s with
  | nil => simp
  | cons c s ih =>
      rw [List.mem_cons, not_or] at plain
      rw [List.cons_append, unescape_cons (Ne.symm plain.1), ih plain.2, Option.map_map]
      rfl

theorem unescape_of_plain {s : Octets} (plain : byte '%' ∉ s) : unescape s = some s := by
  have whole := unescape_append plain []
  rw [List.append_nil] at whole
  simpa [unescape] using whole

/-- Unescaping makes no text longer, and shorter one with an escape in it. -/
theorem length_unescape {s t : Octets} (reads : unescape s = some t) :
    t.length ≤ s.length ∧ (byte '%' ∈ s → t.length < s.length) := by
  induction s using unescape.induct generalizing t with
  | case1 =>
      obtain rfl := Option.some.inj reads
      exact ⟨Nat.le_refl _, fun member => absurd member List.not_mem_nil⟩
  | case2 high low rest ih =>
      simp only [unescape_percent, Option.bind_eq_some_iff, Option.map_eq_some_iff] at reads
      obtain ⟨h, -, l, -, u, reads, rfl⟩ := reads
      have shorter := (ih reads).1
      simp only [List.length_cons]
      omega
  | case3 s short =>
      rw [unescape.eq_3 _ _ short, if_pos rfl] at reads
      cases reads
  | case4 c s plain ih =>
      rw [unescape_cons plain, Option.map_eq_some_iff] at reads
      obtain ⟨u, reads, rfl⟩ := reads
      obtain ⟨shorter, strict⟩ := ih reads
      refine ⟨Nat.succ_le_succ shorter, fun member => Nat.succ_lt_succ (strict ?_)⟩
      rcases List.mem_cons.mp member with here | later
      · exact absurd here.symm plain
      · exact later

theorem unescape_eq_self_iff {s : Octets} : unescape s = some s ↔ byte '%' ∉ s :=
  ⟨fun reads escaped => Nat.lt_irrefl _ ((length_unescape reads).2 escaped), unescape_of_plain⟩

/-! ### Octets of a path -/

def isAlnum (c : UInt8) : Bool :=
  (byte 'a' ≤ c && c ≤ byte 'z') || (byte 'A' ≤ c && c ≤ byte 'Z') ||
    (byte '0' ≤ c && c ≤ byte '9')

/-- The bytes that a path is written with as they are. -/
def keepsPath (c : UInt8) : Bool := isAlnum c || (bytes "-_.~$&+,/:;=@").contains c

/-- The bytes that may stand in the text of a path. -/
def validPath (c : UInt8) : Bool := keepsPath c || (bytes "!'()*[]%").contains c

/-- The bytes that `encodeURIComponent` leaves as they are. -/
def keepsComponent (c : UInt8) : Bool := isAlnum c || (bytes "-_.!~*'()").contains c

def encodeURIComponent (s : Octets) : Octets := escape keepsComponent s

def isCTL (c : UInt8) : Bool := c < byte ' ' || c = 0x7f

/-- A byte of a path ends neither the path nor the request target. -/
structure InPath (c : UInt8) : Prop where
  printable : isCTL c = false
  noSpace : c ≠ byte ' '
  noQuery : c ≠ byte '?'

theorem inPath_of_isAlnum {c : UInt8} (alnum : isAlnum c = true) : InPath c := by
  have cases : (97 ≤ c.toNat ∧ c.toNat ≤ 122) ∨ (65 ≤ c.toNat ∧ c.toNat ≤ 90) ∨
      (48 ≤ c.toNat ∧ c.toNat ≤ 57) := by
    simpa [isAlnum, byte, UInt8.le_iff_toNat_le, or_assoc] using alnum
  refine ⟨?_, ?_, ?_⟩
  · simp only [isCTL, Bool.or_eq_false_iff, decide_eq_false_iff_not, UInt8.lt_iff_toNat_lt,
      ← UInt8.toNat_inj]
    show ¬ c.toNat < 32 ∧ ¬ c.toNat = 127
    omega
  · rw [ne_eq, ← UInt8.toNat_inj]
    show ¬ c.toNat = 32
    omega
  · rw [ne_eq, ← UInt8.toNat_inj]
    show ¬ c.toNat = 63
    omega

theorem inPath_of_validPath {c : UInt8} (valid : validPath c = true) : InPath c := by
  have mark : (bytes "-_.~$&+,/:;=@!'()*[]%").all (fun c =>
      isCTL c = false && c ≠ byte ' ' && c ≠ byte '?') = true := by decide
  rw [List.all_eq_true] at mark
  have marks : ∀ c ∈ bytes "-_.~$&+,/:;=@!'()*[]%", InPath c := by
    intro c member
    have holds := mark c member
    simp only [Bool.and_eq_true, decide_eq_true_eq] at holds
    exact ⟨holds.1.1, holds.1.2, holds.2⟩
  have split : bytes "-_.~$&+,/:;=@!'()*[]%" = bytes "-_.~$&+,/:;=@" ++ bytes "!'()*[]%" := by
    decide
  simp only [validPath, keepsPath, Bool.or_eq_true, List.contains_iff_mem] at valid
  rcases valid with (alnum | kept) | valid
  · exact inPath_of_isAlnum alnum
  · exact marks c (split ▸ List.mem_append_left _ kept)
  · exact marks c (split ▸ List.mem_append_right _ valid)

theorem inPath_of_keepsComponent {c : UInt8} (kept : keepsComponent c = true) : InPath c := by
  refine inPath_of_validPath ?_
  have marks : (bytes "-_.!~*'()").all validPath = true := by decide
  simp only [keepsComponent, Bool.or_eq_true, List.contains_iff_mem] at kept
  rcases kept with alnum | mark
  · simp [validPath, keepsPath, alnum]
  · exact List.all_eq_true.mp marks c mark

theorem isAlnum_upperhex : ∀ {n : Nat}, n < 16 → isAlnum (upperhex n) = true
  | 0, _ | 1, _ | 2, _ | 3, _ | 4, _ | 5, _ | 6, _ | 7, _ => by decide
  | 8, _ | 9, _ | 10, _ | 11, _ | 12, _ | 13, _ | 14, _ | 15, _ => by decide
  | n + 16, small => absurd small (by omega)

/-- Escaped text consists of bytes that are kept, percent signs, letters and digits. -/
theorem mem_escape {keeps : UInt8 → Bool} {s : Octets} {c : UInt8} (member : c ∈ escape keeps s) :
    (keeps c = true ∧ c ∈ s) ∨ c = byte '%' ∨ isAlnum c = true := by
  unfold escape at member
  obtain ⟨d, from_, member⟩ := List.mem_flatMap.mp member
  split at member
  · rename_i kept
    obtain rfl := List.mem_singleton.mp member
    exact Or.inl ⟨kept, from_⟩
  · have size := d.toNat_lt
    simp only [List.mem_cons, List.not_mem_nil, or_false] at member
    rcases member with rfl | rfl | rfl
    · exact Or.inr (Or.inl rfl)
    · exact Or.inr (Or.inr (isAlnum_upperhex (by omega)))
    · exact Or.inr (Or.inr (isAlnum_upperhex (by omega)))

theorem inPath_escape {keeps : UInt8 → Bool} (inPath : ∀ c, keeps c = true → InPath c)
    (s : Octets) : ∀ c ∈ escape keeps s, InPath c := by
  intro c member
  rcases mem_escape member with ⟨kept, -⟩ | rfl | alnum
  · exact inPath c kept
  · exact inPath_of_validPath (by decide)
  · exact inPath_of_isAlnum alnum

theorem inPath_of_keepsPath {c : UInt8} (kept : keepsPath c = true) : InPath c :=
  inPath_of_validPath (by simp [validPath, kept])

/-! ### Parsing and sending -/

/-- The text before the first separator, and what follows it if there is one. -/
def cut (separator : UInt8) : Octets → Octets × Option Octets
  | [] => ([], none)
  | c :: s =>
      if c = separator then ([], some s)
      else (c :: (cut separator s).1, (cut separator s).2)

/-- What a URL says besides its origin; the raw path is empty where the path is written in
the default way. -/
structure URL where
  path : Octets
  rawPath : Octets
  query : Option Octets

/-- A URL with this path, from how the path was written. -/
def URL.written (path written : Octets) (query : Option Octets) : URL where
  path := path
  rawPath := if escape keepsPath path = written then [] else written
  query := query

/-- The text before the fragment. -/
def unfragmented (s : Octets) : Octets := (cut (byte '#') s).1

def fragmentPart (s : Octets) : Octets := (cut (byte '#') s).2.getD []

def pathPart (s : Octets) : Octets := (cut (byte '?') (unfragmented s)).1

def queryPart (s : Octets) : Option Octets := (cut (byte '?') (unfragmented s)).2

/-- `url.Parse`, from where the origin ends. -/
def parse (s : Octets) : Option URL :=
  if (unfragmented s).any isCTL then none
  else
    match unescape (pathPart s), unescape (fragmentPart s) with
    | some path, some _ => some (URL.written path (pathPart s) (queryPart s))
    | _, _ => none

def URL.escapedPath (u : URL) : Octets :=
  if u.rawPath ≠ [] ∧ u.rawPath.all validPath ∧ unescape u.rawPath = some u.path then u.rawPath
  else if u.path = bytes "*" then bytes "*"
  else escape keepsPath u.path

def URL.requestURI (u : URL) : Octets :=
  let result := if u.escapedPath = [] then bytes "/" else u.escapedPath
  match u.query with
  | none => result
  | some query => result ++ byte '?' :: query

/-- The path a server reads from a request target. A space would end the target. -/
def readTarget (target : Octets) : Option Octets :=
  if byte ' ' ∈ target ∨ target.any isCTL then none
  else unescape (cut (byte '?') target).1

section Cut

variable {separator : UInt8} {s : Octets}

/-- The pieces, put together again. -/
theorem cut_join (separator : UInt8) (s : Octets) :
    (cut separator s).1 ++ ((cut separator s).2.elim [] (separator :: ·)) = s := by
  induction s with
  | nil => rfl
  | cons c s ih =>
      rw [cut]
      split
      · rename_i here
        rw [here]
        rfl
      · exact congrArg (c :: ·) ih

theorem notMem_cut (separator : UInt8) (s : Octets) : separator ∉ (cut separator s).1 := by
  induction s with
  | nil => exact List.not_mem_nil
  | cons c s ih =>
      rw [cut]
      split
      · exact List.not_mem_nil
      · rename_i other
        exact List.not_mem_cons_of_ne_of_not_mem (Ne.symm other) ih

theorem cut_append (absent : separator ∉ s) (t : Octets) :
    cut separator (s ++ t) = (s ++ (cut separator t).1, (cut separator t).2) := by
  induction s with
  | nil => rfl
  | cons c s ih =>
      rw [List.mem_cons, not_or] at absent
      rw [List.cons_append, cut, if_neg (Ne.symm absent.1), ih absent.2]
      rfl

theorem cut_of_notMem (absent : separator ∉ s) : cut separator s = (s, none) := by
  have whole := cut_append absent []
  rwa [List.append_nil, cut, List.append_nil] at whole

theorem cut_separator (absent : separator ∉ s) (t : Octets) :
    cut separator (s ++ separator :: t) = (s, some t) := by
  rw [cut_append absent, cut, if_pos rfl, List.append_nil]

theorem mem_of_mem_rest {c : UInt8} {rest : Octets} (cut_ : (cut separator s).2 = some rest)
    (member : c ∈ rest) : c ∈ s := by
  rw [← cut_join separator s, cut_]
  exact List.mem_append_right _ (List.mem_cons_of_mem _ member)

/-- The first piece is shorter where there is a separator. -/
theorem length_cut (separator : UInt8) (s : Octets) :
    (cut separator s).1.length ≤ s.length ∧
      (separator ∈ s → (cut separator s).1.length < s.length) := by
  have joined := cut_join separator s
  have length := congrArg List.length joined
  rw [List.length_append] at length
  refine ⟨by omega, fun member => ?_⟩
  cases rest : (cut separator s).2 with
  | none =>
      rw [rest, Option.elim_none, List.append_nil] at joined
      rw [← joined] at member
      exact absurd member (notMem_cut separator s)
  | some rest_ =>
      rw [rest, Option.elim_some, List.length_cons] at length
      omega

end Cut

theorem unescape_escapedPath (u : URL) : unescape u.escapedPath = some u.path := by
  unfold URL.escapedPath
  split
  · rename_i raw
    exact raw.2.2
  · split
    · rename_i star
      rw [star]
      decide
    · exact unescape_escape (by decide) u.path

theorem inPath_escapedPath (u : URL) : ∀ c ∈ u.escapedPath, InPath c := by
  unfold URL.escapedPath
  intro c member
  split at member
  · rename_i raw
    exact inPath_of_validPath (List.all_eq_true.mp raw.2.1 c member)
  · split at member
    · obtain rfl : c = byte '*' := by simpa [bytes] using member
      exact inPath_of_validPath (by decide)
    · exact inPath_escape (fun c => inPath_of_keepsPath) u.path c member

/-- What a URL is parsed into. -/
theorem parse_eq_some_iff {s : Octets} {u : URL} :
    parse s = some u ↔
      (unfragmented s).any isCTL = false ∧ (unescape (fragmentPart s)).isSome ∧
        ∃ path, unescape (pathPart s) = some path ∧
          u = URL.written path (pathPart s) (queryPart s) := by
  unfold parse
  cases (unfragmented s).any isCTL with
  | true => simp
  | false =>
      cases unescape (pathPart s) with
      | none => simp
      | some path =>
          cases unescape (fragmentPart s) with
          | none => simp
          | some fragment => simp [eq_comm]

theorem mem_unfragmented_of_queryPart {s query : Octets} (here : queryPart s = some query)
    {c : UInt8} (member : c ∈ query) : c ∈ unfragmented s :=
  mem_of_mem_rest here member

section Plain

variable {s : Octets} (noHash : byte '#' ∉ s) (noQuery : byte '?' ∉ s)
include noHash

theorem unfragmented_append (t : Octets) : unfragmented (s ++ t) = s ++ unfragmented t := by
  unfold unfragmented
  rw [cut_append noHash]

theorem fragmentPart_append (t : Octets) : fragmentPart (s ++ t) = fragmentPart t := by
  unfold fragmentPart
  rw [cut_append noHash]

include noQuery

theorem pathPart_append (t : Octets) : pathPart (s ++ t) = s ++ pathPart t := by
  unfold pathPart
  rw [unfragmented_append noHash, cut_append noQuery]

theorem queryPart_append (t : Octets) : queryPart (s ++ t) = queryPart t := by
  unfold queryPart
  rw [unfragmented_append noHash, cut_append noQuery]

end Plain

/-- A target without a query is read as its path. -/
theorem readTarget_of_inPath {s : Octets} (inPath : ∀ c ∈ s, InPath c) :
    readTarget s = unescape s := by
  have noSpace : byte ' ' ∉ s := fun member => (inPath _ member).noSpace rfl
  have noQuery : byte '?' ∉ s := fun member => (inPath _ member).noQuery rfl
  have noCTL : s.any isCTL = false :=
    List.any_eq_false.mpr fun c member => by simp [(inPath c member).printable]
  unfold readTarget
  rw [if_neg (by simp [noSpace, noCTL]), cut_of_notMem noQuery]

/-- A URL is sent so that its path is read, unless there is a space in the query. -/
theorem readTarget_requestURI {u : URL} (path : u.path ≠ [])
    (printable : ∀ query ∈ u.query, query.any isCTL = false) :
    readTarget u.requestURI =
      if ∃ query ∈ u.query, byte ' ' ∈ query then none else some u.path := by
  have reads := unescape_escapedPath u
  have inPath := inPath_escapedPath u
  have nonempty : u.escapedPath ≠ [] := by
    intro empty
    rw [empty] at reads
    exact path (Option.some.inj reads).symm
  unfold URL.requestURI
  rw [if_neg nonempty]
  cases query : u.query with
  | none =>
      dsimp only
      rw [readTarget_of_inPath inPath, reads, if_neg (by simp)]
  | some q =>
      have printable : q.any isCTL = false := printable q query
      have noSpace : byte ' ' ∉ u.escapedPath := fun member => (inPath _ member).noSpace rfl
      have noQuery : byte '?' ∉ u.escapedPath := fun member => (inPath _ member).noQuery rfl
      have noCTL : u.escapedPath.any isCTL = false :=
        List.any_eq_false.mpr fun c member => by simp [(inPath c member).printable]
      unfold readTarget
      dsimp only
      rw [cut_separator noQuery, reads]
      refine if_congr ?_ rfl rfl
      have mark : byte ' ' ≠ byte '?' := by decide
      have printableMark : isCTL (byte '?') = false := by decide
      simp [noSpace, noCTL, printable, mark, printableMark]

/-! ### Redirects -/

/-- `path.Clean` of a path from the root. -/
def clean (path : Octets) : Octets :=
  let segments := (path.splitOn (byte '/')).foldl
    (fun kept segment =>
      if segment = [] ∨ segment = bytes "." then kept
      else if segment = bytes ".." then kept.dropLast
      else kept ++ [segment]) []
  byte '/' :: [byte '/'].intercalate segments

/-- The location that `http.Redirect` sends for a path; it keeps a slash at the end. -/
def location (path : Octets) : Octets :=
  let url := clean path
  if path.getLast? = some (byte '/') ∧ url.getLast? ≠ some (byte '/') then url ++ bytes "/" else url

/-- A segment that names something below its parent. -/
structure Proper (segment : Octets) : Prop where
  nonempty : segment ≠ []
  noSlash : byte '/' ∉ segment
  notDot : segment ≠ bytes "."
  notDotDot : segment ≠ bytes ".."

instance (segment : Octets) : Decidable (Proper segment) :=
  decidable_of_iff
    (segment ≠ [] ∧ byte '/' ∉ segment ∧ segment ≠ bytes "." ∧ segment ≠ bytes "..")
    ⟨fun ⟨nonempty, noSlash, notDot, notDotDot⟩ => ⟨nonempty, noSlash, notDot, notDotDot⟩,
      fun ⟨nonempty, noSlash, notDot, notDotDot⟩ => ⟨nonempty, noSlash, notDot, notDotDot⟩⟩

/-- Escaping a segment keeps it one. -/
theorem Proper.escape {segment : Octets} (proper : Proper segment) :
    Proper (escape keepsPath segment) := by
  have same : ∀ t, unescape t = some t → NetURL.escape keepsPath segment = t → segment = t := by
    intro t plain here
    have reads : unescape (NetURL.escape keepsPath segment) = some segment :=
      unescape_escape (by decide) segment
    rw [here, plain] at reads
    exact (Option.some.inj reads).symm
  refine ⟨fun here => proper.nonempty (same _ (by decide) here), fun member => ?_,
    fun here => proper.notDot (same _ (by decide) here),
    fun here => proper.notDotDot (same _ (by decide) here)⟩
  rcases mem_escape member with ⟨-, there⟩ | percent | alnum
  · exact proper.noSlash there
  · exact absurd percent (by decide)
  · exact absurd alnum (by decide)

/-- There is nothing to clean in a path of proper segments. -/
theorem clean_of_proper {segments : List Octets} (some : segments ≠ [])
    (proper : ∀ segment ∈ segments, Proper segment) :
    clean (byte '/' :: [byte '/'].intercalate segments) =
      byte '/' :: [byte '/'].intercalate segments := by
  have kept : ∀ front, segments.foldl
      (fun kept segment =>
        if segment = [] ∨ segment = bytes "." then kept
        else if segment = bytes ".." then kept.dropLast
        else kept ++ [segment]) front = front ++ segments := by
    clear some
    induction segments with
    | nil => simp
    | cons segment segments ih =>
        intro front
        have first := proper segment List.mem_cons_self
        have later := ih fun other member => proper other (List.mem_cons_of_mem _ member)
        rw [List.foldl_cons, if_neg (not_or.mpr ⟨first.nonempty, first.notDot⟩),
          if_neg first.notDotDot, later, List.append_assoc]
        rfl
  have split : (byte '/' :: [byte '/'].intercalate segments).splitOn (byte '/') =
      [] :: segments := by
    have first := List.splitOn_append_cons_self (a := byte '/') [] ([byte '/'].intercalate segments)
    rw [List.splitOn_intercalate _ (fun segment member => (proper segment member).noSlash) some,
      List.splitOn_nil] at first
    exact first
  unfold clean
  rw [split, List.foldl_cons, if_pos (Or.inl rfl), kept]
  rfl

theorem location_of_proper {segments : List Octets} (some : segments ≠ [])
    (proper : ∀ segment ∈ segments, Proper segment) :
    location (byte '/' :: [byte '/'].intercalate segments) =
      byte '/' :: [byte '/'].intercalate segments := by
  unfold location
  rw [clean_of_proper some proper]
  exact if_neg fun ends => ends.2 ends.1

end KvIndexer.NetURL
