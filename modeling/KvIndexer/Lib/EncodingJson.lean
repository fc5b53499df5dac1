import Mathlib.Data.List.Pairwise
import Mathlib.Data.Option.Basic

/-!
JSON documents, and how Go's `encoding/json` decodes them.

A document is its syntax tree; strings and numbers keep their spelling, which only
`compact` reads. A `Decoder` decodes into a value that may be set already, as
`json.Unmarshal` does: null leaves a plain value alone and unsets the others, and a
member is read into the field it names, whatever the case of its letters. All mistakes
of a document are one failure, since the callers look at nothing else.
-/

namespace KvIndexer

/-- A string: its text, and the characters between the quotes. -/
structure Quoted where
  text : String
  spelling : String
deriving DecidableEq, Repr

/-- A string that needs no escapes. -/
def Quoted.plain (s : String) : Quoted := ⟨s, s⟩

inductive Json where
  | null
  | bool (b : Bool)
  | number (literal : String)
  | string (s : Quoted)
  | array (elements : List Json)
  | object (members : List (Quoted × Json))

namespace Json

abbrev Members := List (Quoted × Json)

/-- A string value that needs no escapes. -/
def text (s : String) : Json := .string (.plain s)

/-- A member whose name needs no escapes. -/
def member (name : String) (value : Json) : Quoted × Json := (.plain name, value)

def Quoted.print (s : Quoted) : String := "\"" ++ s.spelling ++ "\""

mutual

/-- `json.Compact` -/
def compact : Json → String
  | .null => "null"
  | .bool b => if b then "true" else "false"
  | .number literal => literal
  | .string s => Quoted.print s
  | .array elements => "[" ++ ",".intercalate (compactAll elements) ++ "]"
  | .object members => "\x7b" ++ ",".intercalate (compactMembers members) ++ "\x7d"

def compactAll : List Json → List String
  | [] => []
  | j :: js => compact j :: compactAll js

def compactMembers : Members → List String
  | [] => []
  | (name, j) :: members => (Quoted.print name ++ ":" ++ compact j) :: compactMembers members

end

theorem compactAll_eq_map (js : List Json) : compactAll js = js.map compact := by
  induction js with
  | nil => rfl
  | cons j js ih => rw [compactAll, ih, List.map_cons]

/-! ### Names -/

/-- `foldRune`, for the letters that fold to an ASCII one. -/
def foldRune (c : Char) : Char :=
  if c = '\u017f' then 's' else if c = '\u212a' then 'k' else c.toLower

def foldName (name : String) : List Char := name.toList.map foldRune

/-- The member is read into the field `name`. -/
def named (name : String) (m : Quoted × Json) : Bool := foldName m.1.text == foldName name

/-! ### Decoders -/

/-- Decodes a document into a value that may be set already; none on a mismatch. -/
abbrev Decoder (α : Type) := α → Json → Option α

def decodeString : Decoder String
  | old, .null => some old
  | _, .string s => some s.text
  | _, _ => none

def decodeBool : Decoder Bool
  | old, .null => some old
  | _, .bool b => some b
  | _, _ => none

/-- The value of a non-empty list of digits. -/
def digitsValue (digits : List Char) : Option Nat :=
  if digits ≠ [] ∧ digits.all Char.isDigit then
    some (digits.foldl (fun n c => 10 * n + (c.toNat - '0'.toNat)) 0)
  else none

/-- A literal without a fraction and an exponent. -/
def integer (literal : String) : Option Int :=
  match literal.toList with
  | '-' :: digits => (digitsValue digits).map fun n => -(n : Int)
  | digits => (digitsValue digits).map fun n => (n : Int)

/-- An `int` -/
def decodeInt : Decoder Int64
  | old, .null => some old
  | _, .number literal =>
      match integer literal with
      | some n =>
          if -9223372036854775808 ≤ n ∧ n ≤ 9223372036854775807 then some (.ofInt n) else none
      | none => none
  | _, _ => none

/-- A `json.RawMessage`. It takes a null like any other value; none is an absent one. -/
def decodeRaw : Decoder (Option Json) := fun _ j => some (some j)

/-- A pointer. -/
def decodePointer {α : Type} (decode : Decoder α) (zero : α) : Decoder (Option α)
  | _, .null => some none
  | old, j => (decode (old.getD zero) j).map some

/-- The elements of an array are decoded into those the slice has. -/
def decodeElements {α : Type} (decode : Decoder α) (zero : α) : List α → List Json → Option (List α)
  | _, [] => some []
  | old, j :: js => do
      let a ← decode (old.head?.getD zero) j
      let as ← decodeElements decode zero old.tail js
      return a :: as

/-- A slice; nil and empty are not told apart. -/
def decodeSlice {α : Type} (decode : Decoder α) (zero : α) : Decoder (List α)
  | _, .null => some []
  | old, .array js => decodeElements decode zero old js
  | _, _ => none

/-- One field of a struct: its name, how it is decoded, and where it is kept. -/
structure StructField (σ : Type) where
  name : String
  α : Type
  decode : Decoder α
  get : σ → α
  set : σ → α → σ

namespace StructField

variable {σ : Type}

/-- A field named `name` of the struct. -/
def of (name : String) {α : Type} (decode : Decoder α) (get : σ → α) (set : σ → α → σ) :
    StructField σ :=
  ⟨name, α, decode, get, set⟩

def read (f : StructField σ) (s : σ) (j : Json) : Option σ := (f.decode (f.get s) j).map (f.set s)

end StructField

section Struct

variable {σ : Type} (fields : List (StructField σ))

/-- One member of an object; a name that no field has is skipped. -/
def readMember (s : σ) (m : Quoted × Json) : Option σ :=
  match fields.find? fun f => named f.name m with
  | some f => f.read s m.2
  | none => some s

def readMembers (s : σ) (members : Members) : Option σ := members.foldlM (readMember fields) s

def decodeStruct : Decoder σ
  | old, .null => some old
  | old, .object members => readMembers fields old members
  | _, _ => none

end Struct

/-- `json.Unmarshal` of a `json.RawMessage`; an absent one is not a document. -/
def unmarshal {α : Type} (decode : Decoder α) (zero : α) (raw : Option Json) : Option α :=
  raw.bind (decode zero)

/-! ### Slices -/

section Slice

variable {α : Type} (decode : Decoder α) (zero : α)

/-- Into an empty slice every element is decoded anew. -/
theorem decodeElements_nil (js : List Json) :
    decodeElements decode zero [] js = js.mapM (decode zero) := by
  induction js with
  | nil => rfl
  | cons j js ih =>
      rw [decodeElements, List.tail_nil, ih, List.mapM_cons]
      rfl

/-- A list whose elements can each be decoded. -/
theorem exists_mapM {f : Json → Option α} {js : List Json} (each : ∀ j ∈ js, ∃ a, f j = some a) :
    ∃ as, js.mapM f = some as := by
  induction js with
  | nil => exact ⟨[], rfl⟩
  | cons j js ih =>
      obtain ⟨⟨a, first⟩, rest⟩ := List.forall_mem_cons.mp each
      obtain ⟨as, others⟩ := ih rest
      exact ⟨a :: as, by rw [List.mapM_cons, first, others]; rfl⟩

theorem mem_of_mapM {f : Json → Option α} {js : List Json} {as : List α}
    (decodes : js.mapM f = some as) {j : Json} (inside : j ∈ js) : ∃ a ∈ as, f j = some a := by
  induction js generalizing as with
  | nil => cases inside
  | cons first js ih =>
      rw [List.mapM_cons] at decodes
      obtain ⟨a, head, rest⟩ := Option.bind_eq_some_iff.mp decodes
      obtain ⟨others, tail, joined⟩ := Option.bind_eq_some_iff.mp rest
      obtain rfl := Option.some.inj joined
      rcases List.mem_cons.mp inside with rfl | later
      · exact ⟨a, List.mem_cons_self, head⟩
      · obtain ⟨b, found, reads⟩ := ih tail later
        exact ⟨b, List.mem_cons_of_mem _ found, reads⟩

theorem decodeSlice_array (js : List Json) :
    decodeSlice decode zero [] (.array js) = js.mapM (decode zero) :=
  decodeElements_nil decode zero js

/-- What is read as a text has no elements. -/
theorem unmarshal_slice_of_text {raw : Option Json} {s : String}
    (text : unmarshal decodeString "" raw = some s) :
    (unmarshal (decodeSlice decode zero) [] raw).getD [] = [] := by
  cases raw with
  | none => rfl
  | some j =>
      cases j with
      | null => rfl
      | string _ => rfl
      | _ => cases text

end Slice

/-! ### Structs -/

namespace StructField

variable {σ : Type}

/-- What is set is what is read. -/
structure Lawful (f : StructField σ) : Prop where
  get_set : ∀ s x, f.get (f.set s x) = x
  set_get : ∀ s, f.set s (f.get s) = s

/-- Two fields with different names, kept in different places. -/
structure Apart (f g : StructField σ) : Prop where
  names : foldName f.name ≠ foldName g.name
  get_set : ∀ s y, f.get (g.set s y) = f.get s
  get_set' : ∀ s x, g.get (f.set s x) = g.get s
  set_set : ∀ s x y, f.set (g.set s y) x = g.set (f.set s x) y

@[simp] theorem lawful_of {α : Type} {name : String} {decode : Decoder α} {get : σ → α}
    {set : σ → α → σ} :
    (of name decode get set).Lawful ↔ (∀ s x, get (set s x) = x) ∧ ∀ s, set s (get s) = s :=
  ⟨fun lawful => ⟨lawful.get_set, lawful.set_get⟩, fun both => ⟨both.1, both.2⟩⟩

@[simp] theorem apart_of {α β : Type} {name name' : String} {decode : Decoder α}
    {decode' : Decoder β} {get : σ → α} {set : σ → α → σ} {get' : σ → β} {set' : σ → β → σ} :
    (of name decode get set).Apart (of name' decode' get' set') ↔
      foldName name ≠ foldName name' ∧ (∀ s y, get (set' s y) = get s) ∧
        (∀ s x, get' (set s x) = get' s) ∧ ∀ s x y, set (set' s y) x = set' (set s x) y :=
  ⟨fun apart => ⟨apart.names, apart.get_set, apart.get_set', apart.set_set⟩,
    fun all => ⟨all.1, all.2.1, all.2.2.1, all.2.2.2⟩⟩

theorem Apart.symm {f g : StructField σ} (apart : Apart f g) : Apart g f :=
  ⟨apart.names.symm, apart.get_set', apart.get_set, fun s x y => (apart.set_set s y x).symm⟩

end StructField

/-- The fields of a struct. -/
structure LawfulFields {σ : Type} (fields : List (StructField σ)) : Prop where
  each : ∀ f ∈ fields, f.Lawful
  apart : fields.Pairwise StructField.Apart

@[simp] theorem lawfulFields_iff {σ : Type} {fields : List (StructField σ)} :
    LawfulFields fields ↔ (∀ f ∈ fields, f.Lawful) ∧ fields.Pairwise StructField.Apart :=
  ⟨fun lawful => ⟨lawful.each, lawful.apart⟩, fun both => ⟨both.1, both.2⟩⟩

theorem named_iff {name : String} {m : Quoted × Json} :
    named name m = true ↔ foldName m.1.text = foldName name :=
  beq_iff_eq

/-- `j` is an object: `rest`, and `v` under a name that nothing in `rest` has. -/
inductive HasMember (name : String) (v : Json) : Json → Members → Prop where
  | intro {pre post : Members} {key : Quoted} (key_ : named name (key, v) = true)
      (only : ∀ m ∈ pre ++ post, named name m = false) :
      HasMember name v (.object (pre ++ (key, v) :: post)) (pre ++ post)

/-- The documents are objects that differ in the value of one member. -/
def InMember (name : String) (R : Json → Json → Prop) (j j' : Json) : Prop :=
  ∃ v v' rest, HasMember name v j rest ∧ HasMember name v' j' rest ∧ R v v'

section Struct

variable {σ : Type} {fields : List (StructField σ)} {f : StructField σ} {m : Quoted × Json}
  {members : Members}

theorem LawfulFields.apart_of_ne (lawful : LawfulFields fields) {g : StructField σ}
    (member : f ∈ fields) (member' : g ∈ fields) (other : f ≠ g) : f.Apart g :=
  haveI : Std.Symm (@StructField.Apart σ) := ⟨fun _ _ apart => apart.symm⟩
  lawful.apart.forall member member' other

/-- A member is read into the field it names. -/
theorem find?_named (lawful : LawfulFields fields) (member : f ∈ fields)
    (names : named f.name m = true) :
    (fields.find? fun g => named g.name m) = some f := by
  cases found : fields.find? fun g => named g.name m with
  | none => exact absurd names (List.find?_eq_none.mp found f member)
  | some g =>
      have named' := List.find?_some found
      by_contra other
      have apart := lawful.apart_of_ne (List.mem_of_find?_eq_some found) member
        fun same => other (congrArg some same)
      exact apart.names ((named_iff.mp named').symm.trans (named_iff.mp names))

theorem readMember_named (lawful : LawfulFields fields) (member : f ∈ fields)
    (names : named f.name m = true) (s : σ) : readMember fields s m = f.read s m.2 := by
  rw [readMember, find?_named lawful member names]

/-- A member with another name goes into another field, or nowhere. -/
theorem readMember_other (lawful : LawfulFields fields) (member : f ∈ fields)
    (other : named f.name m = false) :
    (∀ s, readMember fields s m = some s) ∨
      ∃ g ∈ fields, f.Apart g ∧ ∀ s, readMember fields s m = g.read s m.2 := by
  cases found : fields.find? fun g => named g.name m with
  | none => exact Or.inl fun s => by rw [readMember, found]
  | some g =>
      have member' := List.mem_of_find?_eq_some found
      have named' := List.find?_some found
      refine Or.inr ⟨g, member', lawful.apart_of_ne member member' ?_, fun s => ?_⟩
      · rintro rfl
        rw [other] at named'
        cases named'
      · rw [readMember, found]

/-- It leaves the field alone. -/
theorem get_readMember (lawful : LawfulFields fields) (member : f ∈ fields)
    (other : named f.name m = false) {s s' : σ} (reads : readMember fields s m = some s') :
    f.get s' = f.get s := by
  rcases readMember_other lawful member other with skips | ⟨g, -, apart, into⟩
  · rw [skips] at reads
    rw [Option.some.inj reads]
  · rw [into, StructField.read, Option.map_eq_some_iff] at reads
    obtain ⟨y, -, rfl⟩ := reads
    exact apart.get_set s y

/-- It is read alike whatever the field is set to. -/
theorem readMember_set (lawful : LawfulFields fields) (member : f ∈ fields)
    (other : named f.name m = false) (s : σ) (x : f.α) :
    readMember fields (f.set s x) m = (readMember fields s m).map fun s => f.set s x := by
  rcases readMember_other lawful member other with skips | ⟨g, -, apart, into⟩
  · rw [skips, skips]
    rfl
  · rw [into, into, StructField.read, StructField.read, apart.get_set', Option.map_map]
    congr 1
    funext y
    exact (apart.set_set s x y).symm

theorem get_readMembers (lawful : LawfulFields fields) (member : f ∈ fields)
    (others : ∀ m ∈ members, named f.name m = false) {s s' : σ}
    (reads : readMembers fields s members = some s') : f.get s' = f.get s := by
  induction members generalizing s with
  | nil => exact congrArg f.get (Option.some.inj reads).symm
  | cons m members ih =>
      obtain ⟨other, others⟩ := List.forall_mem_cons.mp others
      rw [readMembers, List.foldlM_cons] at reads
      obtain ⟨s₁, first, rest⟩ := Option.bind_eq_some_iff.mp reads
      exact (ih others rest).trans (get_readMember lawful member other first)

theorem readMembers_set (lawful : LawfulFields fields) (member : f ∈ fields)
    (others : ∀ m ∈ members, named f.name m = false) (s : σ) (x : f.α) :
    readMembers fields (f.set s x) members =
      (readMembers fields s members).map fun s => f.set s x := by
  induction members generalizing s with
  | nil => rfl
  | cons m members ih =>
      obtain ⟨other, others⟩ := List.forall_mem_cons.mp others
      rw [readMembers, readMembers, List.foldlM_cons, List.foldlM_cons,
        readMember_set lawful member other]
      cases readMember fields s m with
      | none => rfl
      | some s₁ => exact ih others s₁

/-- Members that can each be read into the field they name can be read one after another. -/
theorem exists_readMembers
    (each : ∀ m ∈ members, ∀ f ∈ fields, named f.name m = true →
      ∀ s, ∃ s', f.read s m.2 = some s') (s : σ) :
    ∃ s', readMembers fields s members = some s' := by
  induction members generalizing s with
  | nil => exact ⟨s, rfl⟩
  | cons m members ih =>
      obtain ⟨head, tail⟩ := List.forall_mem_cons.mp each
      obtain ⟨s₁, first⟩ : ∃ s₁, readMember fields s m = some s₁ := by
        unfold readMember
        split
        · rename_i f found
          have names := List.find?_some found
          exact head f (List.mem_of_find?_eq_some found) names s
        · exact ⟨s, rfl⟩
      obtain ⟨s', rest⟩ := ih tail s₁
      refine ⟨s', ?_⟩
      rw [readMembers, List.foldlM_cons, first]
      exact rest

/-- A struct with one more member: the rest, with that field set. -/
theorem decodeStruct_hasMember (lawful : LawfulFields fields) (member : f ∈ fields) {v j : Json}
    {rest : Members} (has : HasMember f.name v j rest) (zero : σ) :
    decodeStruct fields zero j =
      (readMembers fields zero rest).bind fun s => (f.decode (f.get zero) v).map (f.set s) := by
  obtain ⟨key_, only⟩ := has
  rename_i pre post key
  have before : ∀ m ∈ pre, named f.name m = false :=
    fun m inside => only m (List.mem_append_left _ inside)
  have after : ∀ m ∈ post, named f.name m = false :=
    fun m inside => only m (List.mem_append_right _ inside)
  rw [decodeStruct, readMembers, readMembers, List.foldlM_append, List.foldlM_append]
  cases first : pre.foldlM (readMember fields) zero with
  | none => rfl
  | some s =>
      have kept : f.get s = f.get zero := get_readMembers lawful member before first
      have reads : readMember fields s (key, v) = (f.decode (f.get zero) v).map (f.set s) := by
        rw [readMember_named lawful member key_, StructField.read, kept]
      rw [Option.bind_eq_bind, Option.bind_some, List.foldlM_cons, reads]
      cases f.decode (f.get zero) v with
      | none => simp
      | some x =>
          have later := readMembers_set lawful member after s x
          rw [readMembers, readMembers] at later
          simp only [Option.map_some, Option.bind_eq_bind, Option.bind_some]
          rw [later]
          cases List.foldlM (readMember fields) s post <;> rfl

theorem decodeStruct_of (lawful : LawfulFields fields) {α : Type} {name : String}
    {decode : Decoder α} {get : σ → α} {set : σ → α → σ}
    (member : StructField.of name decode get set ∈ fields) {v j : Json} {rest : Members}
    (has : HasMember name v j rest) (zero : σ) :
    decodeStruct fields zero j =
      (readMembers fields zero rest).bind fun s => (decode (get zero) v).map (set s) :=
  decodeStruct_hasMember lawful member has zero

/-- What the field is decoded from. -/
theorem decodeStruct_eq_some (lawful : LawfulFields fields) {α : Type} {name : String}
    {decode : Decoder α} {get : σ → α} {set : σ → α → σ}
    (member : StructField.of name decode get set ∈ fields) {v j : Json} {rest : Members}
    (has : HasMember name v j rest) {zero s' : σ} :
    decodeStruct fields zero j = some s' ↔
      ∃ s x, readMembers fields zero rest = some s ∧ decode (get zero) v = some x ∧
        s' = set s x := by
  rw [decodeStruct_of lawful member has, Option.bind_eq_some_iff]
  simp only [Option.map_eq_some_iff]
  constructor
  · rintro ⟨s, reads, x, decodes, rfl⟩
    exact ⟨s, x, reads, decodes, rfl⟩
  · rintro ⟨s, x, reads, decodes, rfl⟩
    exact ⟨s, reads, x, decodes, rfl⟩

/-! ### Values of a field -/

/-- The values that a field of that name is decoded from, one after another. -/
def valuesOf (name : String) (members : Members) : List Json :=
  (members.filter (named name)).map Prod.snd

theorem foldlM_valuesOf (lawful : LawfulFields fields) (member : f ∈ fields) {s s' : σ}
    (reads : readMembers fields s members = some s') :
    (valuesOf f.name members).foldlM f.decode (f.get s) = some (f.get s') := by
  induction members generalizing s with
  | nil => exact congrArg (fun s => some (f.get s)) (Option.some.inj reads)
  | cons m members ih =>
      rw [readMembers, List.foldlM_cons] at reads
      obtain ⟨s₁, first, rest⟩ := Option.bind_eq_some_iff.mp reads
      by_cases names : named f.name m = true
      · rw [readMember_named lawful member names, StructField.read, Option.map_eq_some_iff] at first
        obtain ⟨x, decodes, rfl⟩ := first
        have next := ih rest
        rw [(lawful.each f member).get_set] at next
        rw [valuesOf, List.filter_cons_of_pos names, List.map_cons, List.foldlM_cons, decodes]
        exact next
      · have other : named f.name m = false := Bool.eq_false_iff.mpr names
        rw [valuesOf, List.filter_cons_of_neg names, ← get_readMember lawful member other first]
        exact ih rest

/-- The value of a raw field: the last one of that name. -/
def fieldOf (name : String) : Json → Option Json
  | .object members => (valuesOf name members).getLast?
  | _ => none

def string? : Json → Option String
  | .string s => some s.text
  | _ => none

/-- The value of a string field: the last string of that name. -/
def stringOf (name : String) : Json → String
  | .object members => ((valuesOf name members).filterMap string?).getLast?.getD ""
  | _ => ""

theorem foldlM_decodeRaw (old : Option Json) (values : List Json) :
    values.foldlM decodeRaw old = some (values.getLast?.or old) := by
  induction values generalizing old with
  | nil => rfl
  | cons v values ih =>
      rw [List.foldlM_cons, decodeRaw, Option.bind_eq_bind, Option.bind_some, ih,
        List.getLast?_cons]
      cases values.getLast? <;> rfl

theorem foldlM_decodeString {old x : String} {values : List Json}
    (decodes : values.foldlM decodeString old = some x) :
    x = (values.filterMap string?).getLast?.getD old := by
  induction values generalizing old with
  | nil => exact (Option.some.inj decodes).symm
  | cons v values ih =>
      rw [List.foldlM_cons] at decodes
      obtain ⟨first, head, rest⟩ := Option.bind_eq_some_iff.mp decodes
      rw [ih rest]
      cases v with
      | null =>
          rw [List.filterMap_cons_none rfl, Option.some.inj head]
      | string s =>
          have text : string? (.string s) = some s.text := rfl
          rw [List.filterMap_cons_some text, List.getLast?_cons, ← Option.some.inj head]
          rfl
      | _ => cases head

section

variable {α : Type} {name : String} {decode : Decoder α} {get : σ → α} {set : σ → α → σ}

theorem foldlM_of (lawful : LawfulFields fields)
    (member : StructField.of name decode get set ∈ fields) {s s' : σ}
    (reads : readMembers fields s members = some s') :
    (valuesOf name members).foldlM decode (get s) = some (get s') :=
  foldlM_valuesOf lawful member reads

end

theorem decodeStruct_raw (lawful : LawfulFields fields) {name : String} {get : σ → Option Json}
    {set : σ → Option Json → σ} (member : StructField.of name decodeRaw get set ∈ fields)
    {zero s : σ} (absent : get zero = none) {j : Json}
    (decodes : decodeStruct fields zero j = some s) : get s = fieldOf name j := by
  cases j with
  | null => rw [← Option.some.inj decodes, absent, fieldOf]; nofun
  | object members =>
      have folded := foldlM_of lawful member decodes
      rw [absent, foldlM_decodeRaw, Option.or_none] at folded
      exact (Option.some.inj folded).symm
  | _ => cases decodes

theorem decodeStruct_string (lawful : LawfulFields fields) {name : String} {get : σ → String}
    {set : σ → String → σ} (member : StructField.of name decodeString get set ∈ fields)
    {zero s : σ} (absent : get zero = "") {j : Json}
    (decodes : decodeStruct fields zero j = some s) : get s = stringOf name j := by
  cases j with
  | null => rw [← Option.some.inj decodes, absent, stringOf]; nofun
  | object members =>
      have folded := foldlM_of lawful member decodes
      rw [absent] at folded
      exact foldlM_decodeString folded
  | _ => cases decodes

end Struct

end Json

end KvIndexer
