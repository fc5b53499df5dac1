import KvIndexer.Lib.EncodingJson
import Mathlib.Algebra.GroupWithZero.Nat

/-!
Documents that differ in one place, and what is decoded from them.

`AddsNull` is a null for a member that some object of a document lacks. A decoder that
ignores it gives the same for both documents. A struct whose field does not differs in that
field, where `Sets` says how, and a list in one element (`Differ`).
-/

namespace KvIndexer.Json

/-- A member that an object lacks is null in the other document, and all else is the same. No
two members on the way to it have one name. -/
inductive AddsNull : Json → Json → Prop where
  | here {pre post : Members} {key : Quoted}
      (absent : ∀ m ∈ pre ++ post, named key.text m = false) :
      AddsNull (.object (pre ++ post)) (.object (pre ++ (key, .null) :: post))
  | member {pre post : Members} {key : Quoted} {v v' : Json}
      (only : ∀ m ∈ pre ++ post, named key.text m = false) (inner : AddsNull v v') :
      AddsNull (.object (pre ++ (key, v) :: post)) (.object (pre ++ (key, v') :: post))
  | element {front back : List Json} {v v' : Json} (inner : AddsNull v v') :
      AddsNull (.array (front ++ v :: back)) (.array (front ++ v' :: back))

/-- It is the member of that name. -/
def Nulls (name : String) (j j' : Json) : Prop :=
  ∃ rest, j = .object rest ∧ HasMember name .null j' rest

/-- It is the member of that name, or inside its value. -/
def Touches (name : String) (j j' : Json) : Prop := Nulls name j j' ∨ InMember name AddsNull j j'

/-- The documents are lists that differ in one element. -/
def InElement (R : Json → Json → Prop) (j j' : Json) : Prop :=
  ∃ front v v' back, j = .array (front ++ v :: back) ∧ j' = .array (front ++ v' :: back) ∧ R v v'

/-- So are they, and all elements can be decoded. -/
def InDecoded {α : Type} (decode : Decoder α) (zero : α) (R : Json → Json → Prop) (j j' : Json) :
    Prop :=
  ∃ front v v' back, j = .array (front ++ v :: back) ∧ j' = .array (front ++ v' :: back) ∧
    (∀ w ∈ front ++ v :: back, (decode zero w).isSome) ∧ R v v'

/-- The lists differ in one element. -/
def Differ {α : Type} (S : α → α → Prop) (xs xs' : List α) : Prop :=
  ∃ front x x' back, xs = front ++ x :: back ∧ xs' = front ++ x' :: back ∧ S x x'

/-- The structs differ in one field. -/
def Sets {σ α : Type} (set : σ → α → σ) (S : α → α → Prop) (s s' : σ) : Prop :=
  ∃ s₀ x x', s = set s₀ x ∧ s' = set s₀ x' ∧ S x x'

/-- What a `json.RawMessage` keeps of a null. -/
inductive RawEdit : Option Json → Option Json → Prop where
  | null : RawEdit none (some .null)
  | inside {v v' : Json} (edit : AddsNull v v') : RawEdit (some v) (some v')

section Differ

variable {α β : Type} {S : α → α → Prop} {xs xs' : List α}

theorem Differ.filterMap {f : α → Option β} (same : ∀ x x', S x x' → f x = f x')
    (differ : Differ S xs xs') : xs.filterMap f = xs'.filterMap f := by
  obtain ⟨front, x, x', back, rfl, rfl, differ⟩ := differ
  rw [List.filterMap_append, List.filterMap_append, List.filterMap_cons, List.filterMap_cons,
    same x x' differ]

theorem Differ.map_filter {p : α → Bool} {f : α → β} (keeps : ∀ x x', S x x' → p x = p x')
    (same : ∀ x x', S x x' → f x = f x') (differ : Differ S xs xs') :
    (xs.filter p).map f = (xs'.filter p).map f := by
  obtain ⟨front, x, x', back, rfl, rfl, differ⟩ := differ
  rw [List.filter_append, List.filter_append, List.filter_cons, List.filter_cons,
    keeps x x' differ]
  split
  · rw [List.map_append, List.map_append, List.map_cons, List.map_cons, same x x' differ]
  · rfl

/-- Lists that differ in an element of which a function shows it. -/
theorem Differ.map_ne {f : α → β} (apart : ∀ x x', S x x' → f x ≠ f x')
    (differ : Differ S xs xs') : xs.map f ≠ xs'.map f := by
  obtain ⟨front, x, x', back, rfl, rfl, differ⟩ := differ
  intro same
  rw [List.map_append, List.map_append, List.map_cons, List.map_cons] at same
  exact apart x x' differ (List.cons.inj (List.append_cancel_left same)).1

theorem Differ.ne_nil (differ : Differ S xs xs') : xs ≠ [] ∧ xs' ≠ [] := by
  obtain ⟨front, x, x', back, rfl, rfl, -⟩ := differ
  simp

end Differ

/-! ### Related results -/

section Related

variable {α β : Type} {S S' : α → α → Prop} {o o' : Option α} {e : β} {g : α → β}

theorem rel_of_eq (refl : ∀ a, S a a) (same : o = o') : Option.Rel S o o' := by
  subst same
  cases o with
  | none => exact .none
  | some a => exact .some (refl a)

theorem rel_of_some (weaker : ∀ a a', o = some a → S a a' → S' a a')
    (related : Option.Rel S o o') : Option.Rel S' o o' := by
  cases related with
  | none => exact .none
  | some holds => exact .some (weaker _ _ rfl holds)

theorem rel_mono (weaker : ∀ a a', S a a' → S' a a') (related : Option.Rel S o o') :
    Option.Rel S' o o' :=
  rel_of_some (fun a a' _ => weaker a a') related

/-- Results that differ for what the first is made of. -/
theorem elim_ne {P : α → Prop} {a : α}
    (related : Option.Rel (fun a a' => P a → g a ≠ g a') o o') (some_ : o = some a) (holds : P a) :
    o.elim e g ≠ o'.elim e g := by
  subst some_
  cases related with
  | some apart => exact apart holds

theorem elim_congr (related : Option.Rel (fun a a' => g a = g a') o o') :
    o.elim e g = o'.elim e g := by
  cases related with
  | none => rfl
  | some same => exact same

end Related

/-! ### Structs -/

section Struct

variable {σ : Type} {fields : List (StructField σ)} {f : StructField σ} {zero : σ} {j j' : Json}

/-- The field takes a null for its zero value. -/
def Neutral (zero : σ) (f : StructField σ) : Prop :=
  f.decode (f.get zero) .null = some (f.get zero)

/-- A null inside does not show. -/
def Ignores {α : Type} (decode : Decoder α) (old : α) : Prop :=
  ∀ v v', AddsNull v v' → decode old v = decode old v'

/-- A null that the field takes for its zero value does not show. -/
theorem decodeStruct_null (lawful : LawfulFields fields) (member : f ∈ fields)
    (nulls : Nulls f.name j j') (neutral : Neutral zero f) :
    decodeStruct fields zero j = decodeStruct fields zero j' := by
  obtain ⟨rest, rfl, has⟩ := nulls
  symm
  rw [decodeStruct_hasMember lawful member has, neutral, decodeStruct]
  have unset : ∀ m ∈ rest, named f.name m = false := by
    obtain ⟨-, only⟩ := has
    exact only
  cases reads : readMembers fields zero rest with
  | none => rfl
  | some s =>
      have zeroed := get_readMembers lawful member unset reads
      rw [Option.bind_some, Option.map_some, ← zeroed, (lawful.each f member).set_get]

/-- Nor does one inside a value that is read alike. -/
theorem decodeStruct_inMember (lawful : LawfulFields fields) (member : f ∈ fields)
    (ignores : Ignores f.decode (f.get zero)) (edit : InMember f.name AddsNull j j') :
    decodeStruct fields zero j = decodeStruct fields zero j' := by
  obtain ⟨v, v', rest, has, has', differ⟩ := edit
  rw [decodeStruct_hasMember lawful member has, decodeStruct_hasMember lawful member has',
    ignores v v' differ]

/-- A member that no field has is skipped. -/
theorem readMember_skips {m : Quoted × Json} (unknown : ∀ f ∈ fields, named f.name m = false)
    (s : σ) : readMember fields s m = some s := by
  have none_ : (fields.find? fun f => named f.name m) = none := by
    rw [List.find?_eq_none]
    intro f member
    rw [unknown f member]
    decide
  rw [readMember, none_]

theorem readMembers_insert {pre post : Members} {m : Quoted × Json}
    (unknown : ∀ f ∈ fields, named f.name m = false) (s : σ) :
    readMembers fields s (pre ++ m :: post) = readMembers fields s (pre ++ post) := by
  have skips (s : σ) : readMembers fields s (m :: post) = readMembers fields s post := by
    rw [readMembers, List.foldlM_cons, readMember_skips unknown]
    rfl
  rw [readMembers, readMembers, List.foldlM_append, List.foldlM_append]
  congr 1
  funext s
  exact skips s

/-- Names are the same for all fields or for none. -/
theorem named_congr {name name' : String} {m : Quoted × Json}
    (same : foldName name = foldName name') :
    named name m = named name' m := by
  rw [named, named, same]

/-- A null does not show, or it is one for a field or inside one. -/
theorem AddsNull.inStruct (lawful : LawfulFields fields) (zero : σ) (edit : AddsNull j j') :
    decodeStruct fields zero j = decodeStruct fields zero j' ∨
      (∃ f ∈ fields, ¬ Neutral zero f ∧ Nulls f.name j j') ∨
      ∃ f ∈ fields, ¬ Ignores f.decode (f.get zero) ∧ InMember f.name AddsNull j j' := by
  cases edit with
  | @here pre post key absent =>
      by_cases known : ∃ f ∈ fields, named f.name (key, .null) = true
      · obtain ⟨f, member, names⟩ := known
        have fold := named_iff.mp names
        have nulls : Nulls f.name (.object (pre ++ post)) (.object (pre ++ (key, .null) :: post)) :=
          ⟨_, rfl, .intro names fun m inside =>
            (named_congr fold.symm).trans (absent m inside)⟩
        by_cases neutral : Neutral zero f
        · exact Or.inl (decodeStruct_null lawful member nulls neutral)
        · exact Or.inr (Or.inl ⟨f, member, neutral, nulls⟩)
      · refine Or.inl (readMembers_insert (fun f member => ?_) zero).symm
        exact Bool.eq_false_iff.mpr fun names => known ⟨f, member, names⟩
  | @member pre post key v v' only inner =>
      by_cases known : ∃ f ∈ fields, named f.name (key, v) = true
      · obtain ⟨f, member, names⟩ := known
        have fold := named_iff.mp names
        have others (m : Quoted × Json) (inside : m ∈ pre ++ post) : named f.name m = false :=
          (named_congr fold.symm).trans (only m inside)
        have edit : InMember f.name AddsNull (.object (pre ++ (key, v) :: post))
            (.object (pre ++ (key, v') :: post)) :=
          ⟨v, v', pre ++ post, .intro names others, .intro names others, inner⟩
        by_cases ignores : Ignores f.decode (f.get zero)
        · exact Or.inl (decodeStruct_inMember lawful member ignores edit)
        · exact Or.inr (Or.inr ⟨f, member, ignores, edit⟩)
      · have unknown (w : Json) (f : StructField σ) (member : f ∈ fields) :
            named f.name (key, w) = false :=
          Bool.eq_false_iff.mpr fun names => known ⟨f, member, names⟩
        exact Or.inl ((readMembers_insert (unknown v) zero).trans
          (readMembers_insert (unknown v') zero).symm)
  | element => exact Or.inl rfl

/-- `raw` names the fields that keep a null, `inner` those that show one inside their value. -/
theorem AddsNull.inFields (lawful : LawfulFields fields) (raw inner : List String)
    (each : ∀ f ∈ fields, f.name ∈ raw ∨
      Neutral zero f ∧ (f.name ∈ inner ∨ Ignores f.decode (f.get zero)))
    (edit : AddsNull j j') :
    decodeStruct fields zero j = decodeStruct fields zero j' ∨
      (∃ name ∈ raw, Touches name j j') ∨ ∃ name ∈ inner, InMember name AddsNull j j' := by
  rcases edit.inStruct lawful zero with same | ⟨f, member, shows_, edit⟩ | ⟨f, member, shows_, edit⟩
  · exact Or.inl same
  · rcases each f member with listed | ⟨neutral, -⟩
    · exact Or.inr (Or.inl ⟨f.name, listed, Or.inl edit⟩)
    · exact absurd neutral shows_
  · rcases each f member with listed | ⟨-, listed | ignores⟩
    · exact Or.inr (Or.inl ⟨f.name, listed, Or.inr edit⟩)
    · exact Or.inr (Or.inr ⟨f.name, listed, edit⟩)
    · exact absurd ignores shows_

section Fields

variable {α : Type} {name : String} {decode : Decoder α} {get : σ → α} {set : σ → α → σ}
  {R : Json → Json → Prop} {S : α → α → Prop}

/-- Documents that differ in a member are decoded to structs that differ in the field. -/
theorem rel_inMember (lawful : LawfulFields fields)
    (member : StructField.of name decode get set ∈ fields) (zero : σ)
    (related : ∀ v v', R v v' → Option.Rel S (decode (get zero) v) (decode (get zero) v'))
    (edit : InMember name R j j') :
    Option.Rel (Sets set S) (decodeStruct fields zero j) (decodeStruct fields zero j') := by
  obtain ⟨v, v', rest, has, has', differ⟩ := edit
  have values := related v v' differ
  rw [decodeStruct_of lawful member has, decodeStruct_of lawful member has']
  cases readMembers fields zero rest with
  | none => exact .none
  | some s =>
      rw [Option.bind_some, Option.bind_some]
      generalize decode (get zero) v = o, decode (get zero) v' = o' at values
      cases values with
      | none => exact .none
      | some value => exact .some ⟨s, _, _, rfl, rfl, value⟩

/-- A raw field has the value of its member. -/
theorem rel_raw_at {get : σ → Option Json} {set : σ → Option Json → σ}
    (lawful : LawfulFields fields) (member : StructField.of name decodeRaw get set ∈ fields)
    (zero : σ) {v v' : Json} {rest : Members} (has : HasMember name v j rest)
    (has' : HasMember name v' j' rest) :
    Option.Rel (Sets set fun x x' => x = some v ∧ x' = some v') (decodeStruct fields zero j)
      (decodeStruct fields zero j') := by
  refine rel_inMember (R := fun w w' => w = v ∧ w' = v') lawful member zero ?_
    ⟨v, v', rest, has, has', rfl, rfl⟩
  rintro _ _ ⟨rfl, rfl⟩
  exact .some ⟨rfl, rfl⟩

/-- A raw field keeps a null. -/
theorem rel_nulls {get : σ → Option Json} {set : σ → Option Json → σ}
    (lawful : LawfulFields fields) (member : StructField.of name decodeRaw get set ∈ fields)
    (absent : get zero = none) (nulls : Nulls name j j') :
    Option.Rel (Sets set fun x x' => x = none ∧ x' = some .null) (decodeStruct fields zero j)
      (decodeStruct fields zero j') := by
  obtain ⟨rest, rfl, has⟩ := nulls
  have unset : ∀ m ∈ rest, named name m = false := by
    obtain ⟨-, only⟩ := has
    exact only
  rw [decodeStruct_of lawful member has, decodeStruct]
  cases reads : readMembers fields zero rest with
  | none => exact .none
  | some s =>
      have none_ : get s = none := (get_readMembers lawful member unset reads).trans absent
      have unchanged : set s (get s) = s := (lawful.each _ member).set_get s
      rw [none_] at unchanged
      exact .some ⟨s, none, some .null, unchanged.symm, rfl, rfl, rfl⟩

/-- So it does one inside. -/
theorem rel_raw {get : σ → Option Json} {set : σ → Option Json → σ} (lawful : LawfulFields fields)
    (member : StructField.of name decodeRaw get set ∈ fields) (absent : get zero = none)
    (edit : Touches name j j') :
    Option.Rel (Sets set RawEdit) (decodeStruct fields zero j) (decodeStruct fields zero j') := by
  rcases edit with nulls | inside
  · refine rel_mono ?_ (rel_nulls lawful member absent nulls)
    rintro _ _ ⟨s, _, _, rfl, rfl, rfl, rfl⟩
    exact ⟨s, none, some .null, rfl, rfl, .null⟩
  · exact rel_inMember lawful member zero (fun _ _ inner => .some (.inside inner)) inside

end Fields

end Struct

/-! ### Decoders -/

section Decoders

variable {α : Type} {decode : Decoder α} {zero : α} {j j' : Json}

theorem AddsNull.ne_null (edit : AddsNull j j') : j ≠ .null ∧ j' ≠ .null := by
  cases edit <;> exact ⟨nofun, nofun⟩

theorem decodeString_of_addsNull (edit : AddsNull j j') (old : String) :
    decodeString old j = none ∧ decodeString old j' = none := by
  cases edit <;> exact ⟨rfl, rfl⟩

theorem ignores_string (old : String) : Ignores decodeString old := fun _ _ edit =>
  (decodeString_of_addsNull edit old).1.trans (decodeString_of_addsNull edit old).2.symm

theorem ignores_bool (old : Bool) : Ignores decodeBool old := fun _ _ edit => by
  cases edit <;> rfl

theorem ignores_int (old : Int64) : Ignores decodeInt old := fun _ _ edit => by
  cases edit <;> rfl

theorem ignores_pointer {old : Option α} (ignores : Ignores decode (old.getD zero)) :
    Ignores (decodePointer decode zero) old := by
  intro v v' edit
  have pointee (w : Json) (some_ : w ≠ .null) :
      decodePointer decode zero old w = (decode (old.getD zero) w).map some := by
    cases w with
    | null => exact absurd rfl some_
    | _ => rfl
  rw [pointee v edit.ne_null.1, pointee v' edit.ne_null.2, ignores v v' edit]

theorem isSome_of_decodeSlice {js : List Json} {as : List α}
    (decodes : decodeSlice decode zero [] (.array js) = some as) :
    ∀ j ∈ js, (decode zero j).isSome := by
  intro j inside
  rw [decodeSlice_array] at decodes
  obtain ⟨a, -, reads⟩ := mem_of_mapM decodes inside
  exact Option.isSome_iff_exists.mpr ⟨a, reads⟩

theorem decodeSlice_of_isSome {js : List Json} (all : ∀ j ∈ js, (decode zero j).isSome) :
    ∃ as, decodeSlice decode zero [] (.array js) = some as := by
  rw [decodeSlice_array]
  exact exists_mapM fun j inside => Option.isSome_iff_exists.mp (all j inside)

/-- A null in a list is in one of its elements. -/
theorem AddsNull.inSlice (edit : AddsNull j j') (decode : Decoder α) (zero : α) :
    decodeSlice decode zero [] j = none ∧ decodeSlice decode zero [] j' = none ∨
      InElement AddsNull j j' := by
  cases edit with
  | here => exact Or.inl ⟨rfl, rfl⟩
  | member => exact Or.inl ⟨rfl, rfl⟩
  | element inner => exact Or.inr ⟨_, _, _, _, rfl, rfl, inner⟩

/-- Arrays that differ in one element decode into slices that do. -/
theorem rel_element {S : α → α → Prop} {v v' : Json} (front back : List Json)
    (values : Option.Rel S (decode zero v) (decode zero v')) :
    Option.Rel (Differ S) (decodeSlice decode zero [] (.array (front ++ v :: back)))
      (decodeSlice decode zero [] (.array (front ++ v' :: back))) := by
  rw [decodeSlice_array, decodeSlice_array, List.mapM_append, List.mapM_append, List.mapM_cons,
    List.mapM_cons]
  cases front.mapM (decode zero) with
  | none => exact .none
  | some before =>
      generalize decode zero v = o, decode zero v' = o' at values
      cases values with
      | none => exact .none
      | some value =>
          cases back.mapM (decode zero) with
          | none => exact .none
          | some after => exact .some ⟨before, _, _, after, rfl, rfl, value⟩

theorem rel_inElement {R : Json → Json → Prop} {S : α → α → Prop}
    (related : ∀ v v', R v v' → Option.Rel S (decode zero v) (decode zero v'))
    (edit : InElement R j j') :
    Option.Rel (Differ S) (decodeSlice decode zero [] j) (decodeSlice decode zero [] j') := by
  obtain ⟨front, v, v', back, rfl, rfl, differ⟩ := edit
  exact rel_element front back (related v v' differ)

theorem rel_inSlice {S : α → α → Prop}
    (related : ∀ v v', AddsNull v v' → Option.Rel S (decode zero v) (decode zero v'))
    (edit : AddsNull j j') :
    Option.Rel (Differ S) (decodeSlice decode zero [] j) (decodeSlice decode zero [] j') := by
  rcases edit.inSlice decode zero with ⟨none_, none_'⟩ | edit
  · rw [none_, none_']
    exact .none
  · exact rel_inElement related edit

/-- A null in a slice of a struct does not show, or it is in one of its elements. -/
theorem inMember_slice {σ : Type} {fields : List (StructField σ)} {name : String} {get : σ → List α}
    {set : σ → List α → σ} (lawful : LawfulFields fields)
    (member : StructField.of name (decodeSlice decode zero) get set ∈ fields) (old : σ)
    (absent : get old = []) (edit : InMember name AddsNull j j') :
    decodeStruct fields old j = decodeStruct fields old j' ∨
      InMember name (InElement AddsNull) j j' := by
  obtain ⟨v, v', rest, has, has', inner⟩ := edit
  rcases inner.inSlice decode zero with ⟨none_, none_'⟩ | inside
  · refine Or.inl ?_
    rw [decodeStruct_of lawful member has, decodeStruct_of lawful member has', absent, none_,
      none_']
  · exact Or.inr ⟨v, v', rest, has, has', inside⟩

theorem ignores_slice (ignores : Ignores decode zero) : Ignores (decodeSlice decode zero) [] := by
  intro v v' edit
  rcases edit.inSlice decode zero with ⟨none_, none_'⟩ | edit
  · rw [none_, none_']
  · obtain ⟨front, w, w', back, rfl, rfl, inner⟩ := edit
    rw [decodeSlice_array, decodeSlice_array, List.mapM_append, List.mapM_append, List.mapM_cons,
      List.mapM_cons, ignores w w' inner]

/-- A struct of such fields. -/
theorem ignores_struct {fields : List (StructField α)} (lawful : LawfulFields fields)
    (each : ∀ f ∈ fields, Neutral zero f ∧ Ignores f.decode (f.get zero)) :
    Ignores (decodeStruct fields) zero := by
  intro v v' edit
  rcases edit.inStruct lawful zero with same | ⟨f, member, shows_, -⟩ | ⟨f, member, shows_, -⟩
  · exact same
  · exact absurd (each f member).1 shows_
  · exact absurd (each f member).2 shows_

end Decoders

/-! ### Texts -/

def compactMember (m : Quoted × Json) : String := Quoted.print m.1 ++ ":" ++ compact m.2

theorem compactMembers_eq_map (members : Members) :
    compactMembers members = members.map compactMember := by
  induction members with
  | nil => rfl
  | cons m members ih =>
      rw [compactMembers, ih, List.map_cons]
      rfl

theorem length_intercalate (texts : List String) :
    (",".intercalate texts).length = (texts.map String.length).sum + (texts.length - 1) := by
  induction texts with
  | nil => rfl
  | cons s texts ih =>
      cases texts with
      | nil => simp
      | cons s' texts =>
          have comma : ",".length = 1 := rfl
          rw [String.intercalate_cons_cons, String.length_append, String.length_append, ih, comma,
            List.map_cons (l := s' :: texts), List.sum_cons, List.length_cons, List.length_cons,
            List.length_cons]
          omega

theorem length_object (members : Members) :
    (compact (.object members)).length =
      (members.map fun m => (compactMember m).length).sum + (members.length - 1) + 2 := by
  have opening : "\x7b".length = 1 := rfl
  have closing : "\x7d".length = 1 := rfl
  have same : members.map (String.length ∘ compactMember) =
    members.map fun m => (compactMember m).length := rfl
  rw [compact, compactMembers_eq_map, String.length_append, String.length_append,
    length_intercalate, List.map_map, List.length_map, opening, closing, same]
  omega

theorem length_array (js : List Json) :
    (compact (.array js)).length =
      (js.map fun j => j.compact.length).sum + (js.length - 1) + 2 := by
  have opening : "[".length = 1 := rfl
  have closing : "]".length = 1 := rfl
  have same : js.map (String.length ∘ compact) = js.map fun j => j.compact.length := rfl
  rw [compact, compactAll_eq_map, String.length_append, String.length_append,
    length_intercalate, List.map_map, List.length_map, opening, closing, same]
  omega

/-- A null makes the text longer. -/
theorem AddsNull.longer {j j' : Json} (edit : AddsNull j j') :
    j.compact.length < j'.compact.length := by
  induction edit with
  | @here pre post key =>
      have some_ : 0 < (compactMember (key, .null)).length := by
        have colon : ":".length = 1 := rfl
        rw [compactMember, String.length_append, String.length_append]
        omega
      rw [length_object, length_object]
      simp only [List.map_append, List.sum_append, List.map_cons, List.sum_cons,
        List.length_append, List.length_cons]
      omega
  | @member pre post key v v' _ _ ih =>
      have value : (compactMember (key, v)).length < (compactMember (key, v')).length := by
        simp only [compactMember, String.length_append]
        omega
      rw [length_object, length_object]
      simp only [List.map_append, List.sum_append, List.map_cons, List.sum_cons,
        List.length_append, List.length_cons]
      omega
  | element _ ih =>
      rw [length_array, length_array]
      simp only [List.map_append, List.sum_append, List.map_cons, List.sum_cons,
        List.length_append, List.length_cons]
      omega

theorem AddsNull.compact_ne {j j' : Json} (edit : AddsNull j j') : j.compact ≠ j'.compact :=
  fun same => Nat.ne_of_lt edit.longer (congrArg String.length same)

theorem AddsNull.ne {j j' : Json} (edit : AddsNull j j') : j ≠ j' :=
  fun same => edit.compact_ne (congrArg compact same)

theorem RawEdit.ne {raw raw' : Option Json} (edit : RawEdit raw raw') : raw ≠ raw' := by
  cases edit with
  | null => nofun
  | inside edit => exact fun same => edit.ne (Option.some.inj same)

end KvIndexer.Json
