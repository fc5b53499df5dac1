import KvIndexer.Lib.EncodingJson

/-!
Decoding objects that are written member by member.

The names are those of fields, so that each member is read into its field. The lemmas are a
simp set: with the fields of a struct they compute what an object of `member`s is decoded to,
whatever its values are.
-/

namespace KvIndexer.Json

@[simp] theorem named_member (name key : String) (v : Json) :
    named name (member key v) = decide (foldName key = foldName name) := by
  unfold named member Quoted.plain
  by_cases same : foldName key = foldName name
  · simp [same]
  · simp [same]

@[simp] theorem member_snd (key : String) (v : Json) : (member key v).2 = v := rfl

@[simp] theorem decodeString_string (old : String) (s : Quoted) :
    decodeString old (.string s) = some s.text := rfl

@[simp] theorem decodeString_text (old s : String) : decodeString old (text s) = some s := rfl

@[simp] theorem decodeBool_bool (old b : Bool) : decodeBool old (.bool b) = some b := rfl

@[simp] theorem decodeRaw_eq (old : Option Json) (j : Json) : decodeRaw old j = some (some j) := rfl

/-- A number is decoded alike whatever was there. -/
theorem decodeInt_number (old : Int64) (literal : String) :
    decodeInt old (.number literal) = decodeInt 0 (.number literal) := rfl

theorem decodePointer_number {old : Option Int64} {literal : String} {n : Int64}
    (reads : decodeInt 0 (.number literal) = some n) :
    decodePointer decodeInt 0 old (.number literal) = some (some n) := by
  rw [decodePointer, decodeInt_number, reads, Option.map_some]
  intro null
  cases null

section Struct

variable {σ : Type} (fields : List (StructField σ)) (s : σ)

@[simp] theorem decodeStruct_object (members : Members) :
    decodeStruct fields s (.object members) = readMembers fields s members := rfl

@[simp] theorem readMembers_nil : readMembers fields s [] = some s := rfl

@[simp] theorem readMembers_cons (m : Quoted × Json) (members : Members) :
    readMembers fields s (m :: members) =
      (readMember fields s m).bind fun s => readMembers fields s members := rfl

end Struct

/-! ### Lists -/

section Lists

variable {α β γ : Type}

/-- Each element is written so that it is read back. -/
theorem mapM_map {f : Json → Option β} {write : α → Json} {value : α → β} {xs : List α}
    (reads : ∀ x ∈ xs, f (write x) = some (value x)) :
    (xs.map write).mapM f = some (xs.map value) := by
  induction xs with
  | nil => rfl
  | cons x xs ih =>
      obtain ⟨first, rest⟩ := List.forall_mem_cons.mp reads
      rw [List.map_cons, List.mapM_cons, first, ih rest]
      rfl

theorem mapM_append {f : Json → Option β} {xs ys : List Json} {as bs : List β}
    (front : xs.mapM f = some as) (back : ys.mapM f = some bs) :
    (xs ++ ys).mapM f = some (as ++ bs) := by
  rw [List.mapM_append, front, back]
  rfl

theorem mapM_flatMap {f : Json → Option β} {write : α → List Json} {value : α → List β}
    {xs : List α} (reads : ∀ x ∈ xs, (write x).mapM f = some (value x)) :
    (xs.flatMap write).mapM f = some (xs.flatMap value) := by
  induction xs with
  | nil => rfl
  | cons x xs ih =>
      obtain ⟨first, rest⟩ := List.forall_mem_cons.mp reads
      rw [List.flatMap_cons, List.flatMap_cons]
      exact mapM_append first (ih rest)

end Lists

end KvIndexer.Json
