import KvIndexer.KvEvents.Coercion
import KvIndexer.KvEvents.Ingest
import Mathlib.Data.List.Forall2

/-!
The elements of a stored event.

Both list decoders append what they can coerce and go on, so an element that is not a
number leaves the list shorter and moves every later element forward; only a nested list
is flagged. `keepsElements_iff` says which wire lists survive decoding: those whose every
element fits.
-/

namespace KvIndexer.KvEvents

open Residency

/-- The elements of a list field; none when it is not a list. -/
def Any.elements : Any → List Any
  | .array xs => xs
  | _ => []

/-- The number a block hash stands for: an integer, or the number of a byte string. -/
def Any.hashValue : Any → Option Int
  | .bytes bs => some (bigEndian bs)
  | x => x.intValue

def CarriesToken (x : Any) (token : Int32) : Prop := x.intValue = some token.toInt

def CarriesHash (x : Any) (hash : UInt64) : Prop :=
  ∃ v, x.hashValue = some v ∧ hash = UInt64.ofInt v

/-- The decoded lists are the wire lists, element by element. -/
structure KeepsElements (fields : List Any) (ev : Event) : Prop where
  tokens : List.Forall₂ CarriesToken (fieldAt fields 3).elements ev.tokenIDs
  hashes : List.Forall₂ CarriesHash (fieldAt fields 1).elements ev.blockHashes

/-- A token that is decoded as it was sent: an `int32`, and not negative in a type of
fewer than 32 bits. -/
def TokenFits (x : Any) : Prop :=
  ∃ v ∈ x.intValue, (-2 ^ 31 ≤ v ∧ v < 2 ^ 31) ∧ (0 ≤ v ∨ 32 ≤ x.width)

/-- A hash that is decoded as it was sent: a byte string, or an integer that is not
negative in a type of fewer than 64 bits. -/
def HashFits : Any → Prop
  | .bytes _ => True
  | x => ∃ v ∈ x.intValue, 0 ≤ v ∨ x.width = 64

/-- Every element of both lists fits. -/
structure ElementsFit (fields : List Any) : Prop where
  tokens : ∀ x ∈ (fieldAt fields 3).elements, TokenFits x
  hashes : ∀ x ∈ (fieldAt fields 1).elements, HashFits x

/-! ### One element -/

section Element

variable {x : Any} {v : Int}

/-- A token is its number modulo the width it was sent in, cut to 32 bits. -/
theorem tokenOf_intValue (carries : x.intValue = some v) :
    (toInt x).map Int32.ofInt = some (Int32.ofInt (v % 2 ^ x.width)) := by
  rw [toInt_of_intValue carries, Option.map_some]
  refine congrArg some (Int32.toInt_inj.mp ?_)
  rw [Int32.toInt_ofInt, Int32.toInt_ofInt, Int.bmod_bmod_of_dvd (by decide)]

theorem tokenFits_iff :
    TokenFits x ↔ ∃ token, (toInt x).map Int32.ofInt = some token ∧ CarriesToken x token := by
  unfold TokenFits CarriesToken
  cases carried : x.intValue with
  | none => simp
  | some v =>
      have bounds := intValue_bounds carried
      have value : (Int32.ofInt (v % 2 ^ x.width)).toInt = (v % 2 ^ x.width).bmod (2 ^ 32) :=
        Int32.toInt_ofInt
      simp only [Option.mem_def, Option.some.injEq, exists_eq_left', tokenOf_intValue carried,
        value]
      rw [Int.bmod_def]
      rcases width_cases x with width | width | width | width
      · rw [width] at bounds ⊢
        omega
      · rw [width] at bounds ⊢
        omega
      · rw [width]
        omega
      · rw [width]
        omega

theorem hashFits_iff : HashFits x ↔ ∃ hash, toUint64 x = some hash ∧ CarriesHash x hash := by
  have integer : ∀ x : Any, x.hashValue = x.intValue →
      ((∃ v ∈ x.intValue, 0 ≤ v ∨ x.width = 64) ↔
        ∃ hash, toUint64 x = some hash ∧ CarriesHash x hash) := by
    intro x same
    unfold CarriesHash
    rw [same]
    constructor
    · rintro ⟨v, carried, fits⟩
      exact ⟨_, (bits_iff carried).mpr fits, v, carried, rfl⟩
    · rintro ⟨_, coerced, v, carried, rfl⟩
      exact ⟨v, carried, (bits_iff carried).mp coerced⟩
  cases x with
  | bytes bs => exact iff_of_true trivial ⟨_, toUint64_bytes bs, _, rfl, rfl⟩
  | _ => exact integer _ rfl

end Element

/-! ### The lists -/

/-- Nothing is filtered out of a list that is kept element by element. -/
theorem forall₂_filterMap_iff {α β : Type} {f : α → Option β} {R : α → β → Prop} {xs : List α} :
    List.Forall₂ R xs (xs.filterMap f) ↔ ∀ x ∈ xs, ∃ y, f x = some y ∧ R x y := by
  induction xs with
  | nil => simp
  | cons x xs ih =>
      rw [List.forall_mem_cons, ← ih]
      cases kept : f x with
      | none =>
          rw [List.filterMap_cons_none kept]
          refine iff_of_false (fun all => ?_) (by simp)
          have longer := all.length_eq
          have := List.length_filterMap_le f xs
          rw [List.length_cons] at longer
          omega
      | some y =>
          rw [List.filterMap_cons_some kept, List.forall₂_cons]
          simp

theorem toInt32SliceInfo_elements (x : Any) :
    (toInt32SliceInfo x).1 = x.elements.filterMap fun e => (toInt e).map Int32.ofInt := by
  cases x <;> rfl

theorem toUint64Slice_elements (x : Any) : toUint64Slice x = x.elements.filterMap toUint64 := by
  cases x <;> rfl

section Stored

variable {rt : Runtime} {engineID : String} {res : Resolved} {dpRank ts : Int} {ix : Index}
  {fields : List Any} {ev : Event}

/-- The wire event is decoded to `ev`, and `ev` is indexed. -/
structure Indexed (rt : Runtime) (engineID : String) (res : Resolved) (dpRank ts : Int)
    (ix : Index) (fields : List Any) (ev : Event) : Prop where
  decoded : decodeEvent rt.sprint EventKind.blockStored.tag fields = some ev
  indexed : (ingestEvent rt engineID res dpRank ts ix ev).indexed = true

/-- An indexed event has its elements exactly when each of them fits. -/
theorem keepsElements_iff (reached : Indexed rt engineID res dpRank ts ix fields ev) :
    KeepsElements fields ev ↔ ElementsFit fields := by
  have read := readsStored_of_decodeEvent reached.decoded
  have tokensKept : List.Forall₂ CarriesToken (fieldAt fields 3).elements ev.tokenIDs ↔
      ∀ x ∈ (fieldAt fields 3).elements, TokenFits x := by
    rw [read.tokenIDs, toInt32SliceInfo_elements, forall₂_filterMap_iff]
    simp only [tokenFits_iff]
  have hashesKept : List.Forall₂ CarriesHash (fieldAt fields 1).elements ev.blockHashes ↔
      ∀ x ∈ (fieldAt fields 1).elements, HashFits x := by
    rw [read.blockHashes, toUint64Slice_elements, forall₂_filterMap_iff]
    simp only [hashFits_iff]
  constructor
  · rintro ⟨tokens, hashes⟩
    exact ⟨tokensKept.mp tokens, hashesKept.mp hashes⟩
  · rintro ⟨tokens, hashes⟩
    exact ⟨tokensKept.mpr tokens, hashesKept.mpr hashes⟩

end Stored

/-- A stored block of two tokens, sent as `tokens`. -/
def storedFields (tokens : List Any) : List Any :=
  [.string "BlockStored", .array [.uint64 7], .nil, .array tokens, .uint64 2]

def twoTokens : Event :=
  { kind := .blockStored, blockHashes := [7], tokenIDs := [1, 2], blockSize := 2 }

theorem indexed_storedFields (tokens : List Any)
    (kept : toInt32SliceInfo (.array tokens) = ([1, 2], false)) :
    Indexed (tableRuntime []) "w" ⟨"ns", 0, 2⟩ 0 0 newIndex (storedFields tokens) twoTokens where
  decoded := by
    have fields : fieldAt (storedFields tokens) 3 = .array tokens := rfl
    rw [decodeEvent, if_pos rfl, fields, kept]
    rfl
  indexed := by decide +kernel

/-- The null token is dropped, and the two others are indexed as one block. -/
theorem not_keepsElements : ¬ ∀ (rt : Runtime) (engineID : String) (res : Resolved)
    (dpRank ts : Int) (ix : Index) (fields : List Any) (ev : Event),
      Indexed rt engineID res dpRank ts ix fields ev → KeepsElements fields ev := by
  intro always
  have kept := always _ _ _ _ _ _ _ _
    (indexed_storedFields [.uint8 1, .nil, .uint8 2] rfl)
  cases kept.tokens.length_eq

theorem keepsElements_twoTokens : KeepsElements (storedFields [.uint8 1, .uint8 2]) twoTokens := by
  refine (keepsElements_iff (indexed_storedFields [.uint8 1, .uint8 2] rfl)).mpr ⟨?_, ?_⟩
  · intro x member
    have sent : x ∈ [Any.uint8 1, Any.uint8 2] := member
    rcases List.mem_pair.mp sent with rfl | rfl
    · exact ⟨1, rfl, by decide, by decide⟩
    · exact ⟨2, rfl, by decide, by decide⟩
  · intro x member
    have sent : x ∈ [Any.uint64 7] := member
    obtain rfl := List.mem_singleton.mp sent
    exact ⟨7, rfl, by decide⟩

end KvIndexer.KvEvents
