import KvIndexer.Lib.GoMap
import KvIndexer.Lib.RFC3339
import KvIndexer.Lib.SortSlice

/-!
Merged timelines (`internal/gateway/gateway.go`).

The records of all backends are sorted by the text of their timestamps. The result is in
order of time exactly where texts compare like the instants they denote
(`chronological_iff`).
-/

namespace KvIndexer.Gateway

open RFC3339

/-- A decoded JSON value; only strings are told apart. -/
inductive JSONValue (α : Type)
  | string (s : String)
  | other (v : α)

/-- A record as it is decoded from the answer of a backend. -/
abbrev Item (α : Type) := GoMap String (JSONValue α)

section Sorting

variable {α : Type}

def asString : Option (JSONValue α) → String
  | some (.string s) => s
  | _ => ""

def fieldText (field : String) (item : Item α) : String := asString (item.lookup field)

def textLess (field : String) (a b : Item α) : Bool := fieldText field a < fieldText field b

/-- `sort.SliceStable` by the text of a field. -/
def sortByText (field : String) : SortSlice (@textLess α field) := .byKey fun _ _ => rfl

def sortByTimestampAsc (items : List (Item α)) : List (Item α) :=
  (sortByText "timestamp").sort items

def sortByObservedAtAsc (items : List (Item α)) : List (Item α) :=
  (sortByText "observed_at").sort items

end Sorting

section Chronological

variable {α : Type} (stamp : Item α → Timestamp)

/-- All records, in order of the instants of their timestamps. -/
structure Chronological (items sorted : List (Item α)) : Prop where
  permutes : sorted.Perm items
  ordered : sorted.Pairwise fun a b => (stamp a).instant ≤ (stamp b).instant

/-- A record whose timestamp is written before another one is not later. -/
def WrittenInOrder (items : List (Item α)) : Prop :=
  ∀ a ∈ items, ∀ b ∈ items, (stamp a).WrittenBefore (stamp b) →
    (stamp a).instant ≤ (stamp b).instant

/-- The field holds the formatted timestamp. -/
def Dated (field : String) (items : List (Item α)) : Prop :=
  ∀ item ∈ items, item.lookup field = some (.string (stamp item).format)

variable {stamp} {items : List (Item α)}

theorem textLess_iff {field : String} (dated : Dated stamp field items) {a b : Item α}
    (left : a ∈ items) (right : b ∈ items) :
    textLess field a b = true ↔ (stamp a).WrittenBefore (stamp b) := by
  unfold textLess fieldText
  rw [dated a left, dated b right, decide_eq_true_eq]
  exact Timestamp.format_lt_iff

/-- A sort by text is a sort by time exactly when no record is written before an earlier
one. -/
theorem chronological_sort_iff {field : String} (dated : Dated stamp field items) :
    Chronological stamp items ((sortByText field).sort items) ↔ WrittenInOrder stamp items := by
  have sorted := (@sortByText α field).sorted items
  have member : ∀ {a}, a ∈ (sortByText field).sort items ↔ a ∈ items := SortSlice.mem_sort _
  constructor
  · intro chronological a left b right before
    have less := (textLess_iff dated left right).mpr before
    obtain ⟨i, hi, atI⟩ := List.mem_iff_getElem.mp (member.mpr left)
    obtain ⟨j, hj, atJ⟩ := List.mem_iff_getElem.mp (member.mpr right)
    rcases Nat.lt_trichotomy i j with first | rfl | later
    · have here := List.pairwise_iff_getElem.mp chronological.ordered i j hi hj first
      rwa [atI, atJ] at here
    · rw [← atI, ← atJ]
    · have notLess := List.pairwise_iff_getElem.mp sorted j i hj hi later
      rw [atI, atJ, less] at notLess
      cases notLess
  · intro written
    refine ⟨(sortByText field).perm items, List.Pairwise.imp_of_mem ?_ sorted⟩
    intro a b left right notAfter
    have left := member.mp left
    have right := member.mp right
    by_cases before : (stamp a).WrittenBefore (stamp b)
    · exact written a left b right before
    · refine le_of_eq (Timestamp.instant_eq_of_unordered before ?_)
      rw [← textLess_iff dated right left, notAfter]
      exact Bool.false_ne_true

/-- In one zone other than UTC, and in UTC with fractions of one length, records are written
in order. -/
theorem writtenInOrder_of_zone {offset : Int} (zone : ∀ a ∈ items, (stamp a).offset = offset)
    (fixed : offset ≠ 0 ∨ ∃ length, ∀ a ∈ items, (stamp a).digits.length = length) :
    WrittenInOrder stamp items := by
  intro a left b right before
  have same : (stamp a).offset = (stamp b).offset := (zone a left).trans (zone b right).symm
  refine Timestamp.instant_le_of_writtenBefore same ?_ before
  rcases fixed with zoned | ⟨length, each⟩
  · rw [zone a left]
    exact Or.inl zoned
  · exact Or.inr ((each a left).trans (each b right).symm)

end Chronological

/-- Merged timelines are in order of time exactly when no timestamp is written before another
one and denotes a later instant. -/
theorem chronological_iff {α : Type} (stamp : Item α → Timestamp) (items : List (Item α)) :
    (Dated stamp "timestamp" items →
      (Chronological stamp items (sortByTimestampAsc items) ↔ WrittenInOrder stamp items)) ∧
      (Dated stamp "observed_at" items →
        (Chronological stamp items (sortByObservedAtAsc items) ↔ WrittenInOrder stamp items)) :=
  ⟨chronological_sort_iff, chronological_sort_iff⟩

/-! Two records of one second in UTC. -/

def wholeSecond : Timestamp where
  year := 2024
  month := 1
  day := 1
  hour := 0
  minute := 0
  second := 0
  nanosecond := 0
  offset := 0
  year_lt := by decide
  month_pos := by decide
  month_le := by decide
  day_pos := by decide
  day_le := by decide
  hour_lt := by decide
  minute_lt := by decide
  second_lt := by decide
  nanosecond_lt := by decide
  offset_gt := by decide
  offset_lt := by decide

def halfSecond : Timestamp :=
  { wholeSecond with nanosecond := 500000000, nanosecond_lt := by decide }

def record (field : String) (x : Timestamp) : Item Unit := Finmap.singleton field (.string x.format)

def oneSecond (field : String) : List (Item Unit) :=
  [record field wholeSecond, record field halfSecond]

/-- The timestamp of either record. -/
def stampOf (field : String) (item : Item Unit) : Timestamp :=
  if fieldText field item = halfSecond.format then halfSecond else wholeSecond

theorem stampOf_record (field : String) :
    stampOf field (record field wholeSecond) = wholeSecond ∧
      stampOf field (record field halfSecond) = halfSecond := by
  have differ : wholeSecond.format ≠ halfSecond.format := by decide +kernel
  unfold stampOf fieldText record
  rw [Finmap.lookup_singleton_eq, Finmap.lookup_singleton_eq]
  exact ⟨if_neg differ, if_pos rfl⟩

theorem dated_oneSecond (field : String) : Dated (stampOf field) field (oneSecond field) := by
  intro item member
  have stamps := stampOf_record field
  simp only [oneSecond, List.mem_cons, List.not_mem_nil, or_false] at member
  rcases member with rfl | rfl
  · rw [stamps.1]
    exact Finmap.lookup_singleton_eq
  · rw [stamps.2]
    exact Finmap.lookup_singleton_eq

theorem chronological_iff_oneSecond :
    (Chronological (stampOf "timestamp") (oneSecond "timestamp")
        (sortByTimestampAsc (oneSecond "timestamp")) ↔
      WrittenInOrder (stampOf "timestamp") (oneSecond "timestamp")) ∧
      (Chronological (stampOf "observed_at") (oneSecond "observed_at")
          (sortByObservedAtAsc (oneSecond "observed_at")) ↔
        WrittenInOrder (stampOf "observed_at") (oneSecond "observed_at")) :=
  ⟨(chronological_iff (stampOf "timestamp") _).1 (dated_oneSecond "timestamp"),
    (chronological_iff (stampOf "observed_at") _).2 (dated_oneSecond "observed_at")⟩

/-- The half second is written before the whole one, since a point sorts before `Z`. -/
theorem not_chronological :
    ¬ ∀ (stamp : Item Unit → Timestamp) (items : List (Item Unit)),
      (Dated stamp "timestamp" items → Chronological stamp items (sortByTimestampAsc items)) ∧
        (Dated stamp "observed_at" items →
          Chronological stamp items (sortByObservedAtAsc items)) := by
  intro always
  have dated := dated_oneSecond "timestamp"
  have written := (chronological_sort_iff dated).mp ((always _ _).1 dated)
  have before : halfSecond.WrittenBefore wholeSecond :=
    Timestamp.format_lt_iff.mp (by decide +kernel)
  have stamps := stampOf_record "timestamp"
  have le := written (record "timestamp" halfSecond) (by simp [oneSecond])
    (record "timestamp" wholeSecond) (by simp [oneSecond])
  rw [stamps.1, stamps.2] at le
  exact absurd (le before) (by decide +kernel)

end KvIndexer.Gateway
