import Mathlib.Data.List.DropRight
import Mathlib.Data.String.Basic

/-!
Timestamps as Go writes them in JSON: RFC 3339 with nanoseconds.

The local time has a fixed width, so texts compare by it first (`localTime_lt_iff`). What
follows does not have one: the formatter drops the zeros at the end of the fraction, and
writes `Z` or an offset after it. `format_lt_iff` says how texts compare, which is not how
their instants do.
-/

namespace KvIndexer.RFC3339

/-! ### Dates -/

def isLeap (year : Nat) : Bool := year % 4 = 0 && (year % 100 ≠ 0 || year % 400 = 0)

def daysIn (year : Nat) : Nat → Nat
  | 0 => 0
  | 2 => if isLeap year then 29 else 28
  | 4 | 6 | 9 | 11 => 30
  | _ => 31

def daysBeforeYear (year : Nat) : Nat :=
  365 * year + (year + 3) / 4 + (year + 399) / 400 - (year + 99) / 100

def daysBeforeMonth (year : Nat) : Nat → Nat
  | 0 => 0
  | month + 1 => daysBeforeMonth year month + daysIn year month

theorem daysIn_le (year month : Nat) : daysIn year month ≤ 31 := by
  unfold daysIn
  split
  · decide
  · split
    · decide
    · decide
  · decide
  · decide
  · decide
  · decide
  · decide

/-- A local time and its offset from UTC in seconds. -/
structure Timestamp where
  year : Nat
  month : Nat
  day : Nat
  hour : Nat
  minute : Nat
  second : Nat
  nanosecond : Nat
  offset : Int
  year_lt : year < 10000
  month_pos : 0 < month
  month_le : month ≤ 12
  day_pos : 0 < day
  day_le : day ≤ daysIn year month
  hour_lt : hour < 24
  minute_lt : minute < 60
  second_lt : second < 60
  nanosecond_lt : nanosecond < 1000000000
  offset_gt : -86400 < offset
  offset_lt : offset < 86400

theorem utc_gt : (-86400 : Int) < 0 := by decide

theorem utc_lt : (0 : Int) < 86400 := by decide

namespace Timestamp

variable (x : Timestamp)

def days : Nat := daysBeforeYear x.year + daysBeforeMonth x.year x.month + x.day

/-- The seconds that a clock in the zone has counted. -/
def localSeconds : Nat := ((x.days * 24 + x.hour) * 60 + x.minute) * 60 + x.second

/-- The offset as it is written. -/
def offsetMinutes : Int := x.offset.tdiv 60

/-- The instant that the text denotes, in nanoseconds. -/
def instant : Int := (x.localSeconds - x.offsetMinutes * 60) * 1000000000 + x.nanosecond

/-- The instant of the time itself. The text leaves the seconds of the offset out. -/
def absolute : Int := (x.localSeconds - x.offset) * 1000000000 + x.nanosecond

end Timestamp

/-! ### Text -/

def digit (n : Nat) : Char := Char.ofNat (48 + n)

/-- A number in decimal with this many digits. -/
def pad : Nat → Nat → List Char
  | 0, _ => []
  | width + 1, n => pad width (n / 10) ++ [digit (n % 10)]

namespace Timestamp

variable (x : Timestamp)

def localTime : List Char :=
  pad 4 x.year ++ '-' :: (pad 2 x.month ++ '-' :: (pad 2 x.day ++ 'T' ::
    (pad 2 x.hour ++ ':' :: (pad 2 x.minute ++ ':' :: pad 2 x.second))))

/-- The digits of the fraction, without the zeros at the end. -/
def digits : List Char := (pad 9 x.nanosecond).rdropWhile (· = '0')

def fraction : List Char := if x.digits = [] then [] else '.' :: x.digits

def zone : List Char :=
  if x.offset = 0 then ['Z']
  else
    (if x.offsetMinutes < 0 then '-' else '+') ::
      (pad 2 (x.offsetMinutes.natAbs / 60) ++ ':' :: pad 2 (x.offsetMinutes.natAbs % 60))

/-- The layout `time.RFC3339Nano`. -/
def format : String := String.ofList (x.localTime ++ (x.fraction ++ x.zone))

end Timestamp

/-! ### Order of numbers -/

theorem digit_lt_iff {m n : Nat} (hm : m < 10) (hn : n < 10) : digit m < digit n ↔ m < n := by
  have each : (List.range 10).all fun m => (List.range 10).all fun n =>
      decide (digit m < digit n) == decide (m < n) := by decide
  have here := List.all_eq_true.mp (List.all_eq_true.mp each m (List.mem_range.mpr hm)) n
    (List.mem_range.mpr hn)
  rw [beq_iff_eq, decide_eq_decide] at here
  exact here

theorem digit_inj {m n : Nat} (hm : m < 10) (hn : n < 10) (same : digit m = digit n) : m = n := by
  have notLess := mt (digit_lt_iff hm hn).mpr (by rw [same]; exact lt_irrefl _)
  have notGreater := mt (digit_lt_iff hn hm).mpr (by rw [same]; exact lt_irrefl _)
  omega

/-- Numbers of one width compare as text like numbers. -/
theorem pad_append_lt_iff {width m n : Nat} (hm : m < 10 ^ width) (hn : n < 10 ^ width)
    (s t : List Char) : pad width m ++ s < pad width n ++ t ↔ m < n ∨ m = n ∧ s < t := by
  induction width generalizing m n s t with
  | zero =>
      rw [Nat.pow_zero, Nat.lt_one_iff] at hm hn
      subst hm hn
      simp [pad]
  | succ width ih =>
      rw [Nat.pow_succ] at hm hn
      have lastM := Nat.mod_lt m (show 0 < 10 by decide)
      have lastN := Nat.mod_lt n (show 0 < 10 by decide)
      rw [pad, pad, List.append_assoc, List.append_assoc, ih (by omega) (by omega),
        List.singleton_append, List.singleton_append, List.cons_lt_cons_iff,
        digit_lt_iff lastM lastN]
      have same : digit (m % 10) = digit (n % 10) ↔ m % 10 = n % 10 :=
        ⟨digit_inj lastM lastN, fun same => by rw [same]⟩
      rw [same]
      constructor
      · rintro (less | ⟨front, less | ⟨last, tail⟩⟩)
        · exact Or.inl (by omega)
        · exact Or.inl (by omega)
        · exact Or.inr ⟨by omega, tail⟩
      · rintro (less | ⟨rfl, tail⟩)
        · by_cases front : m / 10 = n / 10
          · exact Or.inr ⟨front, Or.inl (by omega)⟩
          · exact Or.inl (by omega)
        · exact Or.inr ⟨rfl, Or.inr ⟨rfl, tail⟩⟩

/-- Numbers written in two places compare by the first place first. -/
theorem positional_lt_iff {k a b m n : Nat} {P : Prop} (ha : a < k) (hb : b < k) :
    (m * k + a < n * k + b ∨ m * k + a = n * k + b ∧ P) ↔
      m < n ∨ m = n ∧ (a < b ∨ a = b ∧ P) := by
  rcases Nat.lt_trichotomy m n with before | rfl | after
  · have places := Nat.mul_le_mul_right k (show m + 1 ≤ n from before)
    rw [Nat.add_mul, Nat.one_mul] at places
    exact iff_of_true (Or.inl (by omega)) (Or.inl before)
  · simp
  · have places := Nat.mul_le_mul_right k (show n + 1 ≤ m from after)
    rw [Nat.add_mul, Nat.one_mul] at places
    refine iff_of_false ?_ ?_
    · rintro (less | ⟨same, -⟩)
      · omega
      · omega
    · rintro (less | ⟨same, -⟩)
      · omega
      · omega

/-! ### Order of local times -/

theorem daysBeforeYear_succ (year : Nat) :
    daysBeforeYear (year + 1) = daysBeforeYear year + if isLeap year then 366 else 365 := by
  have four : (year + 1 + 3) / 4 = (year + 3) / 4 + if year % 4 = 0 then 1 else 0 := by
    split <;> omega
  have hundred : (year + 1 + 99) / 100 = (year + 99) / 100 + if year % 100 = 0 then 1 else 0 := by
    split <;> omega
  have fourHundred :
      (year + 1 + 399) / 400 = (year + 399) / 400 + if year % 400 = 0 then 1 else 0 := by
    split <;> omega
  have fewer : (year + 99) / 100 ≤ (year + 3) / 4 := by omega
  have leap : isLeap year = true ↔ year % 4 = 0 ∧ (year % 100 ≠ 0 ∨ year % 400 = 0) := by
    simp [isLeap]
  have centuries : year % 400 = 0 → year % 100 = 0 := by omega
  have decades : year % 100 = 0 → year % 4 = 0 := by omega
  unfold daysBeforeYear
  rw [four, hundred, fourHundred]
  -- from here on only the quotients and the four cases of the year matter
  generalize (year + 3) / 4 = a, (year + 99) / 100 = b, (year + 399) / 400 = c at fewer ⊢
  by_cases h4 : year % 4 = 0
  · by_cases h100 : year % 100 = 0
    · by_cases h400 : year % 400 = 0
      · rw [if_pos h4, if_pos h100, if_pos h400, if_pos (leap.mpr ⟨h4, Or.inr h400⟩)]
        omega
      · rw [if_pos h4, if_pos h100, if_neg h400, if_neg fun h => (leap.mp h).2.elim (· h100) h400]
        omega
    · rw [if_pos h4, if_neg h100, if_neg (mt centuries h100),
        if_pos (leap.mpr ⟨h4, Or.inl h100⟩)]
      omega
  · have h100 := mt decades h4
    rw [if_neg h4, if_neg h100, if_neg (mt centuries h100), if_neg fun h => h4 (leap.mp h).1]
    omega

theorem daysBeforeMonth_all (year : Nat) :
    daysBeforeMonth year 13 = if isLeap year then 366 else 365 := by
  simp only [daysBeforeMonth, daysIn]
  split
  · rfl
  · rfl

theorem daysBeforeYear_mono {y z : Nat} (le : y ≤ z) : daysBeforeYear y ≤ daysBeforeYear z := by
  induction le with
  | refl => exact Nat.le_refl _
  | step _ ih =>
      rw [daysBeforeYear_succ]
      omega

theorem daysBeforeMonth_mono (year : Nat) {m n : Nat} (le : m ≤ n) :
    daysBeforeMonth year m ≤ daysBeforeMonth year n := by
  induction le with
  | refl => exact Nat.le_refl _
  | step _ ih => exact Nat.le_trans ih (Nat.le_add_right _ _)

namespace Timestamp

variable {x y : Timestamp}

theorem days_lt_of_year (less : x.year < y.year) : x.days < y.days := by
  have inMonth : daysBeforeMonth x.year x.month + x.day ≤ daysBeforeMonth x.year (x.month + 1) :=
    Nat.add_le_add_left x.day_le _
  have inYear := daysBeforeMonth_mono x.year (show x.month + 1 ≤ 13 by have := x.month_le; omega)
  have next := daysBeforeYear_mono less
  rw [Nat.succ_eq_add_one, daysBeforeYear_succ, ← daysBeforeMonth_all] at next
  have pos := y.day_pos
  unfold days
  omega

theorem days_lt_of_month (year : x.year = y.year) (less : x.month < y.month) :
    x.days < y.days := by
  have inMonth : daysBeforeMonth x.year x.month + x.day ≤ daysBeforeMonth x.year (x.month + 1) :=
    Nat.add_le_add_left x.day_le _
  have next := daysBeforeMonth_mono x.year (show x.month + 1 ≤ y.month from less)
  have pos := y.day_pos
  unfold days
  rw [← year]
  omega

theorem days_lt_of_day (year : x.year = y.year) (month : x.month = y.month) (less : x.day < y.day) :
    x.days < y.days := by
  unfold days
  rw [year, month]
  omega

theorem days_lt_iff :
    x.days < y.days ↔
      x.year < y.year ∨ x.year = y.year ∧
        (x.month < y.month ∨ x.month = y.month ∧ x.day < y.day) := by
  constructor
  · intro less
    rcases Nat.lt_trichotomy x.year y.year with before | same | after
    · exact Or.inl before
    · refine Or.inr ⟨same, ?_⟩
      rcases Nat.lt_trichotomy x.month y.month with before | same' | after
      · exact Or.inl before
      · refine Or.inr ⟨same', ?_⟩
        unfold days at less
        rw [same, same'] at less
        omega
      · exact absurd (days_lt_of_month same.symm after) (Nat.lt_asymm less)
    · exact absurd (days_lt_of_year after) (Nat.lt_asymm less)
  · rintro (before | ⟨same, before | ⟨same', before⟩⟩)
    · exact days_lt_of_year before
    · exact days_lt_of_month same before
    · exact days_lt_of_day same same' before

theorem days_eq_iff :
    x.days = y.days ↔ x.year = y.year ∧ x.month = y.month ∧ x.day = y.day := by
  constructor
  · intro same
    have notLess := mt (days_lt_iff (x := x) (y := y)).mpr (by omega)
    have notGreater := mt (days_lt_iff (x := y) (y := x)).mpr (by omega)
    omega
  · rintro ⟨year, month, day⟩
    unfold days
    rw [year, month, day]

/-- Texts compare by their local times first. -/
theorem localTime_lt_iff (s t : List Char) :
    x.localTime ++ s < y.localTime ++ t ↔
      x.localSeconds < y.localSeconds ∨ x.localSeconds = y.localSeconds ∧ s < t := by
  have two : ∀ {n}, n < 60 → n < 10 ^ 2 := fun less => by omega
  have monthX := x.month_le
  have monthY := y.month_le
  have dayX := Nat.le_trans x.day_le (daysIn_le x.year x.month)
  have dayY := Nat.le_trans y.day_le (daysIn_le y.year y.month)
  have hourX := x.hour_lt
  have hourY := y.hour_lt
  have minuteX := x.minute_lt
  have minuteY := y.minute_lt
  have secondX := x.second_lt
  have secondY := y.second_lt
  unfold localTime
  simp only [List.append_assoc, List.cons_append]
  rw [pad_append_lt_iff x.year_lt y.year_lt, List.cons_lt_cons_self,
    pad_append_lt_iff (two (by omega)) (two (by omega)), List.cons_lt_cons_self,
    pad_append_lt_iff (two (by omega)) (two (by omega)), List.cons_lt_cons_self,
    pad_append_lt_iff (two (by omega)) (two (by omega)), List.cons_lt_cons_self,
    pad_append_lt_iff (two minuteX) (two minuteY), List.cons_lt_cons_self,
    pad_append_lt_iff (two secondX) (two secondY)]
  unfold localSeconds
  rw [positional_lt_iff secondX secondY, positional_lt_iff minuteX minuteY,
    positional_lt_iff hourX hourY, days_lt_iff, days_eq_iff]
  simp only [and_or_left, or_assoc, and_assoc]

end Timestamp

/-! ### Order of fractions -/

theorem append_lt_append_iff {α : Type} [LinearOrder α] (a s t : List α) :
    a ++ s < a ++ t ↔ s < t := by
  induction a with
  | nil => rfl
  | cons c a ih => rw [List.cons_append, List.cons_append, List.cons_lt_cons_self, ih]

/-- Two lists of which neither continues the other differ at some place. -/
theorem exists_divergence {α : Type} {a b : List α} (left : ¬ a <+: b) (right : ¬ b <+: a) :
    ∃ front c u d v, a = front ++ c :: u ∧ b = front ++ d :: v ∧ c ≠ d := by
  induction a generalizing b with
  | nil => exact absurd (List.nil_prefix) left
  | cons c a ih =>
      cases b with
      | nil => exact absurd (List.nil_prefix) right
      | cons d b =>
          by_cases same : c = d
          · subst same
            rw [List.prefix_cons_inj] at left right
            obtain ⟨front, c', u, d', v, rfl, rfl, differ⟩ := ih left right
            exact ⟨c :: front, c', u, d', v, rfl, rfl, differ⟩
          · exact ⟨[], c, a, d, b, rfl, rfl, same⟩

theorem divergence_lt_iff {α : Type} [LinearOrder α] {front u v s t : List α} {c d : α}
    (differ : c ≠ d) : (front ++ c :: u) ++ s < (front ++ d :: v) ++ t ↔ c < d := by
  rw [List.append_assoc, List.append_assoc, append_lt_append_iff, List.cons_append,
    List.cons_append, List.cons_lt_cons_iff, or_iff_left]
  rintro ⟨same, -⟩
  exact differ same

theorem pad_inj {width m n : Nat} (hm : m < 10 ^ width) (hn : n < 10 ^ width)
    (same : pad width m = pad width n) : m = n := by
  have notLess := mt (pad_append_lt_iff hm hn [] []).mpr (by rw [same]; exact lt_irrefl _)
  have notGreater := mt (pad_append_lt_iff hn hm [] []).mpr (by rw [same]; exact lt_irrefl _)
  rw [not_or] at notLess notGreater
  omega

theorem length_pad (width n : Nat) : (pad width n).length = width := by
  induction width generalizing n with
  | zero => rfl
  | succ width ih => rw [pad, List.length_append, ih, List.length_singleton]

theorem mem_pad {width n : Nat} {c : Char} (member : c ∈ pad width n) : '0' ≤ c ∧ c ≤ '9' := by
  induction width generalizing n with
  | zero => exact absurd member List.not_mem_nil
  | succ width ih =>
      rcases List.mem_append.mp member with front | last
      · exact ih front
      · rw [List.mem_singleton.mp last]
        have each : (List.range 10).all fun k => decide ('0' ≤ digit k ∧ digit k ≤ '9') := by decide
        exact of_decide_eq_true (List.all_eq_true.mp each _
          (List.mem_range.mpr (Nat.mod_lt n (by decide))))

namespace Timestamp

variable {x y : Timestamp}

theorem mem_digits {c : Char} (member : c ∈ x.digits) : '0' ≤ c ∧ c ≤ '9' :=
  mem_pad ((List.rdropWhile_prefix _ _).subset member)

/-- The digits that are left out are zeros. -/
theorem digits_append_zeros (x : Timestamp) :
    x.digits ++ List.replicate (9 - x.digits.length) '0' = pad 9 x.nanosecond := by
  have split : x.digits ++ (pad 9 x.nanosecond).rtakeWhile (· = '0') = pad 9 x.nanosecond :=
    List.rdropWhile_append_rtakeWhile
  have zeros : (pad 9 x.nanosecond).rtakeWhile (· = '0') =
      List.replicate (9 - x.digits.length) '0' := by
    refine List.eq_replicate_iff.mpr ⟨?_, fun c member => ?_⟩
    · have length := congrArg List.length split
      rw [List.length_append, length_pad] at length
      omega
    · simpa using List.mem_rtakeWhile_imp member
  rw [← zeros, split]

theorem nanosecond_eq_of_digits (same : x.digits = y.digits) : x.nanosecond = y.nanosecond := by
  have padX := digits_append_zeros x
  rw [same, digits_append_zeros y] at padX
  exact (pad_inj y.nanosecond_lt x.nanosecond_lt padX).symm

/-- A zone sorts before a digit or a point unless it is `Z`. -/
theorem zone_lt_iff {c : Char} (above : '-' < c) (below : c < 'Z') (s t : List Char) :
    x.zone ++ s < c :: t ↔ x.offset ≠ 0 := by
  unfold zone
  by_cases utc : x.offset = 0
  · rw [if_pos utc, List.singleton_append, List.cons_lt_cons_iff]
    refine iff_of_false ?_ (not_not_intro utc)
    rintro (less | ⟨same, -⟩)
    · exact lt_asymm less below
    · exact absurd same (ne_of_gt below)
  · rw [if_neg utc, List.cons_append, List.cons_lt_cons_iff]
    refine iff_of_true (Or.inl ?_) utc
    split
    · exact above
    · exact lt_trans (by decide) above

theorem lt_zone_iff {c : Char} (above : '-' < c) (below : c < 'Z') (s t : List Char) :
    c :: t < x.zone ++ s ↔ x.offset = 0 := by
  unfold zone
  by_cases utc : x.offset = 0
  · rw [if_pos utc, List.singleton_append, List.cons_lt_cons_iff]
    exact iff_of_true (Or.inl below) utc
  · rw [if_neg utc, List.cons_append, List.cons_lt_cons_iff]
    refine iff_of_false ?_ utc
    have sign : (if x.offsetMinutes < 0 then '-' else '+') < c := by
      split
      · exact above
      · exact lt_trans (by decide) above
    rintro (less | ⟨same, -⟩)
    · exact lt_asymm less sign
    · exact absurd same (ne_of_gt sign)

/-- The order of the written fractions and zones, where the fractions differ: `Z` sorts after
the digits, so in UTC a fraction comes after its continuations. -/
def FractionBefore (x y : Timestamp) : Prop :=
  if x.digits <+: y.digits then x.offset ≠ 0
  else if y.digits <+: x.digits then y.offset = 0
  else x.nanosecond < y.nanosecond

theorem fraction_of_digits (some : x.digits ≠ []) : x.fraction = '.' :: x.digits := if_neg some

theorem digits_bounds {c : Char} (member : c ∈ x.digits) : '-' < c ∧ c < 'Z' := by
  obtain ⟨low, high⟩ := mem_digits member
  exact ⟨lt_of_lt_of_le (by decide) low, lt_of_le_of_lt high (by decide)⟩

/-- A fraction against one that continues it. -/
theorem fraction_of_prefix (differ : x.nanosecond ≠ y.nanosecond) (front : x.digits <+: y.digits) :
    ∃ common c t, '-' < c ∧ c < 'Z' ∧ x.fraction = common ∧ y.fraction = common ++ c :: t := by
  obtain ⟨rest, continued⟩ := front
  cases rest with
  | nil =>
      rw [List.append_nil] at continued
      exact absurd (nanosecond_eq_of_digits continued) differ
  | cons c rest =>
      have some : y.digits ≠ [] := by
        rw [← continued]
        simp
      rw [fraction_of_digits some]
      by_cases none : x.digits = []
      · exact ⟨[], '.', y.digits, by decide, by decide, if_pos none, rfl⟩
      · have bounds := digits_bounds (x := y) (c := c) (by rw [← continued]; simp)
        refine ⟨'.' :: x.digits, c, rest, bounds.1, bounds.2, fraction_of_digits none, ?_⟩
        rw [← continued]
        rfl

theorem fraction_lt_iff (differ : x.nanosecond ≠ y.nanosecond) :
    x.fraction ++ x.zone < y.fraction ++ y.zone ↔ FractionBefore x y := by
  unfold FractionBefore
  split
  · rename_i front
    obtain ⟨common, c, t, above, below, here, there⟩ := fraction_of_prefix differ front
    rw [here, there, List.append_assoc, append_lt_append_iff, ← List.append_nil x.zone]
    exact zone_lt_iff above below [] _
  · rename_i left
    split
    · rename_i front
      obtain ⟨common, c, t, above, below, here, there⟩ := fraction_of_prefix (Ne.symm differ) front
      rw [here, there, List.append_assoc, append_lt_append_iff, ← List.append_nil y.zone]
      exact lt_zone_iff above below [] _
    · rename_i right
      obtain ⟨front, c, u, d, v, here, there, other⟩ := exists_divergence left right
      have someX : x.digits ≠ [] := by
        intro none
        rw [none] at left
        exact left List.nil_prefix
      have someY : y.digits ≠ [] := by
        intro none
        rw [none] at right
        exact right List.nil_prefix
      have padX := digits_append_zeros x
      have padY := digits_append_zeros y
      have numbers : pad 9 x.nanosecond ++ [] < pad 9 y.nanosecond ++ [] ↔ _ :=
        pad_append_lt_iff x.nanosecond_lt y.nanosecond_lt [] []
      rw [← padX, ← padY, List.append_nil, List.append_nil, here, there,
        divergence_lt_iff other] at numbers
      rw [fraction_of_digits someX, fraction_of_digits someY, List.cons_append, List.cons_append,
        List.cons_lt_cons_self, here, there, divergence_lt_iff other, numbers]
      simp

/-- The order of the texts. -/
def WrittenBefore (x y : Timestamp) : Prop :=
  x.localSeconds < y.localSeconds ∨
    x.localSeconds = y.localSeconds ∧
      if x.nanosecond = y.nanosecond then x.zone < y.zone else FractionBefore x y

theorem format_lt_iff : x.format < y.format ↔ WrittenBefore x y := by
  unfold format WrittenBefore
  rw [String.lt_iff_toList_lt, String.toList_ofList, String.toList_ofList, localTime_lt_iff]
  refine or_congr_right (and_congr_right fun _ => ?_)
  split
  · rename_i same
    have fraction : x.fraction = y.fraction := by
      unfold fraction digits
      rw [same]
    rw [fraction, append_lt_append_iff]
  · rename_i differ
    exact fraction_lt_iff differ

/-! ### Where texts compare like instants -/

theorem zone_inj (same : x.zone = y.zone) : x.offsetMinutes = y.offsetMinutes := by
  have signs : ∀ z : Timestamp, (if z.offsetMinutes < 0 then '-' else '+') ≠ 'Z' := by
    intro z
    split
    · decide
    · decide
  have bounds : ∀ z : Timestamp, z.offsetMinutes.natAbs < 1440 := by
    intro z
    have low := z.offset_gt
    have high := z.offset_lt
    unfold offsetMinutes
    rw [Int.natAbs_tdiv]
    show z.offset.natAbs / 60 < 1440
    omega
  unfold zone at same
  by_cases utcX : x.offset = 0
  · by_cases utcY : y.offset = 0
    · unfold offsetMinutes
      rw [utcX, utcY]
    · rw [if_pos utcX, if_neg utcY] at same
      exact absurd (List.cons.inj same).1.symm (signs y)
  · by_cases utcY : y.offset = 0
    · rw [if_neg utcX, if_pos utcY] at same
      exact absurd (List.cons.inj same).1 (signs x)
    · rw [if_neg utcX, if_neg utcY] at same
      obtain ⟨sign, numbers⟩ := List.cons.inj same
      obtain ⟨hours, minutes⟩ := List.append_inj numbers (by rw [length_pad, length_pad])
      have boundX := bounds x
      have boundY := bounds y
      have hours := pad_inj (by omega) (by omega) hours
      have minutes := pad_inj (by omega) (by omega) (List.cons.inj minutes).2
      have same : x.offsetMinutes.natAbs = y.offsetMinutes.natAbs := by omega
      split at sign
      · split at sign
        · omega
        · exact absurd sign (by decide)
      · split at sign
        · exact absurd sign (by decide)
        · omega

theorem fractionBefore_total (differ : x.nanosecond ≠ y.nanosecond) :
    FractionBefore x y ∨ FractionBefore y x := by
  unfold FractionBefore
  by_cases left : x.digits <+: y.digits
  · have right : ¬ y.digits <+: x.digits := fun right =>
      differ (nanosecond_eq_of_digits (left.eq_of_length (left.length_le.antisymm right.length_le)))
    rw [if_pos left, if_neg right, if_pos left]
    exact (em (x.offset = 0)).symm
  · by_cases right : y.digits <+: x.digits
    · rw [if_neg left, if_pos right, if_pos right]
      exact em (y.offset = 0)
    · rw [if_neg left, if_neg right, if_neg right, if_neg left]
      exact Nat.lt_or_gt_of_ne differ

/-- Texts of which neither sorts before the other say the same. -/
theorem fields_eq_of_unordered (notBefore : ¬ WrittenBefore x y) (notAfter : ¬ WrittenBefore y x) :
    x.localSeconds = y.localSeconds ∧ x.nanosecond = y.nanosecond ∧
      x.offsetMinutes = y.offsetMinutes := by
  unfold WrittenBefore at notBefore notAfter
  rw [not_or, not_and] at notBefore notAfter
  have same : x.localSeconds = y.localSeconds :=
    Nat.le_antisymm (Nat.not_lt.mp notAfter.1) (Nat.not_lt.mp notBefore.1)
  have notBefore := notBefore.2 same
  have notAfter := notAfter.2 same.symm
  by_cases nanos : x.nanosecond = y.nanosecond
  · rw [if_pos nanos] at notBefore
    rw [if_pos nanos.symm] at notAfter
    have zones : x.zone = y.zone := le_antisymm (not_lt.mp notAfter) (not_lt.mp notBefore)
    exact ⟨same, nanos, zone_inj zones⟩
  · rw [if_neg nanos] at notBefore
    rw [if_neg (Ne.symm nanos)] at notAfter
    rcases fractionBefore_total nanos with before | after
    · exact absurd before notBefore
    · exact absurd after notAfter

/-- They denote one instant. -/
theorem instant_eq_of_unordered (notBefore : ¬ WrittenBefore x y) (notAfter : ¬ WrittenBefore y x) :
    x.instant = y.instant := by
  obtain ⟨seconds, nanos, minutes⟩ := fields_eq_of_unordered notBefore notAfter
  unfold instant
  rw [seconds, nanos, minutes]

/-- Times less than a second apart that are written alike are one. -/
theorem absolute_eq_of_format (same : x.format = y.format)
    (near : (x.absolute - y.absolute).natAbs < 1000000000) : x.absolute = y.absolute := by
  have notBefore := mt (format_lt_iff (x := x) (y := y)).mpr (not_lt_of_ge same.ge)
  have notAfter := mt (format_lt_iff (x := y) (y := x)).mpr (not_lt_of_ge same.le)
  obtain ⟨seconds, nanos, -⟩ := fields_eq_of_unordered notBefore notAfter
  unfold absolute at near ⊢
  rw [seconds, nanos] at near ⊢
  omega

/-- In zones of whole minutes the text gives the time. -/
theorem absolute_eq_of_format_of_minutes (same : x.format = y.format) (left : x.offset % 60 = 0)
    (right : y.offset % 60 = 0) : x.absolute = y.absolute := by
  have notBefore := mt (format_lt_iff (x := x) (y := y)).mpr (not_lt_of_ge same.ge)
  have notAfter := mt (format_lt_iff (x := y) (y := x)).mpr (not_lt_of_ge same.le)
  obtain ⟨seconds, nanos, minutes⟩ := fields_eq_of_unordered notBefore notAfter
  have offsets : x.offset = y.offset := by
    rw [← Int.tdiv_mul_cancel (Int.dvd_of_emod_eq_zero left),
      ← Int.tdiv_mul_cancel (Int.dvd_of_emod_eq_zero right)]
    exact congrArg (· * 60) minutes
  unfold absolute
  rw [seconds, nanos, offsets]

/-- A text has no slash. -/
theorem slash_notMem_format (x : Timestamp) : '/' ∉ x.format.toList := by
  have padded {width n : Nat} : '/' ∉ pad width n := fun member =>
    absurd (mem_pad member).1 (by decide)
  have digits : '/' ∉ x.digits := fun member => absurd (mem_digits member).1 (by decide)
  have signs : ('/' = if x.offsetMinutes < 0 then '-' else '+') → False := by
    split <;> decide
  rw [format, String.toList_ofList]
  intro member
  simp only [localTime, fraction, zone, List.mem_append, List.mem_cons, padded, Char.reduceEq,
    false_or, or_false] at member
  rcases member with inFraction | inZone
  · split at inFraction
    · cases inFraction
    · exact (List.mem_cons.mp inFraction).elim (by decide) digits
  · split at inZone
    · exact absurd (List.mem_singleton.mp inZone) (by decide)
    · rcases List.mem_cons.mp inZone with sign | inNumbers
      · exact signs sign
      · simp [padded] at inNumbers

theorem nanosecond_le_of_prefix (front : x.digits <+: y.digits) : x.nanosecond ≤ y.nanosecond := by
  have smallest : ∀ {k : Nat} {l : List Char}, l.length = k → (∀ c ∈ l, '0' ≤ c) →
      ¬ l < List.replicate k '0' := by
    intro k l length low
    induction k generalizing l with
    | zero => exact List.not_lt_nil l
    | succ k ih =>
        obtain ⟨c, l, rfl⟩ := List.exists_cons_of_length_eq_add_one length
        rw [List.replicate_succ, List.cons_lt_cons_iff]
        rintro (less | ⟨-, less⟩)
        · exact absurd less (not_lt_of_ge (low c List.mem_cons_self))
        · exact ih (Nat.succ.inj length)
            (fun d member => low d (List.mem_cons_of_mem c member)) less
  obtain ⟨rest, continued⟩ := front
  have padX := digits_append_zeros x
  have padY := digits_append_zeros y
  rw [← continued, List.append_assoc] at padY
  by_contra greater
  have numbers : pad 9 y.nanosecond ++ [] < pad 9 x.nanosecond ++ [] :=
    (pad_append_lt_iff y.nanosecond_lt x.nanosecond_lt [] []).mpr
      (Or.inl (Nat.lt_of_not_le greater))
  rw [← padX, ← padY, List.append_nil, List.append_nil, append_lt_append_iff] at numbers
  refine smallest ?_ (fun c member => ?_) numbers
  · have lengthX := congrArg List.length padX
    have lengthY := congrArg List.length padY
    rw [List.length_append, length_pad] at lengthX lengthY
    rw [List.length_replicate] at lengthX
    omega
  · have inPad : c ∈ pad 9 y.nanosecond := by
      rw [← padY]
      exact List.mem_append_right _ member
    exact (mem_pad inPad).1

/-- In one zone other than UTC, and in UTC among fractions of one length. -/
theorem instant_le_of_writtenBefore (zone : x.offset = y.offset)
    (fixed : x.offset ≠ 0 ∨ x.digits.length = y.digits.length) (before : WrittenBefore x y) :
    x.instant ≤ y.instant := by
  have boundX := x.nanosecond_lt
  have boundY := y.nanosecond_lt
  have minutes : x.offsetMinutes = y.offsetMinutes := congrArg (Int.tdiv · 60) zone
  unfold instant
  rw [minutes]
  rcases before with earlier | ⟨same, before⟩
  · omega
  · suffices le : x.nanosecond ≤ y.nanosecond by omega
    split at before
    · omega
    · rename_i differ
      unfold FractionBefore at before
      split at before
      · rename_i front
        exact nanosecond_le_of_prefix front
      · split at before
        · rename_i left front
          have length := fixed.resolve_left (not_not_intro (zone.trans before))
          have digits := front.eq_of_length length.symm
          exact absurd (nanosecond_eq_of_digits digits).symm differ
        · omega

end Timestamp

end KvIndexer.RFC3339
