import Mathlib.Data.Nat.Digits.Defs

/-!
Decimal rendering of the source's 64-bit `int`.

The packages `residency` and `config` each carry the same allocation-light
`itoa`. Negation is two's complement: the least integer is its own negation, the
digit loop does not run on it, and it renders as a bare minus sign. No other
integer does, so distinct integers still render differently.
-/

namespace KvIndexer

/-- The least 64-bit `int`. -/
def minInt : Int := -(2 ^ 63)

/-- `i = -i` on a 64-bit `int`. -/
def negInt (i : Int) : Int := if i = minInt then i else -i

/-- The `for i > 0` digit loop: nothing is written for a non-positive `i`. -/
def digits (i : Int) : String := if 0 < i then Nat.repr i.toNat else ""

def itoa (i : Int) : String :=
  if i = 0 then "0"
  else if i < 0 then "-" ++ digits (negInt i)
  else digits i

/-! ### What it writes -/

theorem isDigit_of_mem_repr {n : Nat} {c : Char} (member : c ∈ (Nat.repr n).toList) :
    c.isDigit = true := by
  rw [Nat.toList_repr] at member
  exact Nat.isDigit_of_mem_toDigits (by omega) (by omega) member

theorem repr_injective {m n : Nat} (same : Nat.repr m = Nat.repr n) : m = n := by
  have digits : Nat.toDigits 10 m = Nat.toDigits 10 n := by
    rw [← Nat.toList_repr, ← Nat.toList_repr, same]
  rw [← @Nat.ofDigitChars_ten_toDigits m, digits, Nat.ofDigitChars_ten_toDigits]

/-- What is written for a positive integer. -/
theorem digits_of_pos {i : Int} (positive : 0 < i) : digits i = Nat.repr i.toNat := if_pos positive

theorem itoa_of_nonneg {i : Int} (nonneg : 0 ≤ i) : itoa i = Nat.repr i.toNat := by
  unfold itoa
  split
  · rename_i zero
    rw [zero]
    rfl
  · rename_i nonzero
    rw [if_neg (by omega), digits_of_pos (by omega)]

theorem itoa_minInt : itoa minInt = "-" := by decide

theorem itoa_of_neg {i : Int} (negative : i < 0) (notMin : i ≠ minInt) :
    itoa i = "-" ++ Nat.repr i.natAbs := by
  have magnitude : (-i).toNat = i.natAbs := by omega
  rw [itoa, if_neg (by omega), if_pos negative, negInt, if_neg notMin, digits_of_pos (by omega),
    magnitude]

/-- Only digits and the minus sign are written. -/
theorem mem_itoa {i : Int} {c : Char} (member : c ∈ (itoa i).toList) :
    c = '-' ∨ c.isDigit = true := by
  by_cases negative : i < 0
  · by_cases least : i = minInt
    · rw [least, itoa_minInt] at member
      exact Or.inl (by simpa using member)
    · rw [itoa_of_neg negative least, String.toList_append] at member
      rcases List.mem_append.mp member with sign | digit
      · exact Or.inl (by simpa using sign)
      · exact Or.inr (isDigit_of_mem_repr digit)
  · rw [itoa_of_nonneg (by omega)] at member
    exact Or.inr (isDigit_of_mem_repr member)

theorem slash_notMem_itoa (i : Int) : '/' ∉ (itoa i).toList := by
  intro member
  rcases mem_itoa member with same | digit
  · revert same
    decide
  · revert digit
    decide

/-- The first character tells the sign. -/
theorem head?_itoa (i : Int) : (itoa i).toList.head? = some '-' ↔ i < 0 := by
  by_cases negative : i < 0
  · refine iff_of_true ?_ negative
    by_cases least : i = minInt
    · rw [least, itoa_minInt]
      rfl
    · rw [itoa_of_neg negative least, String.toList_append]
      rfl
  · refine iff_of_false (fun first => ?_) negative
    rw [itoa_of_nonneg (by omega)] at first
    have digit := isDigit_of_mem_repr (List.mem_of_mem_head? first)
    revert digit
    decide

theorem itoa_injective {i j : Int} (same : itoa i = itoa j) : i = j := by
  by_cases negative : i < 0
  · have negative' : j < 0 := (head?_itoa j).mp (same ▸ (head?_itoa i).mpr negative)
    by_cases least : i = minInt
    · by_cases least' : j = minInt
      · rw [least, least']
      · rw [least, itoa_minInt, itoa_of_neg negative' least'] at same
        have empty : "" = Nat.repr j.natAbs := String.append_right_inj "-" |>.mp same
        exact absurd empty.symm Nat.repr_ne_empty
    · by_cases least' : j = minInt
      · rw [least', itoa_minInt, itoa_of_neg negative least] at same
        have empty : Nat.repr i.natAbs = "" := String.append_right_inj "-" |>.mp same
        exact absurd empty Nat.repr_ne_empty
      · rw [itoa_of_neg negative least, itoa_of_neg negative' least'] at same
        have magnitude := repr_injective (String.append_right_inj "-" |>.mp same)
        omega
  · have nonneg' : ¬ j < 0 := fun lt => negative ((head?_itoa i).mp (same ▸ (head?_itoa j).mpr lt))
    rw [itoa_of_nonneg (by omega), itoa_of_nonneg (by omega)] at same
    have magnitude := repr_injective same
    omega

end KvIndexer
