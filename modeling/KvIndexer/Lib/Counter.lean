import Mathlib.Algebra.Order.Group.Int
import Mathlib.Algebra.Group.Int.Defs
import Mathlib.Algebra.Group.Nat.Defs
import Mathlib.Tactic.Ring

/-!
Numbers to count in.

A program adds up amounts in a machine word, and an argument about it may want the same sums
without a bound. `Counter` is a type of numbers for such a loop: the loop is written once, and
runs over `Int64` as the program does and over `Int` as the argument wants. Adding an amount
`n` times gives `n • b` in both, which stands for the product as long as that fits
(`toInt_nsmul`).
-/

namespace KvIndexer

class Counter (ν : Type) extends AddCommGroup ν where
  /-- the number a value stands for -/
  toInt : ν → Int
  /-- `ν` counts that far -/
  Fits : Int → Prop
  fits_of_le {m n : Int} : m ≤ n → Fits n → Fits m
  /-- A sum that fits is the sum. -/
  toInt_nsmul {b : ν} {n : Nat} :
    0 ≤ toInt b → Fits (toInt b * n) → toInt (n • b) = toInt b * n
  /-- Part of an amount can be taken away. -/
  toInt_sub {a b : ν} : 0 ≤ toInt b → toInt b ≤ toInt a → toInt (a - b) = toInt a - toInt b

instance : Counter Int where
  toInt n := n
  Fits _ := True
  fits_of_le _ fits := fits
  toInt_nsmul {b n} _ _ := (nsmul_eq_mul n b).trans (mul_comm _ _)
  toInt_sub _ _ := rfl

/-- Two's complement. -/
instance addCommGroupInt64 : AddCommGroup Int64 where
  add_assoc := Int64.add_assoc
  zero_add := Int64.zero_add
  add_zero := Int64.add_zero
  add_comm := Int64.add_comm
  neg_add_cancel := Int64.add_left_neg
  sub_eq_add_neg := Int64.sub_eq_add_neg
  nsmul := nsmulRec
  zsmul := zsmulRec

namespace Counter

theorem nsmul_ofInt (b : Int) (n : Nat) : n • Int64.ofInt b = Int64.ofInt (b * n) := by
  induction n with
  | zero => rw [zero_nsmul, Nat.cast_zero, Int.mul_zero]; rfl
  | succ n ih =>
      rw [succ_nsmul, ih, ← Int64.ofInt_add]
      congr 1
      push_cast
      ring

theorem nsmul_eq (b : Int64) (n : Nat) : n • b = Int64.ofInt (b.toInt * n) := by
  rw [← nsmul_ofInt, Int64.ofInt_toInt]

theorem toInt_nsmul_int64 {b : Int64} {n : Nat} (nonneg : 0 ≤ b.toInt)
    (fits : b.toInt * n < 2 ^ 63) : (n • b).toInt = b.toInt * n := by
  rw [nsmul_eq]
  have above : 0 ≤ b.toInt * (n : Int) := Int.mul_nonneg nonneg (Int.natCast_nonneg n)
  exact Int64.toInt_ofInt_of_le (by omega) fits

theorem toInt_sub_int64 {a b : Int64} (nonneg : 0 ≤ b.toInt) (le : b.toInt ≤ a.toInt) :
    (a - b).toInt = a.toInt - b.toInt := by
  have below := a.toInt_lt
  rw [← Int64.ofInt_toInt a, ← Int64.ofInt_toInt b, ← Int64.ofInt_sub,
    Int64.toInt_ofInt_of_le (by omega) (by omega), Int64.ofInt_toInt, Int64.ofInt_toInt]

end Counter

/-- A Go `int`, which wraps. -/
instance : Counter Int64 where
  toInt := Int64.toInt
  Fits n := n < 2 ^ 63
  fits_of_le le fits := le.trans_lt fits
  toInt_nsmul := Counter.toInt_nsmul_int64
  toInt_sub := Counter.toInt_sub_int64

namespace Counter

variable {ν : Type} [Counter ν] {b : ν} {m n : Nat}

/-- Fewer of an amount fit when more do. -/
theorem fits_mul_of_le (nonneg : 0 ≤ toInt b) (le : m ≤ n) (fits : Fits ν (toInt b * n)) :
    Fits ν (toInt b * m) :=
  fits_of_le (Int.mul_le_mul_of_nonneg_left (Int.ofNat_le.mpr le) nonneg) fits

end Counter

end KvIndexer
