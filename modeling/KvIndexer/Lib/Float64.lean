import Mathlib.Data.Prod.Lex
import Mathlib.Order.Basic

/-!
64-bit floating-point numbers, over the binary64 model of the core library.

`float64` converts a 64-bit integer. The order facts come from one embedding: `<`
compares the keys of two numbers in a linear order, and a NaN has no key
(`lt_iff_key`). So `<` is a strict order, total on the numbers above
another one (`lt_or_lt`), and numbers of one key compare alike (`compares_congr`).

Rounding keeps the sign, so sums of non-negative numbers and products with a positive
constant are not below zero, however large they get (`Nonneg`).
-/

namespace KvIndexer

/-- `float64(n)` -/
def float64 (n : Int64) : Float := .ofModel (.ofInt64 n)

/-- `float64(n)` of an unsigned integer -/
def float64OfUint (n : UInt64) : Float := .ofModel (.ofUInt64 n)

namespace Float64

open Float.Model (UnpackedFloat)

/-- The place of a number in the order: its sign class, then exponent and mantissa. -/
def unpackedKey : UnpackedFloat → Option (Int ×ₗ Int ×ₗ Int)
  | .notANumber => none
  | .infinity .negative => some (toLex (-2, toLex (0, 0)))
  | .finite .negative m e _ => some (toLex (-1, toLex (-e, -m)))
  | .zero _ => some (toLex (0, toLex (0, 0)))
  | .finite .positive m e _ => some (toLex (1, toLex (e, m)))
  | .infinity .positive => some (toLex (2, toLex (0, 0)))

/-- Two exponents and mantissas compare as their pairs do. -/
theorem magnitude_lt (e e' : Int) (m m' : Nat) :
    (compare e e').then (compare m m') = .lt ↔ e < e' ∨ e = e' ∧ m < m' := by
  rw [Ordering.then_eq_lt, compare_lt_iff_lt, compare_lt_iff_lt, compare_eq_iff_eq]

theorem magnitude_gt (e e' : Int) (m m' : Nat) :
    (compare e e').then (compare m m') = .gt ↔ e' < e ∨ e = e' ∧ m' < m := by
  rw [Ordering.then_eq_gt, compare_gt_iff_gt, compare_gt_iff_gt, compare_eq_iff_eq]

theorem unpacked_lt_iff (a b : UnpackedFloat) :
    a.lt b = true ↔ ∃ x ∈ unpackedKey a, ∃ y ∈ unpackedKey b, x < y := by
  unfold UnpackedFloat.lt
  rcases a with (_ | _) | _ | _ | ⟨_ | _, m, e, _⟩ <;>
    rcases b with (_ | _) | _ | _ | ⟨_ | _, m', e', _⟩
  all_goals
    dsimp only [UnpackedFloat.compare, unpackedKey]
    simp [Prod.Lex.toLex_lt_toLex, Ordering.swap_eq_lt, magnitude_lt, magnitude_gt]
  rfl

/-- The key of a number, none for a NaN. -/
def key (f : Float) : Option (Int ×ₗ Int ×ₗ Int) := unpackedKey f.toModel.unpack

theorem lt_iff_key {f g : Float} : f < g ↔ ∃ x ∈ key f, ∃ y ∈ key g, x < y := by
  have unpacked : f < g ↔ f.toModel.unpack.lt g.toModel.unpack = true := decide_eq_true_iff
  rw [unpacked, unpacked_lt_iff]
  rfl

theorem magnitude_inj {c e e' m m' : Int}
    (same : some (toLex (c, toLex (e, m))) = some (toLex (c, toLex (e', m')))) :
    e = e' ∧ m = m' :=
  Prod.mk.inj (toLex.injective (Prod.mk.inj (toLex.injective (Option.some.inj same))).2)

/-- Numbers of one key are one number, up to the sign of zero. -/
theorem eq_of_unpackedKey {a b : UnpackedFloat} (same : unpackedKey a = unpackedKey b) :
    a = b ∨ ∃ s t, a = .zero s ∧ b = .zero t := by
  rcases a with (_ | _) | _ | s | ⟨_ | _, m, e, _⟩ <;>
    rcases b with (_ | _) | _ | t | ⟨_ | _, m', e', _⟩
  case zero.zero => exact Or.inr ⟨s, t, rfl, rfl⟩
  case finite.negative.finite.negative =>
    obtain ⟨exponents, mantissas⟩ := magnitude_inj same
    obtain rfl := Int.neg_inj.mp exponents
    obtain rfl := Int.ofNat.inj (Int.neg_inj.mp mantissas)
    exact Or.inl rfl
  case finite.positive.finite.positive =>
    obtain ⟨rfl, mantissas⟩ := magnitude_inj same
    obtain rfl := Int.ofNat.inj mantissas
    exact Or.inl rfl
  all_goals first
    | exact Or.inl rfl
    | dsimp only [unpackedKey] at same
      simp at same

theorem compare_congr {a b : UnpackedFloat} (same : unpackedKey a = unpackedKey b)
    (c : UnpackedFloat) : c.compare a = c.compare b ∧ a.compare c = b.compare c := by
  obtain rfl | ⟨s, t, rfl, rfl⟩ := eq_of_unpackedKey same
  · exact ⟨rfl, rfl⟩
  · rcases c with (_ | _) | _ | _ | ⟨_ | _, m, e, _⟩ <;> exact ⟨rfl, rfl⟩

/-- A NaN compares with no number. -/
theorem compare_nan {a : UnpackedFloat} (nan : unpackedKey a = none) (c : UnpackedFloat) :
    c.compare a = none ∧ a.compare c = none := by
  obtain rfl : a = .notANumber := by
    rcases a with (_ | _) | _ | _ | ⟨_ | _, m, e, _⟩
    case notANumber => rfl
    all_goals exact absurd nan (Option.some_ne_none _)
  rcases c with (_ | _) | _ | _ | ⟨_ | _, m, e, _⟩ <;> exact ⟨rfl, rfl⟩

theorem lt_iff_compare {f g : Float} :
    f < g ↔ (f.toModel.unpack.compare g.toModel.unpack == some .lt) = true := decide_eq_true_iff

theorem le_iff_compare {f g : Float} :
    f ≤ g ↔ (f.toModel.unpack.compare g.toModel.unpack).any (·.isLE) = true := decide_eq_true_iff

/-- Numbers of one key compare alike with every number. -/
theorem compares_congr {f g : Float} (same : key f = key g) (h : Float) :
    (h == f) = (h == g) ∧ (h < f ↔ h < g) ∧ (f < h ↔ g < h) ∧ (h ≤ f ↔ h ≤ g) ∧
      (f ≤ h ↔ g ≤ h) := by
  obtain ⟨right, left⟩ := compare_congr same h.toModel.unpack
  refine ⟨congrArg (· == some Ordering.eq) right, ?_, ?_, ?_, ?_⟩
  · rw [lt_iff_compare, lt_iff_compare, right]
  · rw [lt_iff_compare, lt_iff_compare, left]
  · rw [le_iff_compare, le_iff_compare, right]
  · rw [le_iff_compare, le_iff_compare, left]

theorem compares_nan {f : Float} (nan : key f = none) (h : Float) :
    (h == f) = false ∧ ¬ h < f ∧ ¬ f < h ∧ ¬ h ≤ f ∧ ¬ f ≤ h := by
  obtain ⟨right, left⟩ := compare_nan nan h.toModel.unpack
  refine ⟨congrArg (· == some Ordering.eq) right, ?_, ?_, ?_, ?_⟩
  · rw [lt_iff_compare, right]
    decide
  · rw [lt_iff_compare, left]
    decide
  · rw [le_iff_compare, right]
    decide
  · rw [le_iff_compare, left]
    decide

theorem lt_irrefl (f : Float) : ¬ f < f := by
  rw [lt_iff_key]
  rintro ⟨x, found, y, found', less⟩
  obtain rfl := Option.mem_unique found found'
  exact less.ne rfl

theorem lt_trans {f g h : Float} (first : f < g) (second : g < h) : f < h := by
  rw [lt_iff_key] at first second ⊢
  obtain ⟨x, isX, y, isY, less⟩ := first
  obtain ⟨y', isY', z, isZ, less'⟩ := second
  obtain rfl := Option.mem_unique isY isY'
  exact ⟨x, isX, z, isZ, less.trans less'⟩

/-- A number above another one is not a NaN, so it is comparable with every pair in order. -/
theorem lt_or_lt {start f g h : Float} (above : start < g) (less : f < h) : f < g ∨ g < h := by
  rw [lt_iff_key] at above less
  obtain ⟨-, -, y, isY, -⟩ := above
  obtain ⟨x, isX, z, isZ, less⟩ := less
  rcases lt_or_ge x y with below | notBelow
  · exact Or.inl (lt_iff_key.mpr ⟨x, isX, y, isY, below⟩)
  · exact Or.inr (lt_iff_key.mpr ⟨y, isY, z, isZ, notBelow.trans_lt less⟩)

/-! ### Signs -/

open Float.Model (Format)
open Float.Model.UnpackedFloat

/-- Neither a NaN nor below zero. -/
def unpackedNonneg : UnpackedFloat → Prop
  | .zero _ => True
  | .infinity sign => sign = .positive
  | .finite sign .. => sign = .positive
  | .notANumber => False

theorem unpackSign_packComponents {spec : Format} {sign : Sign}
    {exponent : BitVec spec.exponentBits} {mantissa : BitVec spec.mantissaBitsWithoutImplicit} :
    unpackSign (packComponents spec sign exponent mantissa) = sign.toBitVec := by
  ext i hi
  obtain rfl : i = 0 := by omega
  have place : (sign.toBitVec ++ exponent ++ mantissa).getLsbD
      (spec.mantissaBitsWithoutImplicit + spec.exponentBits) = sign.toBitVec[0] := by
    rw [BitVec.getLsbD_append, BitVec.getLsbD_append, if_neg (by omega), if_neg (by omega)]
    simp
  show ((sign.toBitVec ++ exponent ++ mantissa).extractLsb _ _ |>.cast _)[0] = _
  simpa using place

theorem nonneg_unpack {spec : Format} {exponent : BitVec spec.exponentBits}
    {mantissa : BitVec spec.mantissaBitsWithoutImplicit}
    (number : exponent = -1#_ → mantissa = 0#_) :
    unpackedNonneg (unpack spec (packComponents spec .positive exponent mantissa)) := by
  have sign : Sign.ofBitVec (unpackSign (packComponents spec .positive exponent mantissa)) =
      .positive := by
    rw [unpackSign_packComponents]
    rfl
  unfold unpack
  dsimp only
  rw [sign, unpackExponent_packComponents]
  by_cases top : exponent = -1#_
  · rw [if_pos top, unpackMantissa_packComponents, if_pos (number top)]
    rfl
  · rw [if_neg top]
    by_cases subnormal : exponent = 0#_
    · rw [if_pos subnormal]
      by_cases none : unpackMantissa (packComponents spec .positive exponent mantissa) = 0#_
      · rw [dif_pos none]
        trivial
      · rw [dif_neg none]
        rfl
    · rw [if_neg subnormal]
      rfl

theorem nonneg_pack {u : UnpackedFloat} (nonneg : unpackedNonneg u) :
    unpackedNonneg (Float.Model.pack u).unpack := by
  unfold Float.Model.pack Float.Model.unpack
  cases u with
  | notANumber => exact nonneg.elim
  | infinity sign =>
      obtain rfl : sign = .positive := nonneg
      exact nonneg_unpack fun _ => rfl
  | zero sign =>
      have unpacked : unpack Format.binary64 (packedZero Format.binary64 sign) = .zero sign := by
        cases sign <;> rfl
      show unpackedNonneg (unpack Format.binary64 (packedZero Format.binary64 sign))
      rw [unpacked]
      trivial
  | finite sign m e positive =>
      obtain rfl : sign = .positive := nonneg
      show unpackedNonneg (unpack Format.binary64 (pack Format.binary64 _))
      unfold pack
      dsimp only
      split
      · exact nonneg_unpack fun _ => rfl
      · split
        · rename_i inRange _
          refine nonneg_unpack fun top => ?_
          have bits := congrArg BitVec.toNat top
          simp at bits
          omega
        · refine nonneg_unpack fun top => ?_
          exact absurd top (by decide)

theorem nonneg_dite {m : Nat} {e : Int} :
    unpackedNonneg (if zero : m = 0 then .zero .positive
      else .finite .positive m e (Nat.pos_of_ne_zero zero)) := by
  by_cases zero : m = 0
  · rw [dif_pos zero]
    trivial
  · rw [dif_neg zero]
    rfl

/-- Rounding keeps the sign. -/
theorem nonneg_roundWithAccuracy {spec : Format} {m : Nat} {e : Int} {accuracy : Accuracy} :
    unpackedNonneg (roundWithAccuracy spec .positive m e accuracy) :=
  nonneg_dite

theorem nonneg_normalize {spec : Format} {mantissa : Int} (nonneg : 0 ≤ mantissa) (e : Int) :
    unpackedNonneg (UnpackedFloat.normalize spec mantissa e .positive) := by
  unfold UnpackedFloat.normalize
  split
  · rename_i below
    exact absurd (Int.compare_eq_lt.mp below) (by omega)
  · trivial
  · exact nonneg_roundWithAccuracy

theorem nonneg_mul {spec : Format} {u v : UnpackedFloat} (nonneg : unpackedNonneg u) {m : Nat}
    {e : Int} {positive : 0 < m} (factor : v = .finite .positive m e positive) :
    unpackedNonneg (mul spec u v) := by
  subst factor
  cases u with
  | notANumber => exact nonneg.elim
  | infinity sign =>
      obtain rfl : sign = .positive := nonneg
      rfl
  | zero sign => trivial
  | finite sign m' e' positive' =>
      obtain rfl : sign = .positive := nonneg
      exact nonneg_roundWithAccuracy

theorem nonneg_add {spec : Format} {u v : UnpackedFloat} (nonneg : unpackedNonneg u)
    (nonneg' : unpackedNonneg v) : unpackedNonneg (add spec u v) := by
  cases u with
  | notANumber => exact nonneg.elim
  | infinity sign =>
      obtain rfl : sign = .positive := nonneg
      cases v with
      | notANumber => exact nonneg'.elim
      | infinity sign' =>
          obtain rfl : sign' = .positive := nonneg'
          rfl
      | zero sign' => rfl
      | finite sign' m' e' positive' => rfl
  | zero sign =>
      cases v with
      | notANumber => exact nonneg'.elim
      | infinity sign' => exact nonneg'
      | zero sign' => cases sign <;> cases sign' <;> trivial
      | finite sign' m' e' positive' => exact nonneg'
  | finite sign m e positive =>
      obtain rfl : sign = .positive := nonneg
      cases v with
      | notANumber => exact nonneg'.elim
      | infinity sign' => exact nonneg'
      | zero sign' => rfl
      | finite sign' m' e' positive' =>
          obtain rfl : sign' = .positive := nonneg'
          refine nonneg_normalize ?_ _
          exact Int.add_nonneg (Int.natCast_nonneg _) (Int.natCast_nonneg _)

/-- Neither a NaN nor below zero. -/
def Nonneg (f : Float) : Prop := unpackedNonneg f.toModel.unpack

theorem nonneg_float64 {n : Int64} (nonneg : 0 ≤ n) : Nonneg (float64 n) :=
  nonneg_pack (nonneg_normalize (Int64.le_iff_toInt_le.mp nonneg) 0)

theorem Nonneg.mul {f g : Float} (nonneg : Nonneg f) {m : Nat} {e : Int} {positive : 0 < m}
    (factor : g.toModel.unpack = .finite .positive m e positive) : Nonneg (f * g) :=
  nonneg_pack (nonneg_mul nonneg factor)

theorem Nonneg.add {f g : Float} (nonneg : Nonneg f) (nonneg' : Nonneg g) : Nonneg (f + g) :=
  nonneg_pack (nonneg_add nonneg nonneg')

/-- What is below zero is below every such number. -/
theorem lt_of_nonneg {f g : Float} (below : f < 0) (nonneg : Nonneg g) : f < g := by
  obtain ⟨x, isX, y, isY, less⟩ := lt_iff_key.mp below
  have zero : key 0 = some (toLex (0, toLex (0, 0))) := by decide +kernel
  obtain rfl := Option.mem_unique isY zero
  suffices above : ∃ z ∈ key g, toLex (0, toLex (0, 0)) ≤ z by
    obtain ⟨z, isZ, le⟩ := above
    exact lt_iff_key.mpr ⟨x, isX, z, isZ, less.trans_le le⟩
  unfold Nonneg at nonneg
  unfold key
  cases unpacked : g.toModel.unpack with
  | notANumber =>
      rw [unpacked] at nonneg
      exact nonneg.elim
  | infinity sign =>
      rw [unpacked] at nonneg
      obtain rfl : sign = .positive := nonneg
      exact ⟨_, rfl, by decide⟩
  | zero sign => exact ⟨_, rfl, le_refl _⟩
  | finite sign m e positive =>
      rw [unpacked] at nonneg
      obtain rfl : sign = .positive := nonneg
      refine ⟨_, rfl, ?_⟩
      rw [Prod.Lex.toLex_le_toLex]
      exact Or.inl Int.zero_lt_one

end Float64

end KvIndexer
