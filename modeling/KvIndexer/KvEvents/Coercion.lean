import KvIndexer.KvEvents.Decode
import Mathlib.Tactic.Ring

/-!
Coercion of wire integers.

A number arrives in the integer type the publisher packed it in. `toUint64` casts a
signed type of 8, 16 or 32 bits through the unsigned type of the same width, so the
result is the number modulo `2^width` and not modulo `2^64` (`toUint64_of_intValue`). The
coercion is width-independent exactly on numbers that are not negative and on the 64-bit
types (`widthIndependent_iff`).
-/

namespace KvIndexer.KvEvents

/-- The number an integer value carries. -/
def Any.intValue : Any → Option Int
  | .int8 x => some x.toInt
  | .int16 x => some x.toInt
  | .int32 x => some x.toInt
  | .int64 x => some x.toInt
  | .int x => some x.toInt
  | .uint8 x => some x.toNat
  | .uint16 x => some x.toNat
  | .uint32 x => some x.toNat
  | .uint64 x => some x.toNat
  | _ => none

/-- The bits of an integer type. -/
def Any.width : Any → Nat
  | .int8 _ => 8
  | .int16 _ => 16
  | .int32 _ => 32
  | .uint8 _ => 8
  | .uint16 _ => 16
  | .uint32 _ => 32
  | _ => 64

/-! ### 64-bit residues -/

theorem ofInt_toNat (v : Int) : ((UInt64.ofInt v).toNat : Int) = v % 2 ^ 64 := by
  have nonneg : 0 ≤ v % 2 ^ 64 := Int.emod_nonneg v (by decide)
  have small : v % 2 ^ 64 < 2 ^ 64 := Int.emod_lt_of_pos v (by decide)
  rw [UInt64.ofInt, UInt64.toNat_ofNat', Nat.mod_eq_of_lt (by omega), Int.toNat_of_nonneg nonneg]

/-- Two numbers have one 64-bit residue exactly when they are congruent. -/
theorem ofInt_eq_iff {v w : Int} : UInt64.ofInt v = UInt64.ofInt w ↔ v % 2 ^ 64 = w % 2 ^ 64 := by
  rw [← ofInt_toNat, ← ofInt_toNat, Int.ofNat_inj, UInt64.toNat_inj]

theorem toInt64_ofInt (v : Int) : (UInt64.ofInt v).toInt64.toInt = v.bmod (2 ^ 64) := by
  have bits : (UInt64.ofInt v).toInt64.toInt = ((UInt64.ofInt v).toNat : Int).bmod (2 ^ 64 : Nat) :=
    BitVec.toInt_eq_toNat_bmod _
  rw [bits, ofInt_toNat]
  exact Int.emod_bmod v (2 ^ 64)

/-! ### What the casts compute -/

variable {x : Any} {v : Int}

/-- An integer is the bits of its type, read with or without a sign; the casts keep the
bits and read them without. -/
theorem intValue_bits (carries : x.intValue = some v) :
    ∃ bits : BitVec x.width, (v = bits.toInt ∨ v = bits.toNat) ∧
      toUint64 x = some (UInt64.ofNat bits.toNat) := by
  cases x with
  | int8 y =>
      exact ⟨y.toBitVec, .inl (Option.some.inj carries).symm,
        congrArg some (UInt64.ofNat_uInt8ToNat y.toUInt8).symm⟩
  | int16 y =>
      exact ⟨y.toBitVec, .inl (Option.some.inj carries).symm,
        congrArg some (UInt64.ofNat_uInt16ToNat y.toUInt16).symm⟩
  | int32 y =>
      exact ⟨y.toBitVec, .inl (Option.some.inj carries).symm,
        congrArg some (UInt64.ofNat_uInt32ToNat y.toUInt32).symm⟩
  | int64 y =>
      exact ⟨y.toBitVec, .inl (Option.some.inj carries).symm,
        congrArg some (UInt64.ofNat_toNat (x := y.toUInt64)).symm⟩
  | int y =>
      exact ⟨y.toBitVec, .inl (Option.some.inj carries).symm,
        congrArg some (UInt64.ofNat_toNat (x := y.toUInt64)).symm⟩
  | uint8 y =>
      exact ⟨y.toBitVec, .inr (Option.some.inj carries).symm,
        congrArg some (UInt64.ofNat_uInt8ToNat y).symm⟩
  | uint16 y =>
      exact ⟨y.toBitVec, .inr (Option.some.inj carries).symm,
        congrArg some (UInt64.ofNat_uInt16ToNat y).symm⟩
  | uint32 y =>
      exact ⟨y.toBitVec, .inr (Option.some.inj carries).symm,
        congrArg some (UInt64.ofNat_uInt32ToNat y).symm⟩
  | uint64 y =>
      exact ⟨y.toBitVec, .inr (Option.some.inj carries).symm,
        congrArg some (UInt64.ofNat_toNat (x := y)).symm⟩
  | _ => cases carries

theorem width_cases (x : Any) : x.width = 8 ∨ x.width = 16 ∨ x.width = 32 ∨ x.width = 64 := by
  cases x <;> simp [Any.width]

/-- The coercion of a number is the number modulo the width it was sent in. -/
theorem toUint64_of_intValue (carries : x.intValue = some v) :
    toUint64 x = some (UInt64.ofInt (v % 2 ^ x.width)) := by
  obtain ⟨bits, reading, cast⟩ := intValue_bits carries
  have small : (bits.toNat : Int) < 2 ^ x.width := by exact_mod_cast bits.isLt
  have residue : v % 2 ^ x.width = bits.toNat := by
    rcases reading with rfl | rfl
    · have modulus : ((2 ^ x.width : Nat) : Int) = 2 ^ x.width := by push_cast; rfl
      rw [BitVec.toInt_eq_toNat_bmod, ← modulus, Int.bmod_emod, modulus]
      exact Int.emod_eq_of_lt (Int.natCast_nonneg _) small
    · exact Int.emod_eq_of_lt (Int.natCast_nonneg _) small
  rw [cast, residue]
  refine congrArg some (UInt64.toNat_inj.mp (Int.ofNat_inj.mp ?_))
  rw [ofInt_toNat, UInt64.toNat_ofNat']
  rfl

theorem toInt_of_intValue (carries : x.intValue = some v) :
    toInt x = some ((v % 2 ^ x.width).bmod (2 ^ 64)) := by
  rw [toInt, toUint64_of_intValue carries, Option.map_some, toInt64_ofInt]

/-- A signed type holds half of what its bits count to below zero. -/
theorem intValue_bounds (carries : x.intValue = some v) :
    -2 ^ x.width ≤ 2 * v ∧ v < 2 ^ x.width := by
  obtain ⟨bits, reading, -⟩ := intValue_bits carries
  have small : (bits.toNat : Int) < 2 ^ x.width := by exact_mod_cast bits.isLt
  rcases reading with rfl | rfl
  · have lower := @BitVec.le_two_mul_toInt _ bits
    have upper := @BitVec.two_mul_toInt_lt _ bits
    omega
  · omega

/-! ### Byte strings -/

/-- The number a byte string stands for. -/
def bigEndian (bs : List UInt8) : Nat := bs.foldl (fun n b => n * 256 + b.toNat) 0

theorem foldl_bigEndian (n : Nat) (bs : List UInt8) :
    bs.foldl (fun n b => n * 256 + b.toNat) n = n * 256 ^ bs.length + bigEndian bs := by
  unfold bigEndian
  induction bs generalizing n with
  | nil => simp
  | cons b bs ih =>
      rw [List.foldl_cons, List.foldl_cons, ih, ih (0 * 256 + b.toNat), List.length_cons, pow_succ]
      ring

theorem bigEndian_append (xs ys : List UInt8) :
    bigEndian (xs ++ ys) = bigEndian xs * 256 ^ ys.length + bigEndian ys := by
  rw [bigEndian, List.foldl_append, foldl_bigEndian]
  rfl

theorem toNat_shiftLeft_or (out : UInt64) (b : UInt8) :
    ((out <<< 8) ||| b.toUInt64).toNat = (out.toNat * 256 + b.toNat) % 2 ^ 64 := by
  have byte := b.toNat_lt
  have shifted : (out <<< 8).toNat = (out.toNat % 2 ^ 56) <<< 8 := by
    rw [UInt64.toNat_shiftLeft, Nat.shiftLeft_eq, Nat.shiftLeft_eq]
    simp only [UInt64.reduceToNat, Nat.reduceMod, Nat.reducePow]
    omega
  rw [UInt64.toNat_or, shifted, UInt8.toNat_toUInt64, ← Nat.shiftLeft_add_eq_or_of_lt byte,
    Nat.shiftLeft_eq]
  omega

theorem toNat_foldl_shiftLeft_or (bs : List UInt8) (out : UInt64) (n : Nat)
    (start : out.toNat = n % 2 ^ 64) :
    (bs.foldl (fun (out : UInt64) b => (out <<< 8) ||| b.toUInt64) out).toNat =
      bs.foldl (fun n b => n * 256 + b.toNat) n % 2 ^ 64 := by
  induction bs generalizing out n with
  | nil => exact start
  | cons b bs ih =>
      refine ih _ _ ?_
      rw [toNat_shiftLeft_or, start]
      dsimp only
      omega

/-- A byte string coerces to its number modulo `2^64`. -/
theorem toUint64_bytes (bs : List UInt8) :
    toUint64 (.bytes bs) = some (UInt64.ofInt (bigEndian bs)) := by
  refine congrArg some (UInt64.toNat_inj.mp ?_)
  have tail : bigEndian (bs.drop (bs.length - 8)) % 2 ^ 64 = bigEndian bs % 2 ^ 64 := by
    rcases Nat.le_total bs.length 8 with short | long
    · rw [Nat.sub_eq_zero_of_le short, List.drop_zero]
    · have eight : (bs.drop (bs.length - 8)).length = 8 := by
        rw [List.length_drop]
        omega
      conv_rhs => rw [← List.take_append_drop (bs.length - 8) bs, bigEndian_append, eight]
      omega
  rw [toNat_foldl_shiftLeft_or _ 0 0 rfl]
  refine tail.trans (Int.ofNat_inj.mp ?_)
  rw [ofInt_toNat]
  push_cast
  rfl

/-! ### Width independence -/

/-- The number is an `int64`. -/
def InInt64 (v : Int) : Prop := -2 ^ 63 ≤ v ∧ v < 2 ^ 63

instance : DecidablePred InInt64 := fun v =>
  inferInstanceAs (Decidable (-2 ^ 63 ≤ v ∧ v < 2 ^ 63))

/-- The coercions of `x` are `v`, and no coercion of another `int64` is the same. -/
structure WidthIndependent (x : Any) (v : Int) : Prop where
  bits : toUint64 x = some (UInt64.ofInt v)
  value : toInt x = some v
  apart : ∀ y w, InInt64 w → toUint64 y = some (UInt64.ofInt w) →
    (toUint64 y = toUint64 x ↔ w = v)

/-- Different `int64`s have different residues. -/
theorem ofInt_inj {v w : Int} (fits : InInt64 v) (fits' : InInt64 w) :
    UInt64.ofInt v = UInt64.ofInt w ↔ v = w := by
  rw [ofInt_eq_iff]
  unfold InInt64 at fits fits'
  omega

theorem bits_iff (carries : x.intValue = some v) :
    toUint64 x = some (UInt64.ofInt v) ↔ 0 ≤ v ∨ x.width = 64 := by
  have bounds := intValue_bounds carries
  rw [toUint64_of_intValue carries, Option.some.injEq, ofInt_eq_iff]
  rcases width_cases x with width | width | width | width
  · rw [width] at bounds ⊢
    omega
  · rw [width] at bounds ⊢
    omega
  · rw [width] at bounds ⊢
    omega
  · rw [width]
    omega

/-- The coercions of a number do not depend on its encoding exactly when it is not negative
or was sent in 64 bits. -/
theorem widthIndependent_iff (carries : x.intValue = some v) (fits : InInt64 v) :
    WidthIndependent x v ↔ 0 ≤ v ∨ x.width = 64 := by
  rw [← bits_iff carries]
  constructor
  · exact WidthIndependent.bits
  · intro bits
    refine ⟨bits, ?_, fun y w fits' bits' => ?_⟩
    · rw [toInt, bits, Option.map_some, toInt64_ofInt, Int.bmod_eq_of_le]
      · exact fits.1
      · exact fits.2
    · rw [bits, bits', Option.some.injEq, ofInt_inj fits' fits]

/-- A negative fixed number reads as a positive one. -/
theorem not_widthIndependent :
    ¬ ∀ x v, x.intValue = some v → InInt64 v → WidthIndependent x v := by
  intro always
  have value := (always (.int8 (-1)) (-1) rfl (by decide)).value
  cases value

/-- The same number in 64 bits. -/
theorem widthIndependent_int64 : WidthIndependent (.int64 (-1)) (-1) :=
  (widthIndependent_iff rfl (by decide)).mpr (Or.inr rfl)

end KvIndexer.KvEvents
