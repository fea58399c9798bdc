import Restock.Proofs.Arithmetic.Floats

/-!
# Whole units of floats

The value that a float is decoded to is the one that its comparisons go by (`Binary64.ofFloat_eq`). So a
float is cut to one whole unit or more exactly when it is at least one
(`Scalar.one_le_truncate_float_iff`).
-/

namespace Restock

open Float.Model Float.Model.UnpackedFloat

namespace Binary64

/-! ## Fields -/

def isNegative : Sign → Bool
  | .negative => true
  | .positive => false

/-- The value of a float by its unpacked fields. -/
def ofUnpacked : UnpackedFloat → Binary64
  | .notANumber => .nan
  | .infinity sign => .infinite (isNegative sign)
  | .zero sign => .finite (isNegative sign) 0 leastExponent
  | .finite sign m e _ => .finite (isNegative sign) m e

theorem toNat_unpackMantissa (b : BitVec 64) :
    (@unpackMantissa .binary64 b).toNat = b.toNat % hiddenBit := rfl

theorem toNat_unpackExponent (b : BitVec 64) :
    (@unpackExponent .binary64 b).toNat = b.toNat / hiddenBit % 2048 := by
  show b.toNat >>> 52 % 2048 = _
  rw [Nat.shiftRight_eq_div_pow]
  rfl

theorem isNegative_unpackSign (b : BitVec 64) :
    isNegative (Sign.ofBitVec (@unpackSign .binary64 b)) = decide (twoTo 63 ≤ b.toNat) := by
  have hb := b.isLt
  have htop : twoTo 63 = 2 ^ 63 := rfl
  have hzero : @unpackSign .binary64 b = 0#1 ↔ b.toNat < twoTo 63 := by
    rw [← BitVec.toNat_inj, htop]
    show b.toNat >>> 63 % 2 = 0 ↔ b.toNat < 2 ^ 63
    rw [Nat.shiftRight_eq_div_pow]
    omega
  unfold Sign.ofBitVec
  split
  · next h => simp [isNegative, Nat.not_le.2 (hzero.1 h)]
  · next h => simp [isNegative, Nat.not_lt.1 (mt hzero.2 h)]

theorem toNat_unpackExponent_eq_max_iff (b : BitVec 64) :
    (@unpackExponent .binary64 b).toNat = 2047 ↔ @unpackExponent .binary64 b = -1#_ := by
  rw [← BitVec.toNat_inj]
  rfl

theorem toNat_unpackExponent_eq_zero_iff (b : BitVec 64) :
    (@unpackExponent .binary64 b).toNat = 0 ↔ @unpackExponent .binary64 b = 0#_ := by
  rw [← BitVec.toNat_inj]
  rfl

theorem toNat_unpackMantissa_eq_zero_iff (b : BitVec 64) :
    (@unpackMantissa .binary64 b).toNat = 0 ↔ @unpackMantissa .binary64 b = 0#_ := by
  rw [← BitVec.toNat_inj]
  rfl

/-- The bit above the fraction is not stored. -/
theorem toNat_append_unpackMantissa (b : BitVec 64) :
    (1#1 ++ @unpackMantissa .binary64 b).toNat
      = hiddenBit + (@unpackMantissa .binary64 b).toNat := by
  rw [BitVec.toNat_append, ← Nat.shiftLeft_add_eq_or_of_lt (BitVec.isLt _)]
  rfl

/-- **Decoding and comparing agree** on what the bits of a float stand for. -/
theorem ofFloat_eq (x : Float) : ofFloat x = ofUnpacked x.toModel.unpack := by
  let b := x.toModel.toBits.toBitVec
  show ofWord b.toNat = ofUnpacked (UnpackedFloat.unpack .binary64 b)
  unfold ofWord
  rw [← toNat_unpackMantissa b, ← toNat_unpackExponent b, ← isNegative_unpackSign b]
  simp only [toNat_unpackExponent_eq_max_iff, toNat_unpackExponent_eq_zero_iff,
    toNat_unpackMantissa_eq_zero_iff]
  -- the cases of `unpack` are those of `ofWord`
  let sign := Sign.ofBitVec (@unpackSign .binary64 b)
  let exponent : Int :=
    ((@unpackExponent .binary64 b).toNat : Int) - ((1023 : Nat) + (52 : Nat) : Int)
  by_cases hmax : @unpackExponent .binary64 b = -1#_
  · have hu : UnpackedFloat.unpack .binary64 b
        = if @unpackMantissa .binary64 b = 0#_ then .infinity sign else .notANumber := if_pos hmax
    rw [if_pos hmax, hu]
    split <;> rfl
  · by_cases hleast : @unpackExponent .binary64 b = 0#_
    · rw [if_neg hmax, if_pos hleast]
      by_cases hzero : @unpackMantissa .binary64 b = 0#_
      · have hu : UnpackedFloat.unpack .binary64 b = .zero sign :=
          (if_neg hmax).trans ((if_pos hleast).trans (dif_pos hzero))
        rw [hu, (toNat_unpackMantissa_eq_zero_iff b).2 hzero]
        rfl
      · obtain ⟨hm, hu⟩ : ∃ hm, UnpackedFloat.unpack .binary64 b
            = .finite sign (@unpackMantissa .binary64 b).toNat (exponent + 1) hm :=
          ⟨_, (if_neg hmax).trans ((if_pos hleast).trans (dif_neg hzero))⟩
        have hexponent : exponent + 1 = leastExponent := by
          show ((@unpackExponent .binary64 b).toNat : Int) - _ + 1 = _
          rw [hleast]
          rfl
        rw [hu, hexponent]
        rfl
    · obtain ⟨hm, hu⟩ : ∃ hm, UnpackedFloat.unpack .binary64 b
          = .finite sign (1#1 ++ @unpackMantissa .binary64 b).toNat exponent hm :=
        ⟨_, (if_neg hmax).trans (if_neg hleast)⟩
      have hexponent : exponent = (@unpackExponent .binary64 b).toNat + leastExponent - 1 := by
        show ((@unpackExponent .binary64 b).toNat : Int) - ((1023 : Nat) + (52 : Nat) : Int)
          = (@unpackExponent .binary64 b).toNat + -1074 - 1
        omega
      rw [if_neg hmax, if_neg hleast, hu, ← hexponent]
      show _ = Binary64.finite _ (1#1 ++ @unpackMantissa .binary64 b).toNat _
      rw [toNat_append_unpackMantissa]

/-! ## Cutting -/

/-- The fields of a finite float: its significand has 53 bits, and all of them unless the exponent is
the least one. -/
theorem bounds_of_unpack {x : Float} {sign : Sign} {m : Nat} {e : Int} {hm : 0 < m}
    (h : x.toModel.unpack = .finite sign m e hm) :
    m < 2 * hiddenBit ∧ (hiddenBit ≤ m ∨ e = leastExponent) := by
  have hx : ofFloat x = .finite (isNegative sign) m e := by
    rw [ofFloat_eq, h]
    rfl
  have hfraction : x.toBits.toNat % hiddenBit < hiddenBit := Nat.mod_lt _ (by decide)
  rw [ofFloat, ofWord] at hx
  split at hx
  · split at hx <;> cases hx
  · split at hx
    · injection hx with _ hm he
      exact ⟨by omega, .inr he.symm⟩
    · injection hx with _ hm he
      exact ⟨by omega, .inl (by omega)⟩

theorem truncate_zero (negative : Bool) (e : Int) : (finite negative 0 e).truncate = 0 := by
  simp [truncate]

/-- The value `m · 2 ^ e` has a whole unit if it is at least `2 ^ 52 · 2 ^ (-52)`, which goes by the
exponent first. -/
theorem one_le_magnitude_iff {m : Nat} {e : Int} (hm : 0 < m) (hlt : m < 2 * hiddenBit)
    (hle : hiddenBit ≤ m ∨ e = leastExponent) :
    1 ≤ (if 0 ≤ e then m * twoTo e.toNat else m / twoTo (-e).toNat)
      ↔ -52 < e ∨ e = -52 ∧ hiddenBit ≤ m := by
  have hbit : hiddenBit = 2 ^ 52 := rfl
  have hleast : leastExponent = -1074 := rfl
  have hpos (n : Nat) : 0 < twoTo n := Nat.two_pow_pos n
  split
  · exact iff_of_true (Nat.mul_pos hm (hpos _)) (.inl (by omega))
  · obtain ⟨k, rfl⟩ : ∃ k : Nat, e = -k := ⟨(-e).toNat, by omega⟩
    have hk : (- -(k : Int)).toNat = k := by omega
    rw [hk, Nat.one_le_div_iff (hpos k)]
    show 2 ^ k ≤ m ↔ _
    rcases Nat.lt_trichotomy k 52 with h | rfl | h
    · have hpow : 2 ^ k ≤ 2 ^ 52 := Nat.pow_le_pow_right (by decide) (Nat.le_of_lt h)
      exact iff_of_true (by omega) (.inl (by omega))
    · omega
    · have hpow : 2 ^ 53 ≤ 2 ^ k := Nat.pow_le_pow_right (by decide) h
      exact iff_of_false (by omega) (by omega)

end Binary64

theorem Scalar.unpack_one :
    (1 : Float).toModel.unpack = .finite .positive Binary64.hiddenBit (-52) (by decide) := rfl

/-- **A float has a whole unit** exactly when it is at least one. -/
theorem Scalar.one_le_truncate_float_iff {x : Float} (hx : Scalar.isFinite x = true) :
    1 ≤ Scalar.truncate x ↔ 1 ≤ x := by
  have hfinite : x.toModel.unpack.isFinite = true := hx
  show 1 ≤ (Binary64.ofFloat x).truncate
    ↔ decide ((1 : Float).toModel.unpack.le x.toModel.unpack = true) = true
  rw [Binary64.ofFloat_eq, unpack_one]
  cases hu : x.toModel.unpack with
  | notANumber =>
      rw [hu] at hfinite
      cases hfinite
  | infinity sign =>
      rw [hu] at hfinite
      cases hfinite
  | zero sign =>
      have hzero : (Binary64.ofUnpacked (.zero sign)).truncate = 0 := Binary64.truncate_zero _ _
      rw [hzero]
      cases sign <;> decide
  | finite sign m e hm =>
      obtain ⟨hlt, hle⟩ := Binary64.bounds_of_unpack hu
      cases sign with
      | negative =>
          refine iff_of_false ?_ Bool.false_ne_true
          show ¬ 1 ≤ -((if 0 ≤ e then m * twoTo e.toNat else m / twoTo (-e).toNat : Nat) : Int)
          omega
      | positive =>
          show 1 ≤ ((if 0 ≤ e then m * twoTo e.toNat else m / twoTo (-e).toNat : Nat) : Int)
            ↔ decide (((compare (-52) e).then (compare Binary64.hiddenBit m)).isLE = true) = true
          have horder : ((compare (-52) e).then (compare Binary64.hiddenBit m)).isLE = true
              ↔ -52 < e ∨ e = -52 ∧ Binary64.hiddenBit ≤ m := by
            rw [Ordering.isLE_then_iff_or, Int.compare_eq_lt, Int.compare_eq_eq,
              Nat.isLE_compare, eq_comm]
          have hunits := Binary64.one_le_magnitude_iff hm hlt hle
          rw [decide_eq_true_iff, horder, ← hunits]
          omega

end Restock
