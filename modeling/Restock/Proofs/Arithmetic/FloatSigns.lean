import Restock.Proofs.Arithmetic.Floats
import Restock.Statistics.Dispersion

/-!
# Signs of floats

Rounding may lose all of a float but its sign. So sums, products and quotients of floats without a minus
sign have none either, the value that is not a number among them (`Scalar.Unsigned`). Squares have none,
whatever they are squares of, and so no variance of floats is below zero (`Scalar.unsigned_variance`).
-/

namespace Restock.Scalar

open Float.Model Float.Model.UnpackedFloat

/-! ## Unpacked floats -/

/-- No number, or one with a plus sign. -/
def HasPlus : UnpackedFloat → Prop
  | .notANumber => True
  | .infinity sign | .zero sign | .finite sign _ _ _ => sign = .positive

theorem HasPlus.not_below_zero {u : UnpackedFloat} (h : HasPlus u) :
    u.compare (.zero .positive) ≠ some .lt := by
  cases u with
  | notANumber => decide
  | infinity sign =>
      cases h
      decide
  | zero sign => exact fun hlt => by cases hlt
  | finite sign m e _ =>
      cases h
      exact fun hlt => by cases hlt

/-! ## Storing -/

theorem unpackSign_packComponents (sign : Sign) (exponent : BitVec 11) (mantissa : BitVec 52) :
    unpackSign (packComponents .binary64 sign exponent mantissa) = sign.toBitVec := by
  -- the sign is above the 63 bits of the other fields
  show BitVec.extractLsb' 63 1 (sign.toBitVec ++ exponent ++ mantissa) = _
  rw [BitVec.extractLsb'_append_eq_of_le (by decide),
    BitVec.extractLsb'_append_eq_of_le (by decide)]
  cases sign <;> rfl

theorem exists_pack_finite (sign : Sign) (m : Nat) (e : Int) (hm : 0 < m) :
    ∃ exponent mantissa, UnpackedFloat.pack .binary64 (.finite sign m e hm)
      = packComponents .binary64 sign exponent mantissa := by
  by_cases hlarge : 2 ^ Format.binary64.exponentBits ≤ (e + Format.binary64.exponentBias
      + Format.binary64.mantissaBitsWithoutImplicit).toNat + 1
  · exact ⟨_, _, if_pos hlarge⟩
  · by_cases hbits : m.log2 + 1 = Format.binary64.mantissaBits
    · exact ⟨_, _, (if_neg hlarge).trans (if_pos hbits)⟩
    · exact ⟨_, _, (if_neg hlarge).trans (if_neg hbits)⟩

/-- The sign is stored in a bit of its own, whatever becomes of the rest. -/
theorem HasPlus.unpackSign_pack {u : UnpackedFloat} (h : HasPlus u) :
    unpackSign (UnpackedFloat.pack .binary64 u) = 0#1 := by
  cases u with
  | notANumber => exact unpackSign_packComponents .positive _ _
  | infinity sign =>
      cases h
      exact unpackSign_packComponents .positive _ _
  | zero sign =>
      cases h
      exact unpackSign_packComponents .positive _ _
  | finite sign m e hm =>
      cases h
      obtain ⟨exponent, mantissa, hpack⟩ := exists_pack_finite .positive m e hm
      rw [hpack]
      exact unpackSign_packComponents .positive exponent mantissa

theorem hasPlus_unpack {b : BitVec 64} (h : @unpackSign .binary64 b = 0#1) :
    HasPlus (UnpackedFloat.unpack .binary64 b) := by
  let sign := Sign.ofBitVec (@unpackSign .binary64 b)
  have hsign : sign = .positive := if_pos h
  -- whatever the other fields hold, their sign is the one that is stored
  by_cases hmax : @unpackExponent .binary64 b = -1#_
  · by_cases hzero : @unpackMantissa .binary64 b = 0#_
    · have hu : UnpackedFloat.unpack .binary64 b = .infinity sign :=
        (if_pos hmax).trans (if_pos hzero)
      rw [hu]
      exact hsign
    · have hu : UnpackedFloat.unpack .binary64 b = .notANumber := (if_pos hmax).trans (if_neg hzero)
      rw [hu]
      trivial
  · by_cases hleast : @unpackExponent .binary64 b = 0#_
    · by_cases hzero : @unpackMantissa .binary64 b = 0#_
      · have hu : UnpackedFloat.unpack .binary64 b = .zero sign :=
          (if_neg hmax).trans ((if_pos hleast).trans (dif_pos hzero))
        rw [hu]
        exact hsign
      · obtain ⟨m, e, hm, hu⟩ : ∃ m e hm, UnpackedFloat.unpack .binary64 b = .finite sign m e hm :=
          ⟨_, _, _, (if_neg hmax).trans ((if_pos hleast).trans (dif_neg hzero))⟩
        rw [hu]
        exact hsign
    · obtain ⟨m, e, hm, hu⟩ : ∃ m e hm, UnpackedFloat.unpack .binary64 b = .finite sign m e hm :=
        ⟨_, _, _, (if_neg hmax).trans (if_neg hleast)⟩
      rw [hu]
      exact hsign

/-- What has a plus sign still has it as a stored float. -/
theorem HasPlus.stored {u : UnpackedFloat} (h : HasPlus u) :
    HasPlus (UnpackedFloat.unpack .binary64 (UnpackedFloat.pack .binary64 u)) :=
  hasPlus_unpack h.unpackSign_pack

/-! ## Operations -/

theorem hasPlus_dite {c : Prop} [Decidable c] {u : c → UnpackedFloat} {v : ¬ c → UnpackedFloat}
    (hu : ∀ h, HasPlus (u h)) (hv : ∀ h, HasPlus (v h)) : HasPlus (dite c u v) := by
  split
  · next h => exact hu h
  · next h => exact hv h

theorem hasPlus_roundWithAccuracy (m : Nat) (e : Int) (accuracy : Accuracy) :
    HasPlus (roundWithAccuracy .binary64 .positive m e accuracy) :=
  hasPlus_dite (fun _ => rfl) fun _ => rfl

theorem hasPlus_normalize {m : Int} (hm : 0 ≤ m) (e : Int) :
    HasPlus (UnpackedFloat.normalize .binary64 m e .positive) := by
  unfold UnpackedFloat.normalize
  split
  · next h => exact absurd (Int.compare_eq_lt.1 h) (Int.not_lt.2 hm)
  · rfl
  · exact hasPlus_roundWithAccuracy _ _ _

-- Only what comes of two finite floats is rounded. Any other pair gives one of the two, an infinity, a
-- zero or no number.

theorem HasPlus.add {u v : UnpackedFloat} (hu : HasPlus u) (hv : HasPlus v) :
    HasPlus (UnpackedFloat.add .binary64 u v) := by
  cases u <;> cases v <;> cases hu <;> cases hv
  case finite.finite => exact hasPlus_normalize (Int.natCast_nonneg _) _
  all_goals trivial

theorem HasPlus.mul {u v : UnpackedFloat} (hu : HasPlus u) (hv : HasPlus v) :
    HasPlus (UnpackedFloat.mul .binary64 u v) := by
  cases u <;> cases v <;> cases hu <;> cases hv
  case finite.finite => exact hasPlus_roundWithAccuracy _ _ _
  all_goals trivial

theorem HasPlus.div {u v : UnpackedFloat} (hu : HasPlus u) (hv : HasPlus v) :
    HasPlus (UnpackedFloat.div .binary64 u v) := by
  cases u <;> cases v <;> cases hu <;> cases hv
  case finite.finite => exact hasPlus_roundWithAccuracy _ _ _
  all_goals trivial

theorem hasPlus_ofScientific (m : Nat) (e : Int) :
    HasPlus (UnpackedFloat.ofScientific .binary64 m e) := by
  refine hasPlus_dite (fun _ => rfl) fun _ => ?_
  refine iteInduction (motive := HasPlus) (fun _ => rfl) fun _ => ?_
  refine iteInduction (motive := HasPlus) (fun _ => rfl) fun _ => ?_
  refine iteInduction (motive := HasPlus) (fun _ => HasPlus.mul ?_ ?_) fun _ => HasPlus.div ?_ ?_
  all_goals rfl

/-- A square has a plus sign, whatever it is a square of. -/
theorem hasPlus_mul_self (u : UnpackedFloat) : HasPlus (UnpackedFloat.mul .binary64 u u) := by
  have hsign (sign : Sign) : sign * sign = .positive := by
    cases sign <;> rfl
  cases u with
  | notANumber => trivial
  | infinity sign => exact hsign sign
  | zero sign => exact hsign sign
  | finite sign m e _ =>
      show HasPlus (roundWithAccuracy .binary64 (sign * sign) (m * m) (e + e) .exact)
      rw [hsign]
      exact hasPlus_roundWithAccuracy _ _ _

/-! ## Floats -/

/-- A float without a minus sign, or no number. -/
def Unsigned (x : Float) : Prop := HasPlus x.toModel.unpack

variable {x y : Float}

theorem Unsigned.not_neg (h : Unsigned x) : ¬ x < 0 := by
  rw [lt_float_iff, unpack_zero]
  exact h.not_below_zero

theorem Unsigned.add (hx : Unsigned x) (hy : Unsigned y) : Unsigned (x + y) :=
  (HasPlus.add hx hy).stored

theorem Unsigned.mul (hx : Unsigned x) (hy : Unsigned y) : Unsigned (x * y) :=
  (HasPlus.mul hx hy).stored

theorem Unsigned.div (hx : Unsigned x) (hy : Unsigned y) : Unsigned (x / y) :=
  (HasPlus.div hx hy).stored

theorem unsigned_mul_self (x : Float) : Unsigned (x * x) :=
  (hasPlus_mul_self x.toModel.unpack).stored

theorem unsigned_zero : Unsigned 0 := rfl

/-- A count is rounded to a float without a minus sign, however large it is. -/
theorem unsigned_ofScientific (n : Nat) : Unsigned (Float.ofScientific n false 0) := by
  unfold Float.ofScientific
  split
  · have hcount : Unsigned n.toUInt64.toFloat := (hasPlus_normalize (Int.natCast_nonneg _) 0).stored
    have hone : Unsigned (Float.ofBits 0x3FF0000000000000) := rfl
    exact hcount.mul hone
  · exact (hasPlus_ofScientific n 0).stored

theorem unsigned_ofNat (n : Nat) : Unsigned (Scalar.ofNat n) := by
  show Unsigned (floatOfDecimal false n 0)
  unfold floatOfDecimal
  rw [if_neg Bool.false_ne_true]
  have hinfinity : Unsigned (1 / 0) := rfl
  split
  · exact unsigned_zero
  · split
    · exact hinfinity
    · split
      · exact unsigned_zero
      · exact unsigned_ofScientific n

theorem unsigned_ofInt (n : Nat) : Unsigned (Scalar.ofInt n) := by
  have hsign : decide ((n : Int) < 0) = false := decide_eq_false (Int.not_lt.2 (Int.natCast_nonneg n))
  show Unsigned (Scalar.ofDecimal (decide ((n : Int) < 0)) n 0)
  rw [hsign]
  exact unsigned_ofNat n

/-- **No variance of floats is below zero**, whatever rounding does to it. -/
theorem unsigned_variance (xs : List Float) : Unsigned (Statistics.variance xs) := by
  unfold Statistics.variance
  split
  · exact unsigned_zero
  · have hsquares : ∀ d ∈ Statistics.squaredDeviations (mean xs) xs, Unsigned d := by
      intro d hd
      obtain ⟨x, _, rfl⟩ := List.mem_map.1 hd
      exact unsigned_mul_self _
    have hsum : Unsigned (blockSum (Statistics.squaredDeviations (mean xs) xs)) :=
      blockSum_induction (P := Unsigned) Unsigned.add unsigned_zero hsquares
    exact hsum.div (unsigned_ofNat _)

end Restock.Scalar
