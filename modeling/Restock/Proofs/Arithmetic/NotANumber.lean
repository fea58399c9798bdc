import Restock.Proofs.Arithmetic.Floats

/-!
# The value that is not a number

It lies on no side of any float (`Scalar.not_lt_of_isNaN_left`, `Scalar.not_le_of_isNaN_left`), so a test
for being outside a range does not find it. It comes through each operation, where a result of it is it
again (`Scalar.isNaN_of_unpack`), up to a clamp, which ends it (`Scalar.max_zero_of_isNaN`).
-/

namespace Restock.Scalar

open Float.Model

variable {x y : Float}

/-! ## Comparisons -/

/-- A float that is not at most another is above it, unless one of them is no number. -/
theorem not_le_float_iff : ¬ x ≤ y ↔ y < x ∨ isNaN x = true ∨ isNaN y = true := by
  rw [le_float_iff, ← Bool.not_eq_true, ← Bool.not_eq_true]
  constructor
  · intro h
    by_cases hx : isNaN x = true
    · exact .inr (.inl hx)
    · by_cases hy : isNaN y = true
      · exact .inr (.inr hy)
      · exact .inl (Classical.byContradiction fun hlt => h ⟨hx, hy, hlt⟩)
  · rintro (hlt | hx | hy) ⟨hx', hy', hge⟩
    · exact hge hlt
    · exact hx' hx
    · exact hy' hy

theorem not_lt_of_isNaN_left (h : isNaN x = true) : ¬ x < y := by
  intro hlt
  rw [(isNaN_of_lt_float hlt).1] at h
  cases h

theorem not_lt_of_isNaN_right (h : isNaN y = true) : ¬ x < y := by
  intro hlt
  rw [(isNaN_of_lt_float hlt).2] at h
  cases h

theorem not_le_of_isNaN_left (h : isNaN x = true) : ¬ x ≤ y := not_le_float_iff.2 (.inr (.inl h))

/-! ## Operations -/

/-- What an operation makes of a value that is not a number, once it is stored as a float. -/
theorem isNaN_of_unpack {u : UnpackedFloat}
    (hx : x.toModel.unpack = UnpackedFloat.unpack .binary64 (UnpackedFloat.pack .binary64 u))
    (hu : u = .notANumber) : isNaN x = true := by
  rw [isNaN_float, hx, hu]
  rfl

theorem isNaN_neg (h : isNaN x = true) : isNaN (-x) = true := by
  refine isNaN_of_unpack (u := .neg x.toModel.unpack) rfl ?_
  rw [isNaN_float.1 h]
  rfl

theorem isNaN_sqrt (h : isNaN x = true) : isNaN (Scalar.sqrt x) = true := by
  refine isNaN_of_unpack (u := .sqrt .binary64 x.toModel.unpack) rfl ?_
  rw [isNaN_float.1 h]
  rfl

theorem isNaN_sub_right (x : Float) (h : isNaN y = true) : isNaN (x - y) = true := by
  refine isNaN_of_unpack (u := .sub .binary64 x.toModel.unpack y.toModel.unpack) rfl ?_
  rw [isNaN_float.1 h]
  cases x.toModel.unpack <;> rfl

theorem isNaN_mul_left (h : isNaN x = true) (y : Float) : isNaN (x * y) = true := by
  refine isNaN_of_unpack (u := .mul .binary64 x.toModel.unpack y.toModel.unpack) rfl ?_
  rw [isNaN_float.1 h]
  rfl

theorem isNaN_mul_right (x : Float) (h : isNaN y = true) : isNaN (x * y) = true := by
  refine isNaN_of_unpack (u := .mul .binary64 x.toModel.unpack y.toModel.unpack) rfl ?_
  rw [isNaN_float.1 h]
  cases x.toModel.unpack <;> rfl

theorem isNaN_div_left (h : isNaN x = true) (y : Float) : isNaN (x / y) = true := by
  refine isNaN_of_unpack (u := .div .binary64 x.toModel.unpack y.toModel.unpack) rfl ?_
  rw [isNaN_float.1 h]
  rfl

theorem isNaN_div_right (x : Float) (h : isNaN y = true) : isNaN (x / y) = true := by
  refine isNaN_of_unpack (u := .div .binary64 x.toModel.unpack y.toModel.unpack) rfl ?_
  rw [isNaN_float.1 h]
  cases x.toModel.unpack <;> rfl

/-! ## Clamps -/

/-- A clamp at zero takes what is not a number for zero. -/
theorem max_zero_of_isNaN (h : isNaN x = true) : Scalar.max 0 x = 0 :=
  if_neg (not_lt_of_isNaN_right h)

theorem max_zero_nonneg (x : Float) : 0 ≤ Scalar.max 0 x := by
  unfold Scalar.max
  split
  · next h => exact nonneg_float_iff.2 ⟨not_lt_of_lt_float h, isNaN_of_pos_float h⟩
  · decide

end Restock.Scalar
