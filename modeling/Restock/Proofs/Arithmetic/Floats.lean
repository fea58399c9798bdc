import Restock.Scalar.Machine

/-!
# Floats and zero

Being at least zero and not being below zero are two things for a float: they differ on the value
that is not a number, and on no other (`Scalar.nonneg_float_iff`). Being above zero leaves no such gap.
A product with zero is never above zero, although it need not be zero (`Scalar.not_pos_mul_zero_mul`).
-/

namespace Restock.Scalar

open Float.Model

/-! ## The comparison of unpacked floats -/

theorem unpack_zero : (0 : Float).toModel.unpack = .zero .positive := rfl

theorem compare_self {u : UnpackedFloat} (h : u ≠ .notANumber) : u.compare u = some .eq := by
  cases u with
  | infinity sign => cases sign <;> rfl
  | notANumber => exact absurd rfl h
  | zero sign => rfl
  | finite sign m e _ =>
      have he : (compare e e).then (compare m m) = .eq := by simp
      cases sign with
      | positive => exact congrArg some he
      | negative => exact congrArg (fun o => some o.swap) he

theorem exists_compare {u v : UnpackedFloat} (hu : u ≠ .notANumber) (hv : v ≠ .notANumber) :
    ∃ o, u.compare v = some o := by
  cases u with
  | notANumber => exact absurd rfl hu
  | infinity s =>
      cases v with
      | notANumber => exact absurd rfl hv
      | _ => cases s <;> exact ⟨_, rfl⟩
  | zero s =>
      cases v with
      | notANumber => exact absurd rfl hv
      | zero t => exact ⟨_, rfl⟩
      | infinity t => cases t <;> exact ⟨_, rfl⟩
      | finite t n f _ => cases t <;> exact ⟨_, rfl⟩
  | finite s m e _ =>
      cases v with
      | notANumber => exact absurd rfl hv
      | zero t => cases s <;> exact ⟨_, rfl⟩
      | infinity t => cases t <;> exact ⟨_, rfl⟩
      | finite t n f _ => cases s <;> cases t <;> exact ⟨_, rfl⟩

/-- Only what is not a number does not compare. -/
theorem compare_eq_none_iff {u v : UnpackedFloat} :
    u.compare v = none ↔ u = .notANumber ∨ v = .notANumber := by
  constructor
  · intro h
    refine Classical.byContradiction fun hn => ?_
    obtain ⟨o, ho⟩ := exists_compare (fun hu => hn (.inl hu)) fun hv => hn (.inr hv)
    cases h.symm.trans ho
  · rintro (rfl | rfl)
    · rfl
    · cases u <;> rfl

/-- Compared the other way round, floats come out the other way round. -/
theorem compare_swap (u v : UnpackedFloat) : v.compare u = (u.compare v).map Ordering.swap := by
  cases u with
  | notANumber => cases v <;> rfl
  | infinity s =>
      cases s <;> cases v with
      | infinity t => cases t <;> rfl
      | _ => rfl
  | zero s =>
      cases v with
      | infinity t => cases t <;> rfl
      | finite t n f _ => cases t <;> rfl
      | _ => rfl
  | finite s m e _ =>
      cases v with
      | infinity t => cases t <;> rfl
      | notANumber => rfl
      | zero t => cases s <;> rfl
      | finite t n f _ =>
          have h : (compare f e).then (compare n m)
              = ((compare e f).then (compare m n)).swap := by
            rw [Ordering.swap_then, ← Int.compare_swap, ← Nat.compare_swap]
          cases s <;> cases t
          case positive.positive => exact congrArg some h
          case negative.negative => exact congrArg (fun o => some o.swap) h
          all_goals rfl

/-! ## Floats -/

variable {x y : Float}

theorem lt_float_iff : x < y ↔ x.toModel.unpack.compare y.toModel.unpack = some .lt := by
  show decide ((x.toModel.unpack.compare y.toModel.unpack == some .lt) = true) = true ↔ _
  rw [decide_eq_true_iff, beq_iff_eq]

theorem not_lt_of_lt_float (h : x < y) : ¬ y < x := by
  rw [lt_float_iff, compare_swap, lt_float_iff.1 h]
  decide

theorem isNaN_float : isNaN x = true ↔ x.toModel.unpack = .notANumber := by
  show (!x.toModel.unpack.compare x.toModel.unpack == some .eq) = true ↔ _
  constructor
  · intro hx
    refine Classical.byContradiction fun h => ?_
    rw [compare_self h] at hx
    cases hx
  · intro h
    rw [h]
    rfl

theorem isNaN_float_eq_false : isNaN x = false ↔ x.toModel.unpack ≠ .notANumber := by
  rw [← Bool.not_eq_true, isNaN_float]

/-- A float is at most another when both are numbers and the other is not below it. -/
theorem le_float_iff : x ≤ y ↔ isNaN x = false ∧ isNaN y = false ∧ ¬ y < x := by
  rw [isNaN_float_eq_false, isNaN_float_eq_false, lt_float_iff, compare_swap]
  show decide ((x.toModel.unpack.compare y.toModel.unpack).any Ordering.isLE = true) = true ↔ _
  rw [decide_eq_true_iff, ← and_assoc, ← not_or, ← compare_eq_none_iff]
  cases x.toModel.unpack.compare y.toModel.unpack with
  | none => simp
  | some o => cases o <;> decide

theorem not_le_of_lt_float (h : x < y) : ¬ y ≤ x := fun hle => (le_float_iff.1 hle).2.2 h

/-- A float below another is a number, and so is the other. -/
theorem isNaN_of_lt_float (h : x < y) : isNaN x = false ∧ isNaN y = false := by
  rw [isNaN_float_eq_false, isNaN_float_eq_false, ← not_or, ← compare_eq_none_iff, lt_float_iff.1 h]
  exact Option.some_ne_none _

theorem isNaN_zero : isNaN (0 : Float) = false := rfl

/-- A float is at least zero when it is not below zero and is a number. -/
theorem nonneg_float_iff : 0 ≤ x ↔ ¬ x < 0 ∧ isNaN x = false := by
  rw [le_float_iff, isNaN_zero]
  simp [and_comm]

theorem isNaN_of_nonneg_float (h : 0 ≤ x) : isNaN x = false := (nonneg_float_iff.1 h).2

/-- A float above zero is a number. -/
theorem isNaN_of_pos_float (h : 0 < x) : isNaN x = false := (isNaN_of_lt_float h).2

/-- What is not below zero is at least zero, or no number. -/
theorem nonneg_or_isNaN (h : ¬ x < 0) : 0 ≤ x ∨ isNaN x = true := by
  cases hx : isNaN x with
  | true => exact .inr rfl
  | false => exact .inl (nonneg_float_iff.2 ⟨h, hx⟩)

/-! ## Products with zero -/

/-- What is zero or no number. -/
def Vanishing (u : UnpackedFloat) : Prop := u = .notANumber ∨ ∃ sign, u = .zero sign

/-- It comes out of its bits as it went into them. -/
theorem Vanishing.unpack_pack {u : UnpackedFloat} (h : Vanishing u) :
    Vanishing (UnpackedFloat.unpack .binary64 (UnpackedFloat.pack .binary64 u)) := by
  obtain rfl | ⟨sign, rfl⟩ := h
  · left
    rfl
  · right
    cases sign <;> exact ⟨_, by rfl⟩

/-- Infinities do not make up for a zero: what comes of them is no number. -/
theorem Vanishing.mul {u : UnpackedFloat} (h : Vanishing u) (v : UnpackedFloat) :
    Vanishing (UnpackedFloat.mul .binary64 u v) := by
  obtain rfl | ⟨s, rfl⟩ := h
  · exact .inl rfl
  · cases v with
    | notANumber => exact .inl rfl
    | infinity t => exact .inl rfl
    | zero t => exact .inr ⟨_, rfl⟩
    | finite t m e _ => exact .inr ⟨_, rfl⟩

theorem vanishing_mul_zero (u : UnpackedFloat) (s : UnpackedFloat.Sign) :
    Vanishing (UnpackedFloat.mul .binary64 u (.zero s)) := by
  cases u with
  | notANumber => exact .inl rfl
  | infinity t => exact .inl rfl
  | zero t => exact .inr ⟨_, rfl⟩
  | finite t m e _ => exact .inr ⟨_, rfl⟩

/-- With a factor that is zero, no product is above zero, whatever the other factors are. -/
theorem not_pos_mul_zero_mul (x y : Float) : ¬ 0 < x * 0 * y := by
  have hzero : Vanishing (x * 0).toModel.unpack :=
    (vanishing_mul_zero x.toModel.unpack .positive).unpack_pack
  have hproduct : Vanishing (x * 0 * y).toModel.unpack := (hzero.mul y.toModel.unpack).unpack_pack
  rw [lt_float_iff, unpack_zero]
  obtain h | ⟨sign, h⟩ := hproduct
  · rw [h]
    decide
  · rw [h]
    cases sign <;> decide

end Restock.Scalar
