import Restock.Proofs.Arithmetic.Floats

/-!
# The order of floats

A float that is a number stands somewhere among the others: by its kind first, from the negative infinity to
the positive one, then by its exponent and its mantissa (`Scalar.standing`). Floats that are numbers
compare as their standings do (`Scalar.compare_eq_lt_iff`), so what is at most a float lies below all
that the float lies below (`Scalar.lt_of_le_of_lt_float`).
-/

namespace Restock.Scalar

open Float.Model

/-! ## Standings -/

/-- Where an unpacked float stands: its kind, its exponent and its mantissa, the last two counted
downward below zero. -/
def standing : UnpackedFloat → Int × Int × Int
  | .infinity .negative => (-2, 0, 0)
  | .finite .negative m e _ => (-1, -e, -m)
  | .zero _ | .notANumber => (0, 0, 0)
  | .finite .positive m e _ => (1, e, m)
  | .infinity .positive => (2, 0, 0)

/-- One standing comes before another, by the first place where they differ. -/
def Before (a b : Int × Int × Int) : Prop :=
  a.1 < b.1 ∨ a.1 = b.1 ∧ (a.2.1 < b.2.1 ∨ a.2.1 = b.2.1 ∧ a.2.2 < b.2.2)

theorem Before.of_not {a b c : Int × Int × Int} (hab : ¬ Before b a) (hbc : Before b c) :
    Before a c := by
  unfold Before at *
  omega

theorem not_before_of_lt {a b : Int × Int × Int} (h : b.1 < a.1) : ¬ Before a b := by
  unfold Before
  omega

theorem before_iff_of_kind {k e m f n : Int} : Before (k, e, m) (k, f, n) ↔ e < f ∨ e = f ∧ m < n := by
  simp [Before]

theorem compare_eq_lt_iff {u v : UnpackedFloat} (hu : u ≠ .notANumber) (hv : v ≠ .notANumber) :
    u.compare v = some .lt ↔ Before (standing u) (standing v) := by
  -- floats of different kinds are told apart by these alone
  have hbelow (h : u.compare v = some .lt) (hk : (standing u).1 < (standing v).1) :
      u.compare v = some .lt ↔ Before (standing u) (standing v) := iff_of_true h (.inl hk)
  have habove (h : u.compare v = some .gt) (hk : (standing v).1 < (standing u).1) :
      u.compare v = some .lt ↔ Before (standing u) (standing v) :=
    iff_of_false (fun hlt => by cases h.symm.trans hlt) (not_before_of_lt hk)
  have hequal (h : u.compare v = some .eq) (hs : standing u = standing v) :
      u.compare v = some .lt ↔ Before (standing u) (standing v) := by
    refine iff_of_false (fun hlt => by cases h.symm.trans hlt) ?_
    rw [hs]
    unfold Before
    omega
  cases u with
  | notANumber => exact absurd rfl hu
  | infinity s =>
      cases v with
      | notANumber => exact absurd rfl hv
      | infinity t =>
          cases s <;> cases t
          case negative.positive => exact hbelow rfl (of_decide_eq_true rfl)
          case positive.negative => exact habove rfl (of_decide_eq_true rfl)
          all_goals exact hequal rfl rfl
      | zero t =>
          cases s
          case negative => exact hbelow rfl (of_decide_eq_true rfl)
          case positive => exact habove rfl (of_decide_eq_true rfl)
      | finite t n f _ =>
          cases s <;> cases t
          case negative.negative => exact hbelow rfl (of_decide_eq_true rfl)
          case negative.positive => exact hbelow rfl (of_decide_eq_true rfl)
          all_goals exact habove rfl (of_decide_eq_true rfl)
  | zero s =>
      cases v with
      | notANumber => exact absurd rfl hv
      | zero t => exact hequal rfl rfl
      | infinity t =>
          cases t
          case negative => exact habove rfl (of_decide_eq_true rfl)
          case positive => exact hbelow rfl (of_decide_eq_true rfl)
      | finite t n f _ =>
          cases t
          case negative => exact habove rfl (of_decide_eq_true rfl)
          case positive => exact hbelow rfl (of_decide_eq_true rfl)
  | finite s m e _ =>
      cases v with
      | notANumber => exact absurd rfl hv
      | zero t =>
          cases s
          case negative => exact hbelow rfl (of_decide_eq_true rfl)
          case positive => exact habove rfl (of_decide_eq_true rfl)
      | infinity t =>
          cases s <;> cases t
          case negative.positive => exact hbelow rfl (of_decide_eq_true rfl)
          case positive.positive => exact hbelow rfl (of_decide_eq_true rfl)
          all_goals exact habove rfl (of_decide_eq_true rfl)
      | finite t n f _ =>
          cases s <;> cases t
          case negative.positive => exact hbelow rfl (of_decide_eq_true rfl)
          case positive.negative => exact habove rfl (of_decide_eq_true rfl)
          case positive.positive =>
            show some ((compare e f).then (compare m n)) = some .lt ↔ Before (1, e, m) (1, f, n)
            rw [before_iff_of_kind, Option.some.injEq, Ordering.then_eq_lt, Int.compare_eq_lt,
              Int.compare_eq_eq, Nat.compare_eq_lt]
            omega
          case negative.negative =>
            show some ((compare e f).then (compare m n)).swap = some .lt
              ↔ Before (-1, -e, -m) (-1, -f, -n)
            rw [before_iff_of_kind, Ordering.swap_then, Int.compare_swap, Nat.compare_swap,
              Option.some.injEq, Ordering.then_eq_lt, Int.compare_eq_lt, Int.compare_eq_eq,
              Nat.compare_eq_lt]
            omega

/-! ## Floats -/

variable {x y z : Float}

theorem lt_float_iff_before (hx : isNaN x = false) (hy : isNaN y = false) :
    x < y ↔ Before (standing x.toModel.unpack) (standing y.toModel.unpack) :=
  lt_float_iff.trans (compare_eq_lt_iff (isNaN_float_eq_false.1 hx) (isNaN_float_eq_false.1 hy))

theorem lt_of_le_of_lt_float (hxy : x ≤ y) (hyz : y < z) : x < z := by
  obtain ⟨hx, hy, hyx⟩ := le_float_iff.1 hxy
  obtain ⟨-, hz⟩ := isNaN_of_lt_float hyz
  rw [lt_float_iff_before hy hx] at hyx
  rw [lt_float_iff_before hy hz] at hyz
  exact (lt_float_iff_before hx hz).2 (.of_not hyx hyz)

end Restock.Scalar
