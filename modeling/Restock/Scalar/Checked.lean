import Restock.Error

/-!
Operations that fail where the number system has no meaningful result, instead of returning one.
-/
namespace Restock.Scalar
variable {α : Type} [Scalar α]

/-- The square root of a number that is not negative. -/
def root? (a : α) : Planned α α :=
  if a < 0 then .error (.arithmetic .rootOfNegative) else .ok (sqrt a)

theorem exists_root?_iff {a : α} : (∃ r, root? a = .ok r) ↔ ¬ a < 0 := by
  unfold root?
  by_cases h : a < 0 <;> simp [h]

/-- The quotient, unless the divisor is zero. -/
def quotient? (a b : α) : Planned α α :=
  if b == 0 then .error (.arithmetic .divisionByZero) else .ok (a / b)

/-- The square, unless that of a finite number leaves the finite numbers. -/
def square? (a : α) : Planned α α :=
  let b := pow a 2
  if isFinite a && !isFinite b then .error (.arithmetic .powerTooLarge) else .ok b

/-- The integer part of a finite number. -/
def toInt? (a : α) : Planned α Int :=
  if isFinite a then .ok (truncate a)
  else if isNaN a then .error (.arithmetic .integerOfNaN)
  else .error (.arithmetic .integerOfInfinity)

theorem toInt?_of_isFinite {a : α} (h : isFinite a = true) : toInt? a = .ok (truncate a) :=
  if_pos h

/-- There is an integer part of finite numbers only. -/
theorem toInt?_eq_ok_iff {a : α} {n : Int} :
    toInt? a = .ok n ↔ isFinite a = true ∧ n = truncate a := by
  unfold toInt?
  by_cases h : isFinite a = true
  · simp [h, eq_comm]
  · by_cases hn : isNaN a = true <;> simp [h, hn]

end Restock.Scalar
