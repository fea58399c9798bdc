/-!
The numbers that a plan is computed with.

Every formula of the library is written once, over `Scalar`. `Restock.Scalar.Machine` runs the
formulas on 64-bit floats; any other number system with these operations gives them another
reading, and the real numbers give them their textbook meaning.
-/
namespace Restock

/-- The operations that the formulas use. Comparisons are decided, never assumed to be total: a
system may hold a value that is neither below, equal to nor above another. -/
class Scalar (α : Type) extends Zero α, One α, Add α, Sub α, Mul α, Div α, Neg α, LT α, LE α,
    BEq α where
  decLt (a b : α) : Decidable (a < b)
  decLe (a b : α) : Decidable (a ≤ b)
  /-- The number nearest to `digits · 10 ^ exponent`, negated when `negative` holds. -/
  ofDecimal (negative : Bool) (digits : Nat) (exponent : Int) : α
  /-- The value that stands for "not a number", in a system that has one. -/
  nan? : Option α
  /-- The positive or negative infinity, in a system that has them. -/
  infinity? (negative : Bool) : Option α
  sqrt : α → α
  log : α → α
  pow : α → Nat → α
  /-- Neither infinite nor "not a number". -/
  isFinite : α → Bool
  /-- The integer part of a finite number, rounded toward zero. -/
  truncate : α → Int

namespace Scalar
variable {α : Type} [Scalar α]

instance (a b : α) : Decidable (a < b) := Scalar.decLt a b

instance (a b : α) : Decidable (a ≤ b) := Scalar.decLe a b

/-- An integer as a number of the system. -/
def ofInt (n : Int) : α := ofDecimal (decide (n < 0)) n.natAbs 0

/-- A count as a number of the system. -/
def ofNat (n : Nat) : α := ofDecimal false n 0

/-- The decimal fraction `digits / 10 ^ places`. -/
def fraction (digits places : Nat) : α := ofDecimal false digits (-(places : Int))

/-- The larger of two numbers; the first one unless the second is above it. -/
protected def max (a b : α) : α := if a < b then b else a

/-- The smaller of two numbers; the first one unless the second is below it. -/
protected def min (a b : α) : α := if b < a then b else a

def abs (a : α) : α := if a < 0 then -a else a

/-- True of the value that differs from itself. -/
def isNaN (a : α) : Bool := !(a == a)

/-- The result of dividing nothing by nothing: what a mean over no values is. -/
def undefined : α := 0 / 0

end Scalar

/-- A number system that knows the standard normal distribution. -/
class Gaussian (α : Type) extends Scalar α where
  /-- The density at a point. -/
  density : α → α
  /-- The probability of a value above a point. -/
  tail : α → α

end Restock
