import Restock.Numeral
import Restock.Scalar

/-!
From written numbers to numbers of a system.
-/
namespace Restock.Scalar
variable {α : Type} [Scalar α]

/-- The number that a numeral denotes, in a system that has it. -/
def ofNumeral? : Numeral → Option α
  | .nan => nan?
  | .infinite negative => infinity? negative
  | .decimal negative digits exponent => some (ofDecimal negative digits exponent)

end Restock.Scalar
