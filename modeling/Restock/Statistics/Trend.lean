import Restock.Scalar.Sum

/-!
The least-squares line through values at the positions 0, 1, 2, ….
-/
namespace Restock.Statistics
variable {α : Type} [Scalar α]

/-- The positions of a list as numbers. -/
def positions (n : Nat) : List α := (List.range n).map Scalar.ofNat

@[simp] theorem length_positions (n : Nat) : (positions n : List α).length = n := by
  simp [positions]

/-- The sum of the products of two lists, place by place. -/
def dot (xs ys : List α) : α := Scalar.sum (List.zipWith (· * ·) xs ys)

/-- The distance from 1 to the next float, below which a denominator counts as zero. -/
def epsilon : α := Scalar.pow (1 / Scalar.ofNat 2) 52

/-- The denominator of the slope through `n` values. -/
def slopeDenominator (n : Nat) : α :=
  let x : List α := positions n
  Scalar.ofNat n * dot x x - Scalar.pow (Scalar.blockSum x) 2

/-- The slope of the least-squares line; zero below two values. -/
def slope (ys : List α) : α :=
  if ys.length < 2 then 0
  else
    let x : List α := positions ys.length
    let d : α := slopeDenominator ys.length
    if Scalar.abs d < epsilon then 0
    else (Scalar.ofNat ys.length * dot x ys - Scalar.blockSum x * Scalar.blockSum ys) / d

end Restock.Statistics
