/-!
The exact value of a 64-bit float: `m · 2 ^ q` with its sign, an infinity, or no number at all.
All number text is made from this value in integer arithmetic.
-/
namespace Restock

def twoTo (n : Nat) : Nat := Nat.pow 2 n

def tenTo (n : Nat) : Nat := Nat.pow 10 n

/-- What the 64 bits of a float stand for. -/
inductive Binary64 where
  | nan
  | infinite (negative : Bool)
  /-- The value `significand · 2 ^ exponent`, negated when `negative` holds. -/
  | finite (negative : Bool) (significand : Nat) (exponent : Int)
deriving DecidableEq, Repr

namespace Binary64

/-- The bit above the fraction of a number that is not subnormal. -/
def hiddenBit : Nat := twoTo 52

/-- The exponent of the subnormal numbers, the least there is. -/
def leastExponent : Int := -1074

/-- Splits a word into sign, exponent and fraction. -/
def ofWord (w : Nat) : Binary64 :=
  let negative := decide (twoTo 63 ≤ w)
  let biased := w / hiddenBit % 2048
  let fraction := w % hiddenBit
  if biased = 2047 then
    if fraction = 0 then .infinite negative else .nan
  else if biased = 0 then .finite negative fraction leastExponent
  else .finite negative (hiddenBit + fraction) (biased + leastExponent - 1)

def ofFloat (x : Float) : Binary64 := ofWord x.toBits.toNat

/-- The integer part, rounded toward zero; zero for what is not finite. -/
def truncate : Binary64 → Int
  | .finite negative m q =>
    let magnitude := if 0 ≤ q then m * twoTo q.toNat else m / twoTo (-q).toNat
    if negative then -(magnitude : Int) else magnitude
  | _ => 0

end Binary64

/-- A number as the quotient of two natural numbers. -/
structure Quotient where
  numerator : Nat
  denominator : Nat

namespace Quotient

/-- The quotient `m · 2 ^ q`. -/
def ofBinary (m : Nat) (q : Int) : Quotient :=
  if 0 ≤ q then ⟨m * twoTo q.toNat, 1⟩ else ⟨m, twoTo (-q).toNat⟩

/-- The quotient times `10 ^ k`. -/
def shift (r : Quotient) (k : Int) : Quotient :=
  if 0 ≤ k then ⟨r.numerator * tenTo k.toNat, r.denominator⟩
  else ⟨r.numerator, r.denominator * tenTo (-k).toNat⟩

def floor (r : Quotient) : Nat := r.numerator / r.denominator

/-- Compares by cross multiplication. -/
def le (r s : Quotient) : Bool := decide (r.numerator * s.denominator ≤ s.numerator * r.denominator)

/-- The nearest natural number; a half goes to the even neighbour. -/
def round (r : Quotient) : Nat :=
  let n := r.floor
  let twice := 2 * (r.numerator % r.denominator)
  if twice < r.denominator then n
  else if r.denominator < twice then n + 1
  else n + n % 2

/-- How many decimal digits a natural number has; zero has one. -/
def digitCount (n : Nat) : Nat := (Nat.toDigits 10 n).length

/-- The exponent `e` with `10 ^ e ≤ r < 10 ^ (e + 1)`, for a positive quotient. Counting the digits
of both parts leaves two candidates. -/
def magnitude (r : Quotient) : Int :=
  let e : Int := digitCount r.numerator - digitCount r.denominator
  if (Quotient.shift ⟨1, 1⟩ e).le r then e else e - 1

end Quotient

end Restock
