import Restock.Decimal.Binary64

/-!
The shortest decimal text of a float: the fewest digits that read back as the same float, and of
those the nearest to its exact value.
-/
namespace Restock.Decimal

/-- A positive decimal number `digits · 10 ^ exponent`. -/
structure Digits where
  digits : Nat
  exponent : Int

/-- The numbers that read back as one float: those between the midpoints to its neighbours. The
midpoints belong to it when its significand is even. -/
structure Cell where
  value : Quotient
  low : Quotient
  high : Quotient
  closed : Bool

/-- The cell of `m · 2 ^ q`. Below a power of two the neighbours are twice as close. -/
def Cell.ofBinary (m : Nat) (q : Int) : Cell where
  value := .ofBinary (4 * m) (q - 2)
  low :=
    if m = Binary64.hiddenBit ∧ Binary64.leastExponent < q then .ofBinary (4 * m - 1) (q - 2)
    else .ofBinary (4 * m - 2) (q - 2)
  high := .ofBinary (4 * m + 2) (q - 2)
  closed := m % 2 = 0

/-- Whether a quotient reads back as the float of the cell. -/
def Cell.holds (c : Cell) (r : Quotient) : Bool :=
  if c.closed then c.low.le r && r.le c.high else !(r.le c.low) && !(c.high.le r)

/-- The nearest point of the grid of step `10 ^ k` that lies in the cell, if any does. Only the two
neighbours of the value have to be tried. -/
def Cell.onGrid? (c : Cell) (k : Int) : Option Digits :=
  let below := (c.value.shift (-k)).floor
  let nearest := (c.value.shift (-k)).round
  let other := if nearest = below then below + 1 else below
  let point (n : Nat) : Quotient := (Quotient.mk n 1).shift k
  if c.holds (point nearest) then some ⟨nearest, k⟩
  else if c.holds (point other) then some ⟨other, k⟩
  else none

/-- Seventeen digits always suffice. -/
def mostDigits : Nat := 17

/-- The shortest digits of `m · 2 ^ q` for a positive `m`. -/
def shortest (m : Nat) (q : Int) : Digits :=
  let c := Cell.ofBinary m q
  let e := c.value.magnitude
  let found := (List.range mostDigits).findSome? fun (n : Nat) => c.onGrid? (e - n)
  found.getD ⟨(c.value.shift (mostDigits - 1 - e)).round, e - (mostDigits - 1)⟩

/-- Digits without the zeros at their end. -/
def Digits.trim (d : Digits) : Digits :=
  let text := (Nat.toDigits 10 d.digits).reverse
  let zeros := (text.takeWhile (· == '0')).length
  ⟨d.digits / tenTo zeros, d.exponent + zeros⟩

/-- How a float is written: from which power of ten on, and below which, with an exponent. -/
structure NumberStyle where
  leastPositional : Int
  leastScientific : Int
  exponentWidth : Nat

/-- Numbers in messages are positional from `10 ^ -4` up to `10 ^ 16`; an exponent has a sign and
two digits at least. -/
def messageStyle : NumberStyle := ⟨-4, 16, 2⟩

def zeros (n : Nat) : String := String.ofList (List.replicate n '0')

/-- A natural number with zeros in front up to a width. -/
def padded (width n : Nat) : String :=
  let text := toString n
  zeros (width - text.length) ++ text

/-- An exponent with its sign. -/
def exponentText (width : Nat) (e : Int) : String :=
  (if e < 0 then "e-" else "e+") ++ padded width e.natAbs

/-- Writes a positive decimal number. A positional integer keeps one zero after its point. -/
def Digits.text (style : NumberStyle) (d : Digits) : String :=
  let ds := toString d.digits
  let e : Int := d.exponent + (ds.length - 1 : Nat)
  if e < style.leastPositional ∨ style.leastScientific ≤ e then
    let fraction := String.ofList (ds.toList.drop 1)
    String.ofList (ds.toList.take 1) ++ (if fraction.isEmpty then "" else "." ++ fraction)
      ++ exponentText style.exponentWidth e
  else if e < 0 then "0." ++ zeros (-e - 1).toNat ++ ds
  else if 0 ≤ d.exponent then ds ++ zeros d.exponent.toNat ++ ".0"
  else
    let whole := e.toNat + 1
    String.ofList (ds.toList.take whole) ++ "." ++ String.ofList (ds.toList.drop whole)

def infinityText (negative : Bool) : String := if negative then "-inf" else "inf"

/-- The shortest text of a float. -/
def shortestText (x : Float) : String :=
  match Binary64.ofFloat x with
  | .nan => "nan"
  | .infinite negative => infinityText negative
  | .finite negative m q =>
    (if negative then "-" else "")
      ++ (if m = 0 then "0.0" else (shortest m q).trim.text messageStyle)

end Restock.Decimal
