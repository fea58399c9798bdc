import Restock.Error
import Restock.Scalar.Sum

/-!
Smoothed series: exponential smoothing and the trailing mean of a window.

The mean of the window is kept as a running sum to which one value is added and from which one is
taken at each step, each with its own rounding error. In exact arithmetic it is the mean of the
values in the window.
-/
namespace Restock.Statistics
variable {α : Type} [Scalar α]

/-- The smoothed values after `previous`. -/
def smoothFrom (alpha previous : α) : List α → List α
  | [] => []
  | x :: xs =>
    let next := alpha * x + (1 - alpha) * previous
    next :: smoothFrom alpha next xs

@[simp] theorem length_smoothFrom (alpha previous : α) (xs : List α) :
    (smoothFrom alpha previous xs).length = xs.length := by
  induction xs generalizing previous with
  | nil => rfl
  | cons x xs ih => simp [smoothFrom, ih]

/-- Exponential smoothing, seeded with the first value. -/
def smooth (alpha : α) : List α → List α
  | [] => []
  | x :: xs => x :: smoothFrom alpha x xs

@[simp] theorem length_smooth (alpha : α) (xs : List α) : (smooth alpha xs).length = xs.length := by
  cases xs <;> simp [smooth]

/-- Whether a number has a minus sign: it is below zero, or it is a zero that was reached from
there. -/
def hasMinus (x : α) : Bool := decide (x < 0) || decide (1 / x < 0)

/-- The window of a trailing mean: how many values it holds and how many of them have a minus sign,
their sum with the rounding errors of adding and of taking away, and the last value with the number
of times it came in a row. -/
structure Trailing (α : Type) where
  count : Nat
  negatives : Nat
  total : α
  addError : α
  takeError : α
  last : Option α
  repeats : Nat

namespace Trailing

def empty : Trailing α := ⟨0, 0, 0, 0, 0, none, 0⟩

/-- Adds a value; an absent one leaves the window as it is. -/
def add (w : Trailing α) : Option α → Trailing α
  | none => w
  | some x =>
    let r := Scalar.Running.push ⟨w.total, w.addError⟩ x
    { w with
      count := w.count + 1
      negatives := if hasMinus x then w.negatives + 1 else w.negatives
      total := r.total
      addError := r.error
      last := some x
      repeats := match w.last with
        | some y => if x == y then w.repeats + 1 else 1
        | none => 1 }

/-- Takes away a value that was added before. -/
def take (w : Trailing α) : Option α → Trailing α
  | none => w
  | some x =>
    let r := Scalar.Running.push ⟨w.total, w.takeError⟩ (-x)
    { w with
      count := w.count - 1
      negatives := if hasMinus x then w.negatives - 1 else w.negatives
      total := r.total
      takeError := r.error }

/-- The mean of the window. It is exact when all values are the same, and of one sign when they
are. -/
def mean (w : Trailing α) : α :=
  if w.count = 0 then Scalar.undefined
  else
    let m := w.total / Scalar.ofNat w.count
    if w.count ≤ w.repeats then w.last.getD m
    else if w.negatives = 0 ∧ m < 0 then 0
    else if w.negatives = w.count ∧ 0 < m then 0
    else m

/-- The means of the windows that end at each place; `leaving` holds the value, if any, that drops
out at that place. -/
def means (w : Trailing α) : (leaving entering : List (Option α)) → List α
  | out :: leaving, x :: entering =>
    let w := (w.take out).add x
    w.mean :: w.means leaving entering
  | _, _ => []

end Trailing

/-- The trailing means of windows of a given size. Places before the first full window average what
there is; values that are not finite count as absent; a list shorter than the window is returned
unchanged. A window needs one place at least. -/
def trailingMean (xs : List α) (window : Int) : Planned α (List α) :=
  if xs.length < window then .ok xs
  else if window < 1 then .error (.shape .window)
  else
    let entering := xs.map fun x => if Scalar.isFinite x then some x else none
    let leaving := List.replicate window.toNat none ++ entering
    .ok (Trailing.empty.means leaving entering)

end Restock.Statistics
