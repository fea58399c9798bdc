import Restock.Error
import Restock.Scalar.Sum

/-!
How far a fitted series is from the values it fits.
-/
namespace Restock.Statistics
variable {α : Type} [Scalar α]

/-- The error of a fit: its root mean square, and the mean absolute percentage over the values that
are not zero, if there are any. -/
structure FitError (α : Type) where
  rmse : α
  mape : Option α

/-- Two lists place by place. A list of one value is spread over the other list; any other
difference in length is an error. -/
def spread (xs ys : List α) : Planned α (List (α × α)) :=
  if xs.length = ys.length then .ok (xs.zip ys)
  else match xs, ys with
    | [x], _ => .ok (ys.map fun y => (x, y))
    | _, [y] => .ok (xs.map fun x => (x, y))
    | _, _ => .error (.shape .lengths)

/-- The root of the mean squared difference. -/
def rootMeanSquare (pairs : List (α × α)) : α :=
  Scalar.sqrt (Scalar.mean (pairs.map fun (x, y) => (x - y) * (x - y)))

/-- The mean absolute difference in percent of the actual value, over pairs whose actual value is
not zero. -/
def meanPercentage (pairs : List (α × α)) : α :=
  Scalar.mean (pairs.map fun (x, y) => Scalar.abs ((x - y) / x)) * Scalar.ofNat 100

/-- The error of predictions against actual values; nothing without actual values. Percentages need
a prediction for each actual value. -/
def fitError (actual predicted : List α) : Planned α (Option (FitError α)) := do
  if actual.isEmpty then return none
  let rmse := rootMeanSquare (← spread actual predicted)
  if actual.any (fun x => !(x == 0)) then
    if actual.length = predicted.length then
      let pairs := (actual.zip predicted).filter fun (x, _) => !(x == 0)
      return some ⟨rmse, some (meanPercentage pairs)⟩
    else throw (.shape .selection)
  else return some ⟨rmse, none⟩

end Restock.Statistics
