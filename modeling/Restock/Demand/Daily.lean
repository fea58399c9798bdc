import Restock.Calendar.Order
import Restock.Demand.Observation
import Restock.Scalar.Sum

/-!
Demand day by day: the total of each day on which anything moved, and the dense series that counts
quiet days as zero.
-/
namespace Restock
variable {α : Type} [Scalar α]

/-- The values of one day, in the order of the rows. -/
def valuesOn {β : Type} (rows : List (Day × β)) (day : Day) : List β :=
  (rows.filter fun row => row.1 = day).map Prod.snd

/-- One row for each day that occurs, in order, with the total of its values. -/
def dailyTotals (total : List α → α) (rows : List (Day × α)) : List (Day × α) :=
  (ascending (rows.map Prod.fst)).map fun day => (day, total (valuesOn rows day))

/-- Fills the gaps of daily totals: every day of their window, and of the lookback when one is
given, is present, with zero where nothing moved. -/
def fillGaps (lookback : Option Window) (totals : List (Day × α)) : List (Day × α) :=
  let days := (lookback.map Window.days).getD [] ++ totals.map Prod.fst
  match days with
  | [] => []
  | d :: ds => (Window.cover d ds).days.map fun day => (day, (totals.lookup day).getD 0)

/-- The demand of each day, with the gaps filled when asked. -/
def dailySeries (history : List (Observation α)) (filled : Bool) (lookback : Option Window) :
    List (Day × α) :=
  match history with
  | [] => []
  | _ =>
    let totals := dailyTotals Scalar.compensatedSum (Observation.rows history)
    if filled then fillGaps lookback totals else totals

/-- A history with its quiet days as observations of zero, when asked; else as it is. -/
def densify (history : List (Observation α)) (filled : Bool) (lookback : Option Window) :
    Planned α (List (Observation α)) :=
  if filled then Observation.ofPairs? (dailySeries history true lookback) else .ok history

end Restock
