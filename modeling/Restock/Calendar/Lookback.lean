import Restock.Calendar.Day

/-!
The lookback: the full days before today that a history is taken from.
-/
namespace Restock

/-- A first and a last day, both included. It is empty when the last one comes first. -/
structure Window where
  first : Day
  last : Day
deriving DecidableEq

def Window.days (w : Window) : List Day := w.first.span w.last

/-- The last `daysBack` full days: they end yesterday, and a count below one leaves none. -/
def lookback? (today : Day) (daysBack : Int) : Option Window := do
  let last ← today.shift? (-1)
  let first ← last.shift? (1 - max 0 daysBack)
  some ⟨first, last⟩

/-- The earliest day of a history of `daysBack` days. -/
def historyStart? (today : Day) (daysBack : Int) : Option Day := today.shift? (-daysBack)

theorem historyStart?_eq_some_iff {today first : Day} {daysBack : Int} :
    historyStart? today daysBack = some first ↔ first.ordinal = today.ordinal - daysBack :=
  Day.shift?_eq_some_iff

/-- There is no such day when it lies before the first day of the calendar or after its last. -/
theorem historyStart?_eq_none_iff {today : Day} {daysBack : Int} :
    historyStart? today daysBack = none
      ↔ ∀ first : Day, first.ordinal ≠ today.ordinal - daysBack := by
  rw [Option.eq_none_iff_forall_ne_some]
  exact forall_congr' fun _ => not_congr historyStart?_eq_some_iff

end Restock
