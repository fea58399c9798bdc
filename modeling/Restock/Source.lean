import Restock.Demand.Observation
import Restock.Stock

/-!
Where demand history and stock come from.
-/
namespace Restock

/-- What planning reads. A history of `d` days holds what was demanded `d` days ago or later, today
and the days after it included. -/
@[ext]
structure DemandSource (α : Type) [Scalar α] where
  fetchHistory (product location : String) (daysBack : Int) : Planned α (List (Observation α))
  currentStock (product location : String) : Planned α α
  listProducts (location : String) : Planned α (List String)
  stockLevels (location : String) : Planned α (StockLevels α)

end Restock
