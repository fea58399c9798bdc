import Restock.Calendar.Lookback
import Restock.Source

/-!
A source held in memory: a history for each product and location, and a stock map.
-/
namespace Restock
variable {α : Type} [Scalar α]

/-- Histories by product and location, each in the order of its days, and the stock. -/
structure MemoryStore (α : Type) [Scalar α] where
  histories : Table (String × String) (List (Observation α))
  stock : StockMap α

namespace MemoryStore

/-- Puts observations in the order of their days; those of one day keep their order. -/
def sortByDay (history : List (Observation α)) : List (Observation α) :=
  history.mergeSort fun a b => decide (a.day ≤ b.day)

def ofObservations (histories : Table (String × String) (List (Observation α)))
    (stock : StockMap α) : MemoryStore α :=
  ⟨histories.mapValues sortByDay, stock⟩

/-- Observes the rows of every history; the first bad one is reported. -/
def observeAll (rows : List ((String × String) × List (Day × α))) :
    Planned α (List ((String × String) × List (Observation α))) :=
  rows.mapM fun (key, pairs) => do return (key, ← Observation.ofPairs? pairs)

/-- Stores rows of days and quantities. -/
def ofRows? (histories : Table (String × String) (List (Day × α))) (stock : StockMap α) :
    Planned α (MemoryStore α) := do
  return ofObservations (.ofList (← observeAll histories.entries)) stock

/-- The stored history of a product at a location. -/
def history (s : MemoryStore α) (product location : String) : List (Observation α) :=
  (s.histories.get? (product, location)).getD []

/-- The observations from a day on. -/
def since (start : Day) (history : List (Observation α)) : List (Observation α) :=
  history.filter fun o => decide (start ≤ o.day)

/-- The products with a history or a stock record at a location, histories first. -/
def products (s : MemoryStore α) (location : String) : List String :=
  let observed := (s.histories.keys.filter fun key => key.2 = location).map Prod.fst
  distinct (observed ++ (s.stock.levels location).keys)

def source (s : MemoryStore α) (today : Day) : DemandSource α where
  fetchHistory product location daysBack := do
    let start ← inCalendar (historyStart? today daysBack)
    return since start (s.history product location)
  currentStock product location := .ok (s.stock.units location product)
  listProducts location := .ok (s.products location)
  stockLevels location := .ok (s.stock.levels location)

end MemoryStore
end Restock
