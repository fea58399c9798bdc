import Restock.Calendar.Instant
import Restock.Policy
import Restock.Scalar.Sum
import Restock.Stock

/-!
Moving stock between locations.

A product is moved from a location with a surplus of it to one with a deficit. One pass over the
locations enters each of them in an index by product: those in surplus and those in deficit.
`Proposal.ofStock` matches the two lists of each product and puts the transfers in the order of the
locations; a deficit that no transfer reaches is to be procured.
-/
namespace Restock
variable {α : Type} [Scalar α]

/-- A recommended move of one product between two locations. -/
structure Transfer (α : Type) where
  source : String
  destination : String
  product : String
  quantity : α
  cost : α
  benefit : α
  urgency : String
  reason : String

/-- A recommended purchase for a deficit that no transfer reaches. -/
structure Procurement (α : Type) where
  location : String
  product : String
  quantity : α

/-- What is proposed for a network. -/
structure Proposal (α : Type) where
  madeAt : Instant
  locations : List String
  products : List String
  /-- The share of recorded positions in neither surplus nor deficit. -/
  efficiency : α
  transfers : List (Transfer α)
  procurements : List (Procurement α)
  savings : α

namespace StockMap

/-- Whether a location holds a recorded surplus of a product. -/
def inSurplus (policy : RebalancingPolicy α) (stock : StockMap α) (product location : String) :
    Bool :=
  match stock.recorded? location product with
  | some units => decide (policy.surplusThreshold < units)
  | none => false

/-- Whether a location lacks a product, recorded or not. -/
def inDeficit (policy : RebalancingPolicy α) (stock : StockMap α) (product location : String) :
    Bool :=
  decide (stock.units location product < policy.deficitThreshold)

end StockMap

/-- Lists of locations by product. -/
abbrev LocationIndex := Table String (List String)

namespace LocationIndex

/-- The locations entered under a product, in the order in which they were entered. -/
def locations (index : LocationIndex) (product : String) : List String :=
  (index.get? product).getD []

/-- Enters a location under a product, provided that a condition holds. -/
def enter (index : LocationIndex) (holds : Bool) (product location : String) : LocationIndex :=
  if holds then index.put product (index.locations product ++ [location]) else index

@[simp] theorem locations_empty (product : String) :
    locations (.empty : LocationIndex) product = [] := rfl

theorem locations_enter (index : LocationIndex) (holds : Bool) (product location other : String) :
    (index.enter holds product location).locations other
      = if other = product ∧ holds = true then index.locations product ++ [location]
        else index.locations other := by
  cases holds with
  | false => simp [enter]
  | true =>
      rw [enter, if_pos rfl, locations, Table.get?_put]
      by_cases h : other = product
      · simp [h]
      · simp [h, locations]

end LocationIndex

/-- The locations in surplus and those in deficit, by product. -/
structure Imbalances where
  surplus : LocationIndex
  deficit : LocationIndex

namespace Imbalances

def empty : Imbalances := ⟨.empty, .empty⟩

/-- Enters a location for one product: under surplus, under deficit, under both or under neither. -/
def enter (policy : RebalancingPolicy α) (stock : StockMap α) (location : String)
    (index : Imbalances) (product : String) : Imbalances where
  surplus := index.surplus.enter (stock.inSurplus policy product location) product location
  deficit := index.deficit.enter (stock.inDeficit policy product location) product location

/-- Enters a location for each product. -/
def enterAll (policy : RebalancingPolicy α) (stock : StockMap α) (products : List String)
    (index : Imbalances) (location : String) : Imbalances :=
  products.foldl (enter policy stock location) index

end Imbalances

/-- The index of a network: its locations are visited once each, in the order given. -/
def StockMap.imbalances (policy : RebalancingPolicy α) (stock : StockMap α)
    (locations products : List String) : Imbalances :=
  locations.foldl (Imbalances.enterAll policy stock products) .empty

/-- How much a source gives in one transfer. -/
def RebalancingPolicy.transferQuantity (policy : RebalancingPolicy α) (units : α) : α :=
  Scalar.min (units * policy.transferFraction) policy.maxTransferQuantity

/-- The transfer of a quantity between two locations. -/
def RebalancingPolicy.transfer (policy : RebalancingPolicy α) (stock : StockMap α)
    (source destination product : String) (quantity : α) : Transfer α where
  source := source
  destination := destination
  product := product
  quantity := quantity
  cost := quantity * policy.transferCostPerUnit
  benefit := quantity * policy.benefitPerUnit
  urgency :=
    if stock.units destination product ≤ 0 then policy.emptyDestinationUrgency else policy.urgency
  reason := policy.reason

/-- The transfers of one product out of one location, to each other location in deficit. -/
def RebalancingPolicy.transfersFrom (policy : RebalancingPolicy α) (stock : StockMap α)
    (deficit : List String) (product source : String) : List (Transfer α) :=
  let quantity := policy.transferQuantity (stock.units source product)
  if quantity ≤ policy.minTransferQuantity then []
  else (deficit.filter (· ≠ source)).map fun destination =>
    policy.transfer stock source destination product quantity

/-- The transfers of one product. -/
def RebalancingPolicy.transfersOf (policy : RebalancingPolicy α) (stock : StockMap α)
    (index : Imbalances) (product : String) : List (Transfer α) :=
  (index.surplus.locations product).flatMap
    (policy.transfersFrom stock (index.deficit.locations product) product)

/-- Whether a transfer comes no later than another: by the place of its source in the list of
locations, then by that of its destination, then by product. -/
def Transfer.notAfter (locations : List String) (s t : Transfer α) : Bool :=
  let place (l : String) := locations.idxOf l
  if place s.source ≠ place t.source then decide (place s.source < place t.source)
  else if place s.destination ≠ place t.destination then
    decide (place s.destination < place t.destination)
  else decide (s.product ≤ t.product)

/-- All transfers, in the order of the locations. -/
def RebalancingPolicy.transfers (policy : RebalancingPolicy α) (stock : StockMap α)
    (locations : List String) (index : Imbalances) : List (Transfer α) :=
  ((stock.products locations).flatMap (policy.transfersOf stock index)).mergeSort
    (Transfer.notAfter locations)

/-- Whether a transfer brings a product to a location. -/
def serves (location product : String) (t : Transfer α) : Bool :=
  t.destination == location && t.product == product

/-- The recorded deficits of one location that no transfer reaches, topped up to the threshold. -/
def RebalancingPolicy.procurementsAt (policy : RebalancingPolicy α) (stock : StockMap α)
    (index : Imbalances) (served : List (Transfer α)) (location : String) : List (Procurement α) :=
  let levels := stock.levels location
  let wanted := (sortStrings levels.keys).filter fun product =>
    (index.deficit.locations product).contains location && !served.any (serves location product)
  wanted.map fun product =>
    ⟨location, product, policy.deficitThreshold - stock.units location product⟩

/-- The deficits that no transfer reaches. -/
def RebalancingPolicy.procurements (policy : RebalancingPolicy α) (stock : StockMap α)
    (locations : List String) (index : Imbalances) (served : List (Transfer α)) :
    List (Procurement α) :=
  locations.flatMap (policy.procurementsAt stock index served)

/-- Whether a stock is in neither surplus nor deficit. -/
def RebalancingPolicy.balanced (policy : RebalancingPolicy α) (units : α) : Bool :=
  decide (policy.deficitThreshold ≤ units) && decide (units ≤ policy.surplusThreshold)

/-- The share of positions that are balanced; one when there are none. -/
def RebalancingPolicy.efficiency (policy : RebalancingPolicy α) (positions : List α) : α :=
  if positions.isEmpty then 1
  else Scalar.ofNat (positions.countP policy.balanced) / Scalar.ofNat positions.length

/-- The proposal for a network. Repeated locations count once. -/
def Proposal.ofStock (policy : RebalancingPolicy α) (stock : StockMap α) (locations : List String)
    (now : Instant) : Proposal α :=
  let locations := distinct locations
  let products := stock.products locations
  let index := stock.imbalances policy locations products
  let moves := policy.transfers stock locations index
  { madeAt := now
    locations, products
    efficiency := policy.efficiency (stock.positions locations)
    transfers := moves
    procurements := policy.procurements stock locations index moves
    savings := Scalar.sum (moves.map fun t => t.quantity * policy.savingsPerUnit) }

end Restock
