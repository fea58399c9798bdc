import Restock.Calendar.Lookback
import Restock.Demand.Daily
import Restock.Source

/-!
A source kept as two tables: stock movements and stock records, each row with an id of its own. Rows
are loaded in batches, and a batch is stored as a whole or not at all. Demand is what three kinds of
movement took away.
-/
namespace Restock
variable {α : Type} [Scalar α]

/-- What a movement did. -/
inductive MovementKind where
  | salesShipment
  | transferOut
  | productionConsumption
  | other (name : String)
deriving DecidableEq

namespace MovementKind

/-- The kind that a word names. -/
def ofName (name : String) : MovementKind :=
  if name = "sales_shipment" then .salesShipment
  else if name = "transfer_out" then .transferOut
  else if name = "production_consumption" then .productionConsumption
  else .other name

def isDemand : MovementKind → Bool
  | .other _ => false
  | _ => true

end MovementKind

structure Movement (α : Type) where
  id : Int
  product : String
  location : String
  kind : MovementKind
  quantity : α
  day : Day

/-- A stored stock record; its units may be unknown. -/
structure StockRecord (α : Type) where
  id : Int
  product : String
  location : String
  units : Option α

/-- A movement as it is handed in: any of its columns may be missing, and others may be given that
no movement has. -/
structure MovementRow (α : Type) where
  id : Option Int
  product : Option String
  location : Option String
  kind : Option MovementKind
  quantity : Option α
  day : Option Day
  hasUnknownColumn : Bool

/-- Why a batch was not stored. -/
inductive LoadError where
  | noTables
  | unknownColumn
  /-- A required column is missing, or an id is taken. -/
  | integrity
  /-- An id that does not fit into 64 bits. -/
  | idTooLarge
deriving DecidableEq

/-- The entries of a stock map, location by location: location, product and units. -/
def stockEntries {β : Type} (stock : Table String (Table String β)) :
    List (String × String × β) :=
  stock.entries.flatMap fun (location, levels) =>
    levels.entries.map fun (product, units) => (location, product, units)

structure Ledger (α : Type) where
  movements : List (Movement α)
  records : List (StockRecord α)

namespace Ledger

def empty : Ledger α := ⟨[], []⟩

def lastId : Int := 9223372036854775807

/-- An id that is free: from the middle of the positive ids downward. -/
def freeId (ids : List Int) : Int :=
  let candidates := (List.range (ids.length + 1)).map fun (k : Nat) => 4611686018427387904 - (k : Int)
  (candidates.find? fun id => !ids.contains id).getD 0

/-- The id for a row that brings none: the one after the largest id of the table, and 1 in an empty
table. Once the last id is taken it is any free one; no read tells which. -/
def nextId : List Int → Int
  | [] => 1
  | id :: ids =>
    let largest := ids.foldl max id
    if largest < lastId then largest + 1 else freeId (id :: ids)

/-- The value of a required column. A value that is not a number counts as missing. -/
def stored? (quantity : Option α) : Option α := quantity.filter fun q => !Scalar.isNaN q

/-- The movement of a row, if all its columns are there. -/
def movement? (id : Int) (row : MovementRow α) : Option (Movement α) := do
  return ⟨id, ← row.product, ← row.location, ← row.kind, ← stored? row.quantity, ← row.day⟩

/-- Whether an id lies in the range of 64 bits. -/
def idFits (id : Int) : Bool := decide (-lastId - 1 ≤ id ∧ id ≤ lastId)

def addMovement (movements : List (Movement α)) (row : MovementRow α) :
    Except LoadError (List (Movement α)) :=
  let ids := movements.map Movement.id
  let id := row.id.getD (nextId ids)
  if !idFits id then .error .idTooLarge
  else
    match movement? id row with
    | none => .error .integrity
    | some m => if ids.contains id then .error .integrity else .ok (movements ++ [m])

/-- Stores a batch of movements. -/
def loadMovements (l : Ledger α) (rows : List (MovementRow α)) : Except LoadError (Ledger α) :=
  if rows.any MovementRow.hasUnknownColumn then .error .unknownColumn
  else do return { l with movements := ← rows.foldlM addMovement l.movements }

def addRecord (records : List (StockRecord α)) (location product : String) (units : Option α) :
    List (StockRecord α) :=
  records ++ [⟨nextId (records.map StockRecord.id), product, location, stored? units⟩]

/-- Stores one record for each entry of a stock map. -/
def loadStock (l : Ledger α) (stock : Table String (Table String (Option α))) : Ledger α :=
  { l with
    records := (stockEntries stock).foldl
      (fun records (location, product, units) => addRecord records location product units)
      l.records }

/-- A sum of stored numbers; zero when it is not a number. -/
def total (xs : List α) : α :=
  let s := Scalar.sum xs
  if Scalar.isNaN s then 0 else s

/-- The demand rows of a product at a location from a day on. -/
def demandRows (l : Ledger α) (product location : String) (start : Day) : List (Day × α) :=
  (l.movements.filter fun m =>
    m.product = product && m.location = location && m.kind.isDemand && decide (start ≤ m.day)).map
    fun m => (m.day, Scalar.abs m.quantity)

/-- The known units of a product at a location, record by record. -/
def unitsOf (l : Ledger α) (product location : String) : List α :=
  (l.records.filter fun r => r.product = product && r.location = location).filterMap
    StockRecord.units

/-- The products with a stock record at a location. -/
def stocked (l : Ledger α) (location : String) : List String :=
  (l.records.filter fun r => r.location = location).map StockRecord.product

/-- The products with a movement of any kind at a location. -/
def moved (l : Ledger α) (location : String) : List String :=
  (l.movements.filter fun m => m.location = location).map Movement.product

/-- The stock of each product with a record at a location, in the order of the products. -/
def levels (l : Ledger α) (location : String) : StockLevels α :=
  .ofList ((sortStrings (distinct (l.stocked location))).map fun product =>
    (product, total (l.unitsOf product location)))

def source (l : Ledger α) (today : Day) : DemandSource α where
  fetchHistory product location daysBack := do
    let start ← inCalendar (historyStart? today daysBack)
    Observation.ofPairs? (dailyTotals total (l.demandRows product location start))
  currentStock product location := .ok (total (l.unitsOf product location))
  listProducts location :=
    .ok (sortStrings (distinct (l.stocked location ++ l.moved location)))
  stockLevels location := .ok (l.levels location)

end Ledger
end Restock
