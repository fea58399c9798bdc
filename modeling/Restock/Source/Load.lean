import Restock.Source.Database

/-!
What is loaded into a database: a batch of movements or a stock map at a time.
-/
namespace Restock
variable {α : Type}

/-- What is loaded at a time. -/
inductive Load (α : Type) where
  | movements (rows : List (MovementRow α))
  | stock (levels : Table String (Table String (Option α)))

namespace Load

/-- The movements of a load. -/
def rows : Load α → List (MovementRow α)
  | movements rows => rows
  | stock _ => []

/-- The stock entries of a load. -/
def entries : Load α → List (String × String × Option α)
  | movements _ => []
  | stock levels => stockEntries levels

/-- How many rows a load has for the tables. -/
def size (load : Load α) : Nat := load.rows.length + load.entries.length

end Load

namespace Database
variable [Scalar α]

/-- Stores a load. -/
def load (d : Database α) : Load α → Except LoadError (Database α)
  | .movements rows => d.loadMovements rows
  | .stock levels => d.loadStock levels

/-- Stores one load after the other, as long as none fails. -/
def loadAll (d : Database α) (loads : List (Load α)) : Except LoadError (Database α) :=
  loads.foldlM load d

end Database
end Restock
