import Restock.Planner
import Restock.Source.Load
import Restock.Source.Memory

/-!
A store that changes over time together with the clock and the settings that its plans are made
under.
-/
namespace Restock
variable {α : Type} [Scalar α]

/-- Where demand and stock are kept. -/
inductive Store (α : Type) [Scalar α] where
  | memory (store : MemoryStore α)
  | database (db : Database α)

/-- The store as a source on a given day. -/
def Store.source : Store α → Day → DemandSource α
  | .memory store, today => store.source today
  | .database db, today => db.source today

/-- What can be read from a source. -/
inductive Query where
  | history (product location : String) (daysBack : Int)
  | stock (product location : String)
  | products (location : String)
  | levels (location : String)

/-- What a session is asked for. -/
inductive Request (α : Type) where
  | setClock (now : Instant)
  | load (load : Load α)
  | read (query : Query)

/-- What a session replies. -/
inductive Reply (α : Type) [Scalar α] where
  | done
  /-- How many rows were stored. -/
  | stored (count : Nat)
  | refused (error : LoadError)
  | history (answer : Planned α (List (Observation α)))
  | stock (answer : Planned α α)
  | products (answer : Planned α (List String))
  | levels (answer : Planned α (StockLevels α))

/-- What a source answers to a read. -/
def DemandSource.answer (source : DemandSource α) : Query → Reply α
  | .history product location daysBack =>
    .history (source.fetchHistory product location daysBack)
  | .stock product location => .stock (source.currentStock product location)
  | .products location => .products (source.listProducts location)
  | .levels location => .levels (source.stockLevels location)

/-- A store, the settings and the current moment. -/
structure Session (α : Type) [Scalar α] where
  store : Store α
  settings : Settings α
  now : Instant

namespace Session

def planner (s : Session α) : Planner α := ⟨s.store.source s.now.day, s.settings, s.now⟩

/-- Moves the clock of source and planner. -/
def setClock (s : Session α) (now : Instant) : Session α := { s with now }

/-- Stores a load in the database. What fails changes nothing; a memory store takes no loads. -/
def load (s : Session α) (load : Load α) : Except LoadError (Session α) :=
  match s.store with
  | .memory _ => .ok s
  | .database db => do return { s with store := .database (← db.load load) }

/-- Answers a request and moves on. -/
def respond (s : Session α) : Request α → Session α × Reply α
  | .setClock now => (s.setClock now, .done)
  | .load load =>
    match s.load load with
    | .ok next => (next, .stored load.size)
    | .error e => (s, .refused e)
  | .read query => (s, s.planner.source.answer query)

/-- The session after some requests, one after the other. -/
def after (s : Session α) (requests : List (Request α)) : Session α :=
  requests.foldl (fun s request => (s.respond request).1) s

end Session
end Restock
