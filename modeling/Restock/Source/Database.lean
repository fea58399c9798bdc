import Restock.Settings
import Restock.Source.Ledger

/-!
The database that holds the tables: its address, its connections, and what fails when the tables
were never created or all connections are taken.
-/
namespace Restock
variable {α : Type} [Scalar α]

/-- A database, with its tables once they were created. -/
structure Database (α : Type) where
  tables : Option (Ledger α)

namespace Database

/-- A database whose tables were just created. -/
def created : Database α := ⟨some .empty⟩

/-- Stores a batch of movements. Without rows nothing is written, so no tables are needed. -/
def loadMovements (d : Database α) (rows : List (MovementRow α)) :
    Except LoadError (Database α) :=
  match d.tables with
  | some l => do return ⟨some (← l.loadMovements rows)⟩
  | none =>
    if rows.any MovementRow.hasUnknownColumn then .error .unknownColumn
    else if rows.isEmpty then .ok d
    else .error .noTables

/-- Stores the records of a stock map. -/
def loadStock (d : Database α) (stock : Table String (Table String (Option α))) :
    Except LoadError (Database α) :=
  match d.tables with
  | some l => .ok ⟨some (l.loadStock stock)⟩
  | none =>
    if stock.values.all fun levels => levels.entries.isEmpty then .ok d else .error .noTables

end Database

/-- A source each of whose reads fails. Dates are still checked first. -/
def DemandSource.failing (today : Day) : DemandSource α where
  fetchHistory product location daysBack := do
    let _ ← inCalendar (historyStart? today daysBack)
    throw (.sourceFailure (.history product location))
  currentStock product location := .error (.sourceFailure (.stock product location))
  listProducts location := .error (.sourceFailure (.products location))
  stockLevels location := .error (.sourceFailure (.stockLevels location))

def Database.source (d : Database α) (today : Day) : DemandSource α :=
  match d.tables with
  | some l => l.source today
  | none => .failing today

/-- A pool of connections: so many are kept, and so many more may be opened. -/
structure ConnectionPool where
  size : Int
  overflow : Int

namespace ConnectionPool

/-- The most connections that may be in use; a pool of size zero and an overflow below zero set no
limit. -/
def limit? (p : ConnectionPool) : Option Int :=
  if p.size = 0 ∨ p.overflow < 0 then none else some (p.size + p.overflow)

/-- Whether another connection is to be had while some are held. -/
def hasFree (p : ConnectionPool) (held : Int) : Bool :=
  match p.limit? with
  | none => true
  | some limit => decide (held < limit)

end ConnectionPool

/-- The database as a source while some connections of its pool are held elsewhere. -/
def Database.pooledSource (d : Database α) (pool : ConnectionPool) (held : Int) (today : Day) :
    DemandSource α :=
  if pool.hasFree held then d.source today else .failing today

/-- How connections are kept: one that all share, or a pool. -/
inductive Connections where
  | shared
  | pooled (size : Int)
deriving DecidableEq

/-- Why an address does not lead to a database. -/
inductive AddressError where
  | malformed
  | unreadablePort
  | unknownSystem
  /-- The options of a pool do not fit a database that has no file. -/
  | unsuitableOptions
deriving DecidableEq

/-- An address in its parts. The host includes what stands before an at sign. -/
structure Address where
  system : String
  host : List Char
  port : Option Int
  database : List Char
  query : List Char

/-- A letter, a digit, an underscore or the plus before a driver. -/
def isSystemChar (c : Char) : Bool := c.isAlphanum || c == '_' || c == '+'

/-- Splits `user@host:port`; the user goes with the host. A host in brackets may hold colons, and
nothing after the colon is no port. -/
def readHost? (cs : List Char) : Option (List Char × Option Int) :=
  let place := (cs.reverse.takeWhile (· != '@')).reverse
  let isEnd (c : Char) : Bool := if place.head? = some '[' then c == ']' else c == ':'
  let host := cs.take (cs.length - place.length) ++ place.takeWhile fun c => !isEnd c
  match (place.dropWhile fun c => !isEnd c).dropWhile (· != ':') with
  | ':' :: c :: port =>
    (Numeral.integerOfSetting? (String.ofList (c :: port))).map fun n => (host, some n)
  | _ => some (host, none)

/-- Splits `system://host:port/database?query`. -/
def Address.ofText? (s : String) : Except AddressError Address :=
  let cs := s.toList
  let system := cs.takeWhile isSystemChar
  match system, cs.dropWhile isSystemChar with
  | _ :: _, ':' :: '/' :: '/' :: rest =>
    let path := rest.dropWhile fun c => c != '/' && c != '?'
    match readHost? (rest.takeWhile fun c => c != '/' && c != '?') with
    | some (host, port) =>
      let database := (path.takeWhile (· != '?')).drop 1
      .ok ⟨String.ofList system, host, port, database, (path.dropWhile (· != '?')).drop 1⟩
    | none => .error .unreadablePort
  | _, _ => .error .malformed

/-- The addresses of the database that all connections share. -/
def sharedAddresses : List String := ["sqlite://", "sqlite:///:memory:"]

def knownSystems : List String := ["sqlite", "sqlite+pysqlite"]

/-- Whether an address names a machine; a port of zero does not. -/
def Address.isRemote (a : Address) : Bool := !a.host.isEmpty || a.port.getD 0 != 0

def Address.isFile (a : Address) : Bool :=
  !a.database.isEmpty && a.database != ":memory:".toList
    && !((String.ofList a.query).splitOn "&").contains "mode=memory"

/-- How connections to an address are kept, under some settings. -/
def connections? (s : Settings α) : Except AddressError Connections := do
  let a ← Address.ofText? s.databaseUrl
  if !knownSystems.contains a.system then throw .unknownSystem
  else if sharedAddresses.contains s.databaseUrl then return .shared
  else if a.isRemote then throw .malformed
  else if a.isFile then return .pooled s.poolSize
  else throw .unsuitableOptions

end Restock
