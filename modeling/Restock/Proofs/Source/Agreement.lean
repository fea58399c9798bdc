import Restock.Proofs.Source.DemandRows
import Restock.Proofs.Source.Fetch
import Restock.Proofs.Source.StockEntries

/-!
# Two stores of one demand

A database and a store in memory that were given the same demand and the same stock answer alike
(`Database.agrees_with_memory`). The database sums up each day, while the store in memory keeps the
rows of a day apart; this is all that tells their histories from each other.
-/

namespace Restock

open Observation

/-! ## What agrees -/

/-- The histories of a database are those of a store in memory, summed up day by day. Where a history
would start outside the calendar, neither has one. -/
structure Database.SumsUp (db : Database ℝ) (memory : MemoryStore ℝ) : Prop where
  sums : ∀ (today first : Day) (product location : String) (daysBack : Int),
    first.ordinal = today.ordinal - daysBack → ∃ remembered stored,
      (memory.source today).fetchHistory product location daysBack = .ok remembered
        ∧ (db.source today).fetchHistory product location daysBack = .ok stored
        ∧ DailySums (· ∈ remembered.map Observation.day) remembered stored
  outside : ∀ (today : Day) (product location : String) (daysBack : Int),
    (∀ first : Day, first.ordinal ≠ today.ordinal - daysBack) →
      (memory.source today).fetchHistory product location daysBack = .error .calendar
        ∧ (db.source today).fetchHistory product location daysBack = .error .calendar

/-- A database that answers for stock as a store in memory does. -/
def Database.SharesStock (db : Database ℝ) (memory : MemoryStore ℝ) : Prop :=
  ∀ today location, (∀ product, (db.source today).currentStock product location
      = (memory.source today).currentStock product location)
    ∧ ∃ stored remembered, (db.source today).stockLevels location = .ok stored
        ∧ (memory.source today).stockLevels location = .ok remembered
        ∧ ∀ product, stored.get? product = remembered.get? product

/-! ## Histories -/

theorem Ledger.exists_fetchHistory {l : Ledger ℝ} {today first : Day} {daysBack : Int}
    {product location : String} {history : List (Observation ℝ)}
    (hs : historyStart? today daysBack = some first)
    (hp : (l.demandRows product location first).Perm (Observation.rows history)) :
    ∃ stored, (l.source today).fetchHistory product location daysBack = .ok stored
      ∧ DailySums (· ∈ history.map Observation.day) history stored := by
  obtain ⟨stored, ho, hd⟩ := DailySums.exists_dailyTotals Ledger.total_real hp
  exact ⟨stored, (l.fetchHistory_eq hs).trans ho, hd⟩

/-- A remembered history without repeated days is in strict order. -/
theorem MemoryStore.pairwise_since {history : List (Observation ℝ)}
    (hs : (history.map Observation.day).Pairwise (· ≤ ·))
    (hn : (history.map Observation.day).Nodup) (first : Day) :
    ((since first history).map Observation.day).Pairwise (· < ·) := by
  have hlt : (history.map Observation.day).Pairwise (· < ·) :=
    (hs.and hn).imp fun h => Day.lt_of_le_of_ne h.1 h.2
  exact pairwise_days_since hlt first

/-! ## All answers -/

/-- **A database and a store in memory hold the same.** Give a database, in any order and any number
of loads, one movement for each row of demand, of any kind of demand and counted either way, among
any movements of other kinds; and give a store in memory the same rows. Then the histories of the
database are those of memory, summed up by day; they are equal when no product has two rows at one
location on one day. With the entries of one stock map in both, all stock agrees. -/
theorem Database.agrees_with_memory {rows moved : List DemandRow}
    (hq : ∀ r ∈ rows, 0 ≤ r.quantity) (hp : moved.Perm rows)
    {histories : Table (String × String) (List (Day × ℝ))} (hh : DemandRow.HeldBy rows histories)
    {loads : List (Load ℝ)} (hm : List.Forall₂ DemandRow.MovedBy moved
      ((loads.flatMap Load.rows).filter MovementRow.isDemand))
    {db : Database ℝ} (hdb : Database.created.loadAll loads = .ok db) (stock : StockMap ℝ) :
    ∃ memory, MemoryStore.ofRows? histories stock = .ok memory
      ∧ db.SumsUp memory
      ∧ ((rows.map fun r => (r.product, r.location, r.day)).Nodup →
          ∀ today product location daysBack,
            (db.source today).fetchHistory product location daysBack
              = (memory.source today).fetchHistory product location daysBack)
      ∧ ((loads.flatMap Load.entries).Perm (stockEntries (stock.mapValues (Table.mapValues some))) →
          db.SharesStock memory) := by
  obtain ⟨l, hl, hholds⟩ := holds_loadAll hdb
  obtain ⟨tables⟩ := db
  obtain rfl : tables = some l := hl
  have hnonneg : ∀ entry ∈ histories.entries, ∀ pair ∈ entry.2, 0 ≤ pair.2 := by
    rintro ⟨⟨product, location⟩, pairs⟩ he pair hpair
    have hperm := hh product location
    rw [Table.get?_of_mem he] at hperm
    exact DemandRow.nonneg_of_mem_pairsOf hq (hperm.mem_iff.1 hpair)
  obtain ⟨memory, ho, rfl, hmem⟩ := MemoryStore.exists_ofRows? hnonneg stock
  -- the rows that memory gives from a day on are those that the movements give, up to their order
  have hrows (product location : String) (first : Day) :
      (l.demandRows product location first).Perm
        (Observation.rows (MemoryStore.since first (memory.history product location))) := by
    rw [l.demandRows_eq hholds (fun r hr => hq r (hp.mem_iff.1 hr)) hm, MemoryStore.rows_since]
    exact ((DemandRow.pairsOf_perm hp product location).trans
      ((hmem product location).1.trans (hh product location)).symm).filter _
  refine ⟨memory, ho, ⟨?_, ?_⟩, ?_, ?_⟩
  · intro today first product location daysBack hfirst
    have hs := historyStart?_eq_some_iff.2 hfirst
    obtain ⟨stored, hstored, hd⟩ := l.exists_fetchHistory hs (hrows product location first)
    exact ⟨_, stored, memory.fetchHistory_eq hs, hstored, hd⟩
  · intro today product location daysBack hfirst
    have hs := historyStart?_eq_none_iff.2 hfirst
    exact ⟨Store.fetchHistory_of_none (.memory memory) hs,
      Store.fetchHistory_of_none (.database ⟨some l⟩) hs⟩
  · intro hn today product location daysBack
    cases hs : historyStart? today daysBack with
    | none =>
        exact (Store.fetchHistory_of_none (.database ⟨some l⟩) hs).trans
          (Store.fetchHistory_of_none (.memory memory) hs).symm
    | some first =>
        obtain ⟨stored, hstored, hd⟩ := l.exists_fetchHistory hs (hrows product location first)
        have hdays : ((memory.history product location).map Observation.day).Nodup := by
          have hn' := DemandRow.nodup_days_pairsOf hn product location
          have hperm := ((hmem product location).1.trans (hh product location)).map Prod.fst
          have := hperm.nodup_iff.2 hn'
          rwa [Observation.rows, List.map_map] at this
        have hself := DailySums.self
          (MemoryStore.pairwise_since (hmem product location).2 hdays first)
        rw [memory.fetchHistory_eq hs, ← hd.unique hself]
        exact hstored
  · intro hst today location
    have hstock : l.HoldsStock memory.stock := ⟨_, hst, hholds.records⟩
    refine ⟨fun product => ?_, _, _, rfl, rfl, fun product => hstock.get?_levels location product⟩
    exact congrArg Except.ok (hstock.total_unitsOf product location)

/-- Some bolts that leave or enter the depot. -/
def boltsMoved (kind : MovementKind) (quantity : ℝ) (day : Day) : MovementRow ℝ :=
  ⟨none, some "bolt", some "depot", some kind, some quantity, some day, false⟩

/-- Two days that follow each other. -/
def boltDay : Bool → Day
  | false => ⟨8, by omega, by omega⟩
  | true => ⟨9, by omega, by omega⟩

/-- One bolt demanded on each of these days. -/
def boltDemand : List DemandRow :=
  [⟨"bolt", "depot", boltDay false, 1⟩, ⟨"bolt", "depot", boltDay true, 1⟩]

/-- One bolt at the depot. -/
def boltStock : StockMap ℝ :=
  ⟨[("depot", ⟨[("bolt", 1)], List.nodup_singleton _⟩)], List.nodup_singleton _⟩

/-- The demand in two loads, the later day first, with the stock and a purchase among them. -/
def boltLoads : List (Load ℝ) :=
  [.movements [boltsMoved .transferOut 1 (boltDay true),
      boltsMoved (.other "purchase_receipt") 1 (boltDay false)],
    .stock (boltStock.mapValues (Table.mapValues some)),
    .movements [boltsMoved .salesShipment (-1) (boltDay false)]]

/-- The same demand as a history. -/
def boltHistories : Table (String × String) (List (Day × ℝ)) :=
  ⟨[(("bolt", "depot"), [(boltDay false, 1), (boltDay true, 1)])],
    List.nodup_singleton _⟩

theorem boltDemand_heldBy : DemandRow.HeldBy boltDemand boltHistories := by
  intro product location
  by_cases h : product = "bolt" ∧ location = "depot"
  · obtain ⟨rfl, rfl⟩ := h
    simp [DemandRow.pairsOf, boltDemand, boltHistories, Table.get?]
  · have hg : boltHistories.get? (product, location) = none := by
      apply lookup_eq_none
      simpa [boltHistories] using h
    have hp : DemandRow.pairsOf boltDemand product location = [] := by
      have h' : ¬ ("bolt" = product ∧ "depot" = location) := by
        rintro ⟨rfl, rfl⟩
        exact h ⟨rfl, rfl⟩
      simpa [DemandRow.pairsOf, boltDemand] using h'
    rw [hg, hp]
    exact .refl _

/-- The bolts are stored, and both stores answer alike. -/
theorem boltLoads_agree :
    ∃ db memory, Database.created.loadAll boltLoads = .ok db
      ∧ MemoryStore.ofRows? boltHistories boltStock = .ok memory ∧ db.SumsUp memory
      ∧ (∀ today product location daysBack,
          (db.source today).fetchHistory product location daysBack
            = (memory.source today).fetchHistory product location daysBack)
      ∧ db.SharesStock memory := by
  have hcomplete : ∀ row ∈ boltLoads.flatMap Load.rows, row.IsComplete := by
    intro row hr
    obtain ⟨kind, quantity, day, rfl⟩ : ∃ kind quantity day, row = boltsMoved kind quantity day := by
      simp only [boltLoads, List.flatMap_cons, Load.rows, List.flatMap_nil, List.append_nil,
        List.nil_append, List.cons_append, List.mem_cons, List.not_mem_nil, or_false] at hr
      rcases hr with rfl | rfl | rfl <;> exact ⟨_, _, _, rfl⟩
    refine ⟨rfl, rfl, ⟨0, "bolt", "depot", kind, quantity, day⟩, ?_⟩
    exact ⟨fun _ h => absurd h (by simp [boltsMoved]), rfl, rfl, rfl, Ledger.stored?_real _, rfl⟩
  have hmoved : List.Forall₂ DemandRow.MovedBy boltDemand.reverse
      ((boltLoads.flatMap Load.rows).filter MovementRow.isDemand) :=
    .cons ⟨rfl, rfl, ⟨_, rfl, rfl⟩, .inl rfl, rfl⟩
      (.cons ⟨rfl, rfl, ⟨_, rfl, rfl⟩, .inr rfl, rfl⟩ .nil)
  have hq : ∀ r ∈ boltDemand, 0 ≤ r.quantity := by
    simp [boltDemand]
  have hn : (boltDemand.map fun r => (r.product, r.location, r.day)).Nodup := by
    decide
  obtain ⟨db, hdb⟩ := Database.exists_loadAll hcomplete (by decide)
  obtain ⟨memory, ho, hsums, hsame, hstock⟩ := Database.agrees_with_memory hq
    (List.reverse_perm _) boltDemand_heldBy hmoved hdb boltStock
  exact ⟨db, memory, hdb, ho, hsums, hsame hn, hstock (.refl _)⟩

end Restock
