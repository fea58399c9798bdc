import Restock.Proofs.Source.Batches

/-!
# Loads

A database is filled by loads of movements and of stock maps. Loads are additive: one after the other
they do what a single load of all their rows and entries would do (`Database.loadAll_eq_ok_iff`). The
tables then hold what was loaded, row by row in the order of the loads (`Database.holds_loadAll`), and
their ids stay distinct (`Ledger.DistinctIds.adds`). Complete rows that leave their ids to the database
are always stored, as long as there are ids left (`Database.exists_loadAll`).
-/

namespace Restock

variable {α : Type} [Scalar α]

/-! ## Adding to tables -/

namespace Ledger

/-- The records of a table, followed by those of some stock entries. -/
def addRecords (records : List (StockRecord α)) (entries : List (String × String × Option α)) :
    List (StockRecord α) :=
  entries.foldl (fun records (location, product, units) => addRecord records location product units)
    records

theorem addRecords_append (records : List (StockRecord α))
    (entries entries' : List (String × String × Option α)) :
    addRecords records (entries ++ entries') = addRecords (addRecords records entries) entries' :=
  List.foldl_append

/-- Each entry becomes a record. -/
theorem exists_addRecords (records : List (StockRecord α))
    (entries : List (String × String × Option α)) :
    ∃ added, addRecords records entries = records ++ added
      ∧ List.Forall₂ StockRecord.OfEntry entries added := by
  induction entries generalizing records with
  | nil => exact ⟨[], (List.append_nil records).symm, .nil⟩
  | cons entry entries ih =>
      obtain ⟨location, product, units⟩ := entry
      obtain ⟨added, ha, hf⟩ := ih (addRecord records location product units)
      let r : StockRecord α :=
        ⟨nextId (records.map StockRecord.id), product, location, stored? units⟩
      refine ⟨r :: added, ha.trans ?_, .cons ⟨rfl, rfl, rfl⟩ hf⟩
      rw [addRecord, List.append_assoc, List.singleton_append]

/-- Tables with some movements and entries added. -/
def plus (l : Ledger α) (added : List (Movement α)) (entries : List (String × String × Option α)) :
    Ledger α :=
  ⟨l.movements ++ added, addRecords l.records entries⟩

/-- What loads of certain rows and entries make of tables. -/
def Adds (l : Ledger α) (rows : List (MovementRow α)) (entries : List (String × String × Option α))
    (l' : Ledger α) : Prop :=
  (∀ row ∈ rows, row.hasUnknownColumn = false)
    ∧ ∃ added, Takes (l.movements.map Movement.id) rows added ∧ l' = l.plus added entries

theorem adds_nil_iff {l l' : Ledger α} {entries : List (String × String × Option α)} :
    l.Adds [] entries l' ↔ l' = { l with records := addRecords l.records entries } := by
  have hp : l.plus [] entries = { l with records := addRecords l.records entries } := by
    rw [plus, List.append_nil]
  constructor
  · rintro ⟨_, added, ha, rfl⟩
    cases ha
    exact hp
  · rintro rfl
    exact ⟨fun _ h => absurd h List.not_mem_nil, [], .nil _, hp.symm⟩

theorem Holds.adds {l l' : Ledger α} {rows added : List (MovementRow α)}
    {entries more : List (String × String × Option α)} (h : l.Holds rows entries)
    (ha : l.Adds added more l') : l'.Holds (rows ++ added) (entries ++ more) := by
  obtain ⟨_, movements, ht, rfl⟩ := ha
  obtain ⟨records, he, hf⟩ := exists_addRecords l.records more
  rw [plus, he]
  exact ⟨List.rel_append h.movements ht.columns, List.rel_append h.records hf⟩

/-- No load takes an id that is taken. -/
theorem DistinctIds.adds {l l' : Ledger α} {rows : List (MovementRow α)}
    {entries : List (String × String × Option α)} (h : l.DistinctIds) (ha : l.Adds rows entries l') :
    l'.DistinctIds := by
  obtain ⟨_, movements, ht, rfl⟩ := ha
  constructor
  · rw [plus, List.map_append]
    exact ht.nodup h.movements
  · have hr := h.records
    show ((addRecords l.records entries).map StockRecord.id).Nodup
    generalize l.records = records at hr
    induction entries generalizing records with
    | nil => exact hr
    | cons entry entries ih =>
        obtain ⟨location, product, units⟩ := entry
        refine ih (addRecord records location product units) ?_
        rw [addRecord, List.map_append]
        exact nodup_append_singleton.2 ⟨nextId_not_mem _, hr⟩

theorem takes_append_iff {ids : List Int} {rows rows' : List (MovementRow α)}
    {added : List (Movement α)} :
    Takes ids (rows ++ rows') added ↔ ∃ first second, added = first ++ second
      ∧ Takes ids rows first ∧ Takes (ids ++ first.map Movement.id) rows' second := by
  induction rows generalizing ids added with
  | nil =>
      constructor
      · intro h
        exact ⟨[], added, rfl, .nil ids, by simpa using h⟩
      · rintro ⟨first, second, rfl, h, h'⟩
        cases h
        simpa using h'
  | cons row rows ih =>
      constructor
      · intro h
        cases h with
        | cons hm hr =>
            obtain ⟨first, second, rfl, h, h'⟩ := ih.1 hr
            refine ⟨_ :: first, second, rfl, .cons hm h, ?_⟩
            rwa [List.map_cons, List.append_cons]
      · rintro ⟨first, second, rfl, h, h'⟩
        cases h with
        | cons hm hr =>
            rw [List.map_cons, List.append_cons] at h'
            exact .cons hm (ih.2 ⟨_, second, rfl, hr, h'⟩)

/-- What is added in two steps can be added at once. -/
theorem adds_append_iff {l l' : Ledger α} {rows rows' : List (MovementRow α)}
    {entries entries' : List (String × String × Option α)} :
    l.Adds (rows ++ rows') (entries ++ entries') l'
      ↔ ∃ next, l.Adds rows entries next ∧ next.Adds rows' entries' l' := by
  have hids (added : List (Movement α)) : (l.plus added entries).movements.map Movement.id
      = l.movements.map Movement.id ++ added.map Movement.id := List.map_append
  have hplus (first second : List (Movement α)) :
      (l.plus first entries).plus second entries'
        = l.plus (first ++ second) (entries ++ entries') := by
    simp only [plus, List.append_assoc, addRecords_append]
  constructor
  · rintro ⟨hu, added, ha, rfl⟩
    obtain ⟨first, second, rfl, h, h'⟩ := takes_append_iff.1 ha
    rw [List.forall_mem_append] at hu
    refine ⟨l.plus first entries, ⟨hu.1, first, h, rfl⟩, hu.2, second, ?_, (hplus first second).symm⟩
    rw [hids]
    exact h'
  · rintro ⟨_, ⟨hu, first, h, rfl⟩, hu', second, h', rfl⟩
    rw [hids] at h'
    exact ⟨List.forall_mem_append.2 ⟨hu, hu'⟩, first ++ second,
      takes_append_iff.2 ⟨first, second, rfl, h, h'⟩, hplus first second⟩

end Ledger

/-! ## Loads -/

namespace Database

theorem load_eq_ok_iff {l : Ledger α} {d : Database α} {load : Load α} :
    (⟨some l⟩ : Database α).load load = .ok d
      ↔ ∃ l', l.Adds load.rows load.entries l' ∧ d = ⟨some l'⟩ := by
  cases load with
  | movements rows =>
      show (l.loadMovements rows >>= fun l' => .ok ⟨some l'⟩) = .ok d ↔ _
      rw [Planned.bind_eq_ok]
      constructor
      · rintro ⟨l', hl, h⟩
        cases h
        obtain ⟨hu, added, ha, rfl⟩ := Ledger.loadMovements_eq_ok_iff.1 hl
        exact ⟨_, ⟨hu, added, ha, rfl⟩, rfl⟩
      · rintro ⟨l', ⟨hu, added, ha, rfl⟩, rfl⟩
        exact ⟨_, Ledger.loadMovements_eq_ok_iff.2 ⟨hu, added, ha, rfl⟩, rfl⟩
  | stock levels =>
      show Except.ok _ = .ok d ↔ _
      constructor
      · intro h
        cases h
        exact ⟨_, Ledger.adds_nil_iff.2 rfl, rfl⟩
      · rintro ⟨l', ha, rfl⟩
        rw [Ledger.adds_nil_iff.1 ha]
        rfl

/-- **Loads one after the other** do what a single load of all their rows and entries would do. -/
theorem loadAll_eq_ok_iff {l : Ledger α} {d : Database α} {loads : List (Load α)} :
    (⟨some l⟩ : Database α).loadAll loads = .ok d
      ↔ ∃ l', l.Adds (loads.flatMap Load.rows) (loads.flatMap Load.entries) l' ∧ d = ⟨some l'⟩ := by
  induction loads generalizing l with
  | nil =>
      constructor
      · intro h
        cases h
        exact ⟨l, Ledger.adds_nil_iff.2 rfl, rfl⟩
      · rintro ⟨l', ha, rfl⟩
        rw [Ledger.adds_nil_iff.1 ha]
        rfl
  | cons load loads ih =>
      rw [loadAll, List.foldlM_cons, Planned.bind_eq_ok, List.flatMap_cons, List.flatMap_cons]
      constructor
      · rintro ⟨next, hl, h⟩
        obtain ⟨l', ha, rfl⟩ := load_eq_ok_iff.1 hl
        obtain ⟨l'', ha', rfl⟩ := ih.1 h
        exact ⟨l'', Ledger.adds_append_iff.2 ⟨l', ha, ha'⟩, rfl⟩
      · rintro ⟨l'', h, rfl⟩
        obtain ⟨l', ha, ha'⟩ := Ledger.adds_append_iff.1 h
        exact ⟨⟨some l'⟩, load_eq_ok_iff.2 ⟨l', ha, rfl⟩, ih.2 ⟨l'', ha', rfl⟩⟩

/-- **The tables hold what was loaded**, and nothing else. -/
theorem holds_loadAll {d : Database α} {loads : List (Load α)}
    (h : created.loadAll loads = .ok d) :
    ∃ l, d.tables = some l ∧ l.Holds (loads.flatMap Load.rows) (loads.flatMap Load.entries) := by
  obtain ⟨l, ha, rfl⟩ := loadAll_eq_ok_iff.1 h
  exact ⟨l, rfl, Ledger.Holds.empty.adds ha⟩

/-- Complete rows are stored, in any number of loads, until the ids run out. -/
theorem exists_loadAll {loads : List (Load α)}
    (hr : ∀ row ∈ loads.flatMap Load.rows, row.IsComplete)
    (hl : ((loads.flatMap Load.rows).length : Int) ≤ Ledger.lastId) :
    ∃ d, (created : Database α).loadAll loads = .ok d := by
  have hids : ∀ row ∈ loads.flatMap Load.rows, row.id = none := fun row h => (hr row h).noId
  obtain ⟨added, ha⟩ := (Ledger.exists_takes_iff List.nodup_nil).2
    ⟨fun row h => (hr row h).columns, Ledger.takenIds_of_numbered (fun _ h => absurd h List.not_mem_nil)
      List.nodup_nil hids (by simpa using hl)⟩
  exact ⟨_, loadAll_eq_ok_iff.2
    ⟨_, ⟨fun row h => (hr row h).noUnknownColumn, added, ha, rfl⟩, rfl⟩⟩

end Database

end Restock
