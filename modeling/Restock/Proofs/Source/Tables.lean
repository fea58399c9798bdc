import Mathlib.Data.List.Forall2
import Restock.Proofs.Arithmetic.Exact
import Restock.Source.Load

/-!
# What the tables hold

Tables hold some rows and stock entries when they have a movement with the columns of each row, a record
with those of each entry, and no more (`Ledger.Holds`). A row that brings no id is given one that is free
(`Ledger.nextId_not_mem`). In exact arithmetic no number counts as missing, and totals are sums.
-/

namespace Restock

variable {α : Type}

/-! ## Ids -/

namespace Ledger

theorem le_largest {id first : Int} {ids : List Int} (h : id ∈ first :: ids) :
    id ≤ ids.foldl max first :=
  foldl_rel (R := fun a b => b ≤ a) Int.le_refl (fun hab hbc => Int.le_trans hbc hab)
    Int.le_max_left Int.le_max_right h

/-- There is one candidate more than there are ids, so that one of them is free. -/
theorem freeId_not_mem (ids : List Int) : freeId ids ∉ ids := by
  unfold freeId
  generalize hc : (List.range (ids.length + 1)).map
    (fun (k : Nat) => 4611686018427387904 - (k : Int)) = candidates
  show (candidates.find? fun id => !ids.contains id).getD 0 ∉ ids
  cases hf : candidates.find? fun id => !ids.contains id with
  | some id => simpa using List.find?_some hf
  | none =>
      have hsub : candidates ⊆ ids := by
        intro id hid
        simpa using List.find?_eq_none.1 hf id hid
      have hn : candidates.Nodup := by
        rw [← hc]
        exact List.nodup_range.map fun a b h => by omega
      have hlen : candidates.length = ids.length + 1 := by
        rw [← hc, List.length_map, List.length_range]
      have := (List.subperm_of_subset hn hsub).length_le
      omega

/-- A row that brings no id takes one that is free. -/
theorem nextId_not_mem (ids : List Int) : nextId ids ∉ ids := by
  cases ids with
  | nil => exact List.not_mem_nil
  | cons first ids =>
      simp only [nextId]
      split
      · intro h
        have := le_largest h
        omega
      · exact freeId_not_mem (first :: ids)

theorem nextId_eq (ids : List Int) :
    nextId ids = 1 ∨ (∃ id ∈ ids, nextId ids = id + 1) ∨ ∃ id ∈ ids, lastId ≤ id := by
  cases ids with
  | nil => exact .inl rfl
  | cons first ids =>
      have hm : ids.foldl max first ∈ first :: ids := foldl_mem (fun a b => by omega) first ids
      simp only [nextId]
      split
      · exact .inr (.inl ⟨_, hm, rfl⟩)
      · next hl => exact .inr (.inr ⟨_, hm, not_lt.1 hl⟩)

/-- Tables whose ids are distinct. -/
structure DistinctIds (l : Ledger α) : Prop where
  movements : (l.movements.map Movement.id).Nodup
  records : (l.records.map StockRecord.id).Nodup

theorem DistinctIds.empty : (Ledger.empty : Ledger α).DistinctIds :=
  ⟨List.nodup_nil, List.nodup_nil⟩

end Ledger

/-! ## Exact numbers in the tables -/

namespace Ledger

/-- No real number counts as missing. -/
theorem stored?_real (quantity : Option ℝ) : stored? quantity = quantity := by
  cases quantity <;> simp [stored?]

theorem total_real (xs : List ℝ) : total xs = xs.sum := by
  simp [total]

end Ledger

/-! ## Levels -/

variable [Scalar α]

namespace Ledger

/-- The levels of a location are the totals of the products with a record there. -/
theorem get?_levels (l : Ledger α) (location product : String) :
    (l.levels location).get? product =
      if product ∈ l.stocked location then some (total (l.unitsOf product location)) else none := by
  have hn : (((sortStrings (distinct (l.stocked location))).map fun product =>
      (product, total (l.unitsOf product location))).map Prod.fst).Nodup := by
    rw [List.map_map]
    show ((sortStrings (distinct (l.stocked location))).map id).Nodup
    rw [List.map_id]
    exact nodup_sortStrings_distinct _
  rw [levels, Table.get?_ofList hn, lookup_graph]
  simp only [mem_sortStrings, mem_distinct]

end Ledger

/-! ## Rows -/

/-- A movement that has the columns of a row. -/
structure MovementRow.StoredAs (row : MovementRow α) (m : Movement α) : Prop where
  id : ∀ id, row.id = some id → m.id = id
  product : row.product = some m.product
  location : row.location = some m.location
  kind : row.kind = some m.kind
  quantity : Ledger.stored? row.quantity = some m.quantity
  day : row.day = some m.day

/-- A row without one of the columns that movements need. -/
def MovementRow.LacksColumn (row : MovementRow α) : Prop :=
  row.product = none ∨ row.location = none ∨ row.kind = none ∨ Ledger.stored? row.quantity = none
    ∨ row.day = none

theorem MovementRow.StoredAs.not_lacksColumn {row : MovementRow α} {m : Movement α}
    (h : row.StoredAs m) : ¬ row.LacksColumn := by
  simp [LacksColumn, h.product, h.location, h.kind, h.quantity, h.day]

/-- A record that has the columns of a stock entry. -/
structure StockRecord.OfEntry (entry : String × String × Option α) (r : StockRecord α) : Prop where
  location : r.location = entry.1
  product : r.product = entry.2.1
  units : r.units = Ledger.stored? entry.2.2

/-- Tables with a movement for each of some rows, and a record for each of some stock entries. -/
structure Ledger.Holds (l : Ledger α) (rows : List (MovementRow α))
    (entries : List (String × String × Option α)) : Prop where
  movements : List.Forall₂ MovementRow.StoredAs rows l.movements
  records : List.Forall₂ StockRecord.OfEntry entries l.records

/-- A row of which nothing is missing but its id. -/
structure MovementRow.IsComplete (row : MovementRow α) : Prop where
  noId : row.id = none
  noUnknownColumn : row.hasUnknownColumn = false
  columns : ∃ m, row.StoredAs m

namespace Ledger

theorem Holds.empty : (Ledger.empty : Ledger α).Holds [] [] := ⟨.nil, .nil⟩

theorem storedAs_of_movement? {id : Int} {row : MovementRow α} {m : Movement α}
    (hid : ∀ i, row.id = some i → id = i) (h : movement? id row = some m) : row.StoredAs m := by
  simp only [movement?, Option.pure_def, Option.bind_eq_bind, Option.bind_eq_some_iff,
    Option.some.injEq] at h
  obtain ⟨product, hp, location, hl, kind, hk, quantity, hq, day, hd, rfl⟩ := h
  exact ⟨hid, hp, hl, hk, hq, hd⟩

theorem id_of_movement? {id : Int} {row : MovementRow α} {m : Movement α}
    (h : movement? id row = some m) : m.id = id := by
  simp only [movement?, Option.pure_def, Option.bind_eq_bind, Option.bind_eq_some_iff,
    Option.some.injEq] at h
  obtain ⟨_, _, _, _, _, _, _, _, _, _, rfl⟩ := h
  rfl

theorem movement?_of_storedAs {row : MovementRow α} {m : Movement α} (h : row.StoredAs m)
    (id : Int) : movement? id row = some { m with id } := by
  simp [movement?, h.product, h.location, h.kind, h.quantity, h.day]

end Ledger

end Restock
