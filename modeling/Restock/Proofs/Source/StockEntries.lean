import Restock.Proofs.Arithmetic.Exact
import Restock.Proofs.Source.Loads

/-!
# Stock, entry by entry

A stock map has one entry at most for a product at a location. When its entries are loaded, each of
them becomes a record, so that what the records of a product add up to is its entry
(`Ledger.HoldsStock.total_unitsOf`), and the levels of a location are those of the map
(`Ledger.HoldsStock.get?_levels`).
-/

namespace Restock

/-! ## Entries -/

section
variable {β γ : Type}

theorem recorded?_mapValues (f : β → γ) (stock : StockMap β) (location product : String) :
    StockMap.recorded? (stock.mapValues (Table.mapValues f)) location product
      = (stock.recorded? location product).map f := by
  unfold StockMap.recorded? StockMap.levels
  rw [Table.get?_mapValues]
  cases stock.get? location with
  | none => rfl
  | some levels => exact Table.get?_mapValues f levels product

/-- The entries of a location are those of its levels. -/
theorem filter_location_stockEntries (stock : StockMap β) (location : String) :
    (stockEntries stock).filter (fun entry => entry.1 = location)
      = (stock.levels location).entries.map fun (product, units) => (location, product, units) := by
  have hb : (stockEntries stock).filter (fun entry => entry.1 = location)
      = (stock.entries.filter fun e => e.1 = location).flatMap fun (location, levels) =>
          levels.entries.map fun (product, units) => (location, product, units) := by
    unfold stockEntries
    generalize stock.entries = es
    induction es with
    | nil => rfl
    | cons e es ih =>
        -- the entries under one location are kept or dropped together
        have he : (e.2.entries.map fun level => (e.1, level.1, level.2)).filter
              (fun entry => entry.1 = location)
            = if e.1 = location then e.2.entries.map fun level => (e.1, level.1, level.2)
              else [] := by
          rw [List.filter_map]
          by_cases h : e.1 = location <;> simp [h, Function.comp_def]
        rw [List.flatMap_cons, List.filter_append, ih, he, List.filter_cons]
        by_cases h : e.1 = location <;> simp [h]
  rw [hb, filter_eq_lookup stock.nodup]
  show _ = ((stock.get? location).getD .empty).entries.map _
  rw [Table.get?]
  cases stock.entries.lookup location with
  | none => rfl
  | some levels => simp

/-- The units of the entries of a product at a location are its recorded stock. -/
theorem units_stockEntries (stock : StockMap β) (product location : String) :
    ((stockEntries stock).filter fun entry =>
        entry.2.1 = product && entry.1 = location).map (fun entry => entry.2.2)
      = (stock.recorded? location product).toList := by
  rw [← List.filter_filter, filter_location_stockEntries, List.filter_map, List.map_map]
  show ((stock.levels location).entries.filter fun e => e.1 = product).map (fun e => e.2) = _
  rw [filter_eq_lookup (stock.levels location).nodup, List.map_map]
  show ((stock.recorded? location product).toList.map fun units => units) = _
  rw [List.map_id']

/-- The products of the entries of a location are those with a recorded stock. -/
theorem mem_products_stockEntries {stock : StockMap β} {product location : String} :
    product ∈ ((stockEntries stock).filter fun entry => entry.1 = location).map
        (fun entry => entry.2.1)
      ↔ ∃ units, stock.recorded? location product = some units := by
  rw [filter_location_stockEntries, List.map_map]
  exact Table.mem_keys_iff

end

/-! ## Records -/

/-- Picking from a list and reading what was picked can be done on a related list. -/
theorem map_filter_eq_of_forall₂ {β γ δ : Type} {R : β → γ → Prop} {p : β → Bool} {q : γ → Bool}
    {f : β → δ} {g : γ → δ} {xs : List β} {ys : List γ} (h : List.Forall₂ R xs ys)
    (hp : ∀ x y, R x y → q y = p x) (hf : ∀ x y, R x y → g y = f x) :
    (ys.filter q).map g = (xs.filter p).map f := by
  induction h with
  | nil => rfl
  | @cons x y xs ys hr _ ih =>
      rw [List.filter_cons, List.filter_cons, hp x y hr]
      split
      · rw [List.map_cons, List.map_cons, hf x y hr, ih]
      · exact ih

section
variable {α : Type} [Scalar α] {entries : List (String × String × Option α)}
  {records : List (StockRecord α)}

/-- The records of a product at a location have the units of its entries. -/
theorem units_records (h : List.Forall₂ StockRecord.OfEntry entries records)
    (product location : String) :
    (records.filter fun r => r.product = product && r.location = location).map StockRecord.units
      = (entries.filter fun entry => entry.2.1 = product && entry.1 = location).map
          fun entry => Ledger.stored? entry.2.2 := by
  apply map_filter_eq_of_forall₂ h
  · intro entry r hr
    rw [hr.product, hr.location]
  · intro entry r hr
    exact hr.units

theorem products_records (h : List.Forall₂ StockRecord.OfEntry entries records)
    (location : String) :
    (records.filter fun r => r.location = location).map StockRecord.product
      = (entries.filter fun entry => entry.1 = location).map fun entry => entry.2.1 := by
  apply map_filter_eq_of_forall₂ h
  · intro entry r hr
    rw [hr.location]
  · intro entry r hr
    exact hr.product

end

/-! ## Stock -/

namespace Ledger

/-- Tables whose records are those of the entries of a stock map, in any order. -/
def HoldsStock (l : Ledger ℝ) (stock : StockMap ℝ) : Prop :=
  ∃ entries, List.Perm entries (stockEntries (stock.mapValues (Table.mapValues some)))
    ∧ List.Forall₂ StockRecord.OfEntry entries l.records

variable {l : Ledger ℝ} {stock : StockMap ℝ}

theorem HoldsStock.unitsOf (h : l.HoldsStock stock) (product location : String) :
    l.unitsOf product location = (stock.recorded? location product).toList := by
  obtain ⟨entries, hp, hr⟩ := h
  have hu : l.unitsOf product location
      = ((entries.filter fun entry => entry.2.1 = product && entry.1 = location).map
          fun entry => entry.2.2).filterMap id := by
    have he := units_records hr product location
    simp only [stored?_real] at he
    rw [← he, List.filterMap_map]
    rfl
  have hperm := ((hp.filter fun entry => entry.2.1 = product && entry.1 = location).map
    fun entry => entry.2.2).filterMap id
  rw [← hu, units_stockEntries, recorded?_mapValues] at hperm
  -- with one entry at most, the order of the entries is no matter
  cases hs : stock.recorded? location product with
  | none =>
      rw [hs] at hperm
      exact hperm.eq_nil
  | some units =>
      rw [hs] at hperm
      exact List.perm_singleton.1 hperm

theorem HoldsStock.mem_stocked (h : l.HoldsStock stock) {product location : String} :
    product ∈ l.stocked location ↔ ∃ units, stock.recorded? location product = some units := by
  obtain ⟨entries, hp, hr⟩ := h
  rw [stocked, products_records hr,
    ((hp.filter fun entry => entry.1 = location).map fun entry => entry.2.1).mem_iff,
    mem_products_stockEntries]
  simp only [recorded?_mapValues]
  cases stock.recorded? location product <;> simp

/-- What the records of a product add up to is its stock. -/
theorem HoldsStock.total_unitsOf (h : l.HoldsStock stock) (product location : String) :
    total (l.unitsOf product location) = stock.units location product := by
  rw [h.unitsOf, total_real, StockMap.units]
  cases stock.recorded? location product <;> simp

/-- The levels of a location are those of the stock map. -/
theorem HoldsStock.get?_levels (h : l.HoldsStock stock) (location product : String) :
    (l.levels location).get? product = (stock.levels location).get? product := by
  have hm : product ∈ l.stocked location ↔ ∃ units, stock.recorded? location product = some units :=
    h.mem_stocked
  rw [Ledger.get?_levels, h.total_unitsOf]
  show _ = stock.recorded? location product
  split
  · next hs =>
      obtain ⟨units, hu⟩ := hm.1 hs
      rw [StockMap.units, hu]
      rfl
  · next hs =>
      cases hu : stock.recorded? location product with
      | none => rfl
      | some units => exact absurd (hm.2 ⟨units, hu⟩) hs

end Ledger

end Restock
