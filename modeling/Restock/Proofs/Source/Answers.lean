import Restock.Proofs.Source.Fetch
import Restock.Proofs.Source.Requests

/-!
# Answers that agree

A source answers four kinds of read, each on its own: the history of a product, its stock, the products
of a location and their stock levels. The answers about one location fit together
(`DemandSource.Agrees`), in memory (`MemoryStore.agrees`) and in tables (`Ledger.agrees`), and the
products listed there are exactly those that the store has something of at the location: a history or
an entry of its stock in memory, the row of a load in tables (`Store.reads_agree`).
-/

namespace Restock

variable {α : Type} {today : Day} {product location : String}

/-! ## Products in tables -/

namespace Ledger

variable {l : Ledger α}

/-- The products with a record or a movement at a location, in order. -/
def products (l : Ledger α) (location : String) : List String :=
  sortStrings (distinct (l.stocked location ++ l.moved location))

theorem mem_products :
    product ∈ l.products location ↔ product ∈ l.stocked location ∨ product ∈ l.moved location := by
  simp [products]

theorem unitsOf_eq_nil (h : product ∉ l.stocked location) : l.unitsOf product location = [] := by
  have hf : (l.records.filter fun r => r.product = product && r.location = location) = [] := by
    refine List.filter_eq_nil_iff.2 fun r hr hp => h ?_
    simp only [Bool.and_eq_true, decide_eq_true_eq] at hp
    exact List.mem_map.2 ⟨r, List.mem_filter.2 ⟨hr, decide_eq_true hp.2⟩, hp.1⟩
  rw [unitsOf, hf]
  rfl

theorem mem_moved_of_demandDays (h : l.demandDays product location ≠ []) :
    product ∈ l.moved location := by
  obtain ⟨day, hday⟩ := List.exists_mem_of_ne_nil _ h
  obtain ⟨m, hm, _⟩ := List.mem_map.1 hday
  obtain ⟨hm, hp⟩ := List.mem_filter.1 hm
  simp only [Bool.and_eq_true, decide_eq_true_eq] at hp
  exact List.mem_map.2 ⟨m, List.mem_filter.2 ⟨hm, decide_eq_true hp.1.2⟩, hp.1.1⟩

end Ledger

/-! ## Answers -/

variable [Scalar α]

/-- What a source answers about a location agrees with the levels and the products that it gives for
the location. -/
structure DemandSource.Agrees (source : DemandSource α) (location : String)
    (levels : StockLevels α) (products : List String) : Prop where
  stockLevels : source.stockLevels location = .ok levels
  listProducts : source.listProducts location = .ok products
  /-- The stock of a product is its level, and zero when it has none. -/
  currentStock : ∀ product,
    source.currentStock product location = .ok ((levels.get? product).getD 0)
  nodup : products.Nodup
  /-- Every product with a level is listed. -/
  levelled : ∀ product ∈ levels.keys, product ∈ products
  /-- Every product with demand in some history is listed. -/
  demanded : ∀ product daysBack history,
    source.fetchHistory product location daysBack = .ok history → history ≠ [] →
      product ∈ products

/-- A store that answers with some history of a product holds demand of it. -/
theorem Store.demandDays_ne_nil (store : Store α) {daysBack : Int} {history : List (Observation α)}
    (h : (store.source today).fetchHistory product location daysBack = .ok history)
    (hne : history ≠ []) : store.demandDays product location ≠ [] := by
  cases hs : historyStart? today daysBack with
  | none => cases (store.fetchHistory_of_none hs).symm.trans h
  | some first =>
      obtain ⟨o, ho⟩ := List.exists_mem_of_ne_nil history hne
      have hd := ((mem_days_fetchHistory hs h).1 (List.mem_map_of_mem ho)).1
      exact List.ne_nil_of_mem hd

/-! ## In memory -/

namespace MemoryStore

variable {s : MemoryStore α}

theorem mem_products : product ∈ s.products location
    ↔ (product, location) ∈ s.histories.keys ∨ product ∈ (s.stock.levels location).keys := by
  simp [products]

theorem mem_keys_of_history (h : s.history product location ≠ []) :
    (product, location) ∈ s.histories.keys := by
  cases hg : s.histories.get? (product, location) with
  | some history => exact Table.mem_keys_iff.2 ⟨history, hg⟩
  | none =>
      rw [history, hg] at h
      exact absurd rfl h

theorem agrees (s : MemoryStore α) (today : Day) (location : String) :
    (s.source today).Agrees location (s.stock.levels location) (s.products location) where
  stockLevels := rfl
  listProducts := rfl
  currentStock _ := rfl
  nodup := nodup_distinct _
  levelled _ h := mem_products.2 (.inr h)
  demanded product daysBack history h hne := by
    have hd := Store.demandDays_ne_nil (.memory s) h hne
    exact mem_products.2 (.inl (mem_keys_of_history fun he => hd (congrArg (List.map _) he)))

end MemoryStore

/-! ## In tables -/

namespace Ledger

/-- Nothing adds up to zero, in whatever numbers. -/
theorem total_nil : total ([] : List α) = 0 := ite_self _

/-- What the records of a product add up to is its level, and zero when it has no record. -/
theorem total_unitsOf (l : Ledger α) (product location : String) :
    total (l.unitsOf product location) = ((l.levels location).get? product).getD 0 := by
  rw [get?_levels]
  split
  · rfl
  · next h =>
      rw [unitsOf_eq_nil h]
      exact total_nil

theorem mem_keys_levels {l : Ledger α} :
    product ∈ (l.levels location).keys ↔ product ∈ l.stocked location := by
  rw [Table.mem_keys_iff, get?_levels]
  split <;> simp [*]

theorem agrees (l : Ledger α) (today : Day) (location : String) :
    (l.source today).Agrees location (l.levels location) (l.products location) where
  stockLevels := rfl
  listProducts := rfl
  currentStock product := congrArg Except.ok (l.total_unitsOf product location)
  nodup := nodup_sortStrings_distinct _
  levelled _ h := mem_products.2 (.inl (mem_keys_levels.1 h))
  demanded product daysBack history h hne := by
    have hd := Store.demandDays_ne_nil (.database ⟨some l⟩) h hne
    exact mem_products.2 (.inr (mem_moved_of_demandDays hd))

end Ledger

/-! ## Loads -/

/-- Related lists have members of matching kinds. -/
theorem exists_mem_iff_of_forall₂ {β γ : Type} {R : β → γ → Prop} {p : β → Prop} {q : γ → Prop}
    {xs : List β} {ys : List γ} (h : List.Forall₂ R xs ys) (hr : ∀ x y, R x y → (p x ↔ q y)) :
    (∃ x ∈ xs, p x) ↔ ∃ y ∈ ys, q y := by
  induction h with
  | nil => simp
  | @cons x y _ _ hxy _ ih => simp only [List.mem_cons, exists_eq_or_imp, hr x y hxy, ih]

/-- Some loads mention a product at a location: in a movement, of whatever kind, or in a stock entry,
whether its units are known or not. -/
def Load.Mention (loads : List (Load α)) (product location : String) : Prop :=
  (∃ row ∈ loads.flatMap Load.rows, row.product = some product ∧ row.location = some location)
    ∨ ∃ entry ∈ loads.flatMap Load.entries, entry.1 = location ∧ entry.2.1 = product

theorem Ledger.Holds.mem_products {l : Ledger α} {loads : List (Load α)}
    (h : l.Holds (loads.flatMap Load.rows) (loads.flatMap Load.entries)) :
    product ∈ l.products location ↔ Load.Mention loads product location := by
  have hmoved : product ∈ l.moved location ↔ ∃ row ∈ loads.flatMap Load.rows,
      row.product = some product ∧ row.location = some location := by
    rw [exists_mem_iff_of_forall₂ h.movements
      (q := fun m => m.product = product ∧ m.location = location)]
    · simp [Ledger.moved, and_assoc, and_comm]
    · intro row m hr
      rw [hr.product, hr.location, Option.some_inj, Option.some_inj]
  have hstocked : product ∈ l.stocked location ↔ ∃ entry ∈ loads.flatMap Load.entries,
      entry.1 = location ∧ entry.2.1 = product := by
    rw [exists_mem_iff_of_forall₂ h.records
      (q := fun r => r.location = location ∧ r.product = product)]
    · simp [Ledger.stocked, and_assoc]
    · intro entry r hr
      rw [hr.location, hr.product]
  rw [Ledger.mem_products, hmoved, hstocked, or_comm, Load.Mention]

/-- **The reads of a store agree** about every location, for any store in memory and for tables after
any requests, whatever the loads among them brought. -/
theorem Store.reads_agree :
    (∀ (s : MemoryStore α) (today : Day) (location : String),
      ∃ levels products, (s.source today).Agrees location levels products
        ∧ ∀ product, product ∈ products ↔
            (product, location) ∈ s.histories.keys ∨ product ∈ (s.stock.levels location).keys)
    ∧ ∀ (settings : Settings α) (now : Instant) (requests : List (Request α)) (today : Day)
        (location : String),
      ∃ levels products,
        (((Session.overNewTables settings now).after requests).store.source today).Agrees location
          levels products
        ∧ products.Pairwise (· < ·)
        ∧ ∀ product, product ∈ products ↔
            Load.Mention ((Session.overNewTables settings now).storedLoads requests)
              product location := by
  constructor
  · intro s today location
    exact ⟨_, _, s.agrees today location, fun _ => MemoryStore.mem_products⟩
  · intro settings now requests today location
    obtain ⟨l, h⟩ := (Session.holds_overNewTables settings now).after requests
    refine ⟨l.levels location, l.products location, ?_, ?_, ?_⟩
    · rw [h.store]
      exact l.agrees today location
    · exact pairwise_lt_sortStrings (nodup_distinct _)
    · exact fun _ => h.rows.mem_products

end Restock
