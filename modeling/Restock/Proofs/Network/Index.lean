import Restock.Network

/-!
# The index of imbalances

The index of a network is filled by a double loop: locations outside, products inside. One pass of
the inner loop enters a location under exactly the products it is in surplus or deficit of
(`Indexes.enterAll`), so the finished index holds, under each product, the locations of the network
that are in surplus or deficit of it, in the order of the network (`indexes_imbalances`).
-/

namespace Restock

variable {α : Type} [Scalar α]

namespace LocationIndex

/-- The inner loop: under each product of a list without repetitions, a location is entered once, and
only where the condition holds. -/
theorem locations_foldl_enter {products : List String} (hn : products.Nodup)
    (holds : String → Bool) (location : String) (index : LocationIndex) (product : String) :
    (products.foldl (fun i p => i.enter (holds p) p location) index).locations product
      = if product ∈ products ∧ holds product = true then index.locations product ++ [location]
        else index.locations product := by
  induction products generalizing index with
  | nil => simp
  | cons p products ih =>
      obtain ⟨hp, hn⟩ := List.nodup_cons.1 hn
      rw [List.foldl_cons, ih hn, locations_enter]
      -- the product just entered does not come again, so no location is entered twice
      by_cases h : product = p
      · subst h
        simp [hp]
      · simp [h]

end LocationIndex

namespace Imbalances

/-- What an index holds after some locations were entered in it: under each product, those of them
that are in surplus and those that are in deficit, in the order in which they were visited. -/
structure Indexes (policy : RebalancingPolicy α) (stock : StockMap α)
    (products visited : List String) (index : Imbalances) : Prop where
  surplus : ∀ product ∈ products,
    index.surplus.locations product = visited.filter (stock.inSurplus policy product)
  deficit : ∀ product ∈ products,
    index.deficit.locations product = visited.filter (stock.inDeficit policy product)

section
variable {policy : RebalancingPolicy α} {stock : StockMap α} {products : List String}

theorem surplus_enterAll (index : Imbalances) (location : String) :
    (enterAll policy stock products index location).surplus
      = products.foldl (fun i p => i.enter (stock.inSurplus policy p location) p location)
          index.surplus :=
  (List.foldl_hom Imbalances.surplus fun _ _ => rfl).symm

theorem deficit_enterAll (index : Imbalances) (location : String) :
    (enterAll policy stock products index location).deficit
      = products.foldl (fun i p => i.enter (stock.inDeficit policy p location) p location)
          index.deficit :=
  (List.foldl_hom Imbalances.deficit fun _ _ => rfl).symm

theorem Indexes.empty : Indexes policy stock products [] .empty :=
  ⟨fun _ _ => rfl, fun _ _ => rfl⟩

/-- **One location**: entering it for every product extends what the index holds by it. -/
theorem Indexes.enterAll (hn : products.Nodup) {visited : List String} {index : Imbalances}
    (h : Indexes policy stock products visited index) (location : String) :
    Indexes policy stock products (visited ++ [location])
      (enterAll policy stock products index location) := by
  constructor
  · intro product hp
    rw [surplus_enterAll, LocationIndex.locations_foldl_enter hn, h.surplus product hp,
      List.filter_append]
    cases hs : stock.inSurplus policy product location <;> simp [hp, hs]
  · intro product hp
    rw [deficit_enterAll, LocationIndex.locations_foldl_enter hn, h.deficit product hp,
      List.filter_append]
    cases hd : stock.inDeficit policy product location <;> simp [hp, hd]

theorem Indexes.foldl_enterAll (hn : products.Nodup) {visited : List String} {index : Imbalances}
    (h : Indexes policy stock products visited index) (locations : List String) :
    Indexes policy stock products (visited ++ locations)
      (locations.foldl (Imbalances.enterAll policy stock products) index) := by
  induction locations generalizing visited index with
  | nil => simpa using h
  | cons location locations ih =>
      rw [List.foldl_cons, List.append_cons]
      exact ih (h.enterAll hn location)

end

end Imbalances

/-- **The whole network**: the index holds all of its locations. -/
theorem StockMap.indexes_imbalances (policy : RebalancingPolicy α) (stock : StockMap α)
    (locations : List String) :
    Imbalances.Indexes policy stock (stock.products locations) locations
      (stock.imbalances policy locations (stock.products locations)) := by
  have hempty : Imbalances.Indexes policy stock (stock.products locations) [] .empty := .empty
  have h := hempty.foldl_enterAll (stock.nodup_products locations) locations
  rwa [List.nil_append] at h

end Restock
