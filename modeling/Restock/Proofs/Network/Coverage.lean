import Restock.Proofs.Network.PairScan

/-!
# What covers a deficit

A recorded deficit is covered in one of two ways. When another location of the network can spare the
product (`RebalancingPolicy.Supplied`), transfers go to it (`exists_transfer_iff`); otherwise it is
procured (`mem_networkProcurements`). Procurements are ordered strictly
(`RebalancingPolicy.pairwise_networkProcurements`), so that none names a position twice, and every
recorded position is accounted for exactly once (`Proposal.accounts_ofStock`).
-/

namespace Restock

/-- Where the members of a kind exclude each other, one that is listed is the only one. -/
theorem filter_eq_singleton {β : Type} {R : β → β → Prop} {kind : β → Bool} {xs : List β}
    (hp : xs.Pairwise R) (hk : ∀ a b, kind a = true → kind b = true → ¬ R a b) {a : β}
    (ha : a ∈ xs) (hka : kind a = true) : xs.filter kind = [a] := by
  have hm : a ∈ xs.filter kind := List.mem_filter.2 ⟨ha, hka⟩
  have hpf := hp.filter kind
  have hall : ∀ b ∈ xs.filter kind, kind b = true := fun b hb => (List.mem_filter.1 hb).2
  match xs.filter kind, hm, hpf, hall with
  | [b], hm, _, _ => rw [List.mem_singleton.1 hm]
  | b :: c :: rest, _, hpf, hall =>
      have hbc : R b c := List.rel_of_pairwise_cons hpf List.mem_cons_self
      exact absurd hbc (hk b c (hall b (by simp)) (hall c (by simp)))

variable {α : Type}

theorem serves_iff {location product : String} {t : Transfer α} :
    serves location product t = true ↔ t.destination = location ∧ t.product = product := by
  simp [serves]

namespace Procurement

/-- Whether a procurement names a position. -/
def names (location product : String) (q : Procurement α) : Bool :=
  q.location == location && q.product == product

theorem names_iff {location product : String} {q : Procurement α} :
    q.names location product = true ↔ q.location = location ∧ q.product = product := by
  simp [names]

/-- Whether a procurement comes before another: by the place of its location, then by product. -/
def Before (locations : List String) (p q : Procurement α) : Prop :=
  locations.idxOf p.location < locations.idxOf q.location
    ∨ p.location = q.location ∧ p.product < q.product

/-- Two procurements of one position do not come one before the other. -/
theorem not_before_of_names {locations : List String} {location product : String}
    {p q : Procurement α} (hp : p.names location product = true)
    (hq : q.names location product = true) : ¬ Before locations p q := by
  obtain ⟨hpl, hpp⟩ := names_iff.1 hp
  obtain ⟨hql, hqp⟩ := names_iff.1 hq
  rw [Before, hpl, hql, hpp, hqp]
  rintro (h | ⟨_, h⟩)
  · exact Nat.lt_irrefl _ h
  · exact String.lt_irrefl _ h

end Procurement

variable [Scalar α]

theorem StockMap.units_of_recorded? {stock : StockMap α} {location product : String} {units : α}
    (h : stock.recorded? location product = some units) : stock.units location product = units := by
  rw [StockMap.units, h]
  rfl

/-! ## Who can spare a product -/

namespace RebalancingPolicy

/-- Whether a location can spare a product: its recorded stock is a surplus, and what it would give in
one transfer is not too little. -/
def Spares (policy : RebalancingPolicy α) (stock : StockMap α) (product location : String) : Prop :=
  product ∈ (stock.levels location).keys
    ∧ policy.surplusThreshold < stock.units location product
    ∧ ¬ policy.transferQuantity (stock.units location product) ≤ policy.minTransferQuantity

/-- Whether another location of a network can spare a product. -/
def Supplied (policy : RebalancingPolicy α) (stock : StockMap α) (locations : List String)
    (product location : String) : Prop :=
  ∃ source ∈ locations, location ≠ source ∧ policy.Spares stock product source

section
variable {policy : RebalancingPolicy α} {stock : StockMap α} {locations : List String}

/-! ## Transfers -/

/-- The transfers of a network, as a proposal lists them. -/
def networkTransfers (policy : RebalancingPolicy α) (stock : StockMap α) (locations : List String) :
    List (Transfer α) :=
  policy.transfers stock locations (stock.imbalances policy locations (stock.products locations))

theorem mem_networkTransfers {t : Transfer α} :
    t ∈ policy.networkTransfers stock locations ↔ policy.Called stock locations t :=
  (List.mergeSort_perm _ _).mem_iff.trans mem_matched

theorem nodup_networkTransfers (hn : locations.Nodup) :
    (policy.networkTransfers stock locations).Nodup :=
  (List.mergeSort_perm _ _).nodup_iff.2 (nodup_matched hn)

/-- **Transfers go to the deficits that are supplied**, and to no other position. -/
theorem exists_transfer_iff {location product : String} :
    (∃ t ∈ policy.networkTransfers stock locations, serves location product t = true) ↔
      location ∈ locations ∧ stock.units location product < policy.deficitThreshold
        ∧ policy.Supplied stock locations product location := by
  simp only [mem_networkTransfers, serves_iff]
  constructor
  · rintro ⟨t, ht, rfl, rfl⟩
    obtain ⟨⟨hs, hd, hq⟩, _⟩ := transferBetween?_eq_some.1 ht.called
    exact ⟨ht.destination, hd, t.source, ht.source, ht.distinct, ht.recorded, hs, hq⟩
  · rintro ⟨hl, hd, source, hm, hne, hr, hs, hq⟩
    let t := policy.transfer stock source location product
      (policy.transferQuantity (stock.units source product))
    have hc : policy.transferBetween? stock source location product = some t :=
      transferBetween?_eq_some.2 ⟨⟨hs, hd, hq⟩, rfl⟩
    exact ⟨t, ⟨hm, hl, hne, hr, hc⟩, rfl, rfl⟩

/-! ## Procurements -/

/-- The procurements of a network, as a proposal lists them. -/
def networkProcurements (policy : RebalancingPolicy α) (stock : StockMap α)
    (locations : List String) : List (Procurement α) :=
  policy.procurements stock locations
    (stock.imbalances policy locations (stock.products locations))
    (policy.networkTransfers stock locations)

/-- **Procured are the recorded deficits that are not supplied**, each up to the threshold. -/
theorem mem_networkProcurements {q : Procurement α} :
    q ∈ policy.networkProcurements stock locations ↔
      q.location ∈ locations ∧ q.product ∈ (stock.levels q.location).keys
        ∧ stock.units q.location q.product < policy.deficitThreshold
        ∧ ¬ policy.Supplied stock locations q.product q.location
        ∧ q.quantity = policy.deficitThreshold - stock.units q.location q.product := by
  -- under a product recorded in the network, the index lists the deficits of the network
  have hindex {location product : String} (hl : location ∈ locations)
      (hp : product ∈ (stock.levels location).keys) :
      location ∈ (stock.imbalances policy locations
        (stock.products locations)).deficit.locations product ↔
        stock.units location product < policy.deficitThreshold :=
    (mem_deficit_iff (StockMap.mem_products.2 ⟨location, hl, hp⟩)).trans (and_iff_right hl)
  simp only [networkProcurements, procurements, procurementsAt, List.mem_flatMap, List.mem_map,
    List.mem_filter, mem_sortStrings, Bool.and_eq_true, List.contains_iff_mem,
    Bool.not_eq_true', ← Bool.not_eq_true, List.any_eq_true, exists_transfer_iff]
  constructor
  · rintro ⟨location, hl, product, ⟨hp, hd, hs⟩, rfl⟩
    have hd' := (hindex hl hp).1 hd
    exact ⟨hl, hp, hd', fun h => hs ⟨hl, hd', h⟩, rfl⟩
  · rintro ⟨hl, hp, hd, hs, hq⟩
    refine ⟨q.location, hl, q.product, ⟨hp, (hindex hl hp).2 hd, fun h => hs h.2.2⟩, ?_⟩
    rw [← hq]

end

end RebalancingPolicy

theorem RebalancingPolicy.pairwise_networkProcurements (policy : RebalancingPolicy α)
    (stock : StockMap α) {order locations : List String}
    (h : order.Pairwise fun a b => locations.idxOf a < locations.idxOf b) :
    (policy.networkProcurements stock order).Pairwise (Procurement.Before locations) := by
  refine List.pairwise_flatMap.2 ⟨?_, ?_⟩
  · intro location _
    refine List.pairwise_map.2 (List.Pairwise.filter _ ?_)
    refine (pairwise_lt_sortStrings (stock.levels location).nodup).imp ?_
    intro a b hab
    exact .inr ⟨rfl, hab⟩
  · refine h.imp ?_
    intro a b hab p hp q hq
    obtain ⟨_, _, rfl⟩ := List.mem_map.1 hp
    obtain ⟨_, _, rfl⟩ := List.mem_map.1 hq
    exact .inl hab

theorem RebalancingPolicy.nodup_networkProcurements {policy : RebalancingPolicy α}
    {stock : StockMap α} {locations : List String} (hn : locations.Nodup) :
    (policy.networkProcurements stock locations).Nodup := by
  refine (policy.pairwise_networkProcurements stock (pairwise_idxOf_lt hn)).imp ?_
  rintro p _ hpq rfl
  have hp : p.names p.location p.product = true := Procurement.names_iff.2 ⟨rfl, rfl⟩
  exact Procurement.not_before_of_names hp hp hpq

/-! ## Every position once -/

namespace Proposal

/-- The transfers of a proposal that bring a product to a location. -/
def deliveries (proposal : Proposal α) (location product : String) : List (Transfer α) :=
  proposal.transfers.filter (serves location product)

/-- The procurements of a proposal that name a position. -/
def purchases (proposal : Proposal α) (location product : String) : List (Procurement α) :=
  proposal.procurements.filter (Procurement.names location product)

/-- How a proposal accounts for the recorded positions of a network. -/
structure Accounts (policy : RebalancingPolicy α) (stock : StockMap α) (locations : List String)
    (proposal : Proposal α) : Prop where
  /-- A deficit receives transfers, or it is procured once, up to the threshold; never both. -/
  deficit : ∀ location ∈ locations, ∀ product units,
    stock.recorded? location product = some units → units < policy.deficitThreshold →
    proposal.deliveries location product ≠ [] ∧ proposal.purchases location product = []
    ∨ proposal.deliveries location product = []
      ∧ proposal.purchases location product
        = [⟨location, product, policy.deficitThreshold - units⟩]
  /-- What is no deficit receives nothing. -/
  enough : ∀ location ∈ locations, ∀ product units,
    stock.recorded? location product = some units → ¬ units < policy.deficitThreshold →
    proposal.deliveries location product = [] ∧ proposal.purchases location product = []
  /-- Procured is only what no other location can spare: its stock is no surplus, or what it would
  give is too little. -/
  lastResort : ∀ q ∈ proposal.procurements, ∀ source ∈ locations, source ≠ q.location →
    ∀ units, stock.recorded? source q.product = some units → policy.surplusThreshold < units →
    policy.transferQuantity units ≤ policy.minTransferQuantity
  /-- Procured are recorded positions only. -/
  recorded : ∀ q ∈ proposal.procurements,
    q.location ∈ locations ∧ ∃ units, stock.recorded? q.location q.product = some units
  /-- Procurements come in the order of the locations, then of the products. -/
  ordered : proposal.procurements.Pairwise (Procurement.Before locations)

section
variable {policy : RebalancingPolicy α} {stock : StockMap α} {locations : List String}
  {now : Instant} {location product : String}

theorem deliveries_ne_nil_iff :
    (ofStock policy stock locations now).deliveries location product ≠ [] ↔
      location ∈ distinct locations ∧ stock.units location product < policy.deficitThreshold
        ∧ policy.Supplied stock (distinct locations) product location := by
  rw [← RebalancingPolicy.exists_transfer_iff, deliveries, Ne, List.filter_eq_nil_iff]
  simp only [not_forall, not_not, exists_prop]
  rfl

/-- What is supplied, or no deficit, is not procured. -/
theorem purchases_eq_nil
    (h : stock.units location product < policy.deficitThreshold →
      policy.Supplied stock (distinct locations) product location) :
    (ofStock policy stock locations now).purchases location product = [] := by
  refine List.filter_eq_nil_iff.2 ?_
  intro q hq hn
  obtain ⟨rfl, rfl⟩ := Procurement.names_iff.1 hn
  obtain ⟨_, _, hd, hs, _⟩ := RebalancingPolicy.mem_networkProcurements.1 hq
  exact hs (h hd)

/-- A recorded deficit that is not supplied is procured once. -/
theorem purchases_eq_singleton (hl : location ∈ distinct locations)
    (hr : product ∈ (stock.levels location).keys)
    (hd : stock.units location product < policy.deficitThreshold)
    (hs : ¬ policy.Supplied stock (distinct locations) product location) :
    (ofStock policy stock locations now).purchases location product
      = [⟨location, product, policy.deficitThreshold - stock.units location product⟩] := by
  refine filter_eq_singleton
    (policy.pairwise_networkProcurements stock (pairwise_idxOf_lt (nodup_distinct locations)))
    (fun _ _ => Procurement.not_before_of_names) ?_ ?_
  · exact RebalancingPolicy.mem_networkProcurements.2 ⟨hl, hr, hd, hs, rfl⟩
  · exact Procurement.names_iff.2 ⟨rfl, rfl⟩

end

/-- **Every recorded position is accounted for exactly once**, whatever the policy: a location may be
in surplus and in deficit of one product. However often a location is listed, it counts once, where it
is first listed. -/
theorem accounts_ofStock (policy : RebalancingPolicy α) (stock : StockMap α)
    (locations : List String) (now : Instant) :
    (ofStock policy stock locations now).Accounts policy stock locations where
  deficit := by
    intro location hl product units hr hd
    obtain rfl := StockMap.units_of_recorded? hr
    have hl := mem_distinct.2 hl
    by_cases hs : policy.Supplied stock (distinct locations) product location
    · exact .inl ⟨deliveries_ne_nil_iff.2 ⟨hl, hd, hs⟩, purchases_eq_nil fun _ => hs⟩
    · refine .inr ⟨?_, purchases_eq_singleton hl (Table.mem_keys_iff.2 ⟨_, hr⟩) hd hs⟩
      exact not_not.1 fun hne => hs (deliveries_ne_nil_iff.1 hne).2.2
  enough := by
    intro location _ product units hr hd
    obtain rfl := StockMap.units_of_recorded? hr
    refine ⟨?_, purchases_eq_nil fun hlt => absurd hlt hd⟩
    exact not_not.1 fun hne => hd (deliveries_ne_nil_iff.1 hne).2.1
  lastResort := by
    intro q hq source hm hne units hr hsurplus
    obtain rfl := StockMap.units_of_recorded? hr
    obtain ⟨_, _, _, hs, _⟩ := RebalancingPolicy.mem_networkProcurements.1 hq
    by_contra hquantity
    exact hs ⟨source, mem_distinct.2 hm, hne.symm, Table.mem_keys_iff.2 ⟨_, hr⟩, hsurplus, hquantity⟩
  recorded := by
    intro q hq
    obtain ⟨hl, hr, _⟩ := RebalancingPolicy.mem_networkProcurements.1 hq
    exact ⟨mem_distinct.1 hl, Table.mem_keys_iff.1 hr⟩
  ordered := policy.pairwise_networkProcurements stock (firstOccurrences_distinct locations).pairwise

end Proposal

end Restock
