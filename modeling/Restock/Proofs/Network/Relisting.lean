import Mathlib.Data.List.Perm.Basic
import Restock.Proofs.Network.Shipments

/-!
# Listing a network in another order

A network may be listed in any order, with any location named twice, and its stock may have been
recorded in any order. None of that has a part in what is decided: two listings of one network
(`StockMap.SameNetwork`) call for the same transfers (`SameNetwork.called`) and leave the same deficits
(`SameNetwork.supplied`), so the two proposals differ in the order of their lists alone
(`Proposal.sameOutcome_of_sameNetwork`).
-/

namespace Restock

variable {α : Type}

/-! ## Two listings of one network -/

/-- Two listings of one network: the same locations, in any order and each any number of times, with
the same stock on record at them. -/
structure StockMap.SameNetwork (stock : StockMap α) (locations : List String)
    (stock' : StockMap α) (locations' : List String) : Prop where
  listed : ∀ location, location ∈ locations ↔ location ∈ locations'
  recorded : ∀ location ∈ locations, ∀ product,
    stock.recorded? location product = stock'.recorded? location product

namespace StockMap.SameNetwork

section
variable {stock stock' : StockMap α} {locations locations' : List String}
  (h : stock.SameNetwork locations stock' locations')
include h

theorem symm : stock'.SameNetwork locations' stock locations where
  listed location := (h.listed location).symm
  recorded location hl product := (h.recorded location ((h.listed location).2 hl) product).symm

theorem distinct : stock.SameNetwork (distinct locations) stock' (Restock.distinct locations') where
  listed location := by
    rw [mem_distinct, mem_distinct, h.listed]
  recorded location hl := h.recorded location (mem_distinct.1 hl)

theorem mem_keys_iff {location : String} (hl : location ∈ locations) (product : String) :
    product ∈ (stock.levels location).keys ↔ product ∈ (stock'.levels location).keys := by
  have hr : (stock.levels location).get? product = (stock'.levels location).get? product :=
    h.recorded location hl product
  rw [Table.mem_keys_iff, Table.mem_keys_iff, hr]

theorem products_eq : stock.products locations = stock'.products locations' := by
  refine sortStrings_distinct_eq fun product => ?_
  simp only [List.mem_flatMap]
  constructor
  · rintro ⟨location, hl, hp⟩
    exact ⟨location, (h.listed location).1 hl, (h.mem_keys_iff hl product).1 hp⟩
  · rintro ⟨location, hl, hp⟩
    exact ⟨location, (h.listed location).2 hl, (h.symm.mem_keys_iff hl product).1 hp⟩

theorem positions_perm (hp : locations.Perm locations') :
    (stock.positions locations).Perm (stock'.positions locations') :=
  hp.flatMap fun location hl =>
    (Table.entries_perm (h.recorded location hl)).map Prod.snd

end

/-! ## What is decided -/

section
variable [Scalar α] {policy : RebalancingPolicy α} {stock stock' : StockMap α}
  {locations locations' : List String} (h : stock.SameNetwork locations stock' locations')
include h

theorem units_eq {location : String} (hl : location ∈ locations) (product : String) :
    stock.units location product = stock'.units location product := by
  rw [StockMap.units, StockMap.units, h.recorded location hl]

theorem called {t : Transfer α} (ht : policy.Called stock locations t) :
    policy.Called stock' locations' t where
  source := (h.listed _).1 ht.source
  destination := (h.listed _).1 ht.destination
  distinct := ht.distinct
  recorded := (h.mem_keys_iff ht.source _).1 ht.recorded
  called := by
    -- the rule reads the two stocks and nothing else
    have hc := ht.called
    rwa [RebalancingPolicy.transferBetween?, h.units_eq ht.source, h.units_eq ht.destination] at hc

theorem mem_networkTransfers_iff {t : Transfer α} :
    t ∈ policy.networkTransfers stock locations ↔ t ∈ policy.networkTransfers stock' locations' := by
  rw [RebalancingPolicy.mem_networkTransfers, RebalancingPolicy.mem_networkTransfers]
  exact ⟨h.called, h.symm.called⟩

theorem supplied {product location : String}
    (hs : policy.Supplied stock locations product location) :
    policy.Supplied stock' locations' product location := by
  obtain ⟨source, hm, hne, hr, hsurplus, hquantity⟩ := hs
  rw [h.units_eq hm] at hsurplus hquantity
  exact ⟨source, (h.listed source).1 hm, hne, (h.mem_keys_iff hm product).1 hr, hsurplus,
    hquantity⟩

theorem procured {q : Procurement α} (hq : q ∈ policy.networkProcurements stock locations) :
    q ∈ policy.networkProcurements stock' locations' := by
  obtain ⟨hl, hr, hd, hs, hquantity⟩ := RebalancingPolicy.mem_networkProcurements.1 hq
  rw [h.units_eq hl] at hd hquantity
  exact RebalancingPolicy.mem_networkProcurements.2 ⟨(h.listed _).1 hl,
    (h.mem_keys_iff hl _).1 hr, hd, fun hs' => hs (h.symm.supplied hs'), hquantity⟩

end

end StockMap.SameNetwork

variable [Scalar α]

/-! ## Lists in another order -/

/-- Where the order of two summands does not count, neither does the order of a list. -/
theorem Scalar.sum_perm (hadd : ∀ a b c : α, a + b + c = a + c + b) {xs ys : List α}
    (h : xs.Perm ys) : Scalar.sum xs = Scalar.sum ys :=
  h.foldl_eq' (fun b _ c _ a => hadd a b c) 0

theorem RebalancingPolicy.efficiency_perm (policy : RebalancingPolicy α) {positions positions' : List α}
    (h : positions.Perm positions') : policy.efficiency positions = policy.efficiency positions' := by
  rw [efficiency, efficiency, h.isEmpty_eq, h.countP_eq, h.length_eq]

/-! ## The two proposals -/

namespace Proposal

/-- Two proposals that decide the same, in whatever order they list it. -/
structure SameOutcome (proposal proposal' : Proposal α) : Prop where
  locations : proposal.locations.Perm proposal'.locations
  products : proposal.products = proposal'.products
  efficiency : proposal.efficiency = proposal'.efficiency
  transfers : proposal.transfers.Perm proposal'.transfers
  procurements : proposal.procurements.Perm proposal'.procurements
  /-- The savings are added up in the order of the transfers, so they agree where that order does not
  count, as in exact arithmetic. -/
  savings : (∀ a b c : α, a + b + c = a + c + b) → proposal.savings = proposal'.savings

/-- A proposal that lists everything once, in the order of its own locations. -/
structure InOrder (proposal : Proposal α) : Prop where
  locations : proposal.locations.Nodup
  transfers : proposal.transfers.Nodup
  procurements : proposal.procurements.Nodup
  transfersSorted : proposal.transfers.Pairwise fun s t =>
    Transfer.notAfter proposal.locations s t = true
  procurementsSorted : proposal.procurements.Pairwise (Procurement.Before proposal.locations)

theorem inOrder_ofStock (policy : RebalancingPolicy α) (stock : StockMap α)
    (locations : List String) (now : Instant) : (ofStock policy stock locations now).InOrder where
  locations := nodup_distinct locations
  transfers := RebalancingPolicy.nodup_networkTransfers (nodup_distinct locations)
  procurements := RebalancingPolicy.nodup_networkProcurements (nodup_distinct locations)
  transfersSorted := List.pairwise_mergeSort Transfer.notAfter_trans Transfer.notAfter_total _
  procurementsSorted :=
    policy.pairwise_networkProcurements stock (pairwise_idxOf_lt (nodup_distinct locations))

/-- **What is proposed does not depend on how the network is listed**: not on the order of its
locations or on how often each is named, nor on the order in which their stock was recorded or on what
is recorded elsewhere. Only the order of the lists follows the order given. -/
theorem sameOutcome_of_sameNetwork (policy : RebalancingPolicy α) {stock stock' : StockMap α}
    {locations locations' : List String}
    (hl : ∀ location, location ∈ locations ↔ location ∈ locations')
    (hr : ∀ location ∈ locations, ∀ product,
      stock.recorded? location product = stock'.recorded? location product) (now now' : Instant) :
    (ofStock policy stock locations now).SameOutcome (ofStock policy stock' locations' now')
      ∧ (ofStock policy stock locations now).InOrder
      ∧ (ofStock policy stock' locations' now').InOrder := by
  have h : stock.SameNetwork (distinct locations) stock' (distinct locations') :=
    StockMap.SameNetwork.distinct ⟨hl, hr⟩
  have hn := nodup_distinct locations
  have hn' := nodup_distinct locations'
  have htransfers : (policy.networkTransfers stock (distinct locations)).Perm
      (policy.networkTransfers stock' (distinct locations')) :=
    (List.perm_ext_iff_of_nodup (RebalancingPolicy.nodup_networkTransfers hn)
      (RebalancingPolicy.nodup_networkTransfers hn')).2 fun _ => h.mem_networkTransfers_iff
  have hprocurements : (policy.networkProcurements stock (distinct locations)).Perm
      (policy.networkProcurements stock' (distinct locations')) :=
    (List.perm_ext_iff_of_nodup (RebalancingPolicy.nodup_networkProcurements hn)
      (RebalancingPolicy.nodup_networkProcurements hn')).2 fun _ => ⟨h.procured, h.symm.procured⟩
  refine ⟨?_, inOrder_ofStock policy stock locations now,
    inOrder_ofStock policy stock' locations' now'⟩
  exact
    { locations := distinct_perm hl
      products := h.products_eq
      efficiency := policy.efficiency_perm (h.positions_perm (distinct_perm hl))
      transfers := htransfers
      procurements := hprocurements
      savings := fun hadd => Scalar.sum_perm hadd (htransfers.map _) }

/-! ## A depot listed twice -/

/-- Bolts at a depot, nuts there and at a shop; the depot comes first. -/
noncomputable def depotFirst : StockMap ℝ :=
  (Table.empty.put "depot" ((Table.empty.put "bolt" 130).put "nut" 60)).put "north"
    (Table.empty.put "nut" 20)

/-- The same, recorded in another order, next to a shop that is not asked about. -/
noncomputable def northFirst : StockMap ℝ :=
  ((Table.empty.put "south" (Table.empty.put "bolt" 900)).put "north"
    (Table.empty.put "nut" 20)).put "depot" ((Table.empty.put "nut" 60).put "bolt" 130)

theorem recorded?_depotFirst :
    ∀ location ∈ ["depot", "north", "depot"], ∀ product,
      depotFirst.recorded? location product = northFirst.recorded? location product := by
  intro location hl product
  simp only [List.mem_cons, List.not_mem_nil, or_false] at hl
  obtain rfl | rfl | rfl := hl <;> by_cases hp : product = "bolt" <;>
    simp [depotFirst, northFirst, StockMap.recorded?, StockMap.levels, Table.get?_put, hp]

/-- Naming the depot twice, or after the shop, changes neither the proposal nor what it saves. -/
theorem sameOutcome_depotTwice :
    let proposal := ofStock {} depotFirst ["depot", "north", "depot"] stocktaking
    let proposal' := ofStock {} northFirst ["north", "depot"] stocktaking
    proposal.SameOutcome proposal' ∧ proposal.savings = proposal'.savings := by
  have hl : ∀ location, location ∈ ["depot", "north", "depot"] ↔ location ∈ ["north", "depot"] := by
    simp [or_comm]
  obtain ⟨h, _⟩ := sameOutcome_of_sameNetwork {} hl recorded?_depotFirst stocktaking stocktaking
  exact ⟨h, h.savings add_right_comm⟩

end Proposal

end Restock
