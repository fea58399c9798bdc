import Mathlib.Data.List.Induction
import Mathlib.Data.List.Nodup
import Restock.Proofs.Network.Index

/-!
# Transfers as a scan over ordered pairs of locations

The rule for transfers speaks of two locations and one product, so its plain reading is a scan over
all ordered pairs of locations and all products (`RebalancingPolicy.pairScan`), each location taken once
and where it is first listed (`FirstOccurrences`). The library matches the two sides of an index product
by product instead, and sorts what it finds. The two lists are the same one: they have the same members (`mem_matched`, `mem_pairScan`), no member twice
(`nodup_matched`, `nodup_pairScan`), and the same order (`pairwise_pairScan`).
-/

namespace Restock

/-! ## Lists with a key -/

theorem nodup_flatMap_of_key {κ β : Type} {ks : List κ} {f : κ → List β} (key : β → κ)
    (hn : ks.Nodup) (hf : ∀ k ∈ ks, (f k).Nodup) (hk : ∀ k ∈ ks, ∀ b ∈ f k, key b = k) :
    (ks.flatMap f).Nodup := by
  refine List.nodup_flatMap.2 ⟨hf, List.Pairwise.imp_of_mem ?_ hn⟩
  intro j k hj hkm hne b hbj hbk
  exact hne ((hk j hj b hbj).symm.trans (hk k hkm b hbk))

/-- In a list without repetitions, what comes later has the later place. -/
theorem pairwise_idxOf_lt {xs : List String} (hn : xs.Nodup) :
    xs.Pairwise fun a b => xs.idxOf a < xs.idxOf b := by
  refine List.pairwise_iff_getElem.2 ?_
  intro i j hi hj hij
  rw [hn.idxOf_getElem, hn.idxOf_getElem]
  exact hij

/-! ## First occurrences -/

/-- A list that has the members of another, each of them once, in the order in which they first occur
there. -/
structure FirstOccurrences (order xs : List String) : Prop where
  mem_iff : ∀ a, a ∈ order ↔ a ∈ xs
  pairwise : order.Pairwise fun a b => xs.idxOf a < xs.idxOf b

theorem distinct_concat (xs : List String) (a : String) :
    distinct (xs ++ [a]) = if a ∈ xs then distinct xs else distinct xs ++ [a] := by
  rw [distinct, distinct, List.eraseDups_append]
  split
  · next h => simp [List.removeAll, h]
  · next h => simp [List.removeAll, h, List.eraseDups_cons]

theorem firstOccurrences_distinct (xs : List String) : FirstOccurrences (distinct xs) xs where
  mem_iff _ := mem_distinct
  pairwise := by
    induction xs using List.reverseRecOn with
    | nil => exact .nil
    | append_singleton xs a ih =>
        -- what is added at the end leaves the others in their places
        have hplace {b : String} (hb : b ∈ xs) : (xs ++ [a]).idxOf b = xs.idxOf b :=
          List.idxOf_append_of_mem hb
        have hold : (distinct xs).Pairwise fun b c => (xs ++ [a]).idxOf b < (xs ++ [a]).idxOf c := by
          refine ih.imp_of_mem fun hb hc hlt => ?_
          rwa [hplace (mem_distinct.1 hb), hplace (mem_distinct.1 hc)]
        rw [distinct_concat]
        split
        · exact hold
        · next ha =>
            refine List.pairwise_append.2 ⟨hold, List.pairwise_singleton _ _, ?_⟩
            intro b hb c hc
            obtain rfl := List.mem_singleton.1 hc
            have hb := mem_distinct.1 hb
            rw [hplace hb, List.idxOf_append_of_notMem ha]
            exact Nat.lt_add_right _ (List.idxOf_lt_length_of_mem hb)

namespace FirstOccurrences
variable {order order' xs : List String}

theorem nodup (h : FirstOccurrences order xs) : order.Nodup := by
  refine h.pairwise.imp ?_
  rintro a _ hlt rfl
  exact Nat.lt_irrefl _ hlt

theorem unique (h : FirstOccurrences order xs) (h' : FirstOccurrences order' xs) :
    order = order' := by
  have hperm : order.Perm order' := (List.perm_ext_iff_of_nodup h.nodup h'.nodup).2 fun a =>
    (h.mem_iff a).trans (h'.mem_iff a).symm
  exact hperm.eq_of_pairwise (fun _ _ _ _ hab hba => absurd hba (Nat.lt_asymm hab)) h.pairwise
    h'.pairwise

end FirstOccurrences

theorem firstOccurrences_iff {order xs : List String} :
    FirstOccurrences order xs ↔ order = distinct xs := by
  constructor
  · exact fun h => h.unique (firstOccurrences_distinct xs)
  · rintro rfl
    exact firstOccurrences_distinct xs

variable {α : Type}

/-! ## The order of transfers -/

namespace Transfer

theorem notAfter_iff {locations : List String} {s t : Transfer α} :
    notAfter locations s t = true ↔
      locations.idxOf s.source < locations.idxOf t.source
      ∨ locations.idxOf s.source = locations.idxOf t.source
        ∧ (locations.idxOf s.destination < locations.idxOf t.destination
          ∨ locations.idxOf s.destination = locations.idxOf t.destination
            ∧ s.product ≤ t.product) := by
  unfold notAfter
  by_cases h₁ : locations.idxOf s.source = locations.idxOf t.source
  · by_cases h₂ : locations.idxOf s.destination = locations.idxOf t.destination
    · simp [h₁, h₂]
    · simp [h₁, h₂]
  · simp [h₁]

theorem notAfter_trans {locations : List String} (r s t : Transfer α)
    (hrs : notAfter locations r s = true) (hst : notAfter locations s t = true) :
    notAfter locations r t = true := by
  rw [notAfter_iff] at *
  -- only when all places agree does the order of the products decide
  rcases hrs with h₁ | ⟨h₁, h₂ | ⟨h₂, h₃⟩⟩ <;> rcases hst with k₁ | ⟨k₁, k₂ | ⟨k₂, k₃⟩⟩
  case inr.inr.inr.inr => exact .inr ⟨by omega, .inr ⟨by omega, String.le_trans h₃ k₃⟩⟩
  all_goals omega

theorem notAfter_total {locations : List String} (s t : Transfer α) :
    (notAfter locations s t || notAfter locations t s) = true := by
  rw [Bool.or_eq_true, notAfter_iff, notAfter_iff]
  rcases Nat.lt_trichotomy (locations.idxOf s.source) (locations.idxOf t.source) with h | h | h
  · exact .inl (.inl h)
  · rcases Nat.lt_trichotomy (locations.idxOf s.destination) (locations.idxOf t.destination)
      with k | k | k
    · exact .inl (.inr ⟨h, .inl k⟩)
    · rcases String.le_total s.product t.product with hp | hp
      · exact .inl (.inr ⟨h, .inr ⟨k, hp⟩⟩)
      · exact .inr (.inr ⟨h.symm, .inr ⟨k.symm, hp⟩⟩)
    · exact .inr (.inr ⟨h.symm, .inl k⟩)
  · exact .inr (.inl h)

/-- Two transfers neither of which comes after the other agree on the pair of locations and the
product, provided that their locations are listed. -/
theorem key_eq_of_notAfter {locations : List String} {s t : Transfer α}
    (hs : s.source ∈ locations) (hd : s.destination ∈ locations)
    (hst : notAfter locations s t = true) (hts : notAfter locations t s = true) :
    s.source = t.source ∧ s.destination = t.destination ∧ s.product = t.product := by
  rw [notAfter_iff] at hst hts
  rcases hst with h₁ | ⟨h₁, h₂ | ⟨h₂, h₃⟩⟩
  · omega
  · omega
  · rcases hts with k₁ | ⟨_, k₂ | ⟨_, k₃⟩⟩
    · omega
    · omega
    · exact ⟨(List.idxOf_inj hs).1 h₁, (List.idxOf_inj hd).1 h₂, String.le_antisymm h₃ k₃⟩

end Transfer

variable [Scalar α]

/-! ## The plain reading of the rule -/

namespace RebalancingPolicy

/-- The transfer of a product that the rule calls for between two locations, if it calls for one. -/
def transferBetween? (policy : RebalancingPolicy α) (stock : StockMap α)
    (source destination product : String) : Option (Transfer α) :=
  let held := stock.units source product
  let there := stock.units destination product
  let quantity := Scalar.min (held * policy.transferFraction) policy.maxTransferQuantity
  if policy.surplusThreshold < held ∧ there < policy.deficitThreshold
      ∧ ¬ quantity ≤ policy.minTransferQuantity then
    some {
      source, destination, product, quantity
      cost := quantity * policy.transferCostPerUnit
      benefit := quantity * policy.benefitPerUnit
      urgency := if there ≤ 0 then policy.emptyDestinationUrgency else policy.urgency
      reason := policy.reason }
  else none

/-- The transfers of a network, pair by pair: for each location, for each other one, for each product
recorded at the first, in the order of their code points. -/
def pairScan (policy : RebalancingPolicy α) (stock : StockMap α) (locations : List String) :
    List (Transfer α) :=
  locations.flatMap fun source =>
    (locations.filter (· ≠ source)).flatMap fun destination =>
      (sortStrings (stock.levels source).keys).filterMap
        (policy.transferBetween? stock source destination)

section
variable {policy : RebalancingPolicy α} {stock : StockMap α}

theorem transferBetween?_eq_some {source destination product : String} {t : Transfer α} :
    policy.transferBetween? stock source destination product = some t ↔
      (policy.surplusThreshold < stock.units source product
        ∧ stock.units destination product < policy.deficitThreshold
        ∧ ¬ policy.transferQuantity (stock.units source product) ≤ policy.minTransferQuantity)
      ∧ policy.transfer stock source destination product
          (policy.transferQuantity (stock.units source product)) = t := by
  simp only [transferBetween?, transferQuantity, transfer]
  split
  · next h => simp only [Option.some.injEq, h, not_false_eq_true, and_self, true_and]
  · next h => simp only [h, false_and, reduceCtorEq]

theorem key_of_transferBetween? {source destination product : String} {t : Transfer α}
    (h : policy.transferBetween? stock source destination product = some t) :
    t.source = source ∧ t.destination = destination ∧ t.product = product := by
  rw [transferBetween?_eq_some] at h
  rw [← h.2]
  exact ⟨rfl, rfl, rfl⟩

/-- A transfer of a network: it runs between two of its locations, of a product recorded at the first,
and it is the one that the rule calls for there. -/
structure Called (policy : RebalancingPolicy α) (stock : StockMap α) (locations : List String)
    (t : Transfer α) : Prop where
  source : t.source ∈ locations
  destination : t.destination ∈ locations
  distinct : t.destination ≠ t.source
  recorded : t.product ∈ (stock.levels t.source).keys
  called : policy.transferBetween? stock t.source t.destination t.product = some t

variable {locations : List String}

theorem mem_pairScan {t : Transfer α} :
    t ∈ policy.pairScan stock locations ↔ policy.Called stock locations t := by
  simp only [pairScan, List.mem_flatMap, List.mem_filterMap, List.mem_filter, mem_sortStrings,
    decide_eq_true_eq]
  constructor
  · rintro ⟨source, hs, destination, ⟨hd, hne⟩, product, hp, h⟩
    obtain ⟨rfl, rfl, rfl⟩ := key_of_transferBetween? h
    exact ⟨hs, hd, hne, hp, h⟩
  · intro h
    exact ⟨_, h.source, _, ⟨h.destination, h.distinct⟩, _, h.recorded, h.called⟩

/-! ## The two lists have the same members -/

/-- What the library matches by its index, before it is sorted. -/
def matched (policy : RebalancingPolicy α) (stock : StockMap α) (locations : List String) :
    List (Transfer α) :=
  let products := stock.products locations
  products.flatMap (policy.transfersOf stock (stock.imbalances policy locations products))

theorem inSurplus_iff {product location : String} :
    stock.inSurplus policy product location = true ↔
      product ∈ (stock.levels location).keys
        ∧ policy.surplusThreshold < stock.units location product := by
  rw [Table.mem_keys_iff]
  unfold StockMap.inSurplus StockMap.units StockMap.recorded?
  cases (stock.levels location).get? product with
  | none => simp
  | some units => simp

/-- What the index lists under surplus. -/
theorem mem_surplus_iff {product location : String} (hp : product ∈ stock.products locations) :
    location ∈ (stock.imbalances policy locations
        (stock.products locations)).surplus.locations product ↔
      location ∈ locations ∧ product ∈ (stock.levels location).keys
        ∧ policy.surplusThreshold < stock.units location product := by
  rw [(stock.indexes_imbalances policy locations).surplus product hp, List.mem_filter,
    inSurplus_iff]

/-- What the index lists under deficit. -/
theorem mem_deficit_iff {product location : String} (hp : product ∈ stock.products locations) :
    location ∈ (stock.imbalances policy locations
        (stock.products locations)).deficit.locations product ↔
      location ∈ locations ∧ stock.units location product < policy.deficitThreshold := by
  rw [(stock.indexes_imbalances policy locations).deficit product hp, List.mem_filter,
    StockMap.inDeficit, decide_eq_true_eq]

theorem mem_transfersFrom {deficit : List String} {product source : String} {t : Transfer α} :
    t ∈ policy.transfersFrom stock deficit product source ↔
      ¬ policy.transferQuantity (stock.units source product) ≤ policy.minTransferQuantity
      ∧ ∃ destination ∈ deficit, destination ≠ source
        ∧ policy.transfer stock source destination product
            (policy.transferQuantity (stock.units source product)) = t := by
  unfold transfersFrom
  by_cases h : policy.transferQuantity (stock.units source product) ≤ policy.minTransferQuantity
  · simp [h]
  · simp [h, and_assoc]

theorem mem_matched {t : Transfer α} :
    t ∈ policy.matched stock locations ↔ policy.Called stock locations t := by
  simp only [matched, transfersOf, List.mem_flatMap, mem_transfersFrom]
  constructor
  · rintro ⟨product, hp, source, hs, hq, destination, hd, hne, rfl⟩
    obtain ⟨hs, hr, hsurplus⟩ := (mem_surplus_iff hp).1 hs
    obtain ⟨hd, hdeficit⟩ := (mem_deficit_iff hp).1 hd
    exact ⟨hs, hd, hne, hr, transferBetween?_eq_some.2 ⟨⟨hsurplus, hdeficit, hq⟩, rfl⟩⟩
  · intro h
    obtain ⟨⟨hs, hd, hq⟩, ht⟩ := transferBetween?_eq_some.1 h.called
    have hp : t.product ∈ stock.products locations :=
      StockMap.mem_products.2 ⟨t.source, h.source, h.recorded⟩
    exact ⟨t.product, hp, t.source, (mem_surplus_iff hp).2 ⟨h.source, h.recorded, hs⟩, hq,
      t.destination, (mem_deficit_iff hp).2 ⟨h.destination, hd⟩, h.distinct, ht⟩

/-! ## No transfer occurs twice -/

theorem nodup_transfersFrom {deficit : List String} (hn : deficit.Nodup) (product source : String) :
    (policy.transfersFrom stock deficit product source).Nodup := by
  unfold transfersFrom
  dsimp only
  split
  · exact List.nodup_nil
  · refine (hn.filter _).map ?_
    intro a b hab
    exact congrArg Transfer.destination hab

theorem nodup_matched (hn : locations.Nodup) : (policy.matched stock locations).Nodup := by
  have index := stock.indexes_imbalances policy locations
  refine nodup_flatMap_of_key Transfer.product (stock.nodup_products locations) ?_ ?_
  · intro product hp
    rw [transfersOf, index.surplus product hp, index.deficit product hp]
    refine nodup_flatMap_of_key Transfer.source (hn.filter _) ?_ ?_
    · intro source _
      exact nodup_transfersFrom (hn.filter _) product source
    · intro source _ t ht
      obtain ⟨_, _, _, _, rfl⟩ := mem_transfersFrom.1 ht
      rfl
  · intro product _ t ht
    obtain ⟨source, _, ht⟩ := List.mem_flatMap.1 ht
    obtain ⟨_, _, _, _, rfl⟩ := mem_transfersFrom.1 ht
    rfl

theorem nodup_pairScan (hn : locations.Nodup) : (policy.pairScan stock locations).Nodup := by
  refine nodup_flatMap_of_key Transfer.source hn ?_ ?_
  · intro source _
    refine nodup_flatMap_of_key Transfer.destination (hn.filter _) ?_ ?_
    · intro destination _
      have hk : (sortStrings (stock.levels source).keys).Nodup :=
        (sortStrings_perm _).nodup_iff.2 (stock.levels source).nodup
      refine hk.filterMap ?_
      intro a b t ha hb
      exact (key_of_transferBetween? ha).2.2.symm.trans (key_of_transferBetween? hb).2.2
    · intro destination _ t ht
      obtain ⟨product, _, ht⟩ := List.mem_filterMap.1 ht
      exact (key_of_transferBetween? ht).2.1
  · intro source _ t ht
    obtain ⟨destination, _, ht⟩ := List.mem_flatMap.1 ht
    obtain ⟨product, _, ht⟩ := List.mem_filterMap.1 ht
    exact (key_of_transferBetween? ht).1

/-! ## The two lists have the same order -/

theorem pairwise_pairScan (hn : locations.Nodup) :
    (policy.pairScan stock locations).Pairwise
      fun s t => Transfer.notAfter locations s t = true := by
  refine List.pairwise_flatMap.2 ⟨?_, ?_⟩
  · intro source _
    refine List.pairwise_flatMap.2 ⟨?_, ?_⟩
    · intro destination _
      refine List.pairwise_filterMap.2 ((sortStrings_sorted _).imp ?_)
      intro p q hpq s hs t ht
      obtain ⟨hs₁, hs₂, hs₃⟩ := key_of_transferBetween? hs
      obtain ⟨ht₁, ht₂, ht₃⟩ := key_of_transferBetween? ht
      rw [Transfer.notAfter_iff, hs₁, hs₂, hs₃, ht₁, ht₂, ht₃]
      exact .inr ⟨rfl, .inr ⟨rfl, hpq⟩⟩
    · refine ((pairwise_idxOf_lt hn).filter _).imp ?_
      intro d e hde s hs t ht
      obtain ⟨_, _, hs⟩ := List.mem_filterMap.1 hs
      obtain ⟨_, _, ht⟩ := List.mem_filterMap.1 ht
      obtain ⟨hs₁, hs₂, _⟩ := key_of_transferBetween? hs
      obtain ⟨ht₁, ht₂, _⟩ := key_of_transferBetween? ht
      rw [Transfer.notAfter_iff, hs₁, hs₂, ht₁, ht₂]
      exact .inr ⟨rfl, .inl hde⟩
  · refine (pairwise_idxOf_lt hn).imp ?_
    intro a b hab s hs t ht
    obtain ⟨_, _, hs⟩ := List.mem_flatMap.1 hs
    obtain ⟨_, _, ht⟩ := List.mem_flatMap.1 ht
    obtain ⟨_, _, hs⟩ := List.mem_filterMap.1 hs
    obtain ⟨_, _, ht⟩ := List.mem_filterMap.1 ht
    rw [Transfer.notAfter_iff, (key_of_transferBetween? hs).1, (key_of_transferBetween? ht).1]
    exact .inl hab

end

end RebalancingPolicy

/-- **The transfers of a proposal are those of the scan over ordered pairs**, one by one and in the
same order, whatever the policy: a location may be in surplus and in deficit of one product. The scan
takes the listed locations in the one order of their first occurrences. -/
theorem Proposal.transfers_ofStock (policy : RebalancingPolicy α) (stock : StockMap α)
    (locations : List String) (now : Instant) :
    ∃ order, (∀ listed, FirstOccurrences listed locations ↔ listed = order)
      ∧ (Proposal.ofStock policy stock locations now).transfers = policy.pairScan stock order := by
  refine ⟨distinct locations, fun _ => firstOccurrences_iff, ?_⟩
  have hn := nodup_distinct locations
  -- both lists are sorted by pair and product, and these determine a transfer of the network
  refine List.Perm.eq_of_pairwise ?_ ?_ (RebalancingPolicy.pairwise_pairScan hn) ?_
  · -- two transfers that are level have one key, and the rule calls for one transfer under it
    intro s t hs ht hst hts
    have hs := RebalancingPolicy.mem_matched.1 ((List.mergeSort_perm _ _).mem_iff.1 hs)
    have ht := RebalancingPolicy.mem_pairScan.1 ht
    obtain ⟨h₁, h₂, h₃⟩ := Transfer.key_eq_of_notAfter hs.source hs.destination hst hts
    have hc := hs.called
    rw [h₁, h₂, h₃, ht.called] at hc
    exact (Option.some.inj hc).symm
  · exact List.pairwise_mergeSort Transfer.notAfter_trans Transfer.notAfter_total _
  · refine (List.mergeSort_perm _ _).trans ?_
    refine (List.perm_ext_iff_of_nodup (RebalancingPolicy.nodup_matched hn)
      (RebalancingPolicy.nodup_pairScan hn)).2 ?_
    intro t
    exact RebalancingPolicy.mem_matched.trans RebalancingPolicy.mem_pairScan.symm

end Restock
