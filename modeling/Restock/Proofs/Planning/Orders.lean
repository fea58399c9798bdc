import Restock.Proofs.Arithmetic.FloatUnits
import Restock.Proofs.Stocking.LotSize
import Restock.Proofs.Stocking.WholeUnits

/-!
# What the rules of a location order

Each rule of a location goes back to a listed product with demand, and orders what is left of its economic
order quantity in whole units (`Planner.exists_orders`). That is positive, but it can be less than one unit:
where holding a unit for a year costs more than it would to order every unit of demand twice, nothing is
left (`Planner.ordersUnits`). Such a rule is in force all the same (`Planner.ordersNothing_cheapOrders`).
-/

namespace Restock

open Observation

section
variable {α β : Type}

theorem skipping_eq_ok_some_iff {x : Planned α β} {b : β} :
    skipping x = .ok (some b) ↔ x = .ok b := by
  cases x with
  | ok b' => simp [skipping]
  | error e => cases h : e.skippable <;> simp [skipping, h]

end

namespace Planner

variable {α : Type} [Gaussian α]

theorem planOrSkip_eq_ok_some_iff {e : Planner α} {location product : String} {p : Parameters α}
    {plan : StockingPlan α} :
    e.source.planOrSkip e.settings e.now location p product = .ok (some plan)
      ↔ e.stockingPlan product location p = .ok plan := by
  show _ >>= _ = _ ↔ _ >>= _ = _
  rw [Planned.bind_eq_ok, Planned.bind_eq_ok]
  simp only [skipping_eq_ok_some_iff]
  rfl

/-- Every rule of a location is that of a plan for a listed product. -/
theorem exists_of_mem_reorderRules {e : Planner α} {location : String} {p : Parameters α}
    {review : Int} {rules : List (ReorderRule α)}
    (h : e.reorderRules location p review = .ok rules) {rule : ReorderRule α} (hr : rule ∈ rules) :
    ∃ products, e.source.listProducts location = .ok products ∧ ∃ product ∈ products, ∃ plan,
      e.stockingPlan product location p = .ok plan ∧ ReorderRule.ofPlan plan p review = .ok rule := by
  obtain ⟨products, hl, h⟩ := Planned.bind_eq_ok.1 h
  obtain ⟨batch, hb, h⟩ := Planned.bind_eq_ok.1 h
  obtain ⟨outcomes, ho, hb⟩ := Planned.bind_eq_ok.1 hb
  cases hb
  obtain ⟨plan, hp, hrule⟩ := exists_of_mem_mapM h hr
  obtain ⟨⟨product, made⟩, hz, hmade⟩ := List.mem_filterMap.1 hp
  obtain rfl : made = some plan := hmade
  refine ⟨products, hl, product, (List.of_mem_zip hz).1, plan, ?_, hrule⟩
  exact planOrSkip_eq_ok_some_iff.1 (List.forall₂_zip (mapM_eq_ok_iff.1 ho) hz)

/-- What a rule of a location goes back to: a product, its history and the order quantity for that. -/
structure Orders (e : Planner α) (location : String) (p : Parameters α) (rule : ReorderRule α)
    (history : List (Observation α)) (quantity : α) : Prop where
  active : rule.active = true
  automaticOrdering : rule.automaticOrdering = true
  listed : ∃ products, e.source.listProducts location = .ok products ∧ rule.product ∈ products
  demand : e.history rule.product location e.settings.optimizer.historyDays = .ok history
  selling : ¬ Scalar.mean (quantities history) * daysPerYear ≤ 0
  economic : economicOrderQuantity (Scalar.mean (quantities history) * daysPerYear) p.orderingCost
    p.holdingCostRate = .ok quantity
  units : Scalar.toInt? quantity = .ok rule.orderQuantity

theorem exists_orders {e : Planner α} {location : String} {p : Parameters α} {review : Int}
    {rules : List (ReorderRule α)} (h : e.reorderRules location p review = .ok rules)
    {rule : ReorderRule α} (hr : rule ∈ rules) :
    ∃ history quantity, e.Orders location p rule history quantity := by
  obtain ⟨products, hl, product, hm, plan, hplan, hrule⟩ := exists_of_mem_reorderRules h hr
  obtain ⟨history, hh, ho⟩ := Planned.bind_eq_ok.1 hplan
  have hproduct := (StockingPlan.labels_of_ofHistory ho).1
  have hmade := StockingPlan.made ho
  have hrule := ReorderRule.made hrule
  rw [← hproduct, ← hrule.product] at hm hh
  have heoq := hmade.orderQuantity
  rw [hmade.average] at heoq
  exact ⟨history, plan.orderQuantity, hrule.active, hrule.automaticOrdering, ⟨products, hl, hm⟩, hh,
    fun hd => (economicOrderQuantity_eq_ok_iff.1 heoq).1 (.inl hd), heoq, hrule.orderQuantity⟩

/-! ## Whole units -/

/-- A year is too short for a whole unit where holding one costs more than ordering twice its demand. -/
theorem one_le_economicOrderQuantity_iff {annual orderingCost holdingRate quantity : ℝ}
    (h : economicOrderQuantity annual orderingCost holdingRate = .ok quantity) :
    1 ≤ quantity ↔ holdingRate ≤ 2 * annual * orderingCost := by
  have hrate := (exists_economicOrderQuantity_iff.1 ⟨quantity, h⟩).2.2
  have hpos := economicOrderQuantity_pos h
  rw [← sq_economicOrderQuantity h, le_mul_iff_one_le_left hrate, one_le_sq_iff₀ hpos.le]

/-- **What an automatic rule orders** is the whole part of the economic order quantity. So it orders a unit
exactly if that quantity has one, in floats as in exact arithmetic; there it has none where holding a unit
for a year costs more than ordering twice the demand of a year unit by unit. -/
theorem ordersUnits :
    (∀ (e : Planner Float) (location : String) (p : Parameters Float) (review : Int)
        (rules : List (ReorderRule Float)),
      e.reorderRules location p review = .ok rules → ∀ rule ∈ rules, ∃ history quantity,
        e.Orders location p rule history quantity ∧ (1 ≤ rule.orderQuantity ↔ 1 ≤ quantity))
    ∧ ∀ (e : Planner ℝ) (location : String) (p : Parameters ℝ) (review : Int)
        (rules : List (ReorderRule ℝ)),
      e.reorderRules location p review = .ok rules → ∀ rule ∈ rules, ∃ history quantity,
        e.Orders location p rule history quantity ∧ (∃ o ∈ history, 0 < o.quantity)
          ∧ 0 ≤ rule.orderQuantity ∧ (1 ≤ rule.orderQuantity ↔ 1 ≤ quantity)
          ∧ (1 ≤ quantity ↔ p.holdingCostRate
              ≤ 2 * (Scalar.mean (quantities history) * 365) * p.orderingCost) := by
  constructor
  · intro e location p review rules h rule hr
    obtain ⟨history, quantity, ho⟩ := exists_orders h hr
    obtain ⟨hfinite, hunits⟩ := Scalar.toInt?_eq_ok_iff.1 ho.units
    refine ⟨history, quantity, ho, ?_⟩
    rw [hunits]
    exact Scalar.one_le_truncate_float_iff hfinite
  · intro e location p review rules h rule hr
    obtain ⟨history, quantity, ho⟩ := exists_orders h hr
    have hpos := economicOrderQuantity_pos ho.economic
    have hunits := Scalar.toInt?_of_nonneg hpos.le ho.units
    have hannual := (exists_economicOrderQuantity_iff.1 ⟨quantity, ho.economic⟩).1
    refine ⟨history, quantity, ho, ?_, ?_, ?_, ?_⟩
    · exact mean_quantities_pos_iff.1 ((pos_iff_pos_of_mul_pos hannual).2 daysPerYear_pos)
    · rw [hunits]
      exact Int.floor_nonneg.2 hpos.le
    · rw [hunits, Int.le_floor, Int.cast_one]
    · rw [one_le_economicOrderQuantity_iff ho.economic, daysPerYear, Scalar.ofNat_real]
      rfl

/-! ## Single sales -/

section
variable {e : Planner α} {product location : String} {p : Parameters α} {review : Int}
  {plan : StockingPlan α}

/-- The rules of a location with one product are the rule of that product. -/
theorem reorderRules_of_single {rule : ReorderRule α}
    (hl : e.source.listProducts location = .ok [product])
    (hplan : e.stockingPlan product location p = .ok plan)
    (hrule : ReorderRule.ofPlan plan p review = .ok rule) :
    e.reorderRules location p review = .ok [rule] := by
  have hmade := planOrSkip_eq_ok_some_iff.2 hplan
  have hbatch : e.source.planAll e.settings e.now location [product] p
      = .ok (.ofOutcomes [(product, some plan)]) := by
    unfold DemandSource.planAll
    rw [List.mapM_cons, hmade]
    rfl
  unfold reorderRules
  rw [hl, Planned.ok_bind, hbatch, Planned.ok_bind]
  show [plan].mapM _ = _
  rw [List.mapM_cons, hrule]
  rfl

end

/-- What a rule is cut from where a plan has no buffer. -/
def unbuffered (plan : StockingPlan Float) (p : Parameters Float) : List Float :=
  let reorderPoint := plan.averageDailyDemand * p.leadTimeDays + 0
  [reorderPoint, plan.orderQuantity, reorderPoint + plan.orderQuantity, p.leadTimeDays]

/-- Demand that does not vary takes no buffer, and so no quantile, in floats either. -/
theorem exists_rule_of_unvarying {e : Planner Float} {product location : String}
    {p : Parameters Float} {review : Int} {plan : StockingPlan Float}
    (hl : e.source.listProducts location = .ok [product])
    (hplan : e.stockingPlan product location p = .ok plan) (hdeviation : plan.demandDeviation = 0)
    (hfinite : ∀ x ∈ unbuffered plan p, Scalar.isFinite x = true) (hr : 1 ≤ review) :
    ∃ rule, e.reorderRules location p review = .ok [rule]
      ∧ rule.orderQuantity = Scalar.truncate plan.orderQuantity := by
  obtain ⟨history, _, hof⟩ := Planned.bind_eq_ok.1 hplan
  have hmade := StockingPlan.made hof
  have hlead := (StockingPlan.labels_of_ofHistory hof).2
  have hsafety : plan.safetyStock = 0 := by
    rw [hmade.safetyStock, hdeviation]
    exact if_neg (Scalar.not_pos_mul_zero_mul _ _)
  have hreorder : plan.reorderPoint = plan.averageDailyDemand * p.leadTimeDays + 0 := by
    rw [hmade.reorderPoint, hsafety]
  have hmax : plan.maxStock = plan.averageDailyDemand * p.leadTimeDays + 0 + plan.orderQuantity := by
    rw [hmade.maxStock, hreorder]
  have hcut : plan.IsFinite :=
    { reorderPoint := hreorder ▸ hfinite _ (by simp [unbuffered])
      orderQuantity := hfinite _ (by simp [unbuffered])
      maxStock := hmax ▸ hfinite _ (by simp [unbuffered])
      safetyStock := by
        rw [hsafety]
        rfl
      leadTimeDays := hlead ▸ hfinite _ (by simp [unbuffered]) }
  obtain ⟨rule, hrule⟩ := ReorderRule.exists_ofPlan hr hcut hlead
  have horder := (Scalar.toInt?_eq_ok_iff.1 (ReorderRule.made hrule).orderQuantity).2
  exact ⟨rule, reorderRules_of_single hl hplan hrule, horder⟩

/-- A planner of the depot that knows the sales of the last three days. -/
noncomputable def ofBolts {α : Type} [Scalar α] (sold : List (Observation α)) : Planner α where
  source := MemoryStore.source ⟨⟨[(("bolt", "depot"), sold)], List.nodup_singleton _⟩, .empty⟩
    boltDepot.now.day
  settings := { optimizer := { historyDays := 3 } }
  now := boltDepot.now

/-- The sale of a bolt, in floats. -/
noncomputable def oneBolt : List (Observation Float) :=
  [⟨boltSale.day, 1, by decide, by decide⟩]

/-- An order costs a cent; holding a unit for a year costs ten. -/
def cheapOrders : List (String × Raw Float) :=
  [(Field.orderingCost.key, .text "0.01"), (Field.holdingCostRate.key, .integer 10)]

/-- How many units the rule for the bolt orders is read off its plan. -/
theorem exists_rule_oneBolt (given : List (String × Raw Float)) (units : Int)
    (h : (Parameters.build given).toOption.any (fun p =>
      ((ofBolts oneBolt).stockingPlan "bolt" "depot" p).toOption.any fun plan =>
        decide (plan.demandDeviation = 0 ∧ (∀ x ∈ unbuffered plan p, Scalar.isFinite x = true)
          ∧ Scalar.truncate plan.orderQuantity = units)) = true) :
    ∃ p rule, Parameters.build given = .ok p
      ∧ (ofBolts oneBolt).reorderRules "depot" p 30 = .ok [rule] ∧ rule.orderQuantity = units := by
  obtain ⟨p, hp, h⟩ := exists_ok_of_any h
  obtain ⟨plan, hplan, h⟩ := exists_ok_of_any h
  obtain ⟨hdeviation, hfinite, hunits⟩ := of_decide_eq_true h
  obtain ⟨rule, hrule, horder⟩ :=
    exists_rule_of_unvarying rfl hplan hdeviation hfinite (by decide : (1 : Int) ≤ 30)
  exact ⟨p, rule, hp, hrule, horder.trans hunits⟩

/-- In exact arithmetic, where an order costs 730 and holding a unit costs one. -/
theorem exists_rule_dearOrders :
    ∃ rule, (ofBolts [boltSale]).reorderRules "depot" StockingPlan.dearOrders 30 = .ok [rule] := by
  have hs : historyStart? boltDepot.now.day 3 = some (january 6) := rfl
  have hf : (ofBolts [boltSale]).source.fetchHistory "bolt" "depot" 3 = .ok [boltSale] := by
    refine (MemoryStore.fetchHistory_eq _ hs).trans ?_
    simp [MemoryStore.since, MemoryStore.history, Table.get?, boltSale, january, Day.le_iff]
  have hh : (ofBolts [boltSale]).history "bolt" "depot" 3 = .ok [boltSale] :=
    history_eq hf (rfl : lookback? boltDepot.now.day 3 = some ⟨january 6, january 8⟩)
  obtain ⟨plan, h⟩ :=
    StockingPlan.exists_ofHistory_dearOrders ⟨boltSale, List.mem_singleton_self _, one_pos⟩
  obtain ⟨rule, hrule⟩ := ReorderRule.exists_ofPlan_real plan StockingPlan.dearOrders
    (by decide : (1 : Int) ≤ 30)
  refine ⟨rule, reorderRules_of_single rfl ?_ hrule⟩
  exact Planned.bind_eq_ok.2 ⟨_, hh, h⟩

/-- The rule for the bolt orders 382 units by the default costs. -/
theorem ordersUnits_oneBolt :
    (∃ p rule, Parameters.build [] = .ok p
      ∧ (ofBolts oneBolt).reorderRules "depot" p 30 = .ok [rule] ∧ rule.orderQuantity = 382
      ∧ ∃ history quantity, (ofBolts oneBolt).Orders "depot" p rule history quantity
        ∧ (1 ≤ rule.orderQuantity ↔ 1 ≤ quantity))
    ∧ ∃ rule, (ofBolts [boltSale]).reorderRules "depot" StockingPlan.dearOrders 30 = .ok [rule]
      ∧ ∃ history quantity,
        (ofBolts [boltSale]).Orders "depot" StockingPlan.dearOrders rule history quantity
        ∧ (1 ≤ rule.orderQuantity ↔ 1 ≤ quantity) := by
  obtain ⟨hfloat, hreal⟩ := ordersUnits
  constructor
  · obtain ⟨p, rule, hp, hrule, hunits⟩ := exists_rule_oneBolt [] 382 (by decide +kernel)
    exact ⟨p, rule, hp, hrule, hunits,
      hfloat _ "depot" p 30 _ hrule rule (List.mem_singleton_self rule)⟩
  · obtain ⟨rule, hrule⟩ := exists_rule_dearOrders
    obtain ⟨history, quantity, ho, _, _, hunits, _⟩ :=
      hreal _ "depot" _ 30 _ hrule rule (List.mem_singleton_self rule)
    exact ⟨rule, hrule, history, quantity, ho, hunits⟩

/-- **A rule can order nothing.** Where an order costs a cent and holding a unit costs ten a year, less
than a unit is best, and the rule for the bolt, which is in force, orders none. -/
theorem ordersNothing_cheapOrders :
    ∃ p rules, Parameters.build cheapOrders = .ok p
      ∧ (ofBolts oneBolt).reorderRules "depot" p 30 = .ok rules
      ∧ ∃ rule ∈ rules, rule.active = true ∧ rule.automaticOrdering = true
        ∧ rule.orderQuantity = 0 := by
  obtain ⟨p, rule, hp, hrule, hunits⟩ :=
    exists_rule_oneBolt cheapOrders 0 (by decide +kernel)
  have hm : rule ∈ [rule] := List.mem_singleton_self rule
  obtain ⟨_, _, ho⟩ := exists_orders hrule hm
  exact ⟨p, _, hp, hrule, rule, hm, ho.active, ho.automaticOrdering, hunits⟩

end Planner

end Restock
