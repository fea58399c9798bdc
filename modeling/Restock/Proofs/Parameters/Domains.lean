import Restock.Proofs.Arithmetic.Exact
import Restock.Proofs.Arithmetic.Floats
import Restock.Proofs.Parameters.Reading

/-!
# What built parameters are like

A single number is let in by being inside its domain, a factor or a capacity by not being below zero.
Of floats the first excludes the value that is not a number, and the second does not. So parameters
that were built lie in their domains exactly when no factor and no capacity is that value; nothing else
can take them out (`Parameters.build_inDomain`).
-/

namespace Restock

theorem exists_ok_of_any {ε β : Type} {x : Except ε β} {P : β → Bool}
    (h : x.toOption.any P = true) : ∃ b, x = .ok b ∧ P b = true := by
  cases x with
  | error e => cases h
  | ok b => exact ⟨b, rfl, h⟩

variable {α : Type} [Scalar α]

namespace Parameters

/-- Parameters in their domains. What is asked of each factor and each capacity is left open. -/
structure InDomain (entry : α → Prop) (p : Parameters α) : Prop where
  targetServiceLevel : 0 < p.targetServiceLevel ∧ p.targetServiceLevel < 1
  holdingCostRate : 0 < p.holdingCostRate
  orderingCost : 0 < p.orderingCost
  leadTimeDays : 0 < p.leadTimeDays
  stockoutCost : 0 ≤ p.stockoutCost
  leadTimeVariability : 0 ≤ p.leadTimeVariability
  demandVariability : 0 ≤ p.demandVariability
  maxInventoryInvestment : ∀ limit ∈ p.maxInventoryInvestment, 0 ≤ limit
  twelveFactors : p.seasonalityFactors.toList.length = 12
  seasonalityFactors : ∀ factor ∈ p.seasonalityFactors.toList, entry factor
  storageConstraints : ∀ capacity ∈ p.storageConstraints.values, entry capacity

/-- The single numbers that have to lie in a domain. -/
def bounded (p : Parameters α) : List α :=
  [p.targetServiceLevel, p.holdingCostRate, p.orderingCost, p.leadTimeDays, p.stockoutCost,
   p.leadTimeVariability, p.demandVariability] ++ p.maxInventoryInvestment.toList

/-- The factors and the capacities. -/
def listed (p : Parameters α) : List α :=
  p.seasonalityFactors.toList ++ p.storageConstraints.values

theorem InDomain.of_entries {p : Parameters α} {entry entry' : α → Prop} (h : p.InDomain entry)
    (he : ∀ x ∈ p.listed, entry x → entry' x) : p.InDomain entry' :=
  { h with
    seasonalityFactors := fun x hx =>
      he x (List.mem_append_left _ hx) (h.seasonalityFactors x hx)
    storageConstraints := fun x hx =>
      he x (List.mem_append_right _ hx) (h.storageConstraints x hx) }

theorem InDomain.entry_of_mem {p : Parameters α} {entry : α → Prop} (h : p.InDomain entry) {x : α}
    (hx : x ∈ p.listed) : entry x :=
  (List.mem_append.1 hx).elim (h.seasonalityFactors x) (h.storageConstraints x)

end Parameters

/-! ## Readers -/

theorem numberIn?_admits {domain : Domain} {r : Raw α} {x : α}
    (h : rejecting (Raw.numberIn? domain) r = .ok x) : domain.Admits x := by
  obtain ⟨_, _, h⟩ := Planned.bind_eq_ok.1 (mapError_eq_ok_iff.1 h)
  obtain ⟨ha, rfl⟩ := Domain.check_eq_ok_iff.1 h
  exact ha

theorem optionalIn?_eq_ok_some {domain : Domain} {r : Raw α} {x : α}
    (h : r.optionalIn? domain = .ok (some x)) : r.numberIn? domain = .ok x := by
  have hr : ∀ y : Except Rejection α, y.map some = .ok (some x) → y = .ok x := by
    rintro (reason | y) hy
    · cases hy
    · cases hy
      rfl
  cases r with
  | null => cases h
  | _ => exact hr _ h

theorem optionalIn?_admits {domain : Domain} {r : Raw α} {limit : Option α}
    (h : rejecting (Raw.optionalIn? domain) r = .ok limit) : ∀ x ∈ limit, domain.Admits x := by
  rintro x rfl
  have hx := optionalIn?_eq_ok_some (mapError_eq_ok_iff.1 h)
  exact numberIn?_admits (mapError_eq_ok_iff.2 hx)

theorem factors?_not_negative {r : Raw α} {factors : Vector α 12} (h : r.factors? = .ok factors) :
    ∀ x ∈ factors.toList, ¬ x < 0 := by
  obtain ⟨_, _, h⟩ := Planned.bind_eq_ok.1 h
  obtain ⟨xs, _, h⟩ := Planned.bind_eq_ok.1 h
  split at h
  · split at h
    · cases h
    · next hn =>
      cases h
      simpa using hn
  · cases h

theorem capacities?_not_negative {r : Raw α} {capacities : Table String α}
    (h : r.capacities? = .ok capacities) : ∀ x ∈ capacities.values, ¬ x < 0 := by
  cases r with
  | mapping entries =>
      obtain ⟨read, _, h⟩ := Planned.bind_eq_ok.1 h
      split at h
      · cases h
      · next hf =>
        cases h
        intro x hx
        obtain ⟨e, he, rfl⟩ := List.mem_map.1 hx
        simpa using List.find?_eq_none.1 hf e (Table.mem_of_mem_ofList he)
  | _ => cases h

/-! ## Parameters -/

namespace Parameters

/-- Parameters are built in their domains if the default ones are in them and an entry that is not
below zero is as it should be. -/
theorem InDomain.of_build {entry : α → Prop} (hd : (default : Parameters α).InDomain entry)
    (he : ∀ x : α, ¬ x < 0 → entry x) {given : List (String × Raw α)} {p : Parameters α}
    (h : build given = .ok p) : p.InDomain entry := by
  have hr := build_eq_ok_iff.1 h
  have hn {field : Field} {domain : Domain} {d x : α} (h : readNumber given field domain d = .ok x)
      (hd : domain.Admits d) : domain.Admits x :=
    readField_keeps hd (fun _ _ => numberIn?_admits) h
  exact
    { targetServiceLevel := hn hr.targetServiceLevel hd.targetServiceLevel
      holdingCostRate := hn hr.holdingCostRate hd.holdingCostRate
      orderingCost := hn hr.orderingCost hd.orderingCost
      leadTimeDays := hn hr.leadTimeDays hd.leadTimeDays
      stockoutCost := hn hr.stockoutCost hd.stockoutCost
      leadTimeVariability := hn hr.leadTimeVariability hd.leadTimeVariability
      demandVariability := hn hr.demandVariability hd.demandVariability
      maxInventoryInvestment := readField_keeps (P := fun l => ∀ x ∈ l, Domain.Admits .nonnegative x)
        hd.maxInventoryInvestment (fun _ _ => optionalIn?_admits) hr.maxInventoryInvestment
      twelveFactors := by simp
      seasonalityFactors := readField_keeps (P := fun fs => ∀ x ∈ fs.toList, entry x)
        hd.seasonalityFactors (fun _ _ h x hx => he x (factors?_not_negative h x hx))
        hr.seasonalityFactors
      storageConstraints := readField_keeps (P := fun t => ∀ x ∈ t.values, entry x)
        hd.storageConstraints (fun _ _ h x hx => he x (capacities?_not_negative h x hx))
        hr.storageConstraints }

/-- In exact arithmetic every number is one, so parameters that were built lie in their domains. -/
theorem InDomain.of_build_real {given : List (String × Raw ℝ)} {p : Parameters ℝ}
    (h : build given = .ok p) : p.InDomain (0 ≤ ·) := by
  refine .of_build ?_ (fun _ => not_lt.1) h
  constructor
  case twelveFactors => simp
  case maxInventoryInvestment => exact fun _ h => by cases h
  case storageConstraints => exact fun _ h => by cases h
  all_goals
    simp only [default, Scalar.fraction_real, Scalar.ofNat_real]
    norm_num

theorem inDomain_default : (default : Parameters Float).InDomain (0 ≤ ·) where
  targetServiceLevel := by decide
  holdingCostRate := by decide
  orderingCost := by decide
  leadTimeDays := by decide
  stockoutCost := by decide
  leadTimeVariability := by decide
  demandVariability := by decide
  maxInventoryInvestment _ h := by cases h
  twelveFactors := by simp
  seasonalityFactors := by decide
  storageConstraints := by decide

/-- In a domain there is no value that is not a number. -/
theorem InDomain.isNaN_of_mem_bounded {p : Parameters Float} {entry : Float → Prop}
    (h : p.InDomain entry) {x : Float} (hx : x ∈ p.bounded) : Scalar.isNaN x = false := by
  simp only [bounded, List.mem_append, List.mem_cons, List.not_mem_nil, or_false, Option.mem_toList]
    at hx
  obtain (rfl | rfl | rfl | rfl | rfl | rfl | rfl) | hx := hx
  · exact Scalar.isNaN_of_pos_float h.targetServiceLevel.1
  · exact Scalar.isNaN_of_pos_float h.holdingCostRate
  · exact Scalar.isNaN_of_pos_float h.orderingCost
  · exact Scalar.isNaN_of_pos_float h.leadTimeDays
  · exact Scalar.isNaN_of_nonneg_float h.stockoutCost
  · exact Scalar.isNaN_of_nonneg_float h.leadTimeVariability
  · exact Scalar.isNaN_of_nonneg_float h.demandVariability
  · exact Scalar.isNaN_of_nonneg_float (h.maxInventoryInvestment x hx)

/-- Built parameters lie in their domains, except that a factor or a capacity may be the value that is
not a number. No single number with a domain is that value. With no such factor and no such capacity,
and only then, the parameters lie in their domains altogether. -/
theorem build_inDomain {given : List (String × Raw Float)} {p : Parameters Float}
    (h : build given = .ok p) :
    p.InDomain (fun x => 0 ≤ x ∨ Scalar.isNaN x = true)
      ∧ (∀ x ∈ p.bounded, Scalar.isNaN x = false)
      ∧ (p.InDomain (0 ≤ ·) ↔ ∀ x ∈ p.listed, Scalar.isNaN x = false) := by
  have hp : p.InDomain fun x => 0 ≤ x ∨ Scalar.isNaN x = true :=
    .of_build (inDomain_default.of_entries fun _ _ => .inl) (fun _ => Scalar.nonneg_or_isNaN) h
  refine ⟨hp, fun x hx => hp.isNaN_of_mem_bounded hx, ?_, ?_⟩
  · intro hd x hx
    exact Scalar.isNaN_of_nonneg_float (hd.entry_of_mem hx)
  · intro hx
    refine hp.of_entries fun x hm he => he.resolve_right ?_
    rw [hx x hm]
    exact Bool.false_ne_true

/-- A service level and two capacities, some of them written out. -/
def twoCapacities : List (String × Raw Float) :=
  [(Field.targetServiceLevel.key, .text "0.99"),
   (Field.storageConstraints.key, .mapping [("north", .integer 40), ("south", .text "2.5")])]

theorem build_inDomain_twoCapacities :
    ∃ p, build twoCapacities = .ok p ∧ p.InDomain (0 ≤ ·) := by
  obtain ⟨p, hp, hn⟩ := exists_ok_of_any (x := build twoCapacities)
    (P := fun p => p.listed.all fun x => !Scalar.isNaN x) (by decide +kernel)
  refine ⟨p, hp, (build_inDomain hp).2.2.2 ?_⟩
  simpa using hn

/-- A factor and a capacity that are said not to be numbers. -/
def namedNaN : List (String × Raw Float) :=
  [(Field.seasonalityFactors.key, .list (List.replicate 11 (.integer 1) ++ [.text "nan"])),
   (Field.storageConstraints.key, .mapping [("north", .text "nan")])]

/-- They are taken all the same, and the parameters are out of their domains. -/
theorem build_namedNaN : ∃ p, build namedNaN = .ok p ∧ ¬ p.InDomain (0 ≤ ·) := by
  obtain ⟨p, hp, hn⟩ := exists_ok_of_any (x := build namedNaN)
    (P := fun p => p.listed.any Scalar.isNaN) (by decide +kernel)
  refine ⟨p, hp, fun h => ?_⟩
  obtain ⟨x, hx, hn⟩ := List.any_eq_true.1 hn
  cases hn.symm.trans (Scalar.isNaN_of_nonneg_float (h.entry_of_mem hx))

end Parameters

end Restock
