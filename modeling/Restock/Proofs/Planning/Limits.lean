import Restock.Proofs.Arithmetic.FloatOrder
import Restock.Proofs.Planning.Orders
import Restock.Proofs.Stocking.Buffers

/-!
# Limits

A location's plans are made without a look at the limits of the parameters: what a report is made from is
the same without any (`Planner.reportBasis_unlimited`), and the limits come in when the report on it is
written. There a limit can only say what exceeds it (`Parameters.mem_violations_iff`), and a smaller limit is
exceeded by all that exceeds a larger one (`Parameters.exists_alike_of_atMost`).
-/

namespace Restock

/-- A number system in which what is at most a number lies below all that the number lies below. -/
class TransitiveOrder (α : Type) [Scalar α] : Prop where
  lt_of_le_of_lt {a b c : α} : a ≤ b → b < c → a < c

instance : TransitiveOrder ℝ where
  lt_of_le_of_lt h h' := h.trans_lt h'

instance : TransitiveOrder Float where
  lt_of_le_of_lt := Scalar.lt_of_le_of_lt_float

/-! ## What exceeds a limit -/

/-- The same quantity exceeds a limit, which need not be the same one. -/
inductive Violation.Alike {α : Type} : Violation α → Violation α → Prop where
  | investment (recommended limit limit' : α) :
      Alike (.investment recommended limit) (.investment recommended limit')
  | storage (location : String) (required capacity capacity' : α) :
      Alike (.storage location required capacity) (.storage location required capacity')

/-- The same parameters without limits. -/
def Parameters.unlimited {α : Type} (p : Parameters α) : Parameters α :=
  { p with maxInventoryInvestment := none, storageConstraints := .empty }

theorem Parameters.holdingCostRate_congr {α : Type} {p p' : Parameters α}
    (h : p'.unlimited = p.unlimited) : p'.holdingCostRate = p.holdingCostRate := by
  show p'.unlimited.holdingCostRate = p.unlimited.holdingCostRate
  rw [h]

section
variable {α : Type} [Scalar α]

/-- A limit is at most another. One that is not set is above all others. -/
def AtMost (limit limit' : Option α) : Prop := ∀ b ∈ limit', ∃ a ∈ limit, a ≤ b

namespace Parameters
variable {p p' : Parameters α} {location : String} {plans : List (StockingPlan α)} {investment : α}

theorem mem_violations_iff {v : Violation α} : v ∈ p.violations location plans investment
    ↔ (∃ limit ∈ p.maxInventoryInvestment, limit < investment ∧ v = .investment investment limit)
      ∨ ∃ capacity ∈ p.storageConstraints.get? location,
          capacity < Scalar.sum (plans.map StockingPlan.maxStock)
          ∧ v = .storage location (Scalar.sum (plans.map StockingPlan.maxStock)) capacity := by
  unfold violations
  rw [List.mem_append]
  refine or_congr ?_ ?_
  · cases p.maxInventoryInvestment with
    | none => simp
    | some limit => by_cases h : limit < investment <;> simp [h]
  · cases p.storageConstraints.get? location with
    | none => simp
    | some capacity =>
        by_cases h : capacity < Scalar.sum (plans.map StockingPlan.maxStock) <;> simp [h]

theorem exists_alike_of_atMost [TransitiveOrder α]
    (hi : AtMost p'.maxInventoryInvestment p.maxInventoryInvestment)
    (hs : AtMost (p'.storageConstraints.get? location) (p.storageConstraints.get? location))
    {v : Violation α} (hv : v ∈ p.violations location plans investment) :
    ∃ v' ∈ p'.violations location plans investment, v.Alike v' := by
  rcases mem_violations_iff.1 hv with ⟨limit, hl, hlt, rfl⟩ | ⟨capacity, hc, hlt, rfl⟩
  · obtain ⟨limit', hl', hle⟩ := hi limit hl
    exact ⟨_, mem_violations_iff.2 (.inl ⟨limit', hl', TransitiveOrder.lt_of_le_of_lt hle hlt, rfl⟩),
      .investment _ _ _⟩
  · obtain ⟨capacity', hc', hle⟩ := hs capacity hc
    exact ⟨_, mem_violations_iff.2 (.inr ⟨capacity', hc', TransitiveOrder.lt_of_le_of_lt hle hlt, rfl⟩),
      .storage _ _ _ _⟩

/-- The limits of a location are all that its violations depend on. -/
theorem violations_congr (hi : p'.maxInventoryInvestment = p.maxInventoryInvestment)
    (hs : p'.storageConstraints.get? location = p.storageConstraints.get? location) :
    p'.violations location plans investment = p.violations location plans investment := by
  unfold violations
  rw [hi, hs]

/-- No limit of built parameters is exceeded by nothing. -/
theorem violations_nil [AsymmetricOrder α] {given : List (String × Raw α)} (h : build given = .ok p) :
    p.violations location [] 0 = [] := by
  have hr := build_eq_ok_iff.1 h
  rw [List.eq_nil_iff_forall_not_mem]
  intro v hv
  rcases mem_violations_iff.1 hv with ⟨limit, hl, hlt, -⟩ | ⟨capacity, hc, hlt, -⟩
  · have hlimit : 0 ≤ limit :=
      readField_keeps (P := fun l => ∀ x ∈ l, Domain.Admits .nonnegative x)
        (fun _ h => by cases h) (fun _ _ => optionalIn?_admits) hr.maxInventoryInvestment limit hl
    exact AsymmetricOrder.not_le_of_lt hlt hlimit
  · have hcapacity : ¬ capacity < 0 :=
      readField_keeps (P := fun t => ∀ x ∈ t.values, ¬ x < 0)
        (fun _ h => by cases h) (fun _ _ h => capacities?_not_negative h) hr.storageConstraints
        capacity (List.mem_map_of_mem (Table.mem_entries_iff.2 hc))
    exact hcapacity hlt

end Parameters

end

theorem adjustTargets_mem_adviceFor_iff {α : Type} {skipped : List String}
    {violated : List (Violation α)} : .adjustTargets ∈ adviceFor skipped violated ↔ violated ≠ [] := by
  cases skipped <;> cases violated <;> simp [adviceFor]

theorem filter_adviceFor {α : Type} (skipped : List String) (violated : List (Violation α)) :
    (adviceFor skipped violated).filter (fun advice => advice ≠ .adjustTargets)
      = adviceFor skipped ([] : List (Violation α)) := by
  cases skipped <;> cases violated <;> simp [adviceFor]

/-! ## Reports -/

/-- A report without what only the limits bring into it. -/
def LocationReport.unjudged {α : Type} (r : LocationReport α) : LocationReport α :=
  { r with violations := [], advice := r.advice.filter fun advice => advice ≠ .adjustTargets }

section
variable {α : Type} [Gaussian α]

namespace Planner

/-- What a report is made from: the plans for a location and its stock. -/
def reportBasis (e : Planner α) (location : String) (p : Parameters α) :
    Planned α (PlanBatch α × StockLevels α) := do
  let products ← e.source.listProducts location
  let batch ← e.source.planAll e.settings e.now location products p
  return (batch, ← e.source.stockLevels location)

variable {e : Planner α} {location : String} {p p' : Parameters α}

theorem reportBasis_unlimited : e.reportBasis location p.unlimited = e.reportBasis location p := rfl

theorem report_eq : e.report location p
    = (e.reportBasis location p).map fun basis => .ofBatch location p basis.1 basis.2 e.now := by
  unfold report DemandSource.report reportBasis
  cases e.source.listProducts location with
  | error error => rfl
  | ok products =>
      simp only [Planned.ok_bind]
      cases e.source.planAll e.settings e.now location products p with
      | error error => rfl
      | ok batch =>
          simp only [Planned.ok_bind]
          cases e.source.stockLevels location <;> rfl

theorem report_eq_ok_iff {r : LocationReport α} : e.report location p = .ok r
    ↔ ∃ batch stock, e.reportBasis location p = .ok (batch, stock)
      ∧ r = .ofBatch location p batch stock e.now := by
  rw [report_eq, Planned.map_eq_ok]
  constructor
  · rintro ⟨⟨batch, stock⟩, hb, hr⟩
    exact ⟨batch, stock, hb, hr⟩
  · rintro ⟨batch, stock, hb, hr⟩
    exact ⟨(batch, stock), hb, hr⟩

section
variable (h : p'.unlimited = p.unlimited)
include h

theorem reportBasis_congr : e.reportBasis location p' = e.reportBasis location p := by
  rw [← reportBasis_unlimited, h, reportBasis_unlimited]

theorem unjudged_ofBatch (batch : PlanBatch α) (stock : StockLevels α) (now : Instant) :
    (LocationReport.ofBatch location p' batch stock now).unjudged
      = (LocationReport.ofBatch location p batch stock now).unjudged := by
  unfold LocationReport.ofBatch LocationReport.unjudged
  simp only [filter_adviceFor, Parameters.holdingCostRate_congr h]

theorem unjudged_report : (e.report location p').map LocationReport.unjudged
    = (e.report location p).map LocationReport.unjudged := by
  rw [report_eq, report_eq, reportBasis_congr h]
  cases e.reportBasis location p with
  | error error => rfl
  | ok basis => exact congrArg Except.ok (unjudged_ofBatch h basis.1 basis.2 e.now)

theorem exists_tighter_report [TransitiveOrder α]
    (hi : AtMost p'.maxInventoryInvestment p.maxInventoryInvestment)
    (hs : AtMost (p'.storageConstraints.get? location) (p.storageConstraints.get? location))
    {r : LocationReport α} (hr : e.report location p = .ok r) :
    ∃ r', e.report location p' = .ok r' ∧ ∀ v ∈ r.violations, ∃ v' ∈ r'.violations, v.Alike v' := by
  obtain ⟨batch, stock, hb, rfl⟩ := report_eq_ok_iff.1 hr
  rw [← reportBasis_congr h] at hb
  exact ⟨_, report_eq_ok_iff.2 ⟨batch, stock, hb, rfl⟩,
    fun v hv => Parameters.exists_alike_of_atMost hi hs hv⟩

theorem report_congr (hi : p'.maxInventoryInvestment = p.maxInventoryInvestment)
    (hs : p'.storageConstraints.get? location = p.storageConstraints.get? location) :
    e.report location p' = e.report location p := by
  have hbatch (batch : PlanBatch α) (stock : StockLevels α) :
      LocationReport.ofBatch location p' batch stock e.now = .ofBatch location p batch stock e.now := by
    unfold LocationReport.ofBatch
    simp only [Parameters.violations_congr hi hs, Parameters.holdingCostRate_congr h]
  simp only [report_eq, reportBasis_congr h, hbatch]

end

/-- What limits do to a report: `p` and `p'` are the same parameters under limits of their own. -/
structure LimitsJudge (e : Planner α) (location : String) (p p' : Parameters α) : Prop where
  /-- Plans, products without one, totals, savings and all other advice do not depend on limits, and
  neither do failures. -/
  unjudged : (e.report location p').map LocationReport.unjudged
    = (e.report location p).map LocationReport.unjudged
  tighter : AtMost p'.maxInventoryInvestment p.maxInventoryInvestment →
    AtMost (p'.storageConstraints.get? location) (p.storageConstraints.get? location) →
    ∀ r, e.report location p = .ok r →
      ∃ r', e.report location p' = .ok r' ∧ ∀ v ∈ r.violations, ∃ v' ∈ r'.violations, v.Alike v'
  /-- The storage limits of other locations do not matter. -/
  elsewhere : p'.maxInventoryInvestment = p.maxInventoryInvestment →
    p'.storageConstraints.get? location = p.storageConstraints.get? location →
    e.report location p' = e.report location p
  planless : ∀ r, e.report location p = .ok r → r.plans = [] → r.violations = []
  advised : ∀ r, e.report location p = .ok r →
    (.adjustTargets ∈ r.advice ↔ r.violations ≠ [])

/-- **Limits judge plans and do not steer them**, and a tighter limit judges no milder. -/
theorem limitsJudge [AsymmetricOrder α] [TransitiveOrder α] (e : Planner α) (location : String)
    {given : List (String × Raw α)} (hp : Parameters.build given = .ok p)
    (h : p'.unlimited = p.unlimited) : LimitsJudge e location p p' where
  unjudged := unjudged_report h
  tighter hi hs _ := exists_tighter_report h hi hs
  elsewhere := report_congr h
  planless := by
    intro r hr hplans
    obtain ⟨batch, stock, -, rfl⟩ := report_eq_ok_iff.1 hr
    have hplans : batch.plans = [] := hplans
    show p.violations location batch.plans (Scalar.sum (batch.plans.map StockingPlan.totalCost)) = []
    rw [hplans]
    exact Parameters.violations_nil hp
  advised := by
    intro r hr
    obtain ⟨batch, stock, -, rfl⟩ := report_eq_ok_iff.1 hr
    exact adjustTargets_mem_adviceFor_iff

/-- A hundred for the plans of a location, and room for four hundred units at the depot. -/
def roomyDepot : List (String × Raw Float) :=
  [(Field.maxInventoryInvestment.key, .integer 100),
   (Field.storageConstraints.key, .mapping [("depot", .integer 400), ("attic", .integer 5)])]

/-- The same parameters with less money and less room. -/
def tightened (p : Parameters Float) : Parameters Float :=
  { p with
    maxInventoryInvestment := some 20
    storageConstraints := .ofList [("depot", 300)] }

theorem limitsJudge_oneBolt :
    ∃ p, Parameters.build roomyDepot = .ok p ∧ (tightened p).unlimited = p.unlimited
      ∧ AtMost (tightened p).maxInventoryInvestment p.maxInventoryInvestment
      ∧ AtMost ((tightened p).storageConstraints.get? "depot") (p.storageConstraints.get? "depot")
      ∧ LimitsJudge (ofBolts oneBolt) "depot" p (tightened p) := by
  obtain ⟨p, hp, h⟩ := exists_ok_of_any (x := Parameters.build roomyDepot)
    (P := fun p => p.maxInventoryInvestment.all (fun limit => decide (20 ≤ limit))
      && (p.storageConstraints.get? "depot").all fun capacity => decide (300 ≤ capacity))
    (by decide +kernel)
  simp only [Bool.and_eq_true, Option.all_eq_true, decide_eq_true_eq] at h
  exact ⟨p, hp, rfl, fun limit hl => ⟨20, rfl, h.1 limit hl⟩,
    fun capacity hc => ⟨300, rfl, h.2 capacity hc⟩, limitsJudge _ _ hp rfl⟩

end Planner

end

end Restock
