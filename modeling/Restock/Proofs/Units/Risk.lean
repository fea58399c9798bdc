import Restock.Proofs.Risk.Analysis
import Restock.Proofs.Units.Forecast

/-!
# Risks in other units

Demand and stock in the same units are compared alike in all of them, so the day on which stock runs
out and the probability of that do not depend on the unit (`Conversion.risk_outlook`). How the trend
reads does depend on it: a hundredth of a unit a day is more or less demand as the unit is.
-/

namespace Restock

/-! ## Running sums -/

section
variable {c : ℝ}

theorem cumulative_map_mul (c : ℝ) (daily : List ℝ) :
    cumulative (daily.map (c * ·)) = (cumulative daily).map (c * ·) := by
  have h (total : ℝ) : runningFrom (c * total) (daily.map (c * ·))
      = (runningFrom total daily).map (c * ·) := by
    induction daily generalizing total with
    | nil => rfl
    | cons x daily ih => simp only [List.map_cons, runningFrom, ← mul_add, ih]
  rw [cumulative, cumulative, ← h 0, mul_zero]

theorem firstAbove_map_mul (hc : 0 < c) (stock : ℝ) (sums : List ℝ) :
    firstAbove (c * stock) (sums.map (c * ·)) = firstAbove stock sums := by
  have h : (fun total => decide (c * stock < total)) ∘ (c * ·)
      = fun total => decide (stock < total) := by
    ext total
    simp only [Function.comp_apply, mul_lt_mul_iff_right₀ hc]
  rw [firstAbove, List.findIdx?_map, h, firstAbove]

theorem fromEitherEnd?_map (f : ℝ → ℝ) (xs : List ℝ) (i : Int) :
    fromEitherEnd? (xs.map f) i = (fromEitherEnd? xs i).map f := by
  unfold fromEitherEnd?
  simp only [List.length_map, List.getElem?_map]
  generalize (if i < 0 then i + (xs.length : Int) else i) = j
  by_cases hj : 0 ≤ j
  · simp only [if_pos hj]
    cases xs[j.toNat]? <;> rfl
  · simp only [if_neg hj]
    rfl

/-! ## Probabilities -/

theorem root?_sq_mul (hc : 0 < c) (x : ℝ) :
    Scalar.root? (c ^ 2 * x) = (Scalar.root? x).map (c * ·) := by
  have hsq : 0 < c ^ 2 := pow_pos hc 2
  simp only [Scalar.root?, Scalar.mul_neg_iff_left hsq, Scalar.sqrt_sq_mul hc]
  split
  · rfl
  · rfl

theorem normalProbability_mul (hc : 0 < c) (stock variance : ℝ) (sums : List ℝ) (day : Int) :
    normalProbability (c * stock) (c ^ 2 * variance) (sums.map (c * ·)) day
      = normalProbability stock variance sums day := by
  simp only [normalProbability, List.length_map, fromEitherEnd?_map, mul_left_comm _ (c ^ 2),
    root?_sq_mul hc]
  cases fromEitherEnd? sums (min day sums.length - 1) with
  | error e => rfl
  | ok mean =>
      simp only [Except.map, Planned.ok_bind]
      cases Scalar.root? (Scalar.ofInt (min day sums.length) * variance) with
      | error e => rfl
      | ok deviation =>
          simp only [Planned.ok_bind, ← mul_sub, mul_div_mul_left _ _ hc.ne',
            mul_pos_iff_of_pos_left hc, mul_lt_mul_iff_right₀ hc]

end

namespace Conversion

variable (u : Conversion)

noncomputable def outlook (o : Outlook ℝ) : Outlook ℝ :=
  { o with
    daily := o.daily.map (u.factor * ·)
    variance := u.factor ^ 2 * o.variance
    trend := u.factor * o.trend }

theorem outlook_forecast (f : Forecast ℝ) : (u.forecast f).outlook = u.outlook f.outlook := by
  simp only [Forecast.outlook, outlook, forecast, Forecast.daily, List.map_map, List.length_map]
  rfl

variable (o : Outlook ℝ) (stock : ℝ)

theorem stockoutDay_outlook :
    stockoutDay (u.factor * stock) (u.outlook o).daily = stockoutDay stock o.daily := by
  show firstAbove (u.factor * stock) (cumulative (o.daily.map (u.factor * ·))) = _
  rw [cumulative_map_mul, firstAbove_map_mul u.pos, stockoutDay]

theorem probabilityBy_outlook (mode : ProbabilityMode) (day : Int) :
    (u.outlook o).probabilityBy (u.factor * stock) mode day = o.probabilityBy stock mode day := by
  simp only [Outlook.probabilityBy, checkpointProbability, stockoutDay_outlook]
  simp only [outlook, cumulative_map_mul, List.isEmpty_map, normalProbability_mul u.pos]

theorem demandReading_outlook (policy : RiskPolicy ℝ) :
    DemandReading.of policy (u.factor * stock) (u.outlook o) = DemandReading.of policy stock o := by
  have hmean : (u.outlook o).meanDemand = u.factor * o.meanDemand := by
    simp only [Outlook.meanDemand, outlook, Scalar.sum_real, Scalar.sum_map_mul]
    split
    · exact (mul_zero _).symm
    · exact mul_div_assoc _ _ _
  simp only [DemandReading.of, hmean, mul_pos_iff_of_pos_left u.pos, mul_div_mul_left _ _ u.pos.ne']
  split
  · show (Scalar.root? (u.factor ^ 2 * o.variance) >>= _) = _
    rw [root?_sq_mul u.pos]
    cases Scalar.root? o.variance with
    | error e => rfl
    | ok deviation =>
        simp only [Except.map, Planned.ok_bind, mul_div_mul_left _ _ u.pos.ne']
  · rfl

/-- An analysis in other units: the stock is counted in them and the trend read in them, the rest is
as it was. -/
noncomputable def analysis (r : RiskAnalysis ℝ) : RiskAnalysis ℝ :=
  { r with
    stock := u.factor * r.stock
    trend := TrendReading.of (u.factor * o.trend) }

/-- **The analysis of an outlook in other units** is its analysis, in these units. -/
theorem risk_outlook (policy : RiskPolicy ℝ) (now : Instant) (r' : RiskAnalysis ℝ) :
    (u.outlook o).risk (u.factor * stock) policy now = .ok r'
      ↔ ∃ r, o.risk stock policy now = .ok r ∧ r' = u.analysis o r := by
  simp only [Outlook.risk_eq_ok_iff, Scalar.mul_neg_iff_left u.pos]
  constructor
  · rintro ⟨hs, h⟩
    refine ⟨{ r' with stock, trend := TrendReading.of o.trend }, ⟨hs, ?_⟩, ?_⟩
    · refine ⟨h.product, h.location, h.analyzedAt, rfl, ?_, h.level, ?_, rfl, ?_⟩
      · exact h.daysUntilStockout.trans (u.stockoutDay_outlook o stock)
      · intro i
        rw [← u.probabilityBy_outlook]
        exact h.probability i
      · rw [← u.demandReading_outlook]
        exact h.demand
    · cases r'
      obtain rfl := h.onHand
      obtain rfl := h.trend
      rfl
  · rintro ⟨r, ⟨hs, h⟩, rfl⟩
    refine ⟨hs, h.product, h.location, h.analyzedAt, ?_, ?_, h.level, ?_, rfl, ?_⟩
    · exact congrArg (u.factor * ·) h.onHand
    · exact h.daysUntilStockout.trans (u.stockoutDay_outlook o stock).symm
    · intro i
      rw [u.probabilityBy_outlook]
      exact h.probability i
    · rw [u.demandReading_outlook]
      exact h.demand

end Conversion

end Restock
