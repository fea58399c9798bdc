import Restock.Proofs.Demand.Lookback
import Restock.Proofs.Forecast.Basis

/-!
# A planner's multipliers

A planner may multiply the trend and the index of each month. Without a planner only the months that
occur have an index, and the others are read as one; with factors all twelve have. A month's index is
read from either alike, but for its factor (`indexOf_forecastIndices`). So factors of one change
nothing, and others multiply what they are for and leave the basis of the forecast alone
(`Forecast.ofHistory_multiplied`).
-/

namespace Restock

/-- The index of a month is multiplied by its factor, whether the month occurs or not. -/
theorem indexOf_forecastIndices {α : Type} [Scalar α] (history : List (Observation α))
    (p : Parameters α) (m : Month) :
    Statistics.indexOf (forecastIndices history (some p)) m
      = Statistics.indexOf (forecastIndices history none) m * p.seasonalityFactor m := by
  have hm : m ∈ Month.all := List.mem_finRange m
  simp only [Statistics.indexOf, forecastIndices]
  rw [lookup_graph, if_pos hm]
  rfl

/-- A planner's factors that multiply by one. -/
structure Parameters.Neutral (p : Parameters ℝ) : Prop where
  trend : p.trendFactor = 1
  season : ∀ m, p.seasonalityFactor m = 1

theorem Parameters.neutral_default : (default : Parameters ℝ).Neutral where
  trend := rfl
  season _ := Vector.getElem_replicate _

namespace Forecast

/-- What a planner's factors make of a plain forecast. -/
structure Multiplied (plain : Forecast ℝ) (p : Parameters ℝ) (f : Forecast ℝ) : Prop where
  trend : f.trend = plain.trend * p.trendFactor
  season : ∀ m, f.seasonality.get m = plain.seasonality.get m * p.seasonalityFactor m
  /-- All else is the same, but for the days, which follow from the rest. -/
  otherwise : { f with days := plain.days, trend := plain.trend, seasonality := plain.seasonality }
    = plain

namespace Basis

variable {p : Parameters ℝ}

theorem forecast_of_neutral (hp : p.Neutral) (policy : ForecastPolicy ℝ) (now : Instant)
    (product location : String) (b : Basis ℝ) :
    b.forecast policy now product location (some p)
      = b.forecast policy now product location none := by
  have hindices : Statistics.indexOf (forecastIndices b.series (some p))
      = Statistics.indexOf (forecastIndices b.series none) := by
    funext m
    rw [indexOf_forecastIndices, hp.season, mul_one]
  simp only [forecast, forecastTrend, hp.trend, mul_one, Statistics.monthlyIndices, hindices]

theorem multiplied_forecast (p : Parameters ℝ) (policy : ForecastPolicy ℝ) (now : Instant)
    (product location : String) (b : Basis ℝ) :
    (b.forecast policy now product location none).Multiplied p
      (b.forecast policy now product location (some p)) where
  trend := rfl
  season m := by
    simp only [forecast, Statistics.get_monthlyIndices, indexOf_forecastIndices]
  otherwise := rfl

end Basis

/-- **A planner's factors are multipliers.** Factors of one change nothing. Any factors leave the basis
of a forecast as it is, and its errors; they multiply the trend and the index of each month, and the
days of both forecasts follow from the one baseline. -/
theorem ofHistory_multiplied (policy : ForecastPolicy ℝ) (now : Instant)
    (history : List (Observation ℝ)) (horizon : Int) (product location : String)
    (historyDays : Option Int) :
    (∀ p : Parameters ℝ, p.Neutral →
      ofHistory policy now history horizon product location (some p) historyDays
        = ofHistory policy now history horizon product location none historyDays)
    ∧ ∀ p : Parameters ℝ,
      (∀ e, ofHistory policy now history horizon product location (some p) historyDays = .error e
        ↔ ofHistory policy now history horizon product location none historyDays = .error e)
      ∧ ∀ plain, ofHistory policy now history horizon product location none historyDays = .ok plain →
        ∃ f, ofHistory policy now history horizon product location (some p) historyDays = .ok f
          ∧ plain.Multiplied p f
          ∧ ∃ b : Basis ℝ, b.Holds policy now.day history horizon historyDays
            ∧ plain.days = plain.dayByDay policy.confidenceZ b.baseline b.ahead
            ∧ f.days = f.dayByDay policy.confidenceZ b.baseline b.ahead := by
  refine ⟨fun p hp => ?_, fun p => ⟨fun e => ?_, fun plain h => ?_⟩⟩
  · rw [ofHistory_eq, ofHistory_eq]
    congr 1
    funext b
    exact b.forecast_of_neutral hp policy now product location
  · rw [ofHistory_eq, ofHistory_eq]
    cases Basis.ofHistory policy now.day history horizon product location historyDays with
    | error e' => rfl
    | ok b => simp [Except.map]
  · obtain ⟨b, hb, rfl⟩ := ofHistory_eq_ok_iff.1 h
    exact ⟨_, ofHistory_eq_ok_iff.2 ⟨b, hb, rfl⟩, b.multiplied_forecast p policy now product location,
      b, hb, b.days_forecast policy now product location none,
      b.days_forecast policy now product location (some p)⟩

/-- A planner who expects every month to double. -/
noncomputable def doubledMonths : Parameters ℝ :=
  { Parameters.default with seasonalityFactors := Vector.replicate 12 (1 + 1) }

/-- The factors of a planner who says nothing change nothing; doubled months are doubled in July as
well, though the only sale was in January. -/
theorem boltSale_multiplied :
    ∃ plain f, ofHistory {} boltDepot.now [boltSale] 2 "bolt" "depot" none none = .ok plain
      ∧ ofHistory {} boltDepot.now [boltSale] 2 "bolt" "depot" (some .default) none = .ok plain
      ∧ ofHistory {} boltDepot.now [boltSale] 2 "bolt" "depot" (some doubledMonths) none = .ok f
      ∧ f.seasonality.get 6 = plain.seasonality.get 6 * (1 + 1) := by
  obtain ⟨hneutral, hfactors⟩ :=
    ofHistory_multiplied {} boltDepot.now [boltSale] 2 "bolt" "depot" none
  obtain ⟨plain, hplain⟩ : ∃ f, ofHistory {} boltDepot.now [boltSale] 2 "bolt" "depot" none none
      = .ok f := ⟨_, rfl⟩
  obtain ⟨f, hf, hm, _⟩ := (hfactors doubledMonths).2 plain hplain
  have hsame := hneutral .default Parameters.neutral_default
  exact ⟨plain, f, hplain, hsame.trans hplain, hf, hm.season 6⟩

end Forecast

end Restock
