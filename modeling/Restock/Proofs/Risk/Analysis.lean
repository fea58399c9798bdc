import Restock.Risk

/-!
# What an analysis holds

A risk analysis is put together from parts that may each fail: one probability for each checkpoint,
and the reading of demand. `Outlook.risk_eq_ok_iff` says what an analysis holds when there is one,
`Outlook.exists_risk_iff` when there is one; nothing else about risks is proved by taking the
analysis itself apart.
-/

namespace Restock

variable {α : Type}

/-- The days of the checkpoints, by their place. -/
def Checkpoints.day (checkpoints : Checkpoints) : Fin 3 → Int
  | 0 => checkpoints.first
  | 1 => checkpoints.second
  | 2 => checkpoints.third

/-- The probabilities of having run out, by the place of their checkpoint. -/
def RiskAnalysis.probability (r : RiskAnalysis α) : Fin 3 → α
  | 0 => r.probabilities.1
  | 1 => r.probabilities.2.1
  | 2 => r.probabilities.2.2

/-! ## The parts -/

/-- A list has the positions from its length below zero to its length. -/
theorem exists_fromEitherEnd?_iff {xs : List α} {i : Int} :
    (∃ x, fromEitherEnd? xs i = .ok x) ↔ -(xs.length : Int) ≤ i ∧ i < xs.length := by
  unfold fromEitherEnd?
  generalize hj : (if i < 0 then i + xs.length else i) = j
  have hrange : (0 ≤ j ∧ j < xs.length) ↔ -(xs.length : Int) ≤ i ∧ i < xs.length := by
    rw [← hj]
    split <;> omega
  rw [← hrange]
  by_cases h₀ : 0 ≤ j
  · by_cases h₁ : j < xs.length <;> simp [h₀, h₁]
  · simp [h₀]

theorem fromEitherEnd?_natCast {xs : List α} {i : Nat} (h : i < xs.length) :
    fromEitherEnd? xs i = .ok xs[i] := by
  have hi : ¬ (i : Int) < 0 := by omega
  simp [fromEitherEnd?, hi, List.getElem?_eq_getElem h]

section
variable [Scalar α]

/-- Demand reads only through a variance that has a root, unless none is expected. -/
theorem exists_demandReading_iff {policy : RiskPolicy α} {stock : α} {outlook : Outlook α} :
    (∃ reading, DemandReading.of policy stock outlook = .ok reading) ↔
      (0 < outlook.meanDemand → ¬ outlook.variance < 0) := by
  unfold DemandReading.of
  by_cases h : 0 < outlook.meanDemand
  · by_cases hv : outlook.variance < 0 <;> simp [h, hv, Scalar.root?]
  · simp [h]

end

variable [Gaussian α]

/-- A normal approximation is to be had where the last day counted is one of the horizon and the
variance of the days counted has a root. -/
theorem exists_normalProbability_iff {stock variance : α} {sums : List α} {day : Int} :
    (∃ q, normalProbability stock variance sums day = .ok q) ↔
      1 - (sums.length : Int) ≤ min day sums.length
      ∧ ¬ Scalar.ofInt (min day sums.length) * variance < 0 := by
  have hindex : (∃ mean, fromEitherEnd? sums (min day sums.length - 1) = .ok mean) ↔
      1 - (sums.length : Int) ≤ min day sums.length := by
    rw [exists_fromEitherEnd?_iff]
    omega
  rw [← hindex, ← Scalar.exists_root?_iff]
  constructor
  · rintro ⟨q, h⟩
    obtain ⟨mean, hm, h⟩ := Planned.bind_eq_ok.1 h
    obtain ⟨deviation, hd, _⟩ := Planned.bind_eq_ok.1 h
    exact ⟨⟨mean, hm⟩, ⟨deviation, hd⟩⟩
  · rintro ⟨⟨mean, hm⟩, ⟨deviation, hd⟩⟩
    unfold normalProbability
    simp only [hm, hd, Planned.ok_bind]
    split
    · exact ⟨_, rfl⟩
    · exact ⟨_, rfl⟩

/-! ## The whole -/

namespace Outlook

/-- The probability of having run out by a day. -/
def probabilityBy (outlook : Outlook α) (stock : α) (mode : ProbabilityMode) (day : Int) :
    Planned α α :=
  checkpointProbability mode stock outlook.variance (cumulative outlook.daily)
    (stockoutDay stock outlook.daily) day

section
variable {outlook : Outlook α} {stock : α} {day : Int}

theorem exists_normal_probabilityBy_iff (hpos : 1 ≤ outlook.daily.length) :
    (∃ q, outlook.probabilityBy stock .normal day = .ok q) ↔
      1 - (outlook.daily.length : Int) ≤ min day outlook.daily.length
      ∧ ¬ Scalar.ofInt (min day outlook.daily.length) * outlook.variance < 0 := by
  have hsums : (cumulative outlook.daily).isEmpty = false := by
    rw [← Bool.not_eq_true, List.isEmpty_iff_length_eq_zero, length_cumulative]
    omega
  simp only [probabilityBy, checkpointProbability, hsums, Bool.false_eq_true, if_false,
    exists_normalProbability_iff, length_cumulative]

/-- By a day of the horizon or after it there is a probability in both modes, when the variance of any
number of days has a root. -/
theorem exists_probabilityBy (hpos : 1 ≤ outlook.daily.length)
    (hroot : ∀ k : Nat, ¬ Scalar.ofInt k * outlook.variance < 0) {mode : ProbabilityMode}
    (hday : mode = .binary ∨ 1 ≤ day) : ∃ q, outlook.probabilityBy stock mode day = .ok q := by
  cases mode with
  | binary => exact ⟨_, rfl⟩
  | normal =>
      have hday : 1 ≤ day := hday.resolve_left (by decide)
      rw [exists_normal_probabilityBy_iff hpos]
      obtain ⟨k, hk⟩ : ∃ k : Nat, min day outlook.daily.length = k :=
        ⟨(min day outlook.daily.length).toNat, by omega⟩
      rw [hk]
      exact ⟨by omega, hroot k⟩

end

/-- What an analysis of an outlook holds. -/
structure Analysed (outlook : Outlook α) (stock : α) (policy : RiskPolicy α) (now : Instant)
    (r : RiskAnalysis α) : Prop where
  product : r.product = outlook.product
  location : r.location = outlook.location
  analyzedAt : r.analyzedAt = now
  onHand : r.stock = stock
  daysUntilStockout : r.daysUntilStockout = stockoutDay stock outlook.daily
  level : r.level = policy.classify (r.daysUntilStockout.map Int.ofNat)
  probability : ∀ i, outlook.probabilityBy stock policy.probabilityMode (policy.checkpoints.day i)
    = .ok (r.probability i)
  trend : r.trend = TrendReading.of outlook.trend
  demand : DemandReading.of policy stock outlook = .ok r.demand

theorem risk_eq_ok_iff {outlook : Outlook α} {stock : α} {policy : RiskPolicy α} {now : Instant}
    {r : RiskAnalysis α} :
    outlook.risk stock policy now = .ok r ↔ ¬ stock < 0 ∧ outlook.Analysed stock policy now r := by
  by_cases hs : stock < 0
  · simp [risk, hs]
  · simp only [risk, if_neg hs, Planned.bind_eq_ok]
    constructor
    · rintro ⟨first, h₁, second, h₂, third, h₃, reading, hr, h⟩
      cases h
      refine ⟨hs, rfl, rfl, rfl, rfl, rfl, rfl, ?_, rfl, hr⟩
      intro i
      match i with
      | 0 => exact h₁
      | 1 => exact h₂
      | 2 => exact h₃
    · rintro ⟨_, h⟩
      refine ⟨_, h.probability 0, _, h.probability 1, _, h.probability 2, _, h.demand, ?_⟩
      have hd : firstAbove stock (cumulative outlook.daily) = r.daysUntilStockout :=
        h.daysUntilStockout.symm
      rw [hd, ← h.level, ← h.product, ← h.location, ← h.analyzedAt, ← h.onHand, ← h.trend]
      rfl

/-- There is an analysis of stock that is not negative exactly when each of its parts is to be had. -/
theorem exists_risk_iff {outlook : Outlook α} {stock : α} {policy : RiskPolicy α} {now : Instant} :
    (∃ r, outlook.risk stock policy now = .ok r) ↔
      ¬ stock < 0
      ∧ (∀ i, ∃ q, outlook.probabilityBy stock policy.probabilityMode (policy.checkpoints.day i)
          = .ok q)
      ∧ ∃ reading, DemandReading.of policy stock outlook = .ok reading := by
  constructor
  · rintro ⟨r, h⟩
    obtain ⟨hs, h⟩ := risk_eq_ok_iff.1 h
    exact ⟨hs, fun i => ⟨_, h.probability i⟩, ⟨_, h.demand⟩⟩
  · rintro ⟨hs, hp, reading, hr⟩
    obtain ⟨first, h₁⟩ := hp 0
    obtain ⟨second, h₂⟩ := hp 1
    obtain ⟨third, h₃⟩ := hp 2
    let day := stockoutDay stock outlook.daily
    refine ⟨⟨outlook.product, outlook.location, now, stock, (first, second, third), day,
      policy.classify (day.map Int.ofNat), TrendReading.of outlook.trend, reading⟩, ?_⟩
    refine risk_eq_ok_iff.2 ⟨hs, rfl, rfl, rfl, rfl, rfl, rfl, ?_, rfl, hr⟩
    intro i
    match i with
    | 0 => exact h₁
    | 1 => exact h₂
    | 2 => exact h₃

end Outlook

end Restock
